import Mathlib.Data.Nat.Notation
import Mathlib.Logic.Function.Basic

/-!
# Computations that return or fail

A computation is an `Except ε α`: it returns an `α`, or it fails with an `ε`. This file is the
small program logic used for such computations. It mentions no particular state and no
particular failure, so it can be lifted out as it stands.

`x.Meets Q E` says that `x` returns only values in `Q` and fails only with errors in `E`. The
two usual readings are instances: with `E` empty it is total correctness, and with `E`
everything it is partial correctness. One predicate for both keeps one set of rules.

## Main definitions

* `Outcome.Meets` — the triple; `Outcome.Total` and `Outcome.Yields` are its two readings
* `Outcome.Meets.bind`, `Meets.mono` — sequencing and weakening
* `Outcome.bind_eq_ok` — inversion of a sequenced computation that returned
* `Outcome.foldlM_meets` — the loop rule for a bounded loop
* `Outcome.FailsIn`, `Outcome.failsIn_bind` — which errors a computation can fail with
* `Outcome.Succeeds`, `Outcome.succeeds_bind` — which computations return
* `Outcome.Related`, `Related.bind` — two computations side by side
-/

universe u v

namespace Outcome

variable {ε : Type u} {α β : Type v}

/-- `x` returns only values satisfying `Q` and fails only with errors satisfying `E`. -/
def Meets (x : Except ε α) (Q : α → Prop) (E : ε → Prop) : Prop :=
  match x with
  | .ok a => Q a
  | .error e => E e

/-- `x` returns, and what it returns satisfies `Q`. -/
abbrev Total (x : Except ε α) (Q : α → Prop) : Prop := Meets x Q fun _ => False

/-- If `x` returns, what it returns satisfies `Q`. -/
abbrev Yields (x : Except ε α) (Q : α → Prop) : Prop := Meets x Q fun _ => True

@[simp] theorem meets_ok {a : α} {Q : α → Prop} {E : ε → Prop} :
    Meets (.ok a : Except ε α) Q E ↔ Q a := Iff.rfl

@[simp] theorem meets_pure {a : α} {Q : α → Prop} {E : ε → Prop} :
    Meets (pure a : Except ε α) Q E ↔ Q a := Iff.rfl

@[simp] theorem meets_error {e : ε} {Q : α → Prop} {E : ε → Prop} :
    Meets (.error e : Except ε α) Q E ↔ E e := Iff.rfl

@[simp] theorem ok_bind (a : α) (f : α → Except ε β) : (.ok a >>= f : Except ε β) = f a := rfl

@[simp] theorem error_bind (e : ε) (f : α → Except ε β) :
    (.error e >>= f : Except ε β) = .error e := rfl

/-! ### Rules -/

variable {x : Except ε α} {f : α → Except ε β} {Q Q' : α → Prop} {R : β → Prop} {E E' : ε → Prop}

theorem Meets.mono (h : Meets x Q E) (hQ : ∀ a, Q a → Q' a) (hE : ∀ e, E e → E' e) :
    Meets x Q' E' := by
  cases x with
  | ok a => exact hQ a h
  | error e => exact hE e h

theorem Meets.imp (h : Meets x Q E) (hQ : ∀ a, Q a → Q' a) : Meets x Q' E :=
  h.mono hQ fun _ he => he

/-- **Sequencing.** -/
theorem Meets.bind (h : Meets x Q E) (hf : ∀ a, Q a → Meets (f a) R E) : Meets (x >>= f) R E := by
  cases x with
  | ok a => exact hf a h
  | error e => exact h

/-- Both branches of a test meet the same specification. -/
theorem Meets.ite {c : Prop} [Decidable c] {y : Except ε α} (hx : c → Meets x Q E)
    (hy : ¬ c → Meets y Q E) : Meets (if c then x else y) Q E := by
  split
  · exact hx ‹_›
  · exact hy ‹_›

/-- A test whose branches go on alike: what it returns meets one specification. -/
theorem Meets.ite_bind {c : Prop} [Decidable c] {y : Except ε α}
    (h : Meets (if c then x else y) Q E) (hf : ∀ a, Q a → Meets (f a) R E) :
    Meets (if c then x >>= f else y >>= f) R E := by
  by_cases hc : c
  · rw [if_pos hc] at h ⊢
    exact h.bind hf
  · rw [if_neg hc] at h ⊢
    exact h.bind hf

theorem meets_map {g : α → β} : Meets (g <$> x) R E ↔ Meets x (fun a => R (g a)) E := by
  cases x <;> exact Iff.rfl

/-! ### Reading a specification back -/

theorem Meets.of_ok (h : Meets x Q E) {a : α} (hx : x = .ok a) : Q a := by
  subst hx; exact h

theorem Meets.of_error (h : Meets x Q E) {e : ε} (hx : x = .error e) : E e := by
  subst hx; exact h

/-- Nothing is claimed of a computation. -/
theorem yields_any (x : Except ε α) : Yields x fun _ => True := by
  cases x <;> trivial

/-- Partial correctness: what a computation that returns has computed. -/
theorem meets_of_ok (h : ∀ a, x = .ok a → Q a) : Meets x Q fun _ => True := by
  cases x with
  | ok a => exact h a rfl
  | error e => trivial

/-- Two specifications of one computation. -/
theorem Meets.and (h : Meets x Q E) (h' : Yields x Q') : Meets x (fun a => Q a ∧ Q' a) E := by
  cases x with
  | ok a => exact ⟨h, h'⟩
  | error e => exact h

/-- A total computation meets its specification whatever errors are allowed. -/
theorem Meets.ofTotal (h : Total x Q) : Meets x Q E := h.mono (fun _ => id) fun _ => False.elim

/-- Total correctness: a computation that fails with nothing returns. -/
theorem Meets.exists_ok (h : Total x Q) : ∃ a, x = .ok a ∧ Q a := by
  cases x with
  | ok a => exact ⟨a, rfl, h⟩
  | error e => exact h.elim

/-- A computation that is seen to return does. -/
theorem exists_of_isOk (h : x.isOk = true) : ∃ a, x = .ok a := by
  cases x with
  | ok a => exact ⟨a, rfl⟩
  | error e => cases h

theorem toOption_eq_some {a : α} : x.toOption = some a ↔ x = .ok a := by
  cases x with
  | ok b => exact ⟨fun h => by cases h; rfl, fun h => by cases h; rfl⟩
  | error e => exact iff_of_false nofun nofun

/-- The failure of a computation, if it fails. -/
def error? : Except ε α → Option ε
  | .ok _ => none
  | .error e => some e

theorem error?_eq_some {e : ε} : error? x = some e ↔ x = .error e := by
  cases x with
  | ok a => exact iff_of_false nofun nofun
  | error e' => exact ⟨fun h => by cases h; rfl, fun h => by cases h; rfl⟩

/-- A computation that is seen to return, and to fail in what follows. -/
theorem exists_of_error_after {e : ε} (h : (x.toOption.bind fun a => error? (f a)) = some e) :
    ∃ a, x = .ok a ∧ f a = .error e := by
  obtain ⟨a, ha, he⟩ := Option.bind_eq_some_iff.mp h
  exact ⟨a, toOption_eq_some.mp ha, error?_eq_some.mp he⟩

/-- A sequenced computation returned exactly when both parts did. -/
theorem bind_eq_ok {b : β} : x >>= f = .ok b ↔ ∃ a, x = .ok a ∧ f a = .ok b := by
  constructor
  · intro h
    cases x with
    | ok a => exact ⟨a, rfl, h⟩
    | error e => cases h
  · rintro ⟨a, rfl, h⟩
    exact h

theorem map_eq_ok {g : α → β} {b : β} : g <$> x = .ok b ↔ ∃ a, x = .ok a ∧ g a = b := by
  constructor
  · intro h
    cases x with
    | ok a => exact ⟨a, rfl, Except.ok.inj h⟩
    | error e => cases h
  · rintro ⟨a, rfl, rfl⟩
    rfl

theorem pure_eq_ok {a b : α} : (pure a : Except ε α) = .ok b ↔ a = b :=
  ⟨fun h => by cases h; rfl, fun h => by rw [h]; rfl⟩

theorem ok_inj {a b : α} : (.ok a : Except ε α) = .ok b ↔ a = b :=
  ⟨fun h => by cases h; rfl, fun h => by rw [h]⟩

/-! ### Loops -/

/-- **The loop rule.** An invariant indexed by the elements already consumed is carried through a
bounded loop. -/
theorem foldlM_meets {step : α → β → Except ε α} {E : ε → Prop} (I : List β → α → Prop) :
    ∀ (rest done : List β) (a : α), I done a →
      (∀ d b r a, d ++ b :: r = done ++ rest → I d a → Meets (step a b) (I (d ++ [b])) E) →
      Meets (rest.foldlM step a) (I (done ++ rest)) E := by
  intro rest
  induction rest with
  | nil => intro done a ha _; simpa using ha
  | cons b rest ih =>
    intro done a ha hstep
    rw [List.foldlM_cons]
    refine (hstep done b rest a rfl ha).bind fun a' ha' => ?_
    have h := ih (done ++ [b]) a' ha' fun d c r a hd hI => hstep d c r a (by simpa using hd) hI
    simpa using h

/-- The loop rule for an invariant that does not mention the position. -/
theorem foldlM_invariant {step : α → β → Except ε α} {E : ε → Prop} {I : α → Prop}
    {l : List β} {a : α} (ha : I a) (hstep : ∀ b ∈ l, ∀ a, I a → Meets (step a b) I E) :
    Meets (l.foldlM step a) I E :=
  foldlM_meets (fun _ => I) l [] a ha fun d b r a hd hI =>
    hstep b (by rw [← List.nil_append l, ← hd]; simp) a hI

/-! ### Which errors there can be

`FailsIn E x` forgets what `x` returns. It distributes over the constructions, so `simp` decides it
for a computation from the parts it is made of.
-/

/-- `x` fails only with errors satisfying `E`. -/
def FailsIn (E : ε → Prop) (x : Except ε α) : Prop := ∀ e, x = .error e → E e

section

variable {y : Except ε α}

@[simp] theorem failsIn_ok (a : α) : FailsIn E (.ok a : Except ε α) := nofun

@[simp] theorem failsIn_pure (a : α) : FailsIn E (pure a : Except ε α) := nofun

@[simp] theorem failsIn_error {e : ε} : FailsIn E (.error e : Except ε α) ↔ E e :=
  ⟨fun h => h e rfl, fun h _ he => by cases he; exact h⟩

@[simp] theorem failsIn_bind :
    FailsIn E (x >>= f) ↔ FailsIn E x ∧ ∀ a, x = .ok a → FailsIn E (f a) := by
  cases x with
  | ok a => simp
  | error e => simp

@[simp] theorem failsIn_map {g : α → β} : FailsIn E (g <$> x) ↔ FailsIn E x := by
  cases x with
  | ok a => exact iff_of_true nofun nofun
  | error e => exact failsIn_error.trans failsIn_error.symm

@[simp] theorem failsIn_ite {c : Prop} [Decidable c] :
    FailsIn E (if c then x else y) ↔ (c → FailsIn E x) ∧ (¬ c → FailsIn E y) := by
  by_cases h : c <;> simp [h]

theorem failsIn_foldlM {step : α → β → Except ε α} (h : ∀ a b, FailsIn E (step a b)) (l : List β) :
    ∀ a, FailsIn E (l.foldlM step a) := by
  induction l with
  | nil => intro a; exact failsIn_pure a
  | cons b l ih =>
    intro a
    rw [List.foldlM_cons]
    exact failsIn_bind.mpr ⟨h a b, fun a' _ => ih a'⟩

theorem failsIn_forM {g : β → Except ε PUnit} (h : ∀ b, FailsIn E (g b)) (l : List β) :
    FailsIn E (l.forM g) := by
  induction l with
  | nil => exact failsIn_pure _
  | cons b l ih =>
    show FailsIn E (g b >>= fun _ => l.forM g)
    exact failsIn_bind.mpr ⟨h b, fun _ _ => ih⟩

theorem failsIn_mapM {g : α → Except ε β} (h : ∀ a, FailsIn E (g a)) (l : List α) :
    FailsIn E (l.mapM g) := by
  induction l with
  | nil => exact failsIn_pure []
  | cons a l ih =>
    rw [List.mapM_cons]
    exact failsIn_bind.mpr ⟨h a, fun _ _ => failsIn_bind.mpr ⟨ih, fun _ _ => failsIn_pure _⟩⟩

end

/-! ### Which computations return

`Succeeds x` forgets what `x` returns and what it fails with, and so is decided part by part. Unlike
`Total` it also says when a computation does not return.
-/

/-- `x` returns. -/
def Succeeds (x : Except ε α) : Prop := ∃ a, x = .ok a

@[simp] theorem succeeds_ok (a : α) : Succeeds (.ok a : Except ε α) := ⟨a, rfl⟩

@[simp] theorem succeeds_pure (a : α) : Succeeds (pure a : Except ε α) := ⟨a, rfl⟩

@[simp] theorem not_succeeds_error (e : ε) : ¬ Succeeds (.error e : Except ε α) := nofun

/-- A computation that does not return fails. -/
theorem not_succeeds_iff : ¬ Succeeds x ↔ ∃ e, x = .error e := by
  cases x with
  | ok a => exact iff_of_false (not_not.mpr (succeeds_ok a)) nofun
  | error e => exact iff_of_true (not_succeeds_error e) ⟨e, rfl⟩

/-- A computation returns when there is no error it can fail with. -/
theorem succeeds_iff_failsIn : Succeeds x ↔ FailsIn (fun _ => False) x := by
  cases x with
  | ok a => exact iff_of_true (succeeds_ok a) (failsIn_ok a)
  | error e => exact iff_of_false (not_succeeds_error e) fun h => failsIn_error.mp h

theorem succeeds_bind : Succeeds (x >>= f) ↔ ∃ a, x = .ok a ∧ Succeeds (f a) := by
  cases x with
  | ok a => exact ⟨fun h => ⟨a, rfl, h⟩, fun ⟨_, ha, h⟩ => ok_inj.mp ha ▸ h⟩
  | error e => exact iff_of_false (not_succeeds_error e) nofun

/-- What is done with the value does not matter when it always returns. -/
theorem succeeds_bind_of_succeeds (hf : ∀ a, Succeeds (f a)) :
    Succeeds (x >>= f) ↔ Succeeds x := by
  rw [succeeds_bind]
  exact ⟨fun ⟨a, ha, _⟩ => ⟨a, ha⟩, fun ⟨a, ha⟩ => ⟨a, ha, hf a⟩⟩

theorem succeeds_mapM {g : α → Except ε β} (l : List α) :
    Succeeds (l.mapM g) ↔ ∀ a ∈ l, Succeeds (g a) := by
  induction l with
  | nil => exact iff_of_true (succeeds_pure []) nofun
  | cons a l ih =>
    rw [List.mapM_cons, List.forall_mem_cons, ← ih, succeeds_bind]
    constructor
    · rintro ⟨b, hb, hrest⟩
      exact ⟨⟨b, hb⟩, (succeeds_bind_of_succeeds fun _ => succeeds_pure _).mp hrest⟩
    · rintro ⟨⟨b, hb⟩, hrest⟩
      exact ⟨b, hb, (succeeds_bind_of_succeeds fun _ => succeeds_pure _).mpr hrest⟩

/-- The elements of what a `mapM` returned. -/
theorem mapM_getElem? {g : α → Except ε β} {l : List α} : ∀ {r : List β}, l.mapM g = .ok r →
    r.length = l.length ∧ ∀ (i : ℕ) a, l[i]? = some a → ∃ b, g a = .ok b ∧ r[i]? = some b := by
  induction l with
  | nil =>
    intro r h
    cases h
    exact ⟨rfl, nofun⟩
  | cons a l ih =>
    intro r h
    rw [List.mapM_cons] at h
    obtain ⟨b, hb, h⟩ := bind_eq_ok.mp h
    obtain ⟨bs, hbs, h⟩ := bind_eq_ok.mp h
    cases h
    obtain ⟨hlen, hget⟩ := ih hbs
    refine ⟨congrArg (· + 1) hlen, fun i a' hi => ?_⟩
    cases i with
    | zero =>
      cases hi
      exact ⟨b, hb, rfl⟩
    | succ i => exact hget i a' hi

theorem exists_of_mem_mapM {g : α → Except ε β} {l : List α} {r : List β} (h : l.mapM g = .ok r)
    {b : β} (hb : b ∈ r) : ∃ a ∈ l, g a = .ok b := by
  obtain ⟨hlen, hget⟩ := mapM_getElem? h
  obtain ⟨i, hi⟩ := List.getElem?_of_mem hb
  have hlt : i < l.length := hlen ▸ (List.getElem?_eq_some_iff.mp hi).1
  obtain ⟨b', hb', hi'⟩ := hget i l[i] (List.getElem?_eq_getElem hlt)
  cases hi.symm.trans hi'
  exact ⟨l[i], List.getElem_mem hlt, hb'⟩

/-! ### Two computations

`Related R x y` compares two computations, as `Meets` looks at one.
-/

section

variable {β' : Type v} {γ γ' : Type v} {y : Except ε β'} {S : γ → γ' → Prop}

/-- Both computations return, with values in `R`, or both fail alike. -/
def Related (R : α → β' → Prop) (x : Except ε α) (y : Except ε β') : Prop :=
  match x, y with
  | .ok a, .ok b => R a b
  | .error e, .error e' => e = e'
  | _, _ => False

/-- A computation next to itself. -/
theorem related_self {R : α → α → Prop} (h : Yields x fun a => R a a) : Related R x x := by
  cases x with
  | ok a => exact h
  | error e => rfl

/-- **Sequencing.** -/
theorem Related.bind {R : α → β' → Prop} {f : α → Except ε γ} {g : β' → Except ε γ'}
    (h : Related R x y) (hfg : ∀ a b, R a b → Related S (f a) (g b)) :
    Related S (x >>= f) (y >>= g) := by
  cases x with
  | ok a =>
    cases y with
    | ok b => exact hfg a b h
    | error e => exact h.elim
  | error e =>
    cases y with
    | ok b => exact h.elim
    | error e' => exact h

end

end Outcome
