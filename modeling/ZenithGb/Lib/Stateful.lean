import ZenithGb.Lib.Outcome

/-!
# Stateful computations that return or fail

A computation over a state is a `StateT σ (Except ε) α`. `Does x R` says that whenever `x` returns,
`R` relates the state before it to the state after it; nothing is said of a failure. A family of
relations that compose by adding an index, `Graded`, makes a calculus of costs of it: the cost of a
sequence is the sum of the costs. `Ensures x s Q` says from one state what `x` returns and leaves.

## Main results

* `Outcome.Does.bind`, `Outcome.Does.ite` — sequencing and case distinction
* `Outcome.ensures_bind` — what a sequence returns
* `Outcome.Graded.bind` — costs add up
* `Outcome.Maintains.bind` — an invariant, and the errors there can be
* `Outcome.run_bind_eq_ok` — inversion of a sequence that returned
* `Outcome.failsIn_run_bind` — which errors a sequence can fail with
* `Outcome.Component.run_look` — looking at a part of the state leaves all of it alone
-/

universe u v

namespace Outcome

variable {ε : Type u} {σ α β : Type v} {x : StateT σ (Except ε) α} {f : α → StateT σ (Except ε) β}
  {R S T : σ → σ → Prop}

/-- Whenever `x` returns, `R` relates the states before and after. -/
def Does (x : StateT σ (Except ε) α) (R : σ → σ → Prop) : Prop :=
  ∀ s a s', x s = .ok (a, s') → R s s'

/-- A sequence returned exactly when both parts did, one from where the other ended. -/
theorem run_bind_eq_ok {s : σ} {r : β × σ} :
    (x >>= f) s = .ok r ↔ ∃ a t, x s = .ok (a, t) ∧ f a t = .ok r :=
  bind_eq_ok.trans Prod.exists

/-- A sequence whose first part returned goes on with the second. -/
theorem run_bind_of_ok {s t : σ} {a : α} (h : x s = .ok (a, t)) : (x >>= f) s = f a t := by
  show (x s >>= fun p => f p.1 p.2) = _
  rw [h]
  rfl

/-- Two sequences agree if they go on alike wherever the first part ends. -/
theorem run_bind_congr {g : α → StateT σ (Except ε) β} {s : σ}
    (h : ∀ a t, x s = .ok (a, t) → f a t = g a t) : (x >>= f) s = (x >>= g) s := by
  cases hx : x s with
  | ok p => rw [run_bind_of_ok hx, run_bind_of_ok hx, h p.1 p.2 hx]
  | error e =>
    show (x s >>= fun p => f p.1 p.2) = (x s >>= fun p => g p.1 p.2)
    rw [hx]
    rfl

theorem Does.mono (h : Does x R) (hRS : ∀ s s', R s s' → S s s') : Does x S :=
  fun s a s' hx => hRS s s' (h s a s' hx)

/-- **Sequencing.** -/
theorem Does.bind (hx : Does x R) (hf : ∀ a, Does (f a) S)
    (hT : ∀ s t u, R s t → S t u → T s u) : Does (x >>= f) T := by
  intro s b u h
  obtain ⟨a, t, hxs, hfa⟩ := run_bind_eq_ok.mp h
  exact hT s t u (hx s a t hxs) (hf a t b u hfa)

theorem Does.ite {c : Prop} [Decidable c] {y : StateT σ (Except ε) α} (hx : c → Does x R)
    (hy : ¬ c → Does y R) : Does (if c then x else y) R := by
  split
  · exact hx ‹_›
  · exact hy ‹_›

/-- A failure does anything. -/
theorem does_error (e : ε) : Does (StateT.lift (.error e) : StateT σ (Except ε) α) R := nofun

theorem does_modify {g : σ → σ} (h : ∀ s, R s (g s)) :
    Does (modify g : StateT σ (Except ε) PUnit) R := by
  rintro s a s' ⟨⟩
  exact h s

/-! ### Parts of a state -/

/-- A part of a state that can be borrowed: putting back what was there changes nothing. -/
structure Component (σ α : Type v) where
  get : σ → α
  put : α → σ → σ
  put_get : ∀ s, put (get s) s = s

/-- Run a computation on a part of the state, and put back what it leaves. -/
def Component.run (p : Component σ α) (x : StateT α (Except ε) β) : StateT σ (Except ε) β :=
  fun s => do
    let (b, a) ← x (p.get s)
    return (b, p.put a s)

/-- Compute from the state with what may fail, and leave the state as it is. -/
def look (g : σ → Except ε α) : StateT σ (Except ε) α := fun s => (·, s) <$> g s

theorem map_get_eq_look (g : σ → α) :
    (g <$> get : StateT σ (Except ε) α) = look fun s => .ok (g s) := rfl

/-- Borrowing a part to look at it is looking at the whole. -/
theorem Component.run_look (p : Component σ α) (g : α → Except ε β) :
    p.run (look g) = look fun s => g (p.get s) := by
  funext s
  show (((·, p.get s) <$> g (p.get s)) >>= fun r => pure (r.1, p.put r.2 s)) = _
  cases h : g (p.get s) with
  | error e => rw [look, h]; rfl
  | ok b =>
    rw [look, h]
    exact congrArg (fun t => Except.ok (b, t)) (p.put_get s)

theorem look_eq_ok {g : σ → Except ε α} {s : σ} {r : α × σ} :
    look g s = .ok r ↔ g s = .ok r.1 ∧ r.2 = s := by
  obtain ⟨a, t⟩ := r
  constructor
  · intro h
    obtain ⟨b, hb, h⟩ := map_eq_ok.mp h
    cases h
    exact ⟨hb, rfl⟩
  · rintro ⟨h, rfl⟩
    rw [look, h]
    rfl

/-! ### What a computation returns -/

section

variable {s : σ} {Q : α → σ → Prop}

/-- Whenever `x` returns from `s`, what it returns and the state it leaves satisfy `Q`. -/
def Ensures (x : StateT σ (Except ε) α) (s : σ) (Q : α → σ → Prop) : Prop :=
  ∀ a t, x s = .ok (a, t) → Q a t

@[simp] theorem ensures_pure {a : α} :
    Ensures (pure a : StateT σ (Except ε) α) s Q ↔ Q a s := by
  refine ⟨fun h => h a s rfl, ?_⟩
  rintro h b t ⟨⟩
  exact h

@[simp] theorem ensures_bind {Q : β → σ → Prop} :
    Ensures (x >>= f) s Q ↔ Ensures x s fun a t => Ensures (f a) t Q := by
  constructor
  · intro h a t hx b u hf
    exact h b u (run_bind_eq_ok.mpr ⟨a, t, hx, hf⟩)
  · intro h b u hxf
    obtain ⟨a, t, hx, hf⟩ := run_bind_eq_ok.mp hxf
    exact h a t hx b u hf

@[simp] theorem ensures_map {g : α → β} {Q : β → σ → Prop} :
    Ensures (g <$> x) s Q ↔ Ensures x s fun a t => Q (g a) t := by
  constructor
  · intro h a t hx
    exact h (g a) t (map_eq_ok.mpr ⟨(a, t), hx, rfl⟩)
  · rintro h b t hgx
    obtain ⟨⟨a, t'⟩, hx, hpair⟩ := map_eq_ok.mp hgx
    cases hpair
    exact h a _ hx

@[simp] theorem ensures_lift {y : Except ε α} :
    Ensures (StateT.lift y : StateT σ (Except ε) α) s Q ↔ ∀ a, y = .ok a → Q a s := by
  constructor
  · rintro h a rfl
    exact h a s rfl
  · intro h a t hy
    obtain ⟨b, hb, hy⟩ := bind_eq_ok.mp hy
    cases hy
    exact h a hb

@[simp] theorem ensures_ite {c : Prop} [Decidable c] {y : StateT σ (Except ε) α} :
    Ensures (if c then x else y) s Q ↔ (c → Ensures x s Q) ∧ (¬ c → Ensures y s Q) := by
  by_cases h : c <;> simp [h]

theorem Ensures.mono {Q' : α → σ → Prop} (h : Ensures x s Q) (hQ : ∀ a t, Q a t → Q' a t) :
    Ensures x s Q' :=
  fun a t hx => hQ a t (h a t hx)

end

/-! ### Which errors there can be -/

section

variable {E : ε → Prop} {s : σ}

@[simp] theorem failsIn_run_pure (a : α) : FailsIn E ((pure a : StateT σ (Except ε) α) s) :=
  failsIn_ok (a, s)

@[simp] theorem failsIn_run_lift {y : Except ε α} :
    FailsIn E ((StateT.lift y : StateT σ (Except ε) α) s) ↔ FailsIn E y :=
  failsIn_bind.trans (and_iff_left fun _ _ => failsIn_pure _)

@[simp] theorem failsIn_run_bind :
    FailsIn E ((x >>= f) s) ↔ FailsIn E (x s) ∧ ∀ a t, x s = .ok (a, t) → FailsIn E (f a t) :=
  failsIn_bind.trans (and_congr_right fun _ => Prod.forall)

@[simp] theorem failsIn_run_map {g : α → β} : FailsIn E ((g <$> x) s) ↔ FailsIn E (x s) :=
  failsIn_bind.trans (and_iff_left fun _ _ => failsIn_pure _)

@[simp] theorem failsIn_run_ite {c : Prop} [Decidable c] {y : StateT σ (Except ε) α} :
    FailsIn E ((if c then x else y) s) ↔ (c → FailsIn E (x s)) ∧ (¬ c → FailsIn E (y s)) := by
  by_cases h : c <;> simp [h]

end

/-! ### Invariants -/

section

variable {I : σ → Prop} {E : ε → Prop}

/-- From states in `I`, `x` returns into states in `I`, or fails with errors in `E`. -/
def Maintains (x : StateT σ (Except ε) α) (I : σ → Prop) (E : ε → Prop) : Prop :=
  ∀ s, I s → Meets (x s) (fun r => I r.2) E

theorem Maintains.bind (hx : Maintains x I E) (hf : ∀ a, Maintains (f a) I E) :
    Maintains (x >>= f) I E :=
  fun s hs => (hx s hs).bind fun r hr => hf r.1 r.2 hr

theorem Maintains.ite {c : Prop} [Decidable c] {y : StateT σ (Except ε) α}
    (hx : c → Maintains x I E) (hy : ¬ c → Maintains y I E) :
    Maintains (if c then x else y) I E := by
  split
  · exact hx ‹_›
  · exact hy ‹_›

theorem maintains_pure (a : α) : Maintains (Pure.pure a : StateT σ (Except ε) α) I E :=
  fun _ hs => hs

/-- A check that leaves the state alone. -/
theorem maintains_lift {y : Except ε α} (h : Meets y (fun _ => True) E) :
    Maintains (StateT.lift y : StateT σ (Except ε) α) I E :=
  fun _ hs => h.bind fun _ _ => hs

end

/-! ### Costs -/

/-- Relations indexed by a cost, under which doing nothing is free and costs add up. -/
structure Graded {κ : Type*} [Zero κ] [Add κ] (R : κ → σ → σ → Prop) : Prop where
  refl (s : σ) : R 0 s s
  trans {a b : κ} {s t u : σ} : R a s t → R b t u → R (a + b) s u

namespace Graded

variable {κ : Type*} [Zero κ] [Add κ] {C : κ → σ → σ → Prop} {a b c : κ}

theorem pure (hC : Graded C) (v : α) : Does (Pure.pure v : StateT σ (Except ε) α) (C 0) := by
  rintro s _ s' ⟨⟩
  exact hC.refl s

theorem get (hC : Graded C) : Does (MonadState.get : StateT σ (Except ε) σ) (C 0) := by
  rintro s _ s' ⟨⟩
  exact hC.refl s

/-- A check that leaves the state alone is free. -/
theorem lift (hC : Graded C) (y : Except ε α) :
    Does (StateT.lift y : StateT σ (Except ε) α) (C 0) := by
  intro s v s' h
  obtain ⟨_, -, h⟩ := bind_eq_ok.mp h
  cases h
  exact hC.refl s

/-- **Costs add up.** -/
theorem bind (hC : Graded C) (hx : Does x (C a)) (hf : ∀ v, Does (f v) (C b))
    (hc : a + b = c) : Does (x >>= f) (C c) :=
  hx.bind hf fun _ _ _ h h' => hc ▸ hC.trans h h'

end Graded

end Outcome
