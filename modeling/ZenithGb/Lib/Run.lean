import Mathlib.Algebra.GroupWithZero.Nat
import Mathlib.Data.List.Forall2
import Mathlib.Data.Nat.Count
import ZenithGb.Lib.Outcome

/-!
# Runs of a machine that may fail

A machine is a function `step : ι → σ → Except ε σ`: given an input it moves to a next state or
fails. `exec` performs a list of inputs, `Run` is a finite run written down state by state, and
`Reachable` is the usual notion. Everything is stated for an arbitrary machine; the induction
over a run is done here once.

`exec` and `Run` are two views of the same thing. That every sequence of inputs succeeds is a
statement about `exec`; a statement that relates two moments of one run is one about `Run`, whose
states can be named by their position.

## Main results

* `Machine.exec_meets` — an invariant of the steps is an invariant of every sequence
* `Machine.exec_take_invariant` — a guarded invariant, after every prefix
* `Machine.exec_graded` — an invariant that counts what the steps cost
* `Machine.exec_refines` — a matched step makes a matched sequence
* `Machine.exec_related` — two machines that go on alike, failures included
* `Machine.repeated_indexed`, `Machine.repeated_refines` — a step performed again and again
* `Machine.exec_eq_of_forall₂` — inputs that can stand for one another, in a sequence
* `Machine.exec_failsIn`, `Machine.exec_succeeds` — which errors a sequence can fail with, and
  when it is performed
* `Machine.Run.invariant` — the same along a run, where the step may use the position
* `Machine.Run.iterate` — a part of the state moved by some of the inputs
* `Machine.Run.phase`, `Machine.Run.phaseAt` — a cyclic counter moved by some of the steps counts
  them
* `Machine.Run.latched` — what some of the steps set and others clear
* `Machine.Run.part` — a part of the state that is a machine itself
* `Machine.Run.held_of_last` — a part of the state that some of the inputs set
* `Machine.Run.ofTotal`, `Machine.Run.ofExec` — inputs that cannot fail, or did not, make a run
* `Machine.Run.exec_input` — and performing the inputs of a run leads through its states
* `Machine.Reachable.induction` — the same for reachable states
* `Machine.Reachable.leads` — reachability is closed under further inputs
-/

universe u v w

namespace Machine

variable {ε : Type u} {σ : Type v} {ι : Type w}

/-- Perform the inputs in order, stopping at the first failure. -/
def exec (step : ι → σ → Except ε σ) : List ι → σ → Except ε σ
  | [], s => .ok s
  | i :: is, s => step i s >>= exec step is

@[simp] theorem exec_nil (step : ι → σ → Except ε σ) (s : σ) : exec step [] s = .ok s := rfl

theorem exec_cons (step : ι → σ → Except ε σ) (i : ι) (is : List ι) (s : σ) :
    exec step (i :: is) s = step i s >>= exec step is := rfl

theorem exec_singleton (step : ι → σ → Except ε σ) (i : ι) (s : σ) :
    exec step [i] s = step i s := by
  rw [exec_cons]
  cases step i s <;> rfl

theorem exec_append (step : ι → σ → Except ε σ) (is js : List ι) (s : σ) :
    exec step (is ++ js) s = exec step is s >>= exec step js := by
  induction is generalizing s with
  | nil => rfl
  | cons i is ih =>
    rw [List.cons_append, exec_cons, exec_cons]
    cases step i s with
    | ok s' => exact ih s'
    | error e => rfl

/-- **Invariants of a sequence of inputs.** -/
theorem exec_meets {step : ι → σ → Except ε σ} {I : σ → Prop} {E : ε → Prop} {P : ι → Prop}
    (hstep : ∀ i s, P i → I s → Outcome.Meets (step i s) I E) :
    ∀ (is : List ι) (s : σ), (∀ i ∈ is, P i) → I s → Outcome.Meets (exec step is s) I E := by
  intro is
  induction is with
  | nil => intro s _ hs; exact hs
  | cons i is ih =>
    intro s hok hs
    rw [exec_cons]
    refine (hstep i s (hok i (by simp)) hs).bind fun s' hs' => ?_
    exact ih s' (fun j hj => hok j (by simp [hj])) hs'

/-- **Graded invariants of a sequence of inputs.** What each step adds to is a sum at the end. -/
theorem exec_graded {step : ι → σ → Except ε σ} {I : ℕ → σ → Prop} {E : ε → Prop} {P : ι → Prop}
    {cost : ι → ℕ}
    (hstep : ∀ n i s, P i → I n s → Outcome.Meets (step i s) (I (n + cost i)) E) :
    ∀ (is : List ι) (n : ℕ) (s : σ), (∀ i ∈ is, P i) → I n s →
      Outcome.Meets (exec step is s) (I (n + (is.map cost).sum)) E := by
  intro is
  induction is with
  | nil => intro n s _ hs; exact hs
  | cons i is ih =>
    intro n s hok hs
    rw [exec_cons, List.map_cons, List.sum_cons, ← Nat.add_assoc]
    refine (hstep n i s (hok i (by simp)) hs).bind fun s' hs' => ?_
    exact ih _ s' (fun j hj => hok j (by simp [hj])) hs'

/-- Two sequences whose inputs pairwise lead from the same state to the same state lead to the same
state, when neither fails. -/
theorem exec_eq_of_forall₂ {step : ι → σ → Except ε σ} {R : ι → ι → Prop}
    (hR : ∀ i j s t u, R i j → step i s = .ok t → step j s = .ok u → t = u) {is js : List ι}
    (h : List.Forall₂ R is js) :
    ∀ s t u, exec step is s = .ok t → exec step js s = .ok u → t = u := by
  induction h with
  | nil =>
    rintro s t u ⟨⟩ ⟨⟩
    rfl
  | cons hij _ ih =>
    intro s t u ht hu
    obtain ⟨t', ht', ht⟩ := Outcome.bind_eq_ok.mp ht
    obtain ⟨u', hu', hu⟩ := Outcome.bind_eq_ok.mp hu
    obtain rfl := hR _ _ s t' u' hij ht' hu'
    exact ih t' t u ht hu

/-- **Guarded invariants of a sequence of inputs.** An invariant that survives every step whose
guard holds is there after every prefix, if the guards hold along the way. -/
theorem exec_take_invariant {step : ι → σ → Except ε σ} {I : σ → Prop} {G : ι → σ → Prop} {s : σ}
    (h0 : I s) (hstep : ∀ i s s', I s → G i s → step i s = .ok s' → I s') (is : List ι)
    (hG : ∀ k (hk : k < is.length) s', exec step (is.take k) s = .ok s' → G is[k] s') :
    ∀ k ≤ is.length, ∀ s', exec step (is.take k) s = .ok s' → I s' := by
  intro k
  induction k with
  | zero =>
    intro _ s' h
    cases h
    exact h0
  | succ k ih =>
    intro hk s' h
    rw [List.take_succ_eq_append_getElem hk, exec_append] at h
    obtain ⟨t, ht, hlast⟩ := Outcome.bind_eq_ok.mp h
    obtain ⟨u, hu, hnil⟩ := Outcome.bind_eq_ok.mp hlast
    cases hnil
    exact hstep _ t s' (ih (Nat.le_of_lt hk) t ht) (hG k hk t ht) hu

/-- **Refinement of a sequence of inputs.** If every step is matched by a step of an abstract
machine that cannot fail, so is every sequence. -/
theorem exec_refines {τ : Type*} {step : ι → σ → Except ε σ} {astep : τ → ι → τ}
    {R : σ → τ → Prop} {P : ι → Prop}
    (hstep : ∀ i s t, P i → R s t → Outcome.Total (step i s) fun s' => R s' (astep t i)) :
    ∀ (is : List ι) (s : σ) (t : τ), (∀ i ∈ is, P i) → R s t →
      Outcome.Total (exec step is s) fun s' => R s' (is.foldl astep t) := by
  intro is
  induction is with
  | nil => intro s t _ h; exact h
  | cons i is ih =>
    intro s t hP h
    rw [exec_cons, List.foldl_cons]
    refine (hstep i s t (hP i (by simp)) h).bind fun s' hs' => ?_
    exact ih s' _ (fun j hj => hP j (by simp [hj])) hs'

/-- **Two machines side by side.** If their steps are related, so are their sequences. -/
theorem exec_related {τ : Type v} {step : ι → σ → Except ε σ} {step' : ι → τ → Except ε τ}
    {R : σ → τ → Prop}
    (hstep : ∀ i s t, R s t → Outcome.Related R (step i s) (step' i t)) (is : List ι) :
    ∀ (s : σ) (t : τ), R s t → Outcome.Related R (exec step is s) (exec step' is t) := by
  induction is with
  | nil => intro s t h; exact h
  | cons i is ih =>
    intro s t h
    exact (hstep i s t h).bind ih

/-- Perform a step that takes no input `n` times. -/
def repeated (step : σ → Except ε σ) (n : ℕ) : σ → Except ε σ :=
  exec (fun _ : Unit => step) (List.replicate n ())

/-- **What holds after each number of repetitions.** -/
theorem repeated_indexed {step : σ → Except ε σ} (n : ℕ) : ∀ {I : ℕ → σ → Prop} {s : σ},
    (∀ n s, I n s → Outcome.Total (step s) (I (n + 1))) → I 0 s →
      Outcome.Total (repeated step n s) (I n) := by
  induction n with
  | zero =>
    intro I s _ h
    exact h
  | succ n ih =>
    intro I s hstep h
    rw [repeated, List.replicate_succ, exec_cons]
    exact (hstep 0 s h).bind fun s' h' => ih (fun k s hk => hstep (k + 1) s hk) h'

/-- Refinement of a repeated step by an iterate. -/
theorem repeated_refines {τ : Type*} {step : σ → Except ε σ} {g : τ → τ} {R : σ → τ → Prop}
    (hstep : ∀ s t, R s t → Outcome.Total (step s) fun s' => R s' (g t)) (n : ℕ) {s : σ} {t : τ}
    (h : R s t) : Outcome.Total (repeated step n s) fun s' => R s' (g^[n] t) := by
  refine repeated_indexed (I := fun n s => R s (g^[n] t)) n (fun n s hs => ?_) h
  refine (hstep s _ hs).imp fun s' hs' => ?_
  rwa [Function.iterate_succ_apply']

/-- A sequence of inputs fails only with the errors its steps fail with, wherever they are taken. -/
theorem exec_failsIn {step : ι → σ → Except ε σ} {E : ε → Prop} (is : List ι) (s : σ) :
    Outcome.FailsIn E (exec step is s) ↔ ∀ k (hk : k < is.length) s',
      exec step (is.take k) s = .ok s' → Outcome.FailsIn E (step is[k] s') := by
  induction is generalizing s with
  | nil => exact iff_of_true (Outcome.failsIn_ok s) nofun
  | cons i is ih =>
    rw [exec_cons, Outcome.failsIn_bind]
    constructor
    · rintro ⟨hi, his⟩ (_ | k) hk s' h
      · cases h
        exact hi
      · obtain ⟨t, ht, hrest⟩ := Outcome.bind_eq_ok.mp h
        exact (ih t).mp (his t ht) k (Nat.lt_of_succ_lt_succ hk) s' hrest
    · intro h
      refine ⟨h 0 (Nat.succ_pos _) s rfl, fun t ht => (ih t).mpr fun k hk s' hs' => ?_⟩
      refine h (k + 1) (Nat.succ_lt_succ hk) s' ?_
      rw [List.take_succ_cons, exec_cons, ht]
      exact hs'

/-- A sequence of inputs is performed if every step of it is, wherever it is taken. -/
theorem exec_succeeds {step : ι → σ → Except ε σ} (is : List ι) (s : σ) :
    Outcome.Succeeds (exec step is s) ↔ ∀ k (hk : k < is.length) s',
      exec step (is.take k) s = .ok s' → Outcome.Succeeds (step is[k] s') := by
  simp only [Outcome.succeeds_iff_failsIn]
  exact exec_failsIn is s

/-- A step that fails stops the sequence. -/
theorem exec_eq_error {step : ι → σ → Except ε σ} {is : List ι} {s s' : σ} {e : ε} {k : ℕ}
    (hk : k < is.length) (hs : exec step (is.take k) s = .ok s') (he : step is[k] s' = .error e) :
    exec step is s = .error e := by
  rw [← List.take_append_drop k is, exec_append, hs, List.drop_eq_getElem_cons hk]
  show step is[k] s' >>= _ = _
  rw [he]
  rfl

/-! ### Runs -/

/-- `k` is the last position before `n` where `p` holds. -/
structure Last (p : ℕ → Prop) (k n : ℕ) : Prop where
  lt : k < n
  holds : p k
  none_after : ∀ j, k < j → j < n → ¬ p j

theorem Last.unique {p : ℕ → Prop} {j k n : ℕ} (hj : Last p j n) (hk : Last p k n) : j = k := by
  by_contra hne
  obtain hlt | hlt := Nat.lt_or_gt_of_ne hne
  · exact hj.none_after k hlt hk.lt hk.holds
  · exact hk.none_after j hlt hj.lt hj.holds

/-- Before every position, `p` has a last place or none. -/
theorem last_or_none (p : ℕ → Prop) (n : ℕ) : (∃ k, Last p k n) ∨ ∀ k < n, ¬ p k := by
  induction n with
  | zero => exact .inr fun k hk => absurd hk (Nat.not_lt_zero k)
  | succ n ih =>
    by_cases hn : p n
    · exact .inl ⟨n, Nat.lt_succ_self n, hn, fun j hj hlt => by omega⟩
    · obtain ⟨k, hk⟩ | hnone := ih
      · refine .inl ⟨k, Nat.lt_succ_of_lt hk.lt, hk.holds, fun j hj hlt => ?_⟩
        obtain hlt | rfl := Nat.lt_succ_iff_lt_or_eq.mp hlt
        · exact hk.none_after j hj hlt
        · exact hn
      · refine .inr fun k hk => ?_
        obtain hlt | rfl := Nat.lt_succ_iff_lt_or_eq.mp hk
        · exact hnone k hlt
        · exact hn

/-- A finite run: `length` steps, with the input and the state at every position. Only the
positions up to `length` mean anything. -/
structure Run (step : ι → σ → Except ε σ) where
  /-- How many steps were taken. -/
  length : ℕ
  /-- The input of the step from position `k`. -/
  input : ℕ → ι
  /-- The state at position `k`. -/
  state : ℕ → σ
  /-- Every step of the run is a step of the machine that did not fail. -/
  next : ∀ k < length, step (input k) (state k) = .ok (state (k + 1))

namespace Run

variable {step : ι → σ → Except ε σ}

/-- **Invariants of a run.** The step may use its position, and so whatever is assumed about the
input there. -/
theorem invariant (r : Run step) {I : ℕ → σ → Prop} {m : ℕ} (h0 : I m (r.state m))
    (hstep : ∀ k, m ≤ k → k < r.length → I k (r.state k) → I (k + 1) (r.state (k + 1))) :
    ∀ k, m ≤ k → k ≤ r.length → I k (r.state k) := by
  intro k hk
  induction k, hk using Nat.le_induction with
  | base => intro _; exact h0
  | succ k hk ih => intro hlen; exact hstep k hk (by omega) (ih (by omega))

/-- The rest of a run from position `m` on. -/
def drop (r : Run step) (m : ℕ) : Run step where
  length := r.length - m
  input k := r.input (m + k)
  state k := r.state (m + k)
  next k hk := r.next (m + k) (by omega)

@[simp] theorem drop_length (r : Run step) (m : ℕ) : (r.drop m).length = r.length - m := rfl

@[simp] theorem drop_input (r : Run step) (m k : ℕ) : (r.drop m).input k = r.input (m + k) := rfl

@[simp] theorem drop_state (r : Run step) (m k : ℕ) : (r.drop m).state k = r.state (m + k) := rfl

/-- **Iterated steps.** When some of the inputs move a part of the state by `g` and the others leave
it alone, it has moved as often as there were such inputs. -/
theorem iterate {α : Type*} (r : Run step) (moves : ι → Prop) [DecidablePred moves] (f : σ → α)
    (g : α → α)
    (hstep : ∀ k < r.length, f (r.state (k + 1)) =
      if moves (r.input k) then g (f (r.state k)) else f (r.state k)) :
    ∀ k ≤ r.length,
      f (r.state k) = g^[Nat.count (fun i => moves (r.input i)) k] (f (r.state 0)) := by
  intro k
  induction k with
  | zero => intro _; rw [Nat.count_zero]; rfl
  | succ k ih =>
    intro hk
    rw [hstep k hk, ih (by omega), Nat.count_succ]
    split
    · rw [Function.iterate_succ_apply']
    · rfl

/-- **Cyclic counters.** When the steps from some positions move a counter modulo `N` by one and the
others leave it alone, the counter tells how many of them there were. -/
theorem phaseAt (r : Run step) (moves : ℕ → Prop) [DecidablePred moves] (f : σ → ℕ) {N : ℕ}
    (h0 : f (r.state 0) < N)
    (hstep : ∀ k < r.length, f (r.state (k + 1)) =
      if moves k then (f (r.state k) + 1) % N else f (r.state k)) :
    ∀ k ≤ r.length, f (r.state k) = (f (r.state 0) + Nat.count moves k) % N := by
  intro k
  induction k with
  | zero => intro _; rw [Nat.count_zero, Nat.add_zero, Nat.mod_eq_of_lt h0]
  | succ k ih =>
    intro hk
    rw [hstep k hk, ih (by omega), Nat.count_succ]
    split
    · rw [Nat.mod_add_mod, Nat.add_assoc]
    · rw [Nat.add_zero]

/-- The same where the input decides what moves the counter. -/
theorem phase (r : Run step) (moves : ι → Prop) [DecidablePred moves] (f : σ → ℕ) {N : ℕ}
    (h0 : f (r.state 0) < N)
    (hstep : ∀ k < r.length, f (r.state (k + 1)) =
      if moves (r.input k) then (f (r.state k) + 1) % N else f (r.state k)) :
    ∀ k ≤ r.length,
      f (r.state k) = (f (r.state 0) + Nat.count (fun i => moves (r.input i)) k) % N :=
  r.phaseAt (fun i => moves (r.input i)) f h0 hstep

/-- **Latches.** Where a step leaves a latch set if it sets it, or finds it set and does not clear
it, the latch is set when it was set and not cleared since. -/
theorem latched (r : Run step) {f : σ → Prop} {sets clears : ℕ → Prop}
    (hstep : ∀ k < r.length, f (r.state (k + 1)) ↔ sets k ∨ f (r.state k) ∧ ¬ clears k) :
    ∀ k ≤ r.length, f (r.state k) ↔
      (∃ j < k, sets j ∧ ∀ i, j < i → i < k → ¬ clears i) ∨
        f (r.state 0) ∧ ∀ i < k, ¬ clears i := by
  intro k
  induction k with
  | zero =>
    intro _
    refine ⟨fun h => .inr ⟨h, fun i hi => absurd hi (Nat.not_lt_zero i)⟩, ?_⟩
    rintro (⟨j, hj, -⟩ | ⟨h, -⟩)
    · exact absurd hj (Nat.not_lt_zero j)
    · exact h
  | succ k ih =>
    intro hk
    rw [hstep k hk, ih (by omega)]
    constructor
    · rintro (hset | ⟨⟨j, hj, hset, hkept⟩ | ⟨h0, hkept⟩, hclear⟩)
      · exact .inl ⟨k, Nat.lt_succ_self k, hset, fun i hi hlt => by omega⟩
      · refine .inl ⟨j, Nat.lt_succ_of_lt hj, hset, fun i hi hlt => ?_⟩
        obtain hlt | rfl := Nat.lt_succ_iff_lt_or_eq.mp hlt
        · exact hkept i hi hlt
        · exact hclear
      · refine .inr ⟨h0, fun i hlt => ?_⟩
        obtain hlt | rfl := Nat.lt_succ_iff_lt_or_eq.mp hlt
        · exact hkept i hlt
        · exact hclear
    · rintro (⟨j, hj, hset, hkept⟩ | ⟨h0, hkept⟩)
      · obtain hlt | rfl := Nat.lt_succ_iff_lt_or_eq.mp hj
        · exact .inr ⟨.inl ⟨j, hlt, hset, fun i hi hik => hkept i hi (Nat.lt_succ_of_lt hik)⟩,
            hkept k hlt (Nat.lt_succ_self k)⟩
        · exact .inl hset
      · exact .inr ⟨.inr ⟨h0, fun i hi => hkept i (Nat.lt_succ_of_lt hi)⟩,
          hkept k (Nat.lt_succ_self k)⟩

/-- **Parts of a machine.** When every step moves a part of the state as a list of inputs of another
machine does, the run moves it as all of them in order. -/
theorem part {τ κ : Type*} {δ : Type u} (r : Run step) {partStep : κ → τ → Except δ τ}
    {R : σ → τ → Prop} {t : τ} (h0 : R (r.state 0) t) (work : ℕ → List κ)
    (hstep : ∀ k < r.length, ∀ t, R (r.state k) t →
      Outcome.Total (exec partStep (work k) t) (R (r.state (k + 1)))) :
    ∀ k ≤ r.length,
      Outcome.Total (exec partStep ((List.range k).flatMap work) t) (R (r.state k)) := by
  intro k
  induction k with
  | zero => intro _; exact h0
  | succ k ih =>
    intro hk
    rw [List.range_succ, List.flatMap_append, exec_append, List.flatMap_singleton]
    exact (ih (by omega)).bind (hstep k hk)

/-- **Held values.** A part of the state that inputs of a kind move is what it was while there are
none. -/
theorem held_of_none {α : Type*} (r : Run step) {f : σ → α} {p : ℕ → Prop}
    (hkeep : ∀ k < r.length, ¬ p k → f (r.state (k + 1)) = f (r.state k)) {m n : ℕ} (hmn : m ≤ n)
    (hn : n ≤ r.length) (hnone : ∀ j, m ≤ j → j < n → ¬ p j) : f (r.state n) = f (r.state m) := by
  induction n, hmn using Nat.le_induction with
  | base => rfl
  | succ n hmn ih =>
    rw [hkeep n hn (hnone n hmn (Nat.lt_succ_self n))]
    exact ih (Nat.le_of_lt hn) fun j hj hlt => hnone j hj (Nat.lt_succ_of_lt hlt)

/-- It is what the last input of the kind made of it. -/
theorem held_of_last {α : Type*} (r : Run step) {f : σ → α} {p : ℕ → Prop}
    (hkeep : ∀ k < r.length, ¬ p k → f (r.state (k + 1)) = f (r.state k)) {k n : ℕ}
    (hn : n ≤ r.length) (hlast : Last p k n) : f (r.state n) = f (r.state (k + 1)) :=
  r.held_of_none hkeep hlast.lt hn fun j hj hlt => hlast.none_after j hj hlt

/-- A count takes every value below the one it reaches, at a position that moves it. -/
theorem exists_count_eq {p : ℕ → Prop} [DecidablePred p] {n k : ℕ} (h : n < Nat.count p k) :
    ∃ i < k, p i ∧ Nat.count p i = n := by
  induction k with
  | zero => exact absurd h (Nat.not_lt_zero n)
  | succ k ih =>
    by_cases hk : n < Nat.count p k
    · obtain ⟨i, hi, hp⟩ := ih hk
      exact ⟨i, by omega, hp⟩
    · rw [Nat.count_succ] at h
      by_cases hp : p k
      · rw [if_pos hp] at h
        exact ⟨k, by omega, hp, by omega⟩
      · rw [if_neg hp] at h
        exact absurd h hk

/-- The states inputs lead to, staying put where a step fails. -/
def follow (step : ι → σ → Except ε σ) (input : ℕ → ι) (s : σ) : ℕ → σ
  | 0 => s
  | k + 1 =>
    match step (input k) (follow step input s k) with
    | .ok s' => s'
    | .error _ => follow step input s k

/-- **Runs exist.** Inputs whose steps cannot fail, under an invariant that may use the position,
make a run of any length. -/
theorem ofTotal {I : ℕ → σ → Prop} (input : ℕ → ι) {s : σ} (hs : I 0 s)
    (hstep : ∀ k s, I k s → Outcome.Total (step (input k) s) (I (k + 1))) (n : ℕ) :
    ∃ r : Run step, r.length = n ∧ r.input = input ∧ r.state 0 = s := by
  have hnext : ∀ k, I k (follow step input s k) →
      step (input k) (follow step input s k) = .ok (follow step input s (k + 1)) ∧
        I (k + 1) (follow step input s (k + 1)) := by
    intro k hk
    obtain ⟨s', hs', hI⟩ := (hstep k _ hk).exists_ok
    rw [show follow step input s (k + 1) = s' by rw [follow, hs']]
    exact ⟨hs', hI⟩
  have hinv : ∀ k, I k (follow step input s k) := by
    intro k
    induction k with
    | zero => exact hs
    | succ k ih => exact (hnext k ih).2
  exact ⟨⟨n, input, follow step input s, fun k _ => (hnext k (hinv k)).1⟩, rfl, rfl, rfl⟩

/-- **Runs of a list of inputs.** Inputs that were performed without a failure are a run. -/
theorem ofExec (i₀ : ι) : ∀ {is : List ι} {s s' : σ}, exec step is s = .ok s' →
    ∃ r : Run step, r.length = is.length ∧ r.state 0 = s ∧ r.state is.length = s' ∧
      ∀ k, r.input k = is.getD k i₀
  | [], s, s', h =>
    ⟨⟨0, fun _ => i₀, fun _ => s, nofun⟩, rfl, rfl, Outcome.ok_inj.mp h, fun _ => rfl⟩
  | i :: is, s, s', h => by
    obtain ⟨t, ht, hrest⟩ := Outcome.bind_eq_ok.mp h
    obtain ⟨r, hlen, hstart, hend, hin⟩ := ofExec i₀ hrest
    refine ⟨⟨r.length + 1, fun k => k.casesOn i r.input, fun k => k.casesOn s r.state, ?_⟩, ?_, rfl,
      hend, ?_⟩
    · intro k hk
      cases k with
      | zero => exact ht.trans (congrArg Except.ok hstart.symm)
      | succ k => exact r.next k (Nat.lt_of_succ_lt_succ hk)
    · exact congrArg Nat.succ hlen
    · intro k
      cases k with
      | zero => rfl
      | succ k => exact hin k

/-- Performing the inputs of a run leads through its states. -/
theorem exec_input (r : Run step) {k : ℕ} (hk : k ≤ r.length) :
    exec step ((List.range k).map r.input) (r.state 0) = .ok (r.state k) := by
  induction k with
  | zero => rfl
  | succ k ih =>
    rw [List.range_succ, List.map_append, exec_append, ih (by omega)]
    show step (r.input k) (r.state k) >>= exec step [] = _
    rw [r.next k hk]
    rfl

end Run

/-! ### Reachability -/

/-- The states some sequence of inputs leads to from an initial state. -/
inductive Reachable (init : σ → Prop) (step : ι → σ → Except ε σ) : σ → Prop
  | start {s : σ} : init s → Reachable init step s
  | step {s s' : σ} (i : ι) : Reachable init step s → step i s = .ok s' → Reachable init step s'

/-- An invariant that holds initially and survives every step holds of every reachable state. -/
theorem Reachable.induction {init : σ → Prop} {step : ι → σ → Except ε σ} {I : σ → Prop}
    (hinit : ∀ s, init s → I s) (hstep : ∀ i s s', I s → step i s = .ok s' → I s') {s : σ}
    (h : Reachable init step s) : I s := by
  induction h with
  | start h => exact hinit _ h
  | step i _ hs ih => exact hstep i _ _ ih hs

theorem Reachable.exec {init : σ → Prop} {step : ι → σ → Except ε σ} {s s' : σ}
    (h : Reachable init step s) {is : List ι} (hs : exec step is s = .ok s') :
    Reachable init step s' := by
  induction is generalizing s with
  | nil => cases hs; exact h
  | cons i is ih =>
    obtain ⟨t, ht, hrest⟩ := Outcome.bind_eq_ok.mp hs
    exact ih (.step i h ht) hrest

/-- Some sequence of inputs leads from `s` to `s'`. -/
abbrev Leads (step : ι → σ → Except ε σ) (s s' : σ) : Prop := Reachable (· = s) step s'

theorem Leads.refl (step : ι → σ → Except ε σ) (s : σ) : Leads step s s := .start rfl

theorem Leads.single {step : ι → σ → Except ε σ} {s s' : σ} {i : ι} (h : step i s = .ok s') :
    Leads step s s' :=
  .step i (.start rfl) h

theorem Reachable.leads {init : σ → Prop} {step : ι → σ → Except ε σ} {s s' : σ}
    (h : Reachable init step s) (hs : Leads step s s') : Reachable init step s' := by
  induction hs with
  | start he => exact he ▸ h
  | step i _ hs ih => exact .step i ih hs

theorem Run.reachable {init : σ → Prop} {step : ι → σ → Except ε σ} (r : Run step)
    (h : Reachable init step (r.state 0)) {k : ℕ} (hk : k ≤ r.length) :
    Reachable init step (r.state k) :=
  r.invariant (I := fun _ s => Reachable init step s) h
    (fun k _ hlt hr => .step (r.input k) hr (r.next k hlt)) k (Nat.zero_le k) hk

end Machine
