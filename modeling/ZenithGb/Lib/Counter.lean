import Mathlib.Data.Nat.Count
import Mathlib.Logic.Function.Iterate
import Mathlib.Order.Basic

/-!
# Counters that wrap, and dividers

A `Sticky` counter counts modulo a period and remembers that it wrapped. A counter written in
digits is one: its lowest digit counts, and wrapping it is a tick of the counter made of the others.
A divider counts down from `N` and ticks something else when it starts again. A `Cycle` goes round
a number of places, and shows the one it left. A `Reload` counter starts again where it is told to.

## Main results

* `Sticky.tick_iterate` — many ticks at once
* `Sticky.tick_digit` — a tick of a counter in digits
* `Divider.iterate_step`, `Divider.iterate_full`, `Divider.iterate_delayed` — many steps of a
  divider
* `Divider.count_multiples` — how often a running count passes a multiple
* `Cycle.iterate_step` — many steps round a cycle
* `Reload.iterate_step` — many steps of a counter that is reloaded
-/

universe u

/-- A counter that remembers that it wrapped. -/
@[ext] structure Sticky where
  value : ℕ
  carry : Bool
  deriving DecidableEq, Repr

namespace Sticky

/-- Count one, modulo `P`. -/
def tick (P : ℕ) (w : Sticky) : Sticky :=
  if w.value + 1 = P then ⟨0, true⟩ else ⟨w.value + 1, w.carry⟩

variable {P : ℕ} {w : Sticky}

theorem tick_eq (h : w.value < P) :
    w.tick P = ⟨(w.value + 1) % P, w.carry || decide (w.value + 1 = P)⟩ := by
  rw [tick]
  by_cases hwrap : w.value + 1 = P
  · simp [hwrap]
  · simp [hwrap, Nat.mod_eq_of_lt (show w.value + 1 < P by omega)]

/-- **Many ticks at once.** -/
theorem tick_iterate (h : w.value < P) (k : ℕ) :
    (tick P)^[k] w = ⟨(w.value + k) % P, w.carry || decide (P ≤ w.value + k)⟩ := by
  induction k with
  | zero =>
    have hle : ¬ P ≤ w.value := by omega
    ext <;> simp [hle, Nat.mod_eq_of_lt h]
  | succ k ih =>
    have hlt : (w.value + k) % P < P := Nat.mod_lt _ (Nat.zero_lt_of_lt h)
    rw [Function.iterate_succ_apply', ih, tick_eq hlt]
    ext
    · exact Nat.mod_add_mod (w.value + k) P 1
    · show (w.carry || decide (P ≤ w.value + k) || decide ((w.value + k) % P + 1 = P)) =
        (w.carry || decide (P ≤ w.value + (k + 1)))
      by_cases hle : P ≤ w.value + k
      · simp [hle, show P ≤ w.value + (k + 1) by omega]
      · have hmod : (w.value + k) % P = w.value + k := Nat.mod_eq_of_lt (by omega)
        have hiff : w.value + k + 1 = P ↔ P ≤ w.value + (k + 1) := by omega
        simp [hle, hmod, hiff]

/-- **A tick of a counter in digits**: the lowest digit counts to `L`, and then the rest ticks. -/
theorem tick_digit {L d v : ℕ} {c : Bool} (hd : d < L) (hv : v < P) :
    tick (P * L) ⟨v * L + d, c⟩ =
      if d + 1 = L then ⟨(tick P ⟨v, c⟩).value * L, (tick P ⟨v, c⟩).carry⟩
      else ⟨v * L + (d + 1), c⟩ := by
  by_cases hdigit : d + 1 = L
  · have hsum : v * L + d + 1 = (v + 1) * L := by rw [Nat.add_one_mul]; omega
    have hL : 0 < L := by omega
    rw [if_pos hdigit, tick, tick]
    show (if v * L + d + 1 = P * L then _ else _) = _
    rw [hsum]
    by_cases hwrap : v + 1 = P
    · rw [if_pos (by rw [hwrap]), if_pos hwrap, Nat.zero_mul]
    · rw [if_neg (fun h => hwrap (Nat.eq_of_mul_eq_mul_right hL h)), if_neg hwrap]
  · have hle : (v + 1) * L ≤ P * L := Nat.mul_le_mul_right L hv
    rw [Nat.add_one_mul] at hle
    rw [if_neg hdigit, tick, if_neg (show v * L + d + 1 ≠ P * L by omega), Nat.add_assoc]

end Sticky

namespace Divider

variable {α : Type u} {N : ℕ} {f : α → α}

/-- Count down from `N`; what is divided moves on when the count starts again. -/
def step (N : ℕ) (f : α → α) (x : ℕ × α) : ℕ × α :=
  if x.1 ≤ 1 then (N, f x.2) else (x.1 - 1, x.2)

/-- **Many steps of a divider.** From a count of `c`, `n` steps contain one restart for every `N` of
`n + N - c`. -/
theorem iterate_step {c : ℕ} (hc : 1 ≤ c) (hcN : c ≤ N) (a : α) (n : ℕ) :
    (step N f)^[n] (c, a) = (N - (n + N - c) % N, f^[(n + N - c) / N] a) := by
  have hN : 0 < N := by omega
  induction n with
  | zero =>
    have hlt : 0 + N - c < N := by omega
    rw [Nat.mod_eq_of_lt hlt, Nat.div_eq_of_lt hlt]
    show (c, a) = (N - (0 + N - c), a)
    congr 1
    omega
  | succ n ih =>
    have hE : n + 1 + N - c = n + N - c + 1 := by omega
    have hlt := Nat.mod_lt (n + N - c) hN
    have hdiv := Nat.div_add_mod (n + N - c) N
    rw [Function.iterate_succ_apply', ih, step, hE]
    generalize n + N - c = E at *
    by_cases hrestart : E % N + 1 = N
    · have hnext : E + 1 = N * (E / N + 1) := by rw [Nat.mul_add_one]; omega
      rw [if_pos (show N - E % N ≤ 1 by omega), hnext, Nat.mul_mod_right,
        Nat.mul_div_cancel_left _ hN, Function.iterate_succ_apply']
      rfl
    · have hmod : (E + 1) % N = E % N + 1 := by
        rw [← Nat.mod_add_mod]
        exact Nat.mod_eq_of_lt (by omega)
      have hdivs : (E + 1) / N = E / N := by
        refine Nat.div_eq_of_lt_le ?_ ?_
        · rw [Nat.mul_comm]
          omega
        · rw [Nat.add_one_mul, Nat.mul_comm]
          omega
      rw [if_neg (show ¬ N - E % N ≤ 1 by omega), hmod, hdivs]
      rfl

/-- From a full count, one restart for every `N` steps. -/
theorem iterate_full (hN : 1 ≤ N) (a : α) (n : ℕ) :
    (step N f)^[n] (N, a) = (N - n % N, f^[n / N] a) := by
  rw [iterate_step hN le_rfl, Nat.add_sub_cancel]

/-- From a first count that need not be the divider's own. -/
theorem iterate_delayed {c : ℕ} (hc : 1 ≤ c) (hN : 1 ≤ N) (a : α) (n : ℕ) :
    (step N f)^[n] (c, a) =
      if n < c then (c - n, a) else (N - (n - c) % N, f^[(n - c) / N + 1] a) := by
  have hwaits : ∀ n < c, (step N f)^[n] (c, a) = (c - n, a) := by
    intro n
    induction n with
    | zero => exact fun _ => rfl
    | succ n ih =>
      intro hn
      rw [Function.iterate_succ_apply', ih (by omega), step, if_neg (by dsimp only; omega)]
      rfl
  split
  · exact hwaits n ‹_›
  · obtain ⟨m, rfl⟩ : ∃ m, n = m + (c - 1 + 1) := ⟨n - c, by omega⟩
    rw [show m + (c - 1 + 1) - c = m by omega, Function.iterate_add_apply,
      Function.iterate_succ_apply', hwaits _ (by omega), step, if_pos (by dsimp only; omega),
      iterate_full hN, ← Function.iterate_succ_apply]

/-- The count is at its end before each multiple of `N`. -/
theorem full_le_one_iff (hN : 1 ≤ N) (n : ℕ) : N - n % N ≤ 1 ↔ N ∣ n + 1 := by
  have hlt := Nat.mod_lt n hN
  have hdiv := Nat.div_add_mod n N
  constructor
  · intro hlast
    refine ⟨n / N + 1, ?_⟩
    rw [Nat.mul_add_one]
    omega
  · rintro ⟨k, hk⟩
    by_contra hmore
    have hnext : (n + 1) % N = n % N + 1 := by
      rw [← Nat.mod_add_mod]
      exact Nat.mod_eq_of_lt (by omega)
    rw [hk, Nat.mul_mod_right] at hnext
    omega

/-- **Multiples passed.** Counting on from `M`, a multiple of `P` is reached as often as the
quotient grows. -/
theorem count_multiples {P : ℕ} (M n : ℕ) :
    Nat.count (fun k => P ∣ M + k + 1) n = (M + n) / P - M / P := by
  induction n with
  | zero => rw [Nat.count_zero, Nat.add_zero, Nat.sub_self]
  | succ n ih =>
    have hle : M / P ≤ (M + n) / P := Nat.div_le_div_right (Nat.le_add_right M n)
    rw [Nat.count_succ, ih, ← Nat.add_assoc, Nat.succ_div]
    omega

end Divider

namespace Cycle

variable {P : ℕ}

/-- The next place of `P`, and the place that was left. -/
def step (P : ℕ) (x : ℕ × Option ℕ) : ℕ × Option ℕ := ((x.1 + 1) % P, some x.1)

/-- **Many steps round a cycle.** -/
theorem iterate_step {p : ℕ} (hp : p < P) (left : Option ℕ) (k : ℕ) :
    (step P)^[k] (p, left) = ((p + k) % P, if k = 0 then left else some ((p + (k - 1)) % P)) := by
  induction k with
  | zero => rw [Nat.add_zero, Nat.mod_eq_of_lt hp]; rfl
  | succ k ih =>
    rw [Function.iterate_succ_apply', ih, step, Nat.mod_add_mod, if_neg (Nat.succ_ne_zero k)]
    rfl

end Cycle

namespace Reload

variable {N r v : ℕ}

/-- Count up to `N`, and go on from `r` instead of reaching it. -/
def step (N r v : ℕ) : ℕ := if v + 1 = N then r else v + 1

/-- **Many steps of a counter that is reloaded.** After the first time it goes round the values from
`r` on. -/
theorem iterate_step (hr : r < N) (hv : v < N) (k : ℕ) :
    (step N r)^[k] v = if v + k < N then v + k else r + (k - (N - v)) % (N - r) := by
  induction k with
  | zero => rw [if_pos (show v + 0 < N from hv)]; rfl
  | succ k ih =>
    rw [Function.iterate_succ_apply', ih, step]
    by_cases hbelow : v + k < N
    · rw [if_pos hbelow]
      by_cases hfirst : v + k + 1 = N
      · rw [if_pos hfirst, if_neg (by omega), show k + 1 - (N - v) = 0 by omega, Nat.zero_mod,
          Nat.add_zero]
      · rw [if_neg hfirst, if_pos (by omega), Nat.add_assoc]
    · have hmod := Nat.mod_lt (k - (N - v)) (show N - r > 0 by omega)
      rw [if_neg hbelow, if_neg (show ¬ v + (k + 1) < N by omega),
        show k + 1 - (N - v) = k - (N - v) + 1 by omega, ← Nat.mod_add_mod]
      by_cases hagain : (k - (N - v)) % (N - r) + 1 = N - r
      · rw [if_pos (by omega), hagain, Nat.mod_self, Nat.add_zero]
      · rw [if_neg (by omega), Nat.mod_eq_of_lt (show _ + 1 < N - r by omega)]
        omega

end Reload
