import Mathlib.Data.List.Basic
import Mathlib.Data.Nat.Notation
import Mathlib.Tactic.Common

/-!
# Sampling a stream, and cutting it into batches

A stream that is looked at every `N` elements gives a slower stream. A buffer that is handed over
whenever it holds `N` elements cuts a stream into batches. Both are described by what has gone by so
far, so that one more element is one lemma.

## Main results

* `Sampling.everyNth_concat` — one more element
* `Sampling.Batched.push`, `Sampling.Batched.flush` — more elements, which fill the buffer or not
-/

universe u

namespace Sampling

variable {α : Type u} {N : ℕ}

/-- The elements at the positions `N - 1`, `2 * N - 1`, and so on. -/
def everyNth (N : ℕ) (l : List α) : List α :=
  (List.range (l.length / N)).filterMap fun k => l[N * (k + 1) - 1]?

theorem everyNth_position_lt {l : List α} {k : ℕ} (hN : 0 < N) (hk : k < l.length / N) :
    N * (k + 1) - 1 < l.length := by
  have hle : N * (k + 1) ≤ N * (l.length / N) := Nat.mul_le_mul_left N hk
  have hdiv := Nat.mul_div_le l.length N
  have hpos : 0 < N * (k + 1) := Nat.mul_pos hN k.succ_pos
  omega

/-- **One more element** is taken when its number is a multiple of `N`. -/
theorem everyNth_concat (hN : 0 < N) (l : List α) (a : α) :
    everyNth N (l ++ [a]) = everyNth N l ++ if N ∣ l.length + 1 then [a] else [] := by
  have hold : ∀ k ∈ List.range (l.length / N),
      (l ++ [a])[N * (k + 1) - 1]? = l[N * (k + 1) - 1]? := fun k hk =>
    List.getElem?_append_left (everyNth_position_lt hN (List.mem_range.mp hk))
  have hkept := List.filterMap_congr hold
  rw [everyNth, List.length_append, List.length_singleton, Nat.succ_div]
  by_cases hdvd : N ∣ l.length + 1
  · rw [if_pos hdvd, if_pos hdvd, List.range_succ, List.filterMap_append, hkept, everyNth]
    have hlast : N * (l.length / N + 1) - 1 = l.length := by
      obtain ⟨k, hk⟩ := hdvd
      have hdiv : l.length / N + 1 = k := by
        rw [← Nat.mul_div_cancel_left k hN, ← hk, Nat.succ_div, if_pos ⟨k, hk⟩]
      rw [hdiv, ← hk, Nat.add_sub_cancel]
    rw [List.filterMap_cons, hlast, List.getElem?_concat_length]
    rfl
  · rw [if_neg hdvd, if_neg hdvd, Nat.add_zero, hkept, everyNth, List.append_nil]

theorem length_everyNth (hN : 0 < N) (l : List α) : (everyNth N l).length = l.length / N := by
  have hall : ∀ n ≤ l.length / N,
      ((List.range n).filterMap fun k => l[N * (k + 1) - 1]?).length = n := by
    intro n
    induction n with
    | zero => intro _; rfl
    | succ n ih =>
      intro hn
      have hlt := everyNth_position_lt hN (Nat.lt_of_succ_le hn)
      rw [List.range_succ, List.filterMap_append, List.length_append, ih (Nat.le_of_lt hn),
        List.filterMap_cons, List.getElem?_eq_getElem hlt]
      rfl
  exact hall _ (Nat.le_refl _)

/-! ### Batches -/

/-- What went by was handed over in batches of `N`, but for what is in the buffer. -/
structure Batched (N : ℕ) (all : List α) (batches : List (List α)) (buffer : List α) : Prop where
  all : batches.flatten ++ buffer = all
  batch : ∀ b ∈ batches, b.length = N
  buffer : buffer.length < N

variable {all more buffer : List α} {batches : List (List α)}

theorem batched_nil (hN : 0 < N) : Batched N ([] : List α) [] [] := ⟨rfl, by simp, hN⟩

/-- More elements that do not fill the buffer. -/
theorem Batched.push (h : Batched N all batches buffer) (hroom : (buffer ++ more).length < N) :
    Batched N (all ++ more) batches (buffer ++ more) where
  all := by rw [← h.all, List.append_assoc]
  batch := h.batch
  buffer := hroom

/-- More elements that fill the buffer, which is handed over. -/
theorem Batched.flush (h : Batched N all batches buffer) (hfull : (buffer ++ more).length = N) :
    Batched N (all ++ more) (batches ++ [buffer ++ more]) [] where
  all := by rw [← h.all, List.flatten_append, List.flatten_singleton, List.append_nil,
    List.append_assoc]
  batch := by
    intro b hb
    rcases List.mem_append.mp hb with hold | hnew
    · exact h.batch b hold
    · rw [List.mem_singleton.mp hnew]
      exact hfull
  buffer := Nat.zero_lt_of_lt h.buffer

end Sampling
