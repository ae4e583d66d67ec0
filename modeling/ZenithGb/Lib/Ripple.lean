import Mathlib.Data.Nat.Digits.Lemmas
import Mathlib.Tactic.LinearCombination

/-!
# Arithmetic that ripples through digits

A number is written in base `b` with its least significant digit first, and two numbers are added
or subtracted digit by digit, with a carry from each digit to the next. A `Place` holds the digits
of one position; `Ripples D` chains places that `D` relates to the carries into and out of them.

## Main results

* `Ripples.sum`, `Ripples.difference` — what the digits of the result amount to
* `Ripples.sum_mod`, `Ripples.difference_mod` — the result modulo the base, and the last carry
-/

namespace Ripple

/-- The digits of two operands and of the result at one position. -/
structure Place (α : Type*) where
  x : α
  y : α
  z : α
  deriving DecidableEq

variable {α : Type*} {digit : α → ℕ} {b : ℕ}

/-- The places follow each other, each with the carry the one before it left. -/
def Ripples (D : Bool → Place α → Bool → Prop) : Bool → List (Place α) → Bool → Prop
  | c, [], c' => c' = c
  | c, p :: places, c'' => ∃ c', D c p c' ∧ Ripples D c' places c''

/-- The number whose digits are read off the places. -/
def number (b : ℕ) (digit : α → ℕ) (part : Place α → α) (places : List (Place α)) : ℕ :=
  Nat.ofDigits b (places.map fun p => digit (part p))

theorem number_cons (part : Place α → α) (p : Place α) (places : List (Place α)) :
    number b digit part (p :: places) = digit (part p) + b * number b digit part places := by
  rw [number, List.map_cons, Nat.ofDigits_cons]
  rfl

theorem number_lt (hb : 1 < b) {part : Place α → α} {places : List (Place α)}
    (h : ∀ p ∈ places, digit (part p) < b) : number b digit part places < b ^ places.length := by
  have hlt := Nat.ofDigits_lt_base_pow_length (l := places.map fun p => digit (part p)) hb
    (by simpa using h)
  rwa [List.length_map] at hlt

/-- A place of a sum. -/
def Adds (b : ℕ) (digit : α → ℕ) (c : Bool) (p : Place α) (c' : Bool) : Prop :=
  digit p.z + b * c'.toNat = digit p.x + digit p.y + c.toNat

/-- A place of a difference. The carry is a borrow. -/
def Subtracts (b : ℕ) (digit : α → ℕ) (c : Bool) (p : Place α) (c' : Bool) : Prop :=
  digit p.z + digit p.y + c.toNat = digit p.x + b * c'.toNat

theorem Ripples.sum {places : List (Place α)} {c c' : Bool}
    (h : Ripples (Adds b digit) c places c') :
    number b digit Place.z places + b ^ places.length * c'.toNat =
      number b digit Place.x places + number b digit Place.y places + c.toNat := by
  induction places generalizing c with
  | nil =>
    rw [show c' = c from h]
    simp [number]
  | cons p places ih =>
    obtain ⟨d, hcol, hrest⟩ := h
    have hlow : digit p.z + b * d.toNat = digit p.x + digit p.y + c.toNat := hcol
    rw [number_cons, number_cons, number_cons, List.length_cons, pow_succ]
    linear_combination hlow + b * ih hrest

theorem Ripples.difference {places : List (Place α)} {c c' : Bool}
    (h : Ripples (Subtracts b digit) c places c') :
    number b digit Place.z places + number b digit Place.y places + c.toNat =
      number b digit Place.x places + b ^ places.length * c'.toNat := by
  induction places generalizing c with
  | nil =>
    rw [show c' = c from h]
    simp [number]
  | cons p places ih =>
    obtain ⟨d, hcol, hrest⟩ := h
    have hlow : digit p.z + digit p.y + c.toNat = digit p.x + b * d.toNat := hcol
    rw [number_cons, number_cons, number_cons, List.length_cons, pow_succ]
    linear_combination hlow + b * ih hrest

/-- **Sums.** When the digits of the result are digits, it is the sum modulo the base, and the last
carry tells whether that is less than the sum. -/
theorem Ripples.sum_mod (hb : 1 < b) {places : List (Place α)} {c : Bool}
    (h : Ripples (Adds b digit) false places c) (hz : ∀ p ∈ places, digit p.z < b) :
    number b digit Place.z places =
        (number b digit Place.x places + number b digit Place.y places) % b ^ places.length ∧
      (c = true ↔
        b ^ places.length ≤ number b digit Place.x places + number b digit Place.y places) := by
  have hlt := number_lt hb hz
  have hsum := h.sum
  rw [Bool.toNat_false, Nat.add_zero] at hsum
  rw [← hsum, Nat.add_mul_mod_self_left, Nat.mod_eq_of_lt hlt]
  refine ⟨rfl, ?_⟩
  cases c with
  | false => simpa using hlt
  | true => simp

/-- **Differences.** The last borrow tells whether the difference is negative. -/
theorem Ripples.difference_mod (hb : 1 < b) {places : List (Place α)} {c : Bool}
    (h : Ripples (Subtracts b digit) false places c) (hx : ∀ p ∈ places, digit p.x < b)
    (hz : ∀ p ∈ places, digit p.z < b) :
    (number b digit Place.z places : ℤ) =
        ((number b digit Place.x places : ℤ) - number b digit Place.y places) %
          (b ^ places.length : ℕ) ∧
      (c = true ↔ number b digit Place.x places < number b digit Place.y places) := by
  have hltx := number_lt hb hx
  have hlt := number_lt hb hz
  have hdiff := h.difference
  rw [Bool.toNat_false, Nat.add_zero] at hdiff
  constructor
  · have heq : (number b digit Place.x places : ℤ) - number b digit Place.y places =
        number b digit Place.z places - (b ^ places.length : ℕ) * c.toNat := by
      have hcast := congrArg (Nat.cast (R := ℤ)) hdiff
      push_cast at hcast ⊢
      linear_combination -hcast
    rw [heq, Int.sub_mul_emod_self_left, Int.emod_eq_of_lt (Int.natCast_nonneg _)]
    exact_mod_cast hlt
  · cases c with
    | false =>
      rw [Bool.toNat_false, Nat.mul_zero, Nat.add_zero] at hdiff
      refine iff_of_false nofun ?_
      omega
    | true =>
      rw [Bool.toNat_true, Nat.mul_one] at hdiff
      refine iff_of_true rfl ?_
      omega

end Ripple
