import Mathlib.Data.List.MinMax
import Mathlib.Data.List.Sort

/-!
# The painter's algorithm

Layers are drawn one over the other, from the back to the front. At one point each layer has a
colour or is transparent, and what is left is the colour of the frontmost layer that is not. When
the layers have been brought in order by a stable sort of the reversed list, that is the first layer
with the least key.

## Main results

* `Painter.paint_eq`, `Painter.paint_eq_find?` — what painting leaves at a point
* `Painter.find?_reverse_insertionSort` — which layer is in front after sorting
-/

universe u v w

namespace Painter

variable {α : Type u} {β : Type v}

/-- What the layers leave at a point where each has a colour or is transparent, over a canvas. -/
def paint (color : α → Option β) (layers : List α) (canvas : β) : β :=
  layers.foldl (fun c a => (color a).getD c) canvas

@[simp] theorem paint_nil (color : α → Option β) (canvas : β) : paint color [] canvas = canvas :=
  rfl

theorem paint_append_singleton (color : α → Option β) (layers : List α) (a : α) (canvas : β) :
    paint color (layers ++ [a]) canvas = (color a).getD (paint color layers canvas) := by
  rw [paint, List.foldl_append]
  rfl

/-- **Painting.** The frontmost layer that is not transparent shows. -/
theorem paint_eq (color : α → Option β) (layers : List α) (canvas : β) :
    paint color layers canvas = (layers.reverse.findSome? color).getD canvas := by
  induction layers using List.reverseRecOn with
  | nil => rfl
  | append_singleton layers a ih =>
    rw [paint_append_singleton, ih, List.reverse_append, List.reverse_singleton,
      List.singleton_append, List.findSome?_cons]
    cases color a <;> rfl

/-- Layers that are opaque exactly where `P` holds. -/
theorem findSome?_eq_map_find? {P : α → Bool} {color : α → Option β} {shade : α → β} {l : List α}
    (h : ∀ a ∈ l, color a = if P a then some (shade a) else none) :
    l.findSome? color = (l.find? P).map shade := by
  induction l with
  | nil => rfl
  | cons a l ih =>
    rw [List.findSome?_cons, List.find?_cons, h a (List.mem_cons_self ..),
      ih fun b hb => h b (List.mem_cons_of_mem a hb)]
    cases P a <;> rfl

/-- Painting layers that are opaque exactly where `P` holds. -/
theorem paint_eq_find? {P : α → Bool} {color : α → Option β} {shade : α → β} {layers : List α}
    (h : ∀ a ∈ layers, color a = if P a then some (shade a) else none) (canvas : β) :
    paint color layers canvas = ((layers.reverse.find? P).map shade).getD canvas := by
  rw [paint_eq, findSome?_eq_map_find? fun a ha => h a (List.mem_reverse.mp ha)]

/-- The frontmost layer of some is still in front of fewer. -/
theorem find?_and_of_find? {P Q : α → Bool} {a : α} {l : List α} (hfind : l.find? P = some a)
    (hQ : Q a = true) : (l.find? fun b => Q b && P b) = some a := by
  obtain ⟨hP, before, after, rfl, hbefore⟩ := List.find?_eq_some_iff_append.mp hfind
  refine List.find?_eq_some_iff_append.mpr ⟨by rw [hP, hQ]; rfl, before, after, rfl, fun b hb => ?_⟩
  have hnot := hbefore b hb
  rw [Bool.not_eq_true'] at hnot ⊢
  rw [hnot, Bool.and_false]

/-! ### Order -/

section

variable {γ : Type w} [LinearOrder γ] (key : α → γ) {r : α → α → Prop} [DecidableRel r]

/-- The frontmost layer that satisfies `P`, when one more layer is put behind those whose key is not
greater than its own. -/
theorem find?_reverse_orderedInsert (hr : ∀ a b, r a b ↔ key b ≤ key a) (P : α → Bool) (a : α)
    {l : List α} (hl : l.Pairwise r) :
    (l.orderedInsert r a).reverse.find? P =
      match l.reverse.find? P with
      | none => if P a then some a else none
      | some b => if P a ∧ key a < key b then some a else some b := by
  induction l with
  | nil => cases hP : P a <;> simp [hP]
  | cons b l ih =>
    obtain ⟨hb, hl⟩ := List.pairwise_cons.mp hl
    by_cases hab : r a b
    · rw [List.orderedInsert_cons_of_le r l hab, List.reverse_cons (a := a), List.find?_append]
      cases hfind : (b :: l).reverse.find? P with
      | none => cases hP : P a <;> simp [hP]
      | some c =>
        have hc : c ∈ b :: l := List.mem_reverse.mp (List.mem_of_find?_eq_some hfind)
        have hle : key c ≤ key a := by
          obtain rfl | hc := List.mem_cons.mp hc
          · exact (hr a c).mp hab
          · exact ((hr b c).mp (hb c hc)).trans ((hr a b).mp hab)
        dsimp only
        rw [if_neg fun h => absurd h.2 (not_lt.mpr hle), Option.some_or]
    · have hlt : key a < key b := not_le.mp fun h => hab ((hr a b).mpr h)
      rw [List.orderedInsert_of_not_le r l hab, List.reverse_cons, List.find?_append, ih hl,
        List.reverse_cons, List.find?_append]
      cases l.reverse.find? P with
      | none => cases P a <;> cases hPb : P b <;> simp [hPb, hlt]
      | some c =>
        simp only [Option.some_or]
        split <;> rfl

/-- **Order.** After a stable sort of the reversed list, greatest key first, the frontmost layer
that satisfies `P` is the first of them in the list that has the least key. -/
theorem find?_reverse_insertionSort (hr : ∀ a b, r a b ↔ key b ≤ key a) (P : α → Bool)
    (l : List α) :
    (l.reverse.insertionSort r).reverse.find? P = (l.filter P).argmin key := by
  have : Std.Total r := ⟨fun a b => by rw [hr, hr]; exact le_total _ _⟩
  have : IsTrans α r := ⟨fun a b c hab hbc => by rw [hr] at *; exact hbc.trans hab⟩
  induction l using List.reverseRecOn with
  | nil => rfl
  | append_singleton l a ih =>
    rw [List.reverse_append, List.reverse_singleton, List.singleton_append, List.insertionSort_cons,
      find?_reverse_orderedInsert key hr P a (List.pairwise_insertionSort r _), ih,
      List.filter_append]
    cases hP : P a with
    | false =>
      rw [List.filter_singleton, hP, cond_false, List.append_nil]
      cases (l.filter P).argmin key <;> simp
    | true =>
      rw [List.filter_singleton, hP, cond_true, List.argmin_concat]
      simp only [if_true, true_and]
      cases (l.filter P).argmin key <;> rfl

end

end Painter
