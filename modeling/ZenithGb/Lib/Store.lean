import Mathlib.Logic.Function.Basic
import ZenithGb.Lib.Outcome

/-!
# Memories with checked indexing

`Mem n α` is a memory whose size is part of its type; `Buf α` is one whose size is chosen when it
is built. Both are indexed by an arbitrary natural number and fail, with an error the caller
names, when it is out of range. A memory is a function, so writing one cell is
`Function.update`, and the size of a `Buf` cannot change by writing to it.

## Main results

* `Mem.get_of_lt`, `Mem.set_of_lt` — an access in range does not fail
* `Mem.put_cell_self`, `Mem.put_cell_of_ne` — read after write
* `Buf.get_of_lt`, `Buf.set_of_lt` — the same for `Buf`
* `Buf.Holds.get`, `Buf.Holds.set` — and for what a `Buf` holds, without its size
-/

universe u v

variable {ε : Type u} {α : Type v} {n : ℕ}

/-- A memory of exactly `n` cells. -/
@[ext] structure Mem (n : ℕ) (α : Type v) where
  /-- The contents of each cell. -/
  cell : Fin n → α

namespace Mem

/-- The memory holding `a` everywhere. -/
def fill (n : ℕ) (a : α) : Mem n α := ⟨fun _ => a⟩

/-- Read cell `i`, failing with `e` when there is none. -/
def get (e : ε) (m : Mem n α) (i : ℕ) : Except ε α :=
  if h : i < n then .ok (m.cell ⟨i, h⟩) else .error e

/-- Overwrite a cell that exists. -/
def put (m : Mem n α) (i : Fin n) (a : α) : Mem n α := ⟨Function.update m.cell i a⟩

/-- Write cell `i`, failing with `e` when there is none. -/
def set (e : ε) (m : Mem n α) (i : ℕ) (a : α) : Except ε (Mem n α) :=
  if h : i < n then .ok (m.put ⟨i, h⟩ a) else .error e

@[simp] theorem fill_cell (n : ℕ) (a : α) (i : Fin n) : (fill n a).cell i = a := rfl

theorem get_of_lt (e : ε) (m : Mem n α) {i : ℕ} (h : i < n) : m.get e i = .ok (m.cell ⟨i, h⟩) :=
  dif_pos h

theorem set_of_lt (e : ε) (m : Mem n α) {i : ℕ} (h : i < n) (a : α) :
    m.set e i a = .ok (m.put ⟨i, h⟩ a) :=
  dif_pos h

@[simp] theorem put_cell_self (m : Mem n α) (i : Fin n) (a : α) : (m.put i a).cell i = a :=
  Function.update_self ..

theorem put_cell_of_ne (m : Mem n α) {i j : Fin n} (h : j ≠ i) (a : α) :
    (m.put i a).cell j = m.cell j :=
  Function.update_of_ne h ..

theorem put_cell (m : Mem n α) (i j : Fin n) (a : α) :
    (m.put i a).cell j = if j = i then a else m.cell j := by
  by_cases h : j = i
  · subst h; simp
  · rw [put_cell_of_ne m h, if_neg h]

/-- An access returned exactly when it was in range. -/
theorem get_eq_ok {e : ε} {m : Mem n α} {i : ℕ} {a : α} :
    m.get e i = .ok a ↔ ∃ h : i < n, m.cell ⟨i, h⟩ = a := by
  by_cases h : i < n
  · rw [get_of_lt e m h, Outcome.ok_inj]
    exact ⟨fun ha => ⟨h, ha⟩, fun ⟨_, ha⟩ => ha⟩
  · rw [get, dif_neg h]
    exact iff_of_false (by simp) fun ⟨h', _⟩ => h h'

theorem set_eq_ok {e : ε} {m m' : Mem n α} {i : ℕ} {a : α} :
    m.set e i a = .ok m' ↔ ∃ h : i < n, m.put ⟨i, h⟩ a = m' := by
  by_cases h : i < n
  · rw [set_of_lt e m h, Outcome.ok_inj]
    exact ⟨fun ha => ⟨h, ha⟩, fun ⟨_, ha⟩ => ha⟩
  · rw [set, dif_neg h]
    exact iff_of_false (by simp) fun ⟨h', _⟩ => h h'

/-- An access in range meets every specification its value does, whatever errors are allowed. -/
theorem meets_get {e : ε} {m : Mem n α} {i : ℕ} (h : i < n) (E : ε → Prop) :
    Outcome.Meets (m.get e i) (fun a => a = m.cell ⟨i, h⟩) E := by
  rw [get_of_lt e m h]
  rfl

/-- A read fails with the error it was given, if at all. -/
theorem meets_get_error {e : ε} (m : Mem n α) (i : ℕ) {E : ε → Prop} (he : E e) :
    Outcome.Meets (m.get e i) (fun _ => True) E := by
  rw [get]
  split
  · trivial
  · exact he

theorem meets_set {e : ε} {m : Mem n α} {i : ℕ} (h : i < n) (a : α) (E : ε → Prop) :
    Outcome.Meets (m.set e i a) (fun m' => m' = m.put ⟨i, h⟩ a) E := by
  rw [set_of_lt e m h]
  rfl

end Mem

/-- A memory whose size is a value. -/
structure Buf (α : Type v) where
  /-- The number of cells. -/
  size : ℕ
  /-- The contents of each cell. -/
  cell : Fin size → α

namespace Buf

/-- The buffer without cells. -/
def empty : Buf α := ⟨0, fun i => i.elim0⟩

/-- The buffer of `n` cells holding `a` everywhere. -/
def fill (n : ℕ) (a : α) : Buf α := ⟨n, fun _ => a⟩

/-- Read cell `i`, failing with `e` when there is none. -/
def get (e : ε) (b : Buf α) (i : ℕ) : Except ε α :=
  if h : i < b.size then .ok (b.cell ⟨i, h⟩) else .error e

/-- Write cell `i`, failing with `e` when there is none. -/
def set (e : ε) (b : Buf α) (i : ℕ) (a : α) : Except ε (Buf α) :=
  if h : i < b.size then .ok ⟨b.size, Function.update b.cell ⟨i, h⟩ a⟩ else .error e

/-- The first `n` cells, failing with `e` when there are not that many. -/
def slice (e : ε) (b : Buf α) (n : ℕ) : Except ε (Buf α) :=
  if h : n ≤ b.size then .ok ⟨n, fun i => b.cell (i.castLE h)⟩ else .error e

@[simp] theorem empty_size : (empty : Buf α).size = 0 := rfl

@[simp] theorem fill_size (n : ℕ) (a : α) : (fill n a).size = n := rfl

theorem get_of_lt (e : ε) (b : Buf α) {i : ℕ} (h : i < b.size) :
    b.get e i = .ok (b.cell ⟨i, h⟩) :=
  dif_pos h

theorem get_of_le (e : ε) (b : Buf α) {i : ℕ} (h : b.size ≤ i) : b.get e i = .error e :=
  dif_neg (Nat.not_lt.mpr h)

theorem set_of_lt (e : ε) (b : Buf α) {i : ℕ} (h : i < b.size) (a : α) :
    b.set e i a = .ok ⟨b.size, Function.update b.cell ⟨i, h⟩ a⟩ :=
  dif_pos h

theorem meets_get {e : ε} {b : Buf α} {i : ℕ} (h : i < b.size) (E : ε → Prop) :
    Outcome.Meets (b.get e i) (fun a => a = b.cell ⟨i, h⟩) E := by
  rw [get_of_lt e b h]
  rfl

theorem meets_set {e : ε} {b : Buf α} {i : ℕ} (h : i < b.size) (a : α) (E : ε → Prop) :
    Outcome.Meets (b.set e i a) (fun b' => b'.size = b.size) E := by
  rw [set_of_lt e b h]
  rfl

/-- A read fails with the error it was given, if at all. -/
theorem meets_get_error {e : ε} (b : Buf α) (i : ℕ) {E : ε → Prop} (he : E e) :
    Outcome.Meets (b.get e i) (fun _ => True) E := by
  rw [get]
  split
  · trivial
  · exact he

theorem size_of_slice {e : ε} {b b' : Buf α} {n : ℕ} (h : b.slice e n = .ok b') :
    b'.size = n := by
  rw [slice] at h
  split at h
  · cases h; rfl
  · cases h

/-! ### Contents

What a buffer holds, without its size: a function of which it shows the first cells. -/

/-- Every cell of the buffer holds what `f` says. -/
def Holds (b : Buf α) (f : ℕ → α) : Prop := ∀ i (h : i < b.size), b.cell ⟨i, h⟩ = f i

theorem holds_fill (n : ℕ) (a : α) : (fill n a).Holds fun _ => a := fun _ _ => rfl

theorem Holds.get {b : Buf α} {f : ℕ → α} (hb : b.Holds f) (e : ε) {i : ℕ} (h : i < b.size) :
    b.get e i = .ok (f i) := by
  rw [get_of_lt e b h, hb]

theorem Holds.set {b : Buf α} {f : ℕ → α} (hb : b.Holds f) (e : ε) {i : ℕ} (h : i < b.size)
    (a : α) :
    ∃ b', b.set e i a = .ok b' ∧ b'.size = b.size ∧ b'.Holds (Function.update f i a) := by
  refine ⟨_, set_of_lt e b h a, rfl, fun j hj => ?_⟩
  simp only [Function.update_apply, Fin.mk.injEq]
  exact ite_congr rfl (fun _ => rfl) fun _ => hb j hj

theorem Holds.slice {b b' : Buf α} {f : ℕ → α} (hb : b.Holds f) {e : ε} {n : ℕ}
    (h : b.slice e n = .ok b') : b'.Holds f := by
  rw [Buf.slice] at h
  split at h
  · rename_i hn
    cases h
    exact fun i hi => hb i (Nat.lt_of_lt_of_le hi hn)
  · cases h

end Buf
