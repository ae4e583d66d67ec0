import Mathlib.Data.Nat.Bitwise
import ZenithGb.Lib.Run
import ZenithGb.Panic
import ZenithGb.Timer

/-!
# Overflows of the timer

TIMA wraps when it is incremented from 0xFF. The wrap is remembered in `tima_overflow` and served
by the next operation that takes an M-cycle: it loads TIMA from TMA and requests the interrupt.
What makes TIMA count is that the selected bit of DIV falls, and an operation that only selects
another bit, or clears DIV, can make it fall too.

## Main results

* `Timer.overflow_perform`, `Timer.requests_perform` — when an operation leaves an overflow to
  serve, and when it serves one
* `Timer.Aligned.held`, `Timer.Held.tima_tick` — an overflow is served without a count, as long as
  DIV is not reset between the two with `and_result` set
* `Timer.overflow_protocol` — so every wrap is served once, in every run
-/

namespace ZenithGb

open Outcome

namespace Timer

/-- The entry points of the timer. -/
inductive Op
  | clock
  | clockWriteDiv (data : UInt8)
  | clockWriteTac (data : UInt8)
  | clockWriteTima (data : UInt8)
  | clockWriteTma (data : UInt8)
  | resetDiv
  deriving DecidableEq

/-- One operation. -/
def perform (op : Op) (t : Timer) (ctx : ClockContext) : Timer × ClockContext :=
  match op with
  | .clock => t.clock ctx
  | .clockWriteDiv data => t.clockWriteDiv data ctx
  | .clockWriteTac data => t.clockWriteTac data ctx
  | .clockWriteTima data => t.clockWriteTima data ctx
  | .clockWriteTma data => t.clockWriteTma data ctx
  | .resetDiv => (t.resetDiv, ctx)

/-- The operations as a machine; none of them fails. -/
def step (op : Op) (t : Timer) : Checked Timer := .ok (perform op t ⟨0, 0⟩).1

/-! ### Counting -/

/-- The selected bit of DIV, if the timer is enabled. -/
def selected (t : Timer) : Bool := t.checkIncrement.andResult

/-- The check makes TIMA wrap. -/
def wraps (t : Timer) : Bool := t.andResult && !t.selected && t.tima == 0xFF

theorem checkIncrement_eq (t : Timer) :
    t.checkIncrement =
      if t.andResult && !t.selected then
        { t with
          tima := t.tima + 1, timaOverflow := t.timaOverflow || t.tima + 1 == 0
          andResult := t.selected }
      else { t with andResult := t.selected } := by
  rw [selected, checkIncrement]
  dsimp only
  split <;> split <;> rfl

/-- An M-cycle up to the check: a pending overflow is served and DIV moves on. -/
def tick (t : Timer) : Timer :=
  { t with
    tima := if t.timaOverflow then t.tma else t.tima
    timaOverflow := false
    div := t.div + 4 }

theorem clock_eq (t : Timer) (ctx : ClockContext) :
    t.clock ctx =
      (t.tick.checkIncrement,
        if t.timaOverflow then ctx.setInterrupt interruptBitTimer else ctx) := by
  obtain ⟨andResult, timaOverflow⟩ := t
  cases timaOverflow <;> rfl

variable {t : Timer} {ctx : ClockContext}

theorem add_one_eq_zero (x : UInt8) : (x + 1 == 0) = (x == 0xFF) := by
  have hx := x.toNat_lt
  rw [Bool.eq_iff_iff, beq_iff_eq, beq_iff_eq, ← UInt8.toNat_inj, ← UInt8.toNat_inj,
    UInt8.toNat_add]
  show (x.toNat + 1) % 256 = 0 ↔ x.toNat = 255
  omega

theorem timaOverflow_checkIncrement (t : Timer) :
    t.checkIncrement.timaOverflow = (t.timaOverflow || t.wraps) := by
  rw [checkIncrement_eq, wraps]
  split
  · rename_i h
    rw [h, Bool.true_and]
    exact congrArg (t.timaOverflow || ·) (add_one_eq_zero t.tima)
  · rename_i h
    rw [Bool.not_eq_true] at h
    rw [h, Bool.false_and, Bool.or_false]

theorem timaOverflow_tick (t : Timer) : t.tick.checkIncrement.timaOverflow = t.tick.wraps :=
  timaOverflow_checkIncrement t.tick

/-- The operation makes TIMA wrap, in the M-cycle or in a check of its own. -/
def Op.wraps (op : Op) (t : Timer) : Bool :=
  match op with
  | .clock | .clockWriteTima _ | .clockWriteTma _ => t.tick.wraps
  | .clockWriteDiv _ => t.tick.wraps || t.tick.checkIncrement.wraps
  | .clockWriteTac data =>
    t.tick.wraps || { t.tick.checkIncrement with tac := data &&& 0x7 }.wraps
  | .resetDiv => false

/-- A write to TIMA that is not itself the reload cancels the overflow it may cause. -/
def Op.cancels (op : Op) (t : Timer) : Bool :=
  match op with
  | .clockWriteTima _ => !t.timaOverflow
  | _ => false

/-- **The overflow flag.** An operation that takes an M-cycle sets it exactly when TIMA wraps and
the wrap is not cancelled; a reset of DIV leaves it alone. -/
theorem overflow_perform (op : Op) (t : Timer) (ctx : ClockContext) :
    (t.perform op ctx).1.timaOverflow =
      if op = .resetDiv then t.timaOverflow else op.wraps t && !op.cancels t := by
  have hclock : (t.clock ctx).1.timaOverflow = t.tick.wraps := by rw [clock_eq, timaOverflow_tick]
  cases op with
  | clock =>
    rw [if_neg nofun]
    exact hclock.trans (Bool.and_true _).symm
  | clockWriteDiv data =>
    have hcheck := timaOverflow_checkIncrement t.tick.checkIncrement
    rw [timaOverflow_tick] at hcheck
    rw [if_neg nofun]
    show _ = (Op.wraps _ t && true)
    rw [Bool.and_true, Op.wraps, ← hcheck, perform, clockWriteDiv, clock_eq]
  | clockWriteTac data =>
    have hcheck := timaOverflow_checkIncrement { t.tick.checkIncrement with tac := data &&& 0x7 }
    rw [timaOverflow_tick] at hcheck
    rw [if_neg nofun]
    show _ = (Op.wraps _ t && true)
    rw [Bool.and_true, Op.wraps, ← hcheck, perform, clockWriteTac, clock_eq]
  | clockWriteTima data =>
    rw [if_neg nofun, Op.wraps, Op.cancels, perform, clockWriteTima, Bool.not_not]
    cases t.timaOverflow
    · exact (Bool.and_false _).symm
    · exact hclock.trans (Bool.and_true _).symm
  | clockWriteTma data =>
    rw [if_neg nofun]
    show _ = (Op.wraps _ t && true)
    rw [Bool.and_true, Op.wraps, ← hclock, perform, clockWriteTma]
    cases t.timaOverflow <;> rfl
  | resetDiv => rfl

/-- **Requests.** An operation that takes an M-cycle requests the interrupt exactly when there is an
overflow to serve. -/
theorem requests_perform (op : Op) (t : Timer) (ctx : ClockContext) :
    (t.perform op ctx).2 =
      if op ≠ .resetDiv ∧ t.timaOverflow = true then ctx.setInterrupt interruptBitTimer
      else ctx := by
  have hclock : ∀ op : Op, op ≠ .resetDiv → (t.clock ctx).2 =
      if op ≠ .resetDiv ∧ t.timaOverflow = true then ctx.setInterrupt interruptBitTimer
      else ctx := by
    intro op hop
    rw [clock_eq]
    simp only [hop, ne_eq, not_false_eq_true, true_and]
  cases op with
  | clock => exact hclock _ nofun
  | clockWriteDiv data => exact hclock (.clockWriteDiv data) nofun
  | clockWriteTac data => exact hclock (.clockWriteTac data) nofun
  | clockWriteTima data =>
    rw [← hclock (.clockWriteTima data) nofun]
    show (clockWriteTima t data ctx).2 = _
    rw [clockWriteTima]
    cases t.timaOverflow <;> rfl
  | clockWriteTma data =>
    rw [← hclock (.clockWriteTma data) nofun]
    show (clockWriteTma t data ctx).2 = _
    rw [clockWriteTma]
    cases t.timaOverflow <;> rfl
  | resetDiv => rfl

/-! ### The selected bit -/

theorem and_ne_zero_eq_testBit (d m : UInt16) {k : ℕ} (hm : m.toNat = 2 ^ k) :
    (d &&& m != 0) = d.toNat.testBit k := by
  rw [Bool.eq_iff_iff, bne_iff_ne, ne_eq, ← UInt16.toNat_inj, UInt16.toNat_and, hm,
    Nat.and_two_pow]
  cases d.toNat.testBit k
  · simp
  · simp

/-- The bit of DIV that TAC selects. -/
def selectedBit (tac : UInt8) : ℕ :=
  match (tac &&& (0x3 : UInt8)).toNat with
  | 0 => 9
  | 1 => 3
  | 2 => 5
  | _ => 7

theorem selectedBit_mem (tac : UInt8) : selectedBit tac ∈ [3, 5, 7, 9] := by
  rw [selectedBit]
  split <;> decide

theorem selected_eq (t : Timer) :
    t.selected = (t.div.toNat.testBit (selectedBit t.tac) && t.tac &&& 0x4 != 0) := by
  rw [selected, checkIncrement, selectedBit]
  dsimp only
  refine congrArg (· && t.tac &&& 0x4 != 0) ?_
  rcases (t.tac &&& (0x3 : UInt8)).toNat with _ | _ | _ | low
  · exact and_ne_zero_eq_testBit t.div 0x200 rfl
  · exact and_ne_zero_eq_testBit t.div 0x8 rfl
  · exact and_ne_zero_eq_testBit t.div 0x20 rfl
  · exact and_ne_zero_eq_testBit t.div 0x80 rfl

/-- One bit of DIV, and whether the timer is enabled, by TAC. -/
theorem exists_selected (tac : UInt8) : ∃ k ∈ [3, 5, 7, 9], ∃ enable : Bool, ∀ t : Timer,
    t.tac = tac → t.selected = (t.div.toNat.testBit k && enable) :=
  ⟨selectedBit tac, selectedBit_mem tac, tac &&& 0x4 != 0, fun t ht => ht ▸ selected_eq t⟩

/-- An M-cycle clears the bit only by a carry, and then clears the four lowest bits. -/
theorem mod_of_falls {d : UInt16} {k : ℕ} (hk : k ∈ [3, 5, 7, 9]) (h4 : d.toNat % 4 = 0)
    (hset : d.toNat.testBit k = true) (hclear : (d + 4).toNat.testBit k = false) :
    (d + 4).toNat % 16 = 0 := by
  have hadd : (d + 4).toNat = (d.toNat + 4) % 65536 := UInt16.toNat_add d 4
  rw [Nat.testBit_eq_decide_div_mod_eq, decide_eq_true_iff] at hset
  rw [Nat.testBit_eq_decide_div_mod_eq, decide_eq_false_iff_not, hadd] at hclear
  rw [hadd]
  simp only [List.mem_cons, List.not_mem_nil, or_false] at hk
  rcases hk with rfl | rfl | rfl | rfl <;> omega

/-- Above four clear bits it is not cleared. -/
theorem testBit_of_mod {d : UInt16} {k : ℕ} (hk : k ∈ [3, 5, 7, 9]) (h16 : d.toNat % 16 = 0)
    (hset : d.toNat.testBit k = true) : (d + 4).toNat.testBit k = true := by
  have hadd : (d + 4).toNat = (d.toNat + 4) % 65536 := UInt16.toNat_add d 4
  rw [Nat.testBit_eq_decide_div_mod_eq, decide_eq_true_iff] at hset ⊢
  rw [hadd]
  simp only [List.mem_cons, List.not_mem_nil, or_false] at hk
  rcases hk with rfl | rfl | rfl | rfl <;> omega

theorem selected_congr {t u : Timer} (htac : t.tac = u.tac) (hdiv : t.div = u.div) :
    t.selected = u.selected := by
  obtain ⟨k, -, enable, h⟩ := exists_selected u.tac
  rw [h t htac, h u rfl, hdiv]

/-- A check that finds nothing new does nothing. -/
theorem checkIncrement_self (h : t.andResult = t.selected) : t.checkIncrement = t := by
  rw [checkIncrement_eq, ← h, Bool.and_not_self]
  rfl

@[simp] theorem andResult_checkIncrement (t : Timer) : t.checkIncrement.andResult = t.selected :=
  rfl

theorem div_checkIncrement (t : Timer) : t.checkIncrement.div = t.div := by
  rw [checkIncrement_eq]
  split <;> rfl

theorem tac_checkIncrement (t : Timer) : t.checkIncrement.tac = t.tac := by
  rw [checkIncrement_eq]
  split <;> rfl

theorem tma_checkIncrement (t : Timer) : t.checkIncrement.tma = t.tma := by
  rw [checkIncrement_eq]
  split <;> rfl

@[simp] theorem selected_checkIncrement (t : Timer) : t.checkIncrement.selected = t.selected :=
  selected_congr (tac_checkIncrement t) (div_checkIncrement t)

/-- So a second check right after the first does nothing. -/
@[simp] theorem checkIncrement_checkIncrement (t : Timer) :
    t.checkIncrement.checkIncrement = t.checkIncrement :=
  checkIncrement_self (selected_checkIncrement t).symm

/-- TIMA counts when the bit falls. -/
theorem tima_checkIncrement (h : (t.andResult && !t.selected) = false) :
    t.checkIncrement.tima = t.tima := by
  rw [checkIncrement_eq, h]
  rfl

theorem wraps_eq_true :
    t.wraps = true ↔ t.andResult = true ∧ t.selected = false ∧ t.tima = 0xFF := by
  simp only [wraps, Bool.and_eq_true, Bool.not_eq_true', beq_iff_eq, and_assoc]

theorem tima_of_wraps (h : t.wraps = true) : t.checkIncrement.tima = 0 := by
  obtain ⟨hand, hsel, htima⟩ := wraps_eq_true.mp h
  rw [checkIncrement_eq, hand, hsel, htima]
  rfl

/-! ### What holds between two operations -/

/-- The last check agrees with DIV unless DIV was cleared since. -/
structure Aligned (t : Timer) : Prop where
  div : t.div.toNat % 4 = 0
  andResult : t.andResult = true → t.selected = true ∨ t.div = 0

/-- While an overflow waits to be served, the selected bit, if it is set, will not fall in the next
M-cycle. -/
def Held (t : Timer) : Prop :=
  t.timaOverflow = true → t.andResult = true → t.selected = true ∧ t.div.toNat % 16 = 0

theorem aligned_new : new.Aligned := ⟨rfl, nofun⟩

/-- While an overflow waits, the next M-cycle does not count. -/
theorem Held.no_count (h : t.Held) (ho : t.timaOverflow = true) :
    (t.tick.andResult && !t.tick.selected) = false := by
  cases ha : t.andResult with
  | false => exact congrArg (· && _) ha
  | true =>
    obtain ⟨hsel, h16⟩ := h ho ha
    obtain ⟨k, hk, enable, hbit⟩ := exists_selected t.tac
    rw [hbit t rfl, Bool.and_eq_true] at hsel
    have htick : t.tick.selected = true := by
      rw [hbit t.tick rfl, hsel.2, Bool.and_true]
      exact testBit_of_mod hk h16 hsel.1
    rw [htick]
    exact Bool.and_false _

/-- So it loads TIMA from TMA, and that is all. -/
theorem Held.tima_tick (h : t.Held) (ho : t.timaOverflow = true) :
    t.tick.checkIncrement.tima = t.tma := by
  rw [tima_checkIncrement (h.no_count ho)]
  exact if_pos ho

/-- After an M-cycle that wraps TIMA, a bit of DIV that is set will not fall in the next one. -/
theorem Aligned.mod_of_wraps (h : t.Aligned) (hw : t.tick.wraps = true) :
    (t.div + 4).toNat % 16 = 0 ∨ t.div + 4 = 4 := by
  obtain ⟨hand, hsel, -⟩ := wraps_eq_true.mp hw
  rcases h.andResult hand with hset | h0
  · obtain ⟨k, hk, enable, hbit⟩ := exists_selected t.tac
    rw [hbit t rfl, Bool.and_eq_true] at hset
    rw [hbit t.tick rfl, hset.2, Bool.and_true] at hsel
    exact .inl (mod_of_falls hk h.div hset.1 hsel)
  · exact .inr (by rw [h0]; rfl)

/-- The check that wraps TIMA has just seen the bit fall. -/
theorem andResult_of_overflow (ho : t.tick.checkIncrement.timaOverflow = true) :
    t.tick.checkIncrement.andResult = false :=
  (wraps_eq_true.mp (timaOverflow_tick t ▸ ho)).2.1

/-- The M-cycle that every operation but a reset of DIV begins with. -/
theorem Aligned.tick (h : t.Aligned) : t.tick.checkIncrement.Aligned where
  div := by
    rw [div_checkIncrement]
    have hdiv := h.div
    have hadd : (t.div + 4).toNat = (t.div.toNat + 4) % 65536 := UInt16.toNat_add t.div 4
    show (t.div + 4).toNat % 4 = 0
    omega
  andResult := fun ha => .inl (by rwa [selected_checkIncrement])

/-- **One operation.** -/
theorem Aligned.perform (h : t.Aligned) (op : Op) (ctx : ClockContext) :
    (t.perform op ctx).1.Aligned := by
  have htick := h.tick
  cases op with
  | clock =>
    rw [Timer.perform, clock_eq]
    exact htick
  | clockWriteDiv data => exact ⟨rfl, fun _ => .inr rfl⟩
  | clockWriteTac data =>
    rw [Timer.perform, clockWriteTac, clock_eq]
    refine ⟨?_, fun ha => .inl ?_⟩
    · rw [div_checkIncrement]
      exact htick.div
    · rwa [selected_checkIncrement]
  | clockWriteTima data =>
    rw [Timer.perform, clockWriteTima, clock_eq]
    cases t.timaOverflow with
    | false => exact ⟨htick.div, htick.andResult⟩
    | true => exact htick
  | clockWriteTma data =>
    rw [Timer.perform, clockWriteTma, clock_eq]
    cases t.timaOverflow with
    | false => exact ⟨htick.div, htick.andResult⟩
    | true => exact ⟨htick.div, htick.andResult⟩
  | resetDiv => exact ⟨rfl, fun _ => .inr rfl⟩

/-- Selecting another bit after an M-cycle. -/
theorem Aligned.held_writeTac (h : t.Aligned) (data : UInt8) :
    { t.tick.checkIncrement with tac := data }.checkIncrement.Held := by
  have hdiv : t.tick.checkIncrement.div = t.div + 4 := div_checkIncrement t.tick
  intro ho ha
  rw [andResult_checkIncrement] at ha
  rw [selected_checkIncrement, div_checkIncrement]
  refine ⟨ha, ?_⟩
  rw [timaOverflow_checkIncrement, Bool.or_eq_true] at ho
  rcases ho with ho | hw
  · show t.tick.checkIncrement.div.toNat % 16 = 0
    rw [hdiv]
    rcases h.mod_of_wraps (timaOverflow_tick t ▸ ho) with h16 | h4
    · exact h16
    · -- None of the selectable bits is set in 4.
      obtain ⟨k, hk, enable, hbit⟩ := exists_selected data
      rw [hbit _ rfl, Bool.and_eq_true] at ha
      have hset : (4 : UInt16).toNat.testBit k = true := h4 ▸ hdiv ▸ ha.1
      simp only [List.mem_cons, List.not_mem_nil, or_false] at hk
      rcases hk with rfl | rfl | rfl | rfl <;> cases hset
  · exact absurd ha (Bool.not_eq_true _ ▸ (wraps_eq_true.mp hw).2.1)

/-- The TMA an operation ends with. -/
def Op.newTma (op : Op) (tma : UInt8) : UInt8 :=
  match op with
  | .clockWriteTma data => data
  | _ => tma

/-- A write to TAC, which checks for an edge of its own. -/
def Op.isWriteTac (op : Op) : Prop :=
  match op with
  | .clockWriteTac _ => True
  | _ => False

/-- A check counts at most once, and then leaves the edge detector low. -/
theorem tima_checkIncrement_cases (t : Timer) :
    t.checkIncrement.tima = t.tima ∨
      t.checkIncrement.tima = t.tima + 1 ∧ t.checkIncrement.andResult = false := by
  cases h : t.andResult && !t.selected with
  | false => exact .inl (tima_checkIncrement h)
  | true =>
    rw [Bool.and_eq_true, Bool.not_eq_true'] at h
    refine .inr ⟨?_, h.2⟩
    rw [checkIncrement_eq, h.1, h.2]
    rfl

/-- **The reload.** An operation that serves an overflow loads TIMA from TMA, and counts at most
once on top of that. -/
theorem reload_perform (ho : t.timaOverflow = true) {op : Op} (hop : op ≠ .resetDiv)
    (ctx : ClockContext) :
    (t.perform op ctx).1.tima = op.newTma t.tma ∨ (t.perform op ctx).1.tima = t.tma + 1 := by
  have hload : t.tick.tima = t.tma := if_pos ho
  have htick := tima_checkIncrement_cases t.tick
  rw [hload] at htick
  have hclock : t.tick.checkIncrement.tima = t.tma ∨ t.tick.checkIncrement.tima = t.tma + 1 :=
    htick.imp_right And.left
  cases op with
  | clock =>
    rw [perform, clock_eq]
    exact hclock
  | clockWriteDiv data =>
    rw [perform, clockWriteDiv, clock_eq]
    dsimp only
    rw [checkIncrement_checkIncrement]
    exact hclock
  | clockWriteTac data =>
    rw [perform, clockWriteTac, clock_eq]
    dsimp only
    have hcheck := tima_checkIncrement_cases { t.tick.checkIncrement with tac := data &&& 0x7 }
    rcases htick with hsame | ⟨hcount, hlow⟩
    · rcases hcheck with h | ⟨h, -⟩
      · exact .inl (h.trans hsame)
      · exact .inr (h.trans (congrArg (· + 1) hsame))
    · -- A second count would need the bit to fall twice.
      have hnone := tima_checkIncrement
        (t := { t.tick.checkIncrement with tac := data &&& 0x7 }) (congrArg (· && _) hlow)
      exact .inr (hnone.trans hcount)
  | clockWriteTima data =>
    rw [perform, clockWriteTima, clock_eq, ho]
    exact hclock
  | clockWriteTma data =>
    rw [perform, clockWriteTma, clock_eq, ho]
    exact .inl rfl
  | resetDiv => exact absurd rfl hop

/-- A write to TMA that serves an overflow has the last word. -/
theorem tima_writeTma (ho : t.timaOverflow = true) (data : UInt8) (ctx : ClockContext) :
    (t.perform (.clockWriteTma data) ctx).1.tima = data := by
  rw [perform, clockWriteTma, clock_eq, ho]
  rfl

/-- If the edge detector is held, it does not count, unless it is a write to TAC. -/
theorem Held.reload (h : t.Held) (ho : t.timaOverflow = true) {op : Op}
    (hop : op ≠ .resetDiv) (htac : ¬ op.isWriteTac) (ctx : ClockContext) :
    (t.perform op ctx).1.tima = op.newTma t.tma := by
  have htick := h.tima_tick ho
  cases op with
  | clock =>
    rw [perform, clock_eq]
    exact htick
  | clockWriteDiv data =>
    rw [perform, clockWriteDiv, clock_eq]
    dsimp only
    rw [checkIncrement_checkIncrement]
    exact htick
  | clockWriteTac data => exact absurd trivial htac
  | clockWriteTima data =>
    rw [perform, clockWriteTima, clock_eq, ho]
    exact htick
  | clockWriteTma data => exact tima_writeTma ho data ctx
  | resetDiv => exact absurd rfl hop

/-! ### Runs -/

/-- At position `j` a wrap waits to be served: no M-cycle has passed since. -/
def Waiting (r : Machine.Run step) (j : ℕ) : Prop :=
  ∃ k < j, (r.input k).wraps (r.state k) = true ∧ (r.input k).cancels (r.state k) = false ∧
    ∀ i, k < i → i < j → r.input i = .resetDiv

theorem waiting_succ (r : Machine.Run step) (j : ℕ) :
    Waiting r (j + 1) ↔
      if r.input j = .resetDiv then Waiting r j
      else (r.input j).wraps (r.state j) = true ∧ (r.input j).cancels (r.state j) = false := by
  split
  · rename_i hreset
    constructor
    · rintro ⟨k, hk, hwrap, hcancel, hbetween⟩
      rcases Nat.lt_or_eq_of_le (Nat.le_of_lt_succ hk) with hlt | rfl
      · exact ⟨k, hlt, hwrap, hcancel, fun i hi hij => hbetween i hi (Nat.lt_succ_of_lt hij)⟩
      · rw [hreset] at hwrap
        cases hwrap
    · rintro ⟨k, hk, hwrap, hcancel, hbetween⟩
      refine ⟨k, Nat.lt_succ_of_lt hk, hwrap, hcancel, fun i hi hij => ?_⟩
      rcases Nat.lt_or_eq_of_le (Nat.le_of_lt_succ hij) with hlt | rfl
      · exact hbetween i hi hlt
      · exact hreset
  · rename_i hclocked
    constructor
    · rintro ⟨k, hk, hwrap, hcancel, hbetween⟩
      rcases Nat.lt_or_eq_of_le (Nat.le_of_lt_succ hk) with hlt | rfl
      · exact absurd (hbetween j hlt (Nat.lt_succ_self j)) hclocked
      · exact ⟨hwrap, hcancel⟩
    · rintro ⟨hwrap, hcancel⟩
      exact ⟨j, Nat.lt_succ_self j, hwrap, hcancel, fun i hi hij => by omega⟩

/-- What an operation does to the timer does not depend on what is requested already. -/
theorem perform_fst (op : Op) (t : Timer) (ctx ctx' : ClockContext) :
    (t.perform op ctx).1 = (t.perform op ctx').1 := by
  have hclock : (t.clock ctx).1 = (t.clock ctx').1 := by rw [clock_eq, clock_eq]
  cases op with
  | clock => exact hclock
  | clockWriteDiv data => exact congrArg (fun t => { t.checkIncrement with div := 0 }) hclock
  | clockWriteTac data =>
    show checkIncrement { (t.clock ctx).1 with tac := data &&& 0x7 } =
      checkIncrement { (t.clock ctx').1 with tac := data &&& 0x7 }
    rw [hclock]
  | clockWriteTima data =>
    rw [perform, perform, clockWriteTima, clockWriteTima, clock_eq, clock_eq]
    cases t.timaOverflow <;> rfl
  | clockWriteTma data =>
    rw [perform, perform, clockWriteTma, clockWriteTma, clock_eq, clock_eq]
    cases t.timaOverflow <;> rfl
  | resetDiv => rfl

theorem state_succ (r : Machine.Run step) {k : ℕ} (hk : k < r.length) (ctx : ClockContext) :
    r.state (k + 1) = ((r.state k).perform (r.input k) ctx).1 := by
  rw [perform_fst _ _ ctx ⟨0, 0⟩]
  exact (ok_inj.mp (r.next k hk)).symm

/-- The flag says whether a wrap waits. -/
theorem overflow_iff_waiting (r : Machine.Run step) (h0 : r.state 0 = new) (j : ℕ)
    (hj : j ≤ r.length) : (r.state j).timaOverflow = true ↔ Waiting r j := by
  induction j with
  | zero =>
    rw [h0]
    exact iff_of_false nofun fun ⟨k, hk, _⟩ => absurd hk (Nat.not_lt_zero k)
  | succ j ih =>
    rw [waiting_succ, state_succ r hj ⟨0, 0⟩, overflow_perform]
    split
    · exact ih (Nat.le_of_lt hj)
    · rw [Bool.and_eq_true, Bool.not_eq_true']

/-- Only a write to TAC can leave an overflow with the edge detector high. -/
theorem andResult_perform {op : Op} (hop : op ≠ .resetDiv) (htac : ¬ op.isWriteTac)
    (ho : (t.perform op ctx).1.timaOverflow = true) : (t.perform op ctx).1.andResult = false := by
  cases op with
  | clock =>
    rw [perform, clock_eq] at ho ⊢
    exact andResult_of_overflow ho
  | clockWriteDiv data =>
    rw [perform, clockWriteDiv, clock_eq] at ho ⊢
    dsimp only at ho ⊢
    rw [checkIncrement_checkIncrement] at ho ⊢
    exact andResult_of_overflow ho
  | clockWriteTac data => exact absurd trivial htac
  | clockWriteTima data =>
    rw [perform, clockWriteTima, clock_eq] at ho ⊢
    cases hof : t.timaOverflow with
    | false => rw [hof] at ho; cases ho
    | true => rw [hof] at ho; exact andResult_of_overflow ho
  | clockWriteTma data =>
    rw [perform, clockWriteTma, clock_eq] at ho ⊢
    cases hof : t.timaOverflow with
    | false => rw [hof] at ho; exact andResult_of_overflow ho
    | true => rw [hof] at ho; exact andResult_of_overflow ho
  | resetDiv => exact absurd rfl hop

theorem writeTac_of_held (r : Machine.Run step) (h0 : r.state 0 = new) {k : ℕ}
    (hk : k ≤ r.length) (ho : (r.state k).timaOverflow = true)
    (ha : (r.state k).andResult = true) :
    ∃ j < k, (r.input j).isWriteTac ∧ ∀ i, j < i → i < k → r.input i = .resetDiv := by
  induction k with
  | zero =>
    rw [h0] at ho
    cases ho
  | succ k ih =>
    have hstate := state_succ r hk ⟨0, 0⟩
    by_cases hreset : r.input k = .resetDiv
    · rw [hstate, hreset] at ho ha
      obtain ⟨j, hj, htac, hbetween⟩ := ih (Nat.le_of_lt hk) ho ha
      refine ⟨j, Nat.lt_succ_of_lt hj, htac, fun i hi hik => ?_⟩
      rcases Nat.lt_or_eq_of_le (Nat.le_of_lt_succ hik) with hlt | rfl
      · exact hbetween i hi hlt
      · exact hreset
    · by_cases htac : (r.input k).isWriteTac
      · exact ⟨k, Nat.lt_succ_self k, htac, fun i hi hik => by omega⟩
      · rw [hstate] at ho ha
        exact absurd (ha.symm.trans (andResult_perform hreset htac ho)) nofun

/-- What an operation leaves of an overflow of its own is held. -/
theorem Aligned.held (h : t.Aligned) {op : Op} (hop : op ≠ .resetDiv) (ctx : ClockContext) :
    (t.perform op ctx).1.Held := by
  by_cases htac : op.isWriteTac
  · cases op with
    | clockWriteTac data =>
      rw [Timer.perform, clockWriteTac, clock_eq]
      exact h.held_writeTac _
    | _ => cases htac
  · exact fun ho ha => absurd (ha.symm.trans (andResult_perform hop htac ho)) nofun

/-- TIMA is 0 when it has wrapped, unless it was in a write to TMA that served another overflow. -/
theorem tima_of_overflow {op : Op} (hop : op ≠ .resetDiv)
    (ho : (t.perform op ctx).1.timaOverflow = true) : (t.perform op ctx).1.tima = 0 ∨
      t.timaOverflow = true ∧ t.tick.wraps = true ∧ ∃ data, op = .clockWriteTma data := by
  have htick : t.tick.checkIncrement.timaOverflow = true → t.tick.checkIncrement.tima = 0 :=
    fun hof => tima_of_wraps (timaOverflow_tick t ▸ hof)
  cases op with
  | clock =>
    rw [perform, clock_eq] at ho ⊢
    exact .inl (htick ho)
  | clockWriteDiv data =>
    rw [perform, clockWriteDiv, clock_eq] at ho ⊢
    dsimp only at ho ⊢
    rw [checkIncrement_checkIncrement] at ho ⊢
    exact .inl (htick ho)
  | clockWriteTac data =>
    rw [perform, clockWriteTac, clock_eq] at ho ⊢
    dsimp only at ho ⊢
    rw [timaOverflow_checkIncrement, Bool.or_eq_true] at ho
    rcases ho with ho | hw
    · rw [tima_checkIncrement]
      · exact .inl (htick ho)
      · exact congrArg (· && _) (andResult_of_overflow ho)
    · exact .inl (tima_of_wraps hw)
  | clockWriteTima data =>
    rw [perform, clockWriteTima, clock_eq] at ho ⊢
    cases hof : t.timaOverflow with
    | false => rw [hof] at ho; cases ho
    | true =>
      rw [hof] at ho
      exact .inl (htick ho)
  | clockWriteTma data =>
    rw [perform, clockWriteTma, clock_eq] at ho ⊢
    cases hof : t.timaOverflow with
    | false =>
      rw [hof] at ho
      exact .inl (htick ho)
    | true =>
      rw [hof] at ho
      exact .inr ⟨rfl, timaOverflow_tick t ▸ ho, data, rfl⟩
  | resetDiv => exact absurd rfl hop

/-- The overflow that waits at position `j` is disturbed: since the wrap, DIV was reset with the
edge detector high. -/
def Disturbed (r : Machine.Run step) (j : ℕ) : Prop :=
  ∃ k < j, r.input k = .resetDiv ∧ (r.state k).timaOverflow = true ∧
    (r.state k).andResult = true ∧ ∀ i, k < i → i < j → r.input i = .resetDiv

theorem disturbed_of_reset {r : Machine.Run step} {j : ℕ} (hreset : r.input j = .resetDiv)
    (h : ((r.state j).timaOverflow = true ∧ (r.state j).andResult = true) ∨ Disturbed r j) :
    Disturbed r (j + 1) := by
  rcases h with ⟨ho, ha⟩ | ⟨k, hk, hkreset, ho, ha, hbetween⟩
  · exact ⟨j, Nat.lt_succ_self j, hreset, ho, ha, fun i hi hij => by omega⟩
  · refine ⟨k, Nat.lt_succ_of_lt hk, hkreset, ho, ha, fun i hi hij => ?_⟩
    rcases Nat.lt_or_eq_of_le (Nat.le_of_lt_succ hij) with hlt | rfl
    · exact hbetween i hi hlt
    · exact hreset

theorem aligned_of_run (r : Machine.Run step) (h0 : r.state 0 = new) {k : ℕ} (hk : k ≤ r.length) :
    (r.state k).Aligned := by
  refine r.invariant (I := fun _ t => t.Aligned) (m := 0) (h0 ▸ aligned_new) (fun k _ hk h => ?_) k
    (Nat.zero_le k) hk
  rw [state_succ r hk ⟨0, 0⟩]
  exact h.perform (r.input k) ⟨0, 0⟩

/-- An overflow that is not disturbed is held. -/
theorem held_of_run (r : Machine.Run step) (h0 : r.state 0 = new) {k : ℕ} (hk : k ≤ r.length)
    (hcalm : ¬ Disturbed r k) : (r.state k).Held := by
  induction k with
  | zero =>
    rw [h0]
    exact nofun
  | succ k ih =>
    by_cases hreset : r.input k = .resetDiv
    · intro ho ha
      rw [state_succ r hk ⟨0, 0⟩, hreset] at ho ha
      exact absurd (disturbed_of_reset hreset (.inl ⟨ho, ha⟩)) hcalm
    · rw [state_succ r hk ⟨0, 0⟩]
      exact (aligned_of_run r h0 (Nat.le_of_lt hk)).held hreset ⟨0, 0⟩

/-- The wrap that waits at position `k` came of a write to TMA that served a disturbed overflow. -/
def Overwritten (r : Machine.Run step) (k : ℕ) : Prop :=
  ∃ j < k, (∃ data, r.input j = .clockWriteTma data) ∧ (r.state j).timaOverflow = true ∧
    Disturbed r j ∧ (r.state j).tick.wraps = true ∧ ∀ i, j < i → i < k → r.input i = .resetDiv

theorem tima_of_run (r : Machine.Run step) (h0 : r.state 0 = new) {k : ℕ} (hk : k ≤ r.length)
    (ho : (r.state k).timaOverflow = true) : (r.state k).tima = 0 ∨ Overwritten r k := by
  induction k with
  | zero =>
    rw [h0] at ho
    cases ho
  | succ k ih =>
    have hle := Nat.le_of_lt hk
    by_cases hreset : r.input k = .resetDiv
    · rw [state_succ r hk ⟨0, 0⟩, hreset] at ho ⊢
      rcases ih hle ho with hzero | ⟨j, hj, hwrite, hof, hdist, hwrap, hbetween⟩
      · exact .inl hzero
      · refine .inr ⟨j, Nat.lt_succ_of_lt hj, hwrite, hof, hdist, hwrap, fun i hi hik => ?_⟩
        rcases Nat.lt_or_eq_of_le (Nat.le_of_lt_succ hik) with hlt | rfl
        · exact hbetween i hi hlt
        · exact hreset
    · rw [state_succ r hk ⟨0, 0⟩] at ho ⊢
      rcases tima_of_overflow hreset ho with hzero | ⟨hof, hwrap, hwrite⟩
      · exact .inl hzero
      · refine .inr ⟨k, Nat.lt_succ_self k, hwrite, hof, ?_, hwrap, fun i hi hik => by omega⟩
        -- An overflow that is held is served without a wrap.
        by_contra hcalm
        have hnone := (held_of_run r h0 hle hcalm).no_count hof
        rw [wraps, hnone] at hwrap
        cases hwrap

/-- **Overflows.** In every run from a new timer each wrap of TIMA that is not cancelled is served
by the next operation that takes an M-cycle, with one request and a reload, and nothing else
requests the interrupt; while it waits, the edge detector is low unless a write to TAC came last. A
write to TMA that serves an overflow leaves TIMA as the new TMA. Unless DIV was reset while the
overflow waited with the edge detector high, the M-cycle that serves it does not count, and TIMA
ends as TMA. While an overflow waits TIMA is 0, unless it came of a write to TMA that served one
that was so disturbed. -/
theorem overflow_protocol (r : Machine.Run step) (h0 : r.state 0 = new) :
    (∀ j < r.length, ∀ ctx,
      (r.input j ≠ .resetDiv ∧ Waiting r j →
        ((r.state j).perform (r.input j) ctx).2 = ctx.setInterrupt interruptBitTimer ∧
        ((r.state (j + 1)).tima = (r.input j).newTma (r.state j).tma ∨
          (r.state (j + 1)).tima = (r.state j).tma + 1)) ∧
      (¬ (r.input j ≠ .resetDiv ∧ Waiting r j) →
        ((r.state j).perform (r.input j) ctx).2 = ctx)) ∧
    (∀ k ≤ r.length, (r.state k).timaOverflow = true → (r.state k).andResult = true →
      ∃ j < k, (r.input j).isWriteTac ∧ ∀ i, j < i → i < k → r.input i = .resetDiv) ∧
    (∀ j < r.length, Waiting r j → ∀ data, r.input j = .clockWriteTma data →
      (r.state (j + 1)).tima = data) ∧
    (∀ j < r.length, r.input j ≠ .resetDiv → Waiting r j → ¬ Disturbed r j →
      (r.state j).tick.checkIncrement.tima = (r.state j).tma ∧
        (¬ (r.input j).isWriteTac →
          (r.state (j + 1)).tima = (r.input j).newTma (r.state j).tma)) ∧
    ∀ k ≤ r.length, (r.state k).timaOverflow = true →
      (r.state k).tima = 0 ∨ Overwritten r k := by
  have hwaits : ∀ j < r.length, Waiting r j → (r.state j).timaOverflow = true :=
    fun j hj => (overflow_iff_waiting r h0 j (Nat.le_of_lt hj)).mpr
  refine ⟨fun j hj ctx => ?_, fun k hk => writeTac_of_held r h0 hk, fun j hj hwait data hin => ?_,
    fun j hj hop hwait hcalm => ?_, fun k hk => tima_of_run r h0 hk⟩
  · have hflag := overflow_iff_waiting r h0 j (Nat.le_of_lt hj)
    rw [requests_perform, ← hflag, state_succ r hj ctx]
    exact ⟨fun h => ⟨if_pos h, reload_perform h.2 h.1 ctx⟩, fun h => if_neg h⟩
  · rw [state_succ r hj ⟨0, 0⟩, hin]
    exact tima_writeTma (hwaits j hj hwait) data ⟨0, 0⟩
  · have hheld := held_of_run r h0 (Nat.le_of_lt hj) hcalm
    have ho := hwaits j hj hwait
    refine ⟨hheld.tima_tick ho, fun htac => ?_⟩
    rw [state_succ r hj ⟨0, 0⟩]
    exact hheld.reload ho hop htac ⟨0, 0⟩

/-- Operations at whose end TIMA wraps in a write to TAC that selects a set bit. -/
def wrapInWriteTac : List Op :=
  [.clockWriteDiv 0, .clockWriteTac 5] ++ List.replicate 7 .clock ++
    [.clockWriteTima 0xFF, .clock, .clock, .clockWriteTac 6]

/-- The wrap in the write to TAC is served by the clock after it, without a count. -/
theorem overflow_protocol_writeTac :
    ∃ r : Machine.Run step, r.state 0 = new ∧ r.input 12 = .clockWriteTac 6 ∧
      (∀ ctx, ((r.state 13).perform .clock ctx).2 = ctx.setInterrupt interruptBitTimer) ∧
      (r.state 14).tima = (r.state 13).tma := by
  obtain ⟨r, hlen, h0, -, hinput⟩ := Machine.Run.ofExec .clock
    (show Machine.exec step (wrapInWriteTac ++ [.clock]) new = .ok _ from rfl)
  have hlt : 13 < r.length := by rw [hlen]; decide
  have hstate := r.exec_input (Nat.le_of_lt hlt)
  rw [funext hinput, h0] at hstate
  have ho : (r.state 13).timaOverflow = true := by rw [← ok_inj.mp hstate]; rfl
  have hwait := (overflow_iff_waiting r h0 13 (Nat.le_of_lt hlt)).mp ho
  have hcalm : ¬ Disturbed r 13 := by
    rintro ⟨k, hk, hreset, -⟩
    have hnone : ∀ k < 13, (wrapInWriteTac ++ [Op.clock]).getD k .clock ≠ .resetDiv := by decide
    exact hnone k hk (hinput k ▸ hreset)
  obtain ⟨hserved, -, -, hreload, -⟩ := overflow_protocol r h0
  have hserved := fun ctx => (hserved 13 hlt ctx).1
  have hreload := hreload 13 hlt
  rw [hinput 13] at hserved hreload
  exact ⟨r, h0, hinput 12, fun ctx => (hserved ctx ⟨nofun, hwait⟩).1,
    (hreload nofun hwait hcalm).2 id⟩

/-- After that wrap the edge detector is high, and if DIV is reset before the overflow is served,
TIMA ends one above TMA; and if TMA is 0xFF and the overflow is served by a write to TMA, TIMA wraps
again, and what is written takes the place of the 0. -/
theorem reload_counts :
    (∃ t, Machine.exec step wrapInWriteTac new = .ok t ∧ t.timaOverflow = true ∧
      t.andResult = true ∧ t.tma = 0) ∧
    (∃ t, Machine.exec step (wrapInWriteTac ++ [.resetDiv, .clock]) new = .ok t ∧ t.tima = 1 ∧
      t.tma = 0) ∧
    ∃ t, Machine.exec step ([.clockWriteDiv 0, .clockWriteTac 5, .clockWriteTma 0xFF] ++
        List.replicate 6 .clock ++ [.clockWriteTima 0xFF, .clock, .clock, .clockWriteTac 6,
          .resetDiv, .clockWriteTma 5]) new = .ok t ∧
      t.timaOverflow = true ∧ t.tima = 5 :=
  ⟨⟨_, rfl, rfl, rfl, rfl⟩, ⟨_, rfl, rfl, rfl⟩, _, rfl, rfl, rfl⟩

end Timer

end ZenithGb
