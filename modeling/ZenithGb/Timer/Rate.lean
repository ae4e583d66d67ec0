import ZenithGb.Lib.Counter
import ZenithGb.Timer.Overflow

/-!
# The rate of the timer

The timer counts the falling edges of one bit of DIV, which it sees only every M-cycle, and loads
TIMA one M-cycle after it has wrapped. From outside it is a counter with a fixed period that starts
again from TMA: the edges are where DIV passes a multiple of the period, and the M-cycle that loads
TIMA has no edge.

## Main results

* `Timer.Ticking.servedTima` — one M-cycle
* `Timer.timer_rate` — any number of them
-/

namespace ZenithGb

namespace Timer

/-- The M-cycles between two increments, by TAC. -/
def period (tac : UInt8) : ℕ :=
  match (tac &&& (0x3 : UInt8)).toNat with
  | 0 => 256
  | 1 => 4
  | 2 => 16
  | _ => 64

/-- The timer after `n` calls of `clock`. -/
def clocks (t : Timer) (n : ℕ) : Timer := (fun t => (t.clock ⟨0, 0⟩).1)^[n] t

theorem clocks_succ (t : Timer) (n : ℕ) : t.clocks (n + 1) = (t.clocks n).tick.checkIncrement := by
  rw [clocks, Function.iterate_succ_apply', ← clocks, clock_eq]

/-- The next clock increments TIMA. -/
def increments (t : Timer) : Bool := t.tick.andResult && !t.tick.selected

/-- The next clock requests the interrupt. -/
def requests (t : Timer) : Bool := (t.clock ⟨0, 0⟩).2 == ⟨interruptBitTimer, 0⟩

variable {t : Timer}

theorem requests_eq (t : Timer) : t.requests = t.timaOverflow := by
  rw [requests, clock_eq]
  cases t.timaOverflow <;> rfl

/-- The bits of DIV and the periods of their falls. -/
theorem selectedBit_period (tac : UInt8) :
    (selectedBit tac, period tac) ∈ [(9, 256), (3, 4), (5, 16), (7, 64)] := by
  rw [selectedBit, period]
  rcases (tac &&& (0x3 : UInt8)).toNat with _ | _ | _ | low <;> simp

theorem four_le_period (tac : UInt8) : 4 ≤ period tac ∧ period tac ∣ 16384 := by
  rw [period]
  split <;> decide

/-- A bit of DIV falls where DIV passes a multiple of twice its value. -/
theorem falls_iff {d : UInt16} (tac : UInt8) (h4 : d.toNat % 4 = 0) :
    (d.toNat.testBit (selectedBit tac) && !(d + 4).toNat.testBit (selectedBit tac)) = true ↔
      period tac ∣ d.toNat / 4 + 1 := by
  have hlt := d.toNat_lt
  have hadd : (d + 4).toNat = (d.toNat + 4) % 65536 := UInt16.toNat_add d 4
  have hrate := selectedBit_period tac
  rw [Bool.and_eq_true, Bool.not_eq_true', Nat.testBit_eq_decide_div_mod_eq,
    Nat.testBit_eq_decide_div_mod_eq, decide_eq_true_iff, decide_eq_false_iff_not, hadd]
  simp only [List.mem_cons, Prod.mk.injEq, List.not_mem_nil, or_false] at hrate
  rcases hrate with ⟨hbit, hper⟩ | ⟨hbit, hper⟩ | ⟨hbit, hper⟩ | ⟨hbit, hper⟩ <;>
    rw [hbit, hper] <;> omega

/-! ### One clock -/

/-- The timer is enabled, has seen the bit of DIV it counts, and an overflow that waits has left DIV
at a multiple of the period. -/
structure Ticking (t : Timer) : Prop where
  enable : t.tac &&& 0x4 ≠ 0
  div : t.div.toNat % 4 = 0
  andResult : t.andResult = t.div.toNat.testBit (selectedBit t.tac)
  overflow : t.timaOverflow = true → t.tima = 0 ∧ period t.tac ∣ t.div.toNat / 4

/-- TIMA, where an overflow that waits counts as served. -/
def servedTima (t : Timer) : ℕ := if t.timaOverflow then t.tma.toNat else t.tima.toNat

theorem Ticking.increments_iff (h : t.Ticking) :
    t.increments = true ↔ period t.tac ∣ t.div.toNat / 4 + 1 := by
  have henable : (t.tac &&& 0x4 != 0) = true := bne_iff_ne.mpr h.enable
  rw [← falls_iff t.tac h.div, increments, selected_eq]
  show (t.andResult && !((t.div + 4).toNat.testBit (selectedBit t.tac) && t.tac &&& 0x4 != 0)) =
    true ↔ _
  rw [h.andResult, henable, Bool.and_true]

/-- The M-cycle that serves an overflow does not increment. -/
theorem Ticking.not_increments (h : t.Ticking) (ho : t.timaOverflow = true) :
    t.increments = false := by
  rw [← Bool.not_eq_true, h.increments_iff]
  intro hdvd
  have hone : period t.tac ∣ 1 := (Nat.dvd_add_right (h.overflow ho).2).mp hdvd
  have hle := Nat.le_of_dvd Nat.one_pos hone
  have hfour := (four_le_period t.tac).1
  omega

theorem Ticking.tick (h : t.Ticking) : t.tick.checkIncrement.Ticking := by
  have hadd : (t.div + 4).toNat = (t.div.toNat + 4) % 65536 := UInt16.toNat_add t.div 4
  have h4 := h.div
  constructor
  · rw [tac_checkIncrement]
    exact h.enable
  · rw [div_checkIncrement]
    show (t.div + 4).toNat % 4 = 0
    omega
  · rw [andResult_checkIncrement, selected_eq, div_checkIncrement, tac_checkIncrement]
    show (_ && t.tac &&& 0x4 != 0) = _
    rw [bne_iff_ne.mpr h.enable, Bool.and_true]
  · intro ho
    rw [timaOverflow_tick] at ho
    refine ⟨tima_of_wraps ho, ?_⟩
    rw [tac_checkIncrement, div_checkIncrement]
    show period t.tac ∣ (t.div + 4).toNat / 4
    have hinc : t.increments = true := by
      rw [wraps, Bool.and_eq_true] at ho
      exact ho.1
    rw [hadd, show (t.div.toNat + 4) % 65536 / 4 = (t.div.toNat / 4 + 1) % 16384 by omega]
    exact (Nat.dvd_mod_iff (four_le_period t.tac).2).mpr (h.increments_iff.mp hinc)

/-- **One clock.** -/
theorem Ticking.servedTima (h : t.Ticking) : t.tick.checkIncrement.servedTima =
    if t.increments then Reload.step 256 t.tma.toNat t.servedTima else t.servedTima := by
  rw [Timer.servedTima, timaOverflow_tick, tma_checkIncrement, Timer.servedTima]
  cases ho : t.timaOverflow with
  | true =>
    have hnone := h.not_increments ho
    have hsame := tima_checkIncrement (t := t.tick) hnone
    rw [hnone, wraps, show (t.tick.andResult && !t.tick.selected) = false from hnone, hsame]
    simp [Timer.tick, ho]
  | false =>
    have htima : t.tick.tima = t.tima := by rw [Timer.tick, ho]; rfl
    rw [wraps, htima]
    cases hinc : t.increments with
    | false =>
      rw [show (t.tick.andResult && !t.tick.selected) = false from hinc,
        tima_checkIncrement (t := t.tick) hinc, htima]
      rfl
    | true =>
      have hedge : (t.tick.andResult && !t.tick.selected) = true := hinc
      have hlt := t.tima.toNat_lt
      have hnext : t.tick.checkIncrement.tima = t.tima + 1 := by
        rw [checkIncrement_eq, hedge, if_pos rfl, htima]
      have hsucc : (t.tima + 1).toNat = (t.tima.toNat + 1) % 256 := UInt8.toNat_add t.tima 1
      have hff : (t.tima == 0xFF) = true ↔ t.tima.toNat + 1 = 256 := by
        rw [beq_iff_eq, ← UInt8.toNat_inj]
        show t.tima.toNat = 255 ↔ _
        omega
      rw [hedge, hnext, Bool.true_and, if_pos rfl, Reload.step, hsucc]
      refine ite_congr (propext hff) (fun _ => rfl) fun hwrap => ?_
      have hne : t.tima.toNat + 1 ≠ 256 := hwrap
      exact Nat.mod_eq_of_lt (show t.tima.toNat + 1 < 256 by omega)

/-! ### Any number of clocks -/

theorem clocks_fixed (t : Timer) (n : ℕ) : (t.clocks n).tac = t.tac ∧ (t.clocks n).tma = t.tma ∧
    (t.clocks n).div.toNat = (t.div.toNat + 4 * n) % 65536 := by
  induction n with
  | zero => exact ⟨rfl, rfl, (Nat.mod_eq_of_lt t.div.toNat_lt).symm⟩
  | succ n ih =>
    obtain ⟨htac, htma, hdiv⟩ := ih
    rw [clocks_succ, tac_checkIncrement, tma_checkIncrement, div_checkIncrement]
    refine ⟨htac, htma, ?_⟩
    have hadd : ((t.clocks n).div + 4).toNat = ((t.clocks n).div.toNat + 4) % 65536 :=
      UInt16.toNat_add (t.clocks n).div 4
    show ((t.clocks n).div + 4).toNat = _
    rw [hadd, hdiv]
    omega

theorem Ticking.clocks (h : t.Ticking) (n : ℕ) : (t.clocks n).Ticking := by
  induction n with
  | zero => exact h
  | succ n ih =>
    rw [clocks_succ]
    exact ih.tick

/-- The increments are where DIV, counted on past its end, passes a multiple of the period. -/
theorem Ticking.increments_clocks (h : t.Ticking) (n : ℕ) :
    (t.clocks n).increments = true ↔ period t.tac ∣ t.div.toNat / 4 + n + 1 := by
  obtain ⟨htac, -, hdiv⟩ := clocks_fixed t n
  have h4 := h.div
  have hquot : (t.div.toNat + 4 * n) % 65536 / 4 = (t.div.toNat / 4 + n) % 16384 := by omega
  rw [(h.clocks n).increments_iff, htac, hdiv, hquot]
  have hturns : period t.tac ∣ 16384 * ((t.div.toNat / 4 + n) / 16384) :=
    Dvd.dvd.mul_right (four_le_period t.tac).2 _
  refine (Nat.dvd_add_right hturns).symm.trans ?_
  rw [← Nat.add_assoc, Nat.div_add_mod]

theorem Ticking.servedTima_clocks (h : t.Ticking) (n : ℕ) : (t.clocks n).servedTima =
    (Reload.step 256 t.tma.toNat)^[Nat.count (fun k => (t.clocks k).increments = true) n]
      t.servedTima := by
  induction n with
  | zero => rfl
  | succ n ih =>
    rw [clocks_succ, (h.clocks n).servedTima, (clocks_fixed t n).2.1, ih, Nat.count_succ]
    split
    · rw [Function.iterate_succ_apply']
    · rfl

/-- An overflow waits for one clock. -/
theorem timaOverflow_clocks (t : Timer) (k : ℕ) :
    (t.clocks (k + 1)).timaOverflow = (t.clocks k).tick.wraps := by
  rw [clocks_succ, timaOverflow_tick]

theorem timaOverflow_clocks_pred (ho : t.timaOverflow = false) (n : ℕ) :
    (t.clocks n).timaOverflow = decide (n ≠ 0 ∧ (t.clocks (n - 1)).tick.wraps = true) := by
  cases n with
  | zero => exact ho
  | succ n =>
    rw [timaOverflow_clocks, Nat.add_sub_cancel]
    simp

/-- **The rate.** An enabled timer that no one writes to counts one for every multiple of the period
that DIV passes. TIMA starts again from TMA where it would reach 256, one clock late, in which it is
0, and each time it does, that next clock requests the interrupt. -/
theorem timer_rate (henable : t.tac &&& 0x4 ≠ 0) (hdiv : t.div.toNat % 4 = 0)
    (ho : t.timaOverflow = false) (hand : t.andResult = t.div.toNat.testBit (selectedBit t.tac))
    (n : ℕ) :
    let edges := (t.div.toNat / 4 + n) / period t.tac - t.div.toNat / 4 / period t.tac
    Nat.count (fun k => (t.clocks k).increments = true) n = edges ∧
    (t.clocks n).tima.toNat =
      (if n ≠ 0 ∧ (t.clocks (n - 1)).tick.wraps = true then 0
      else if t.tima.toNat + edges < 256 then t.tima.toNat + edges
      else t.tma.toNat + (edges - (256 - t.tima.toNat)) % (256 - t.tma.toNat)) ∧
    Nat.count (fun k => (t.clocks k).requests = true) n =
      Nat.count (fun k => (t.clocks k).tick.wraps = true) (n - 1) := by
  have h : t.Ticking := ⟨henable, hdiv, hand, fun h => absurd (h.symm.trans ho) nofun⟩
  have hedges : Nat.count (fun k => (t.clocks k).increments = true) n =
      (t.div.toNat / 4 + n) / period t.tac - t.div.toNat / 4 / period t.tac := by
    simp only [h.increments_clocks, Divider.count_multiples]
  refine ⟨hedges, ?_, ?_⟩
  · have hstart : t.servedTima = t.tima.toNat := by
      rw [Timer.servedTima, ho]
      rfl
    have hserved := h.servedTima_clocks n
    rw [hedges, hstart, Reload.iterate_step t.tma.toNat_lt t.tima.toNat_lt] at hserved
    rw [← hserved, Timer.servedTima, timaOverflow_clocks_pred ho]
    split
    · rename_i hwait
      have hwaits : (t.clocks n).timaOverflow = true := by
        rw [timaOverflow_clocks_pred ho]
        exact decide_eq_true hwait
      rw [((h.clocks n).overflow hwaits).1]
      rfl
    · rename_i hwait
      rw [decide_eq_false hwait]
      rfl
  · simp only [requests_eq]
    cases n with
    | zero => rfl
    | succ n =>
      rw [Nat.count_succ', Nat.add_sub_cancel]
      simp only [timaOverflow_clocks]
      rw [if_neg (by simpa [Timer.clocks] using ho), Nat.add_zero]

/-- With period 4, from 0xFE, TIMA wraps at the eighth clock and is loaded at the ninth. -/
theorem timer_rate_nine :
    let t : Timer := { new with tac := 5, div := 0, tima := 0xFE, tma := 0x80 }
    Nat.count (fun k => (t.clocks k).increments = true) 9 = 2 ∧ (t.clocks 9).tima = 0x80 ∧
      (t.clocks 8).tima = 0 ∧ Nat.count (fun k => (t.clocks k).requests = true) 9 = 1 := by
  intro t
  have hrate := timer_rate (t := t) (by decide) rfl rfl (by decide)
  obtain ⟨hedges, hnine, hrequests⟩ := hrate 9
  obtain ⟨-, height, -⟩ := hrate 8
  exact ⟨hedges.trans (by decide), UInt8.toNat_inj.mp (hnine.trans (by decide)),
    UInt8.toNat_inj.mp (height.trans (by decide)), hrequests.trans (by decide)⟩

end Timer

end ZenithGb
