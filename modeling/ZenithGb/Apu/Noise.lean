import Mathlib.Data.Nat.SuccPred
import ZenithGb.Apu.ChannelBounds
import ZenithGb.Lib.Counter
import ZenithGb.Lib.Run

/-!
# The period of the noise channel

NR43 selects a divisor and a shift, and the shift register is to step once for every
`divisor * 2 ^ shift` clocks. The timer that counts them down has 16 bits, and so has the shift
that computes its reload value: what does not fit is lost. A period that fits is kept exactly. One
that does not leaves a smaller reload value, often 0, and with 0 or 1 the register steps at every
clock, so that the largest shifts make the noise fast instead of slow.

## Main results

* `Channel4.Shows.countedClock` — a clock is a step of a divider of the reload value
* `Channel4.keepsPeriod_iff` — when the period is kept
-/

namespace ZenithGb

open Outcome

namespace Channel4

/-- The period NR43 selects: the divisor, times 2 to the shift. -/
def period (data : UInt8) : ℕ :=
  (divisors.cell (Fin.ofNat 8 data.toNat)).toNat * 2 ^ (data.toNat / 16)

/-- The next clock steps the shift register. -/
def stepsLfsr (c : Channel4) : Bool := c.freqTimer ≤ 1 && c.isEnabled

/-- A clock, with a count of the steps of the shift register. -/
def countedClock (x : ℕ × Channel4) : Checked (ℕ × Channel4) := do
  let c ← x.2.clock
  return (if x.2.stepsLfsr then x.1 + 1 else x.1, c)

/-- After NR43 is written and the channel triggered, the shift register steps once for every full
period of clocks. -/
def KeepsPeriod (c : Channel4) (data : UInt8) : Prop :=
  Total (c.writeNr43 data).trigger fun c₀ =>
    ∀ n, Total (Machine.repeated countedClock n (0, c₀)) fun x =>
      x.1 = n / period data ∧
        x.2.lfsr = (fun lfsr => stepLfsr lfsr (data &&& 0x8 != 0))^[n / period data] c₀.lfsr

/-! ### The reload value -/

theorem eight_le_divisor (r : Fin 8) : 8 ≤ (divisors.cell r).toNat := by
  revert r
  decide

theorem eight_le_period (data : UInt8) : 8 ≤ period data :=
  calc 8 = 8 * 1 := rfl
    _ ≤ period data := Nat.mul_le_mul (eight_le_divisor _) Nat.one_le_two_pow

/-- The fields of NR43. -/
theorem nr43_fields (data : UInt8) : ((data >>> 4) &&& (0xF : UInt8)).toNat = data.toNat / 16 ∧
    (data &&& (0x7 : UInt8)).toNat = data.toNat % 8 := by
  have hlt := data.toNat_lt
  refine ⟨?_, ?_⟩
  · rw [UInt8.toNat_and, UInt8.toNat_shiftRight]
    show (data.toNat >>> 4) &&& (2 ^ 4 - 1) = _
    rw [Nat.and_two_pow_sub_one_eq_mod, Nat.shiftRight_eq_div_pow]
    omega
  · exact toNat_and_low (b := 3) rfl data

/-- The reload value is the period without the bits that do not fit. -/
theorem calcFreq_writeNr43 (c : Channel4) (data : UInt8) :
    (c.writeNr43 data).calcFreq = .ok (period data % 0x10000) := by
  obtain ⟨hshift, hdivisor⟩ := nr43_fields data
  have hlt := data.toNat_lt
  have hindex : data.toNat % 8 < 8 := Nat.mod_lt _ (by decide)
  rw [calcFreq, writeNr43]
  dsimp only
  rw [hshift, hdivisor, Mem.get_of_lt _ _ hindex, ok_bind, if_pos (by omega), Nat.shiftLeft_eq]
  rfl

/-! ### The channel as a divider -/

/-- After `x.1` steps the channel shows the count of a divider, and the settings it had. -/
structure Shows (c₀ : Channel4) (reload : ℕ) (x : ℕ × Channel4) (y : ℕ × ℕ) : Prop where
  steps : x.1 = y.2
  timer : x.2.freqTimer = y.1
  enabled : x.2.isEnabled = true
  calcFreq : x.2.calcFreq = .ok reload
  sevenBit : x.2.regLfsr7bit = c₀.regLfsr7bit
  lfsr : x.2.lfsr = (fun lfsr => stepLfsr lfsr c₀.regLfsr7bit)^[y.2] c₀.lfsr

variable {c₀ c : Channel4} {reload : ℕ} {x : ℕ × Channel4} {y : ℕ × ℕ}

/-- A clock that does not step the register. -/
theorem clock_of_lt (h : 1 < c.freqTimer) : c.clock = .ok { c with freqTimer := c.freqTimer - 1 } :=
  if_pos h

/-- A clock that steps the register. -/
theorem clock_of_le (hon : c.isEnabled = true) (hreload : c.calcFreq = .ok reload)
    (h : c.freqTimer ≤ 1) :
    Total c.clock fun c' => ∃ sample, c' = { c with
      freqTimer := reload, sample, lfsr := stepLfsr c.lfsr c.regLfsr7bit } := by
  have hstill : ({ c with freqTimer := reload } : Channel4).isEnabled = true := hon
  rw [clock, if_neg (by omega), hreload, ok_bind]
  dsimp only
  rw [hstill, if_neg (by decide)]
  have hbit := UInt8.le_iff_toNat_le.mp (lfsrBit_le (stepLfsr c.lfsr c.regLfsr7bit))
  have hvolume := c.envelope.getVolume.toNat_lt
  have hfits : c.envelope.getVolume.toNat *
      (stepLfsr c.lfsr c.regLfsr7bit &&& (0x1 : UInt16)).toUInt8.toNat < 256 :=
    calc _ ≤ c.envelope.getVolume.toNat * 1 := Nat.mul_le_mul_left _ hbit
      _ < 256 := by omega
  rw [checkedMulU8, if_pos hfits, ok_bind]
  exact ⟨_, rfl⟩

theorem Shows.countedClock (h : Shows c₀ reload x y) :
    Total (countedClock x) fun x' => Shows c₀ reload x' (Divider.step reload Nat.succ y) := by
  have hsteps : x.2.stepsLfsr = decide (y.1 ≤ 1) := by
    rw [stepsLfsr, h.enabled, h.timer, Bool.and_true]
  rw [Channel4.countedClock, Divider.step, hsteps]
  by_cases hlast : y.1 ≤ 1
  · refine (clock_of_le h.enabled h.calcFreq (h.timer ▸ hlast)).bind ?_
    rintro _ ⟨sample, rfl⟩
    rw [meets_pure, if_pos hlast, if_pos (decide_eq_true hlast)]
    refine ⟨congrArg Nat.succ h.steps, rfl, h.enabled, h.calcFreq, h.sevenBit, ?_⟩
    rw [Function.iterate_succ_apply', ← h.lfsr, ← h.sevenBit]
  · rw [clock_of_lt (by rw [h.timer]; omega), ok_bind, if_neg hlast, if_neg (by simpa using hlast)]
    exact ⟨h.steps, congrArg (· - 1) h.timer, h.enabled, h.calcFreq, h.sevenBit, h.lfsr⟩

/-- A trigger starts a full count of the reload value. -/
theorem shows_trigger (hon : c.isEnabled = true) (data : UInt8) :
    Total (c.writeNr43 data).trigger fun c₀ => c₀.regLfsr7bit = (data &&& 0x8 != 0) ∧
      Shows c₀ (period data % 0x10000) (0, c₀) (period data % 0x10000, 0) := by
  have hdac : c.regDacEnable = true := (Bool.and_eq_true_iff.mp hon).2
  have hreload := calcFreq_writeNr43 c data
  rw [trigger, hreload, ok_bind]
  refine ⟨rfl, rfl, rfl, ?_, hreload, rfl, rfl⟩
  show (c.regDacEnable && c.regDacEnable) = true
  rw [hdac]
  rfl

/-- After as many clocks as the reload value the register has stepped once, and after one clock if
that is 0. -/
theorem wrapped_steps (reload : ℕ) :
    ((Divider.step reload Nat.succ)^[max reload 1] (reload, 0)).2 = 1 := by
  obtain rfl | hpos := Nat.eq_zero_or_pos reload
  · rfl
  · rw [max_eq_left hpos, Divider.iterate_full hpos, Nat.div_self hpos]
    rfl

/-- **The period is kept exactly when it fits into 16 bits.** -/
theorem keepsPeriod_iff (hon : c.isEnabled = true) (data : UInt8) :
    c.KeepsPeriod data ↔ period data < 0x10000 := by
  obtain ⟨c₀, htrigger, hseven, hshows⟩ := (shows_trigger hon data).exists_ok
  have hrun := fun n => Machine.repeated_refines (fun _ _ h => h.countedClock) n hshows
  rw [KeepsPeriod, htrigger]
  constructor
  · intro hkeeps
    by_contra hlarge
    -- one step too early
    have hfew : max (period data % 0x10000) 1 < period data := by
      have := Nat.mod_lt (period data) (show 0 < 0x10000 by decide)
      omega
    obtain ⟨x, hx, hsteps, -⟩ := (hkeeps (max (period data % 0x10000) 1)).exists_ok
    have hreally := ((hrun _).of_ok hx).steps
    rw [hsteps, Nat.div_eq_of_lt hfew, wrapped_steps] at hreally
    exact absurd hreally (by decide)
  · intro hfits n
    have hpos : 1 ≤ period data := (eight_le_period data).trans' (by decide)
    refine (hrun n).imp fun x hx => ?_
    rw [Nat.mod_eq_of_lt hfits, Divider.iterate_full hpos] at hx
    have hcount : Nat.succ^[n / period data] 0 = n / period data := by
      rw [Nat.succ_iterate, Nat.zero_add]
    refine ⟨hx.steps.trans hcount, ?_⟩
    rw [hx.lfsr, hcount, hseven]

/-- The smallest period on a channel that was just switched on. -/
theorem keepsPeriod_new : ∃ c, ((new ⟨false, .modeDmg⟩).writeNr42 0xF0).writeNr44 0x80 = .ok c ∧
    c.KeepsPeriod 0x00 :=
  ⟨_, rfl, (keepsPeriod_iff rfl 0x00).mpr (by decide)⟩

/-- What a kept period says of the first clock. -/
theorem KeepsPeriod.first {data : UInt8} (h : c.KeepsPeriod data) :
    Total ((c.writeNr43 data).trigger >>= fun c₀ => Machine.repeated countedClock 1 (0, c₀))
      fun x => x.1 = 1 / period data :=
  Meets.bind h fun _ hclocks => (hclocks 1).imp fun _ hx => hx.1

/-- With the divisor 8, a shift of 12 is kept and one of 13 steps the register at every clock. -/
theorem not_keepsPeriod_new :
    ∃ c, ((new ⟨false, .modeDmg⟩).writeNr42 0xF0).writeNr44 0x80 = .ok c ∧ c.isEnabled = true ∧
      ¬ c.KeepsPeriod 0xD0 ∧
      Total (c.writeNr43 0xC0).trigger (fun c₀ => Total (countedClock (0, c₀)) fun x => x.1 = 0) ∧
      Total (c.writeNr43 0xD0).trigger fun c₀ => Total (countedClock (0, c₀)) fun x => x.1 = 1 := by
  refine ⟨_, rfl, rfl, fun hkeeps => ?_, rfl, rfl⟩
  have hfirst : 1 = 1 / period 0xD0 := hkeeps.first
  exact absurd hfirst (by decide)

end Channel4

end ZenithGb
