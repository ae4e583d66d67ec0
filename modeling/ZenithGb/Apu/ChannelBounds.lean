import Mathlib.Data.Nat.Bitwise
import ZenithGb.Apu.Channels

/-!
# The units and channels stay within their bounds

The decrements, the `2048 - frequency` subtractions and the table lookups of the sound unit are
unchecked in the source: each relies on a fact that some other function establishes. `Bounded`
collects these facts for a length counter, a sweep, an envelope and each channel, and every
function of theirs is shown to return and to keep them.

## Main results

* `Envelope.clock_bounded`, `Sweep.clock_bounded`, `LengthCounter.writeNrx4_bounded` — the units
* `Channel1.clock_bounded` and its siblings — the channels
-/

namespace ZenithGb

open Outcome

/-! ### Fields of a byte -/

theorem toNat_volumeCode_le (b : UInt8) : ((b &&& (0x60 : UInt8)) >>> 5).toNat ≤ 3 := by
  have h : (b &&& (0x60 : UInt8)).toNat ≤ 0x60 := toNat_and_le b 0x60
  rw [UInt8.toNat_shiftRight, Nat.shiftRight_eq_div_pow]
  show (b &&& (0x60 : UInt8)).toNat / 2 ^ 5 ≤ 3
  omega

/-! ### Length counter -/

namespace LengthCounter

/-- What holds of the length counter of a channel whose counter reloads with `n`. -/
structure Bounded (n : ℕ) (l : LengthCounter) : Prop where
  initialCount : l.initialCount = n
  count_le : l.count ≤ l.initialCount

variable {n : ℕ} {l : LengthCounter}

theorem new_bounded (hn : 1 ≤ n) (ctx : GbCtx) : (new n ctx).Bounded n := ⟨rfl, hn⟩

theorem clock_bounded (h : l.Bounded n) : l.clock.2.Bounded n := by
  show Bounded n (if _ then _ else l)
  split
  · exact ⟨h.initialCount, (Nat.sub_le l.count 1).trans h.count_le⟩
  · exact h

theorem writeNrx4Enabled_bounded (hn : 1 ≤ n) (h : l.Bounded n) (triggerBit enableBit : Bool) :
    Total (l.writeNrx4Enabled triggerBit enableBit) (Bounded n) := by
  have hbit : l.frameSeqStep &&& 1 ≤ l.initialCount :=
    (Nat.and_le_right (m := 1)).trans (h.initialCount ▸ hn)
  refine Meets.ite (fun _ => h) fun _ => Meets.ite (fun _ => ?_) fun _ =>
    ⟨h.initialCount, le_rfl⟩
  rw [checkedSub_of_le _ hbit]
  exact ⟨h.initialCount, Nat.sub_le ..⟩

theorem writeNrx4DisabledToEnabled_bounded (hn : 1 ≤ n) (h : l.Bounded n) (triggerBit : Bool) :
    Total (l.writeNrx4DisabledToEnabled triggerBit) (Bounded n) := by
  refine Meets.ite (fun _ => h) fun _ => Meets.ite (fun _ => ?_) fun _ =>
    ⟨h.initialCount, (Nat.sub_le l.count 1).trans h.count_le⟩
  rw [checkedSub_of_le _ (h.initialCount ▸ hn)]
  exact ⟨h.initialCount, Nat.sub_le ..⟩

theorem writeNrx4Disabled_bounded (h : l.Bounded n) (triggerBit : Bool) :
    (l.writeNrx4Disabled triggerBit).Bounded n := by
  rw [writeNrx4Disabled]
  split
  · exact h
  · exact ⟨h.initialCount, le_rfl⟩

theorem writeNrx4_bounded (hn : 1 ≤ n) (h : l.Bounded n) (triggerBit enableBit : Bool) :
    Total (l.writeNrx4 triggerBit enableBit) (Bounded n) := by
  have hend : ∀ l' : LengthCounter, l'.Bounded n → Bounded n { l' with enabled := enableBit } :=
    fun _ h' => ⟨h'.initialCount, h'.count_le⟩
  refine Meets.ite (fun _ => ?_) fun _ => Meets.ite (fun _ => ?_) fun _ => ?_
  · exact (writeNrx4Enabled_bounded hn h triggerBit enableBit).bind hend
  · exact (writeNrx4DisabledToEnabled_bounded hn h triggerBit).bind hend
  · exact hend _ (writeNrx4Disabled_bounded h triggerBit)

theorem setCount_bounded (h : l.Bounded n) {count : ℕ} (hcount : count ≤ n) :
    (l.setCount count).Bounded n :=
  ⟨h.initialCount, h.initialCount ▸ hcount⟩

theorem shutdown_bounded (h : l.Bounded n) : l.shutdown.Bounded n := by
  rw [shutdown]
  split
  · exact ⟨h.initialCount, le_rfl⟩
  · exact ⟨h.initialCount, h.count_le⟩

end LengthCounter

/-! ### Sweep -/

namespace Sweep

structure Bounded (s : Sweep) : Prop where
  periodTimer_pos : s.enabled = true → 1 ≤ s.periodTimer
  period_le : s.period ≤ 7
  shift_le : s.shift ≤ 7
  shadowFrequency_le : s.shadowFrequency ≤ 2047
  regFrequency_le : s.regFrequency ≤ 2047

theorem new_bounded : new.Bounded := ⟨nofun, by decide, by decide, by decide, by decide⟩

variable {s : Sweep}

/-- The frequency a calculation gives for an 11-bit one. -/
def next (s : Sweep) (frequency : ℕ) : ℕ :=
  if s.negate then frequency - frequency >>> s.shift else frequency + frequency >>> s.shift

/-- A calculation on an 11-bit frequency stays within 16 bits, and only records that it negated. -/
theorem calcFrequency_total (hshift : s.shift ≤ 7) (hshadow : s.shadowFrequency ≤ 2047) :
    Total s.calcFrequency fun r => r.1 = s.next s.shadowFrequency ∧
      ∃ negated, r.2 = { s with negatedSinceTrigger := negated } := by
  have hle : s.shadowFrequency >>> s.shift ≤ s.shadowFrequency := Nat.shiftRight_le ..
  rw [calcFrequency, checkedShr_of_lt _ (by omega), ok_bind, next]
  generalize s.shadowFrequency >>> s.shift = shifted at hle
  have hasI16 : ∀ f ≤ 2047, asI16 f = f := fun f hf => if_pos (by omega)
  have hneg : checkedI16 (-(shifted : ℤ)) = .ok (-(shifted : ℤ)) := if_pos (by omega)
  have hsub : checkedI16 (asI16 s.shadowFrequency + -shifted) =
      .ok (s.shadowFrequency + -shifted) := by
    rw [hasI16 _ hshadow]
    exact if_pos (by omega)
  have hadd : checkedI16 (asI16 s.shadowFrequency + shifted) =
      .ok (s.shadowFrequency + shifted) := by
    rw [hasI16 _ hshadow]
    exact if_pos (by omega)
  rw [hasI16 _ (hle.trans hshadow)]
  refine Meets.ite (fun hnegate => ?_) fun hnegate => ?_
  · simp only [hneg, ok_bind, pure_bind, hsub]
    rw [meets_pure, if_pos hnegate]
    exact ⟨by omega, true, rfl⟩
  · simp only [pure_bind, hadd, ok_bind]
    rw [meets_pure, if_neg hnegate]
    exact ⟨by omega, s.negatedSinceTrigger, rfl⟩

theorem Bounded.negated (h : s.Bounded) (negated : Bool) :
    { s with negatedSinceTrigger := negated }.Bounded :=
  ⟨h.periodTimer_pos, h.period_le, h.shift_le, h.shadowFrequency_le, h.regFrequency_le⟩

theorem calcFrequency_bounded (h : s.Bounded) : Total s.calcFrequency fun r => r.2.Bounded := by
  refine (calcFrequency_total h.shift_le h.shadowFrequency_le).imp ?_
  rintro ⟨f, _⟩ ⟨-, negated, rfl⟩
  exact h.negated negated

theorem reloadTimer_pos (s : Sweep) : 1 ≤ s.reloadTimer.periodTimer := by
  show 1 ≤ if s.period = 0 then 8 else s.period
  split <;> omega

theorem clock_bounded (h : s.Bounded) : Total s.clock fun r => r.2.Bounded := by
  rw [clock]
  refine Meets.ite (fun _ => h) fun hdisabled => ?_
  have henabled : s.enabled = true := by simpa using hdisabled
  rw [checkedSub_of_le _ (h.periodTimer_pos henabled), ok_bind]
  refine Meets.ite (fun hne => ?_) fun _ => ?_
  · exact { h with periodTimer_pos := fun _ => Nat.one_le_iff_ne_zero.mpr hne }
  have hreloaded : Bounded (reloadTimer { s with periodTimer := s.periodTimer - 1 }) :=
    { h with periodTimer_pos := fun _ => reloadTimer_pos _ }
  refine Meets.ite (fun _ => hreloaded) fun _ => ?_
  refine (calcFrequency_bounded hreloaded).bind fun ⟨nextFreq, s⟩ hs => ?_
  refine Meets.ite (fun _ => hs) fun hcheck => Meets.ite (fun _ => hs) fun _ => ?_
  -- the overflow check is what keeps the frequency within 11 bits
  have hfreq : nextFreq ≤ 2047 := by simpa [overflowCheck] using hcheck
  have hnext : Bounded { s with shadowFrequency := nextFreq, regFrequency := nextFreq } :=
    { hs with shadowFrequency_le := hfreq, regFrequency_le := hfreq }
  exact (calcFrequency_bounded hnext).bind fun r hr => hr

theorem trigger_bounded (h : s.Bounded) : Total s.trigger fun r => r.2.Bounded := by
  have htriggered : Bounded (reloadTimer { s with
      negatedSinceTrigger := false, shadowFrequency := s.regFrequency
      enabled := s.period != 0 || s.shift != 0 }) :=
    { h with
      periodTimer_pos := fun _ => reloadTimer_pos _
      shadowFrequency_le := h.regFrequency_le }
  refine Meets.ite (fun _ => ?_) fun _ => htriggered
  exact (calcFrequency_bounded htriggered).bind fun r hr => hr

theorem writeNr10_bounded (h : s.Bounded) (data : UInt8) : (s.writeNr10 data).2.Bounded :=
  { h with period_le := toNat_and_le _ 0x7, shift_le := toNat_and_le _ 0x7 }

theorem frequencyMsb_le (frequency : ℕ) (freqMsb : UInt8) :
    frequencyMsb frequency freqMsb ≤ 2047 := by
  have hhigh : (freqMsb.toNat &&& 0x7) <<< 8 < 2 ^ 11 := by
    have : freqMsb.toNat &&& 0x7 ≤ 0x7 := Nat.and_le_right
    rw [Nat.shiftLeft_eq]
    omega
  have hlow : frequency &&& 0xFF < 2 ^ 11 := Nat.lt_of_le_of_lt Nat.and_le_right (by decide)
  exact Nat.le_of_lt_succ (Nat.or_lt_two_pow hhigh hlow)

theorem frequencyLsb_le (frequency : ℕ) (freqLsb : UInt8) :
    frequencyLsb frequency freqLsb ≤ 2047 := by
  have hhigh : frequency &&& 0x700 < 2 ^ 11 := Nat.lt_of_le_of_lt Nat.and_le_right (by decide)
  have hlow : freqLsb.toNat < 2 ^ 11 := freqLsb.toNat_lt.trans (by decide)
  exact Nat.le_of_lt_succ (Nat.or_lt_two_pow hhigh hlow)

end Sweep

/-! ### Envelope -/

namespace Envelope

structure Bounded (e : Envelope) : Prop where
  periodTimer_pos : e.enabled = true → 1 ≤ e.periodTimer
  period_le : e.period ≤ 7
  volume_le : e.volume ≤ 15
  initialVolume_le : e.initialVolume ≤ 15

variable {e : Envelope}

theorem new_bounded {volume : UInt8} {addMode : Bool} {period : ℕ} (hvolume : volume ≤ 15)
    (hperiod : period ≤ 7) : (new volume addMode period).Bounded :=
  ⟨nofun, hperiod, UInt8.le_iff_toNat_le.mpr (Nat.zero_le _), hvolume⟩

theorem reloadTimer_pos (e : Envelope) : 1 ≤ e.reloadTimer.periodTimer := by
  show 1 ≤ if e.period = 0 then 8 else e.period
  split <;> omega

theorem stepped_volume_le {volume : UInt8} (h : volume ≤ 15) (addMode : Bool) :
    (if addMode then if volume < 15 then volume + 1 else volume
      else if volume > 0 then volume - 1 else volume) ≤ 15 := by
  rw [UInt8.le_iff_toNat_le] at h
  split
  · split
    · rename_i hlt
      have hlt : volume.toNat < 15 := UInt8.lt_iff_toNat_lt.mp hlt
      rw [UInt8.le_iff_toNat_le, UInt8.toNat_add]
      show (volume.toNat + 1) % 256 ≤ 15
      omega
    · exact UInt8.le_iff_toNat_le.mpr h
  · split
    · rename_i hpos
      have hle : 1 ≤ volume := UInt8.le_iff_toNat_le.mpr (UInt8.lt_iff_toNat_lt.mp hpos)
      rw [UInt8.le_iff_toNat_le, UInt8.toNat_sub_of_le _ _ hle]
      exact (Nat.sub_le ..).trans h
    · exact UInt8.le_iff_toNat_le.mpr h

theorem Bounded.disableIf (h : e.Bounded) (c : Prop) [Decidable c] :
    (if c then { e with enabled := false } else e).Bounded := by
  split
  · exact { h with periodTimer_pos := nofun }
  · exact h

theorem clock_bounded (h : e.Bounded) : Total e.clock Bounded := by
  rw [clock]
  refine Meets.ite (fun _ => h) fun hrun => ?_
  have henabled : e.enabled = true := by simp_all
  rw [checkedSub_of_le _ (h.periodTimer_pos henabled), ok_bind]
  refine Meets.ite (fun hne => ?_) fun _ => ?_
  · exact { h with periodTimer_pos := fun _ => Nat.one_le_iff_ne_zero.mpr hne }
  · rw [meets_pure]
    refine Bounded.disableIf ?_ _
    exact ⟨fun _ => reloadTimer_pos _, h.period_le, stepped_volume_le h.volume_le e.addMode,
      h.initialVolume_le⟩

theorem writeNrx2_bounded (h : e.Bounded) (data : UInt8) : (e.writeNrx2 data).Bounded :=
  { h with period_le := toNat_and_le _ 0x7, initialVolume_le := and_mask_le _ 0xF }

theorem trigger_bounded (h : e.Bounded) : e.trigger.Bounded :=
  ⟨fun _ => reloadTimer_pos _, h.period_le, h.initialVolume_le, h.initialVolume_le⟩

theorem getVolume_le (h : e.Bounded) : e.getVolume ≤ 15 := by
  rw [getVolume]
  split
  · exact h.initialVolume_le
  · exact h.volume_le

theorem shutdown_bounded (e : Envelope) : e.shutdown.Bounded := new_bounded (by decide) (by decide)

end Envelope

/-! ### Shared by the channels -/

theorem lengthFromNrx1_total (data : UInt8) : Total (lengthFromNrx1 data) (· ≤ 64) := by
  rw [lengthFromNrx1, checkedSub_of_le _ ((toNat_and_le data 0x3F).trans (by decide))]
  exact Nat.sub_le ..

theorem frequencyPeriod_total {frequency mult : ℕ} (hfreq : frequency ≤ 2047) (hmult : mult ≤ 4) :
    Total (frequencyPeriod frequency mult) fun _ => True := by
  have hlt : (2048 - frequency) * mult < 2 ^ 16 :=
    Nat.lt_of_le_of_lt (Nat.mul_le_mul (Nat.sub_le 2048 frequency) hmult) (by decide)
  rw [frequencyPeriod, checkedSub_of_le _ (hfreq.trans (by decide)), ok_bind,
    checkedMul_of_lt _ hlt]
  trivial

/-- A volume times a bit is a sample of four bits. -/
theorem checkedMulU8_bit_total {site : Site} {volume b : UInt8} (hvolume : volume ≤ 15)
    (hbit : b ≤ 1) : Total (checkedMulU8 site volume b) (· ≤ 15) := by
  have hle : volume.toNat * b.toNat ≤ 15 * 1 :=
    Nat.mul_le_mul (UInt8.le_iff_toNat_le.mp hvolume) (UInt8.le_iff_toNat_le.mp hbit)
  rw [checkedMulU8, if_pos (by omega)]
  show volume * b ≤ 15
  rw [UInt8.le_iff_toNat_le, UInt8.toNat_mul]
  show volume.toNat * b.toNat % 256 ≤ 15
  omega

theorem squareSample_total {e : Envelope} {regWaveduty dutyCycle : ℕ} (he : e.Bounded)
    (hduty : regWaveduty < 4) (hcycle : dutyCycle < 8) :
    Total (squareSample e regWaveduty dutyCycle) (· ≤ 15) := by
  rw [squareSample, Mem.get_of_lt _ _ hduty, ok_bind, checkedShrU8_of_lt _ hcycle, ok_bind]
  exact checkedMulU8_bit_total (Envelope.getVolume_le he) (and_mask_le _ 1)

theorem nextDuty_total {dutyCycle : ℕ} (h : dutyCycle < 8) :
    Total (checkedAdd 8 .apuChannel dutyCycle 1) fun next => next &&& 0x7 < 8 := by
  rw [checkedAdd_of_lt _ (by omega)]
  exact Nat.lt_succ_of_le Nat.and_le_right

theorem zero_le_sample : (0 : UInt8) ≤ 15 := by decide

theorem afterNrx4_total {χ : Type} {l : LengthCounter} {triggerBit : Bool} {stop : χ → χ}
    {trigger : χ → Checked χ} {c : χ} {I : χ → Prop} (hc : I c) (hstop : I (stop c))
    (htrigger : Total (trigger c) I) : Total (afterNrx4 l triggerBit stop trigger c) I :=
  Meets.ite (fun _ => hstop) fun _ => Meets.ite (fun _ => htrigger) fun _ => hc

/-! ### Channel 1 -/

namespace Channel1

structure Bounded (c : Channel1) : Prop where
  sweep : c.sweep.Bounded
  envelope : c.envelope.Bounded
  lengthCounter : c.lengthCounter.Bounded lengthCounterInit
  dutyCycle_lt : c.dutyCycle < 8
  regWaveduty_lt : c.regWaveduty < 4
  sample_le : c.sample ≤ 15
  dac : c.isEnabledFlag = true → c.regDacEnable = true

theorem new_bounded (ctx : GbCtx) : (new ctx).Bounded where
  sweep := Sweep.new_bounded
  envelope := Envelope.new_bounded (by decide) (by decide)
  lengthCounter := LengthCounter.new_bounded (by decide) ctx
  dutyCycle_lt := Nat.zero_lt_succ 7
  regWaveduty_lt := (by decide : 2 < 4)
  sample_le := zero_le_sample
  dac := fun _ => rfl

variable {c : Channel1}

theorem sweepClock_bounded (h : c.Bounded) : Total c.sweepClock Bounded :=
  (Sweep.clock_bounded h.sweep).bind fun _ hs =>
    { h with sweep := hs, dac := fun he => h.dac (Bool.and_elim_left he) }

theorem trigger_bounded (h : c.Bounded) : Total c.trigger Bounded :=
  (frequencyPeriod_total h.sweep.regFrequency_le le_rfl).bind fun _ _ =>
    (Sweep.trigger_bounded h.sweep).bind fun _ hs =>
      { h with
        sweep := hs, envelope := Envelope.trigger_bounded h.envelope
        dac := fun he => Bool.and_elim_left he }

theorem writeNr10_bounded (h : c.Bounded) (data : UInt8) : (c.writeNr10 data).Bounded :=
  { h with
    sweep := Sweep.writeNr10_bounded h.sweep data, dac := fun he => h.dac (Bool.and_elim_left he) }

theorem writeNr11_bounded (h : c.Bounded) (data : UInt8) : Total (c.writeNr11 data) Bounded :=
  (lengthFromNrx1_total data).bind fun _ hcount =>
    { h with
      lengthCounter := LengthCounter.setCount_bounded h.lengthCounter hcount
      regWaveduty_lt := Nat.lt_succ_of_le (toNat_and_le _ 0x3) }

theorem writeNr12_bounded (h : c.Bounded) (data : UInt8) : (c.writeNr12 data).Bounded :=
  { h with
    envelope := Envelope.writeNrx2_bounded h.envelope data
    dac := fun he => Bool.and_elim_right he }

theorem writeNr13_bounded (h : c.Bounded) (data : UInt8) : (c.writeNr13 data).Bounded :=
  { h with sweep := { h.sweep with regFrequency_le := Sweep.frequencyLsb_le .. } }

theorem writeNr14_bounded (h : c.Bounded) (data : UInt8) : Total (c.writeNr14 data) Bounded := by
  refine (LengthCounter.writeNrx4_bounded (by decide) h.lengthCounter _ _).bind fun l hl => ?_
  have hc : Bounded { c with sweep := c.sweep.setFrequencyMsb data, lengthCounter := l } :=
    { h with
      sweep := { h.sweep with regFrequency_le := Sweep.frequencyMsb_le .. }, lengthCounter := hl }
  exact afterNrx4_total hc { hc with dac := nofun } (trigger_bounded hc)

theorem clock_bounded (h : c.Bounded) : Total c.clock Bounded := by
  refine Meets.ite (fun _ => ?_) fun _ => ?_
  · exact { h with }
  refine (frequencyPeriod_total h.sweep.regFrequency_le le_rfl).bind fun _ _ => ?_
  refine Meets.ite (fun _ => ?_) fun _ => ?_
  · exact { h with sample_le := zero_le_sample }
  refine (squareSample_total h.envelope h.regWaveduty_lt h.dutyCycle_lt).bind fun _ hsample => ?_
  refine (nextDuty_total h.dutyCycle_lt).bind fun _ hnext => ?_
  exact { h with sample_le := hsample, dutyCycle_lt := hnext }

theorem lengthClock_bounded (h : c.Bounded) : c.lengthClock.Bounded :=
  { h with
    lengthCounter := LengthCounter.clock_bounded h.lengthCounter
    dac := fun he => h.dac (Bool.and_elim_left he) }

theorem shutdown_bounded (h : c.Bounded) : c.shutdown.Bounded where
  sweep := Sweep.new_bounded
  envelope := Envelope.shutdown_bounded c.envelope
  lengthCounter := LengthCounter.shutdown_bounded h.lengthCounter
  dutyCycle_lt := Nat.zero_lt_succ 7
  regWaveduty_lt := Nat.zero_lt_succ 3
  sample_le := h.sample_le
  dac := nofun

end Channel1

/-! ### Channel 2 -/

namespace Channel2

structure Bounded (c : Channel2) : Prop where
  envelope : c.envelope.Bounded
  lengthCounter : c.lengthCounter.Bounded lengthCounterInit
  dutyCycle_lt : c.dutyCycle < 8
  regWaveduty_lt : c.regWaveduty < 4
  regFrequency_le : c.regFrequency ≤ 2047
  sample_le : c.sample ≤ 15
  dac : c.isEnabledFlag = true → c.regDacEnable = true

theorem new_bounded (ctx : GbCtx) : (new ctx).Bounded where
  envelope := Envelope.new_bounded (by decide) (by decide)
  lengthCounter := LengthCounter.new_bounded (by decide) ctx
  dutyCycle_lt := Nat.zero_lt_succ 7
  regWaveduty_lt := Nat.zero_lt_succ 3
  regFrequency_le := Nat.zero_le 2047
  sample_le := zero_le_sample
  dac := nofun

variable {c : Channel2}

theorem trigger_bounded (h : c.Bounded) : Total c.trigger Bounded :=
  (frequencyPeriod_total h.regFrequency_le le_rfl).bind fun _ _ =>
    { h with envelope := Envelope.trigger_bounded h.envelope, dac := fun he => he }

theorem writeNr21_bounded (h : c.Bounded) (data : UInt8) : Total (c.writeNr21 data) Bounded :=
  (lengthFromNrx1_total data).bind fun _ hcount =>
    { h with
      lengthCounter := LengthCounter.setCount_bounded h.lengthCounter hcount
      regWaveduty_lt := Nat.lt_succ_of_le (toNat_and_le _ 0x3) }

theorem writeNr22_bounded (h : c.Bounded) (data : UInt8) : (c.writeNr22 data).Bounded :=
  { h with
    envelope := Envelope.writeNrx2_bounded h.envelope data
    dac := fun he => Bool.and_elim_right he }

theorem writeNr23_bounded (h : c.Bounded) (data : UInt8) : (c.writeNr23 data).Bounded :=
  { h with regFrequency_le := Sweep.frequencyLsb_le .. }

theorem writeNr24_bounded (h : c.Bounded) (data : UInt8) : Total (c.writeNr24 data) Bounded := by
  refine (LengthCounter.writeNrx4_bounded (by decide) h.lengthCounter _ _).bind fun l hl => ?_
  have hc : Bounded { c with
      regFrequency := Sweep.frequencyMsb c.regFrequency data, lengthCounter := l } :=
    { h with regFrequency_le := Sweep.frequencyMsb_le .., lengthCounter := hl }
  exact afterNrx4_total hc { hc with dac := nofun } (trigger_bounded hc)

theorem clock_bounded (h : c.Bounded) : Total c.clock Bounded := by
  refine Meets.ite (fun _ => ?_) fun _ => ?_
  · exact { h with }
  refine (frequencyPeriod_total h.regFrequency_le le_rfl).bind fun _ _ => ?_
  refine Meets.ite (fun _ => ?_) fun _ => ?_
  · exact { h with sample_le := zero_le_sample }
  refine (squareSample_total h.envelope h.regWaveduty_lt h.dutyCycle_lt).bind fun _ hsample => ?_
  refine (nextDuty_total h.dutyCycle_lt).bind fun _ hnext => ?_
  exact { h with sample_le := hsample, dutyCycle_lt := hnext }

theorem lengthClock_bounded (h : c.Bounded) : c.lengthClock.Bounded :=
  { h with
    lengthCounter := LengthCounter.clock_bounded h.lengthCounter
    dac := fun he => h.dac (Bool.and_elim_left he) }

theorem shutdown_bounded (h : c.Bounded) : c.shutdown.Bounded where
  envelope := Envelope.shutdown_bounded c.envelope
  lengthCounter := LengthCounter.shutdown_bounded h.lengthCounter
  dutyCycle_lt := Nat.zero_lt_succ 7
  regWaveduty_lt := Nat.zero_lt_succ 3
  regFrequency_le := Nat.zero_le 2047
  sample_le := h.sample_le
  dac := nofun

end Channel2

/-! ### Channel 3 -/

namespace Channel3

structure Bounded (c : Channel3) : Prop where
  lengthCounter : c.lengthCounter.Bounded lengthCounterInit
  sampleIndex_lt : c.sampleIndex < 32
  lastSampleStep_le : c.lastSampleStep ≤ 0xFF
  regVolume_le : c.regVolume ≤ 3
  regFrequency_le : c.regFrequency ≤ 2047
  sample_le : c.sample ≤ 15
  dac : c.isEnabledFlag = true → c.regDacEnable = true

theorem new_bounded (ctx : GbCtx) : (new ctx).Bounded where
  lengthCounter := LengthCounter.new_bounded (by decide) ctx
  sampleIndex_lt := Nat.zero_lt_succ 31
  lastSampleStep_le := Nat.zero_le 0xFF
  regVolume_le := Nat.zero_le 3
  regFrequency_le := Nat.zero_le 2047
  sample_le := zero_le_sample
  dac := nofun

variable {c : Channel3}

theorem aligned_lt {i n : ℕ} (hi : i < 4) (hn : n < 16) : (n &&& 0xFC) + i < 16 := by
  have haligned : ∀ n < 16, n &&& 0xFC ≤ 12 := by decide
  have := haligned n hn
  omega

theorem triggerCorruption_total (h : c.sampleIndex < 32) :
    Total c.triggerCorruption fun _ => True := by
  have hnext : c.sampleIndex / 2 % 256 < 16 := by omega
  refine Meets.ite (fun _ => ?_) fun _ => trivial
  refine Meets.ite (fun _ => ?_) fun _ => ?_
  · rw [Mem.get_of_lt _ _ hnext, ok_bind, Mem.set_of_lt _ _ (by decide)]
    trivial
  · refine foldlM_invariant trivial fun i hi ram _ => ?_
    have hi : i < 4 := by simp at hi; omega
    rw [Mem.get_of_lt _ _ (aligned_lt hi hnext), ok_bind, Mem.set_of_lt _ _ (by omega)]
    trivial

theorem trigger_bounded (h : c.Bounded) : Total c.trigger Bounded :=
  (triggerCorruption_total h.sampleIndex_lt).bind fun _ _ =>
    { h with sampleIndex_lt := Nat.zero_lt_succ 31, dac := fun he => he }

theorem writeNr30_bounded (h : c.Bounded) (data : UInt8) : (c.writeNr30 data).Bounded :=
  { h with dac := fun he => Bool.and_elim_right he }

theorem writeNr31_bounded (h : c.Bounded) (data : UInt8) : Total (c.writeNr31 data) Bounded := by
  have hle : data.toNat ≤ lengthCounterInit := data.toNat_lt.le
  rw [writeNr31, checkedSub_of_le _ hle]
  exact { h with lengthCounter := LengthCounter.setCount_bounded h.lengthCounter (Nat.sub_le ..) }

theorem writeNr32_bounded (h : c.Bounded) (data : UInt8) : (c.writeNr32 data).Bounded :=
  { h with regVolume_le := toNat_volumeCode_le data }

theorem writeNr33_bounded (h : c.Bounded) (data : UInt8) : (c.writeNr33 data).Bounded :=
  { h with regFrequency_le := Sweep.frequencyLsb_le .. }

theorem writeNr34_bounded (h : c.Bounded) (data : UInt8) : Total (c.writeNr34 data) Bounded := by
  refine (LengthCounter.writeNrx4_bounded (by decide) h.lengthCounter _ _).bind fun l hl => ?_
  have hc : Bounded { c with
      regFrequency := Sweep.frequencyMsb c.regFrequency data, lengthCounter := l } :=
    { h with regFrequency_le := Sweep.frequencyMsb_le .., lengthCounter := hl }
  exact afterNrx4_total hc { hc with dac := nofun } (trigger_bounded hc)

theorem lastByteIndex_lt (h : c.sampleIndex < 32) : c.lastByteIndex < 16 := by
  rw [lastByteIndex]
  split <;> omega

theorem waveIndex_lt (addr : ℕ) : addr &&& 0xF < 16 := Nat.lt_succ_of_le Nat.and_le_right

theorem writeWaveRam_bounded (h : c.Bounded) (addr : ℕ) (data : UInt8) :
    Total (c.writeWaveRam addr data) Bounded := by
  refine Meets.ite (fun _ => Meets.ite (fun _ => ?_) fun _ => h) fun _ => ?_
  · rw [Mem.set_of_lt _ _ (lastByteIndex_lt h.sampleIndex_lt)]
    exact { h with }
  · rw [Mem.set_of_lt _ _ (waveIndex_lt addr)]
    exact { h with }

theorem readWaveRam_total (h : c.Bounded) (addr : ℕ) :
    Total (c.readWaveRam addr) fun _ => True := by
  refine Meets.ite (fun _ => Meets.ite (fun _ => ?_) fun _ => trivial) fun _ => ?_
  · rw [Mem.get_of_lt _ _ (lastByteIndex_lt h.sampleIndex_lt)]
    trivial
  · rw [Mem.get_of_lt _ _ (waveIndex_lt addr)]
    trivial

/-- A four-bit sample, shifted down by the volume code. -/
theorem waveSample_le (byte : UInt8) (even : Prop) [Decidable even] (n : UInt8) :
    (if even then byte >>> (4 : UInt8) else byte &&& (0xF : UInt8)) >>> n ≤ 15 := by
  have hle : (if even then byte >>> (4 : UInt8) else byte &&& (0xF : UInt8)).toNat ≤ 15 := by
    split
    · rw [UInt8.toNat_shiftRight, Nat.shiftRight_eq_div_pow]
      have := byte.toNat_lt
      show byte.toNat / 2 ^ 4 ≤ 15
      omega
    · exact toNat_and_le byte 0xF
  rw [UInt8.le_iff_toNat_le, UInt8.toNat_shiftRight]
  exact (Nat.shiftRight_le ..).trans hle

theorem lastSampleStep_total (h : c.lastSampleStep ≤ 0xFF) :
    Total (if c.lastSampleStep ≠ 0xFF then checkedAdd 16 .apuChannel c.lastSampleStep 1
      else pure c.lastSampleStep) (· ≤ 0xFF) := by
  refine Meets.ite (fun hne => ?_) fun _ => h
  rw [checkedAdd_of_lt _ (by omega)]
  show c.lastSampleStep + 1 ≤ 0xFF
  omega

theorem clock_bounded (h : c.Bounded) : Total c.clock Bounded := by
  rw [clock]
  refine Meets.ite_bind (lastSampleStep_total h.lastSampleStep_le) fun step hstep => ?_
  refine Meets.ite (fun _ => ?_) fun _ => ?_
  · exact { h with lastSampleStep_le := hstep }
  refine (frequencyPeriod_total h.regFrequency_le (by decide)).bind fun _ _ => ?_
  refine Meets.ite (fun _ => ?_) fun _ => ?_
  · exact { h with lastSampleStep_le := hstep, sample_le := zero_le_sample }
  have hbyte : c.sampleIndex / 2 < 16 := by have := h.sampleIndex_lt; omega
  have hindex : (c.sampleIndex + 1) % 32 < 32 := Nat.mod_lt _ (by decide)
  have hvolume := h.regVolume_le
  simp only [Mem.get_of_lt _ _ hbyte, ok_bind]
  split
  · exact { h with
      sampleIndex_lt := hindex, lastSampleStep_le := Nat.zero_le 0xFF
      sample_le := waveSample_le .. }
  · rw [checkedShrU8_of_lt _ (by omega)]
    exact { h with
      sampleIndex_lt := hindex, lastSampleStep_le := Nat.zero_le 0xFF
      sample_le := waveSample_le .. }

theorem lengthClock_bounded (h : c.Bounded) : c.lengthClock.Bounded :=
  { h with
    lengthCounter := LengthCounter.clock_bounded h.lengthCounter
    dac := fun he => h.dac (Bool.and_elim_left he) }

theorem shutdown_bounded (h : c.Bounded) : c.shutdown.Bounded where
  lengthCounter := LengthCounter.shutdown_bounded h.lengthCounter
  sampleIndex_lt := Nat.zero_lt_succ 31
  lastSampleStep_le := h.lastSampleStep_le
  regVolume_le := Nat.zero_le 3
  regFrequency_le := Nat.zero_le 2047
  sample_le := h.sample_le
  dac := nofun

end Channel3

/-! ### Channel 4 -/

namespace Channel4

structure Bounded (c : Channel4) : Prop where
  lengthCounter : c.lengthCounter.Bounded lengthCounterInit
  envelope : c.envelope.Bounded
  regClockShift_lt : c.regClockShift < 16
  regDivisor_lt : c.regDivisor < 8
  sample_le : c.sample ≤ 15
  dac : c.isEnabledFlag = true → c.regDacEnable = true

theorem new_bounded (ctx : GbCtx) : (new ctx).Bounded where
  lengthCounter := LengthCounter.new_bounded (by decide) ctx
  envelope := Envelope.new_bounded (by decide) (by decide)
  regClockShift_lt := Nat.zero_lt_succ 15
  regDivisor_lt := Nat.zero_lt_succ 7
  sample_le := zero_le_sample
  dac := nofun

variable {c : Channel4}

theorem calcFreq_total (h : c.Bounded) : Total c.calcFreq fun _ => True := by
  rw [calcFreq, Mem.get_of_lt _ _ h.regDivisor_lt, ok_bind, if_pos h.regClockShift_lt]
  trivial

theorem trigger_bounded (h : c.Bounded) : Total c.trigger Bounded :=
  (calcFreq_total h).bind fun _ _ =>
    { h with envelope := Envelope.trigger_bounded h.envelope, dac := fun he => he }

theorem writeNr41_bounded (h : c.Bounded) (data : UInt8) : Total (c.writeNr41 data) Bounded :=
  (lengthFromNrx1_total data).bind fun _ hcount =>
    { h with lengthCounter := LengthCounter.setCount_bounded h.lengthCounter hcount }

theorem writeNr42_bounded (h : c.Bounded) (data : UInt8) : (c.writeNr42 data).Bounded :=
  { h with
    envelope := Envelope.writeNrx2_bounded h.envelope data
    dac := fun he => Bool.and_elim_right he }

theorem writeNr43_bounded (h : c.Bounded) (data : UInt8) : (c.writeNr43 data).Bounded :=
  { h with
    regClockShift_lt := Nat.lt_succ_of_le (toNat_and_le _ 0xF)
    regDivisor_lt := Nat.lt_succ_of_le (toNat_and_le _ 0x7) }

theorem writeNr44_bounded (h : c.Bounded) (data : UInt8) : Total (c.writeNr44 data) Bounded := by
  refine (LengthCounter.writeNrx4_bounded (by decide) h.lengthCounter _ _).bind fun l hl => ?_
  have hc : Bounded { c with lengthCounter := l } := { h with lengthCounter := hl }
  exact afterNrx4_total hc { hc with dac := nofun } (trigger_bounded hc)

theorem lfsrBit_le (lfsr : UInt16) : (lfsr &&& (0x1 : UInt16)).toUInt8 ≤ 1 := by
  have h : (lfsr &&& (0x1 : UInt16)).toNat ≤ 1 := by
    rw [UInt16.toNat_and]
    exact Nat.and_le_right
  rw [UInt8.le_iff_toNat_le, UInt16.toNat_toUInt8]
  exact (Nat.mod_le ..).trans h

theorem clock_bounded (h : c.Bounded) : Total c.clock Bounded := by
  refine Meets.ite (fun _ => ?_) fun _ => ?_
  · exact { h with }
  refine (calcFreq_total h).bind fun _ _ => ?_
  refine Meets.ite (fun _ => ?_) fun _ => ?_
  · exact { h with sample_le := zero_le_sample }
  refine (checkedMulU8_bit_total (Envelope.getVolume_le h.envelope) (lfsrBit_le _)).bind
    fun _ hsample => ?_
  exact { h with sample_le := hsample }

theorem lengthClock_bounded (h : c.Bounded) : c.lengthClock.Bounded :=
  { h with
    lengthCounter := LengthCounter.clock_bounded h.lengthCounter
    dac := fun he => h.dac (Bool.and_elim_left he) }

theorem shutdown_bounded (h : c.Bounded) : c.shutdown.Bounded where
  lengthCounter := LengthCounter.shutdown_bounded h.lengthCounter
  envelope := Envelope.shutdown_bounded c.envelope
  regClockShift_lt := Nat.zero_lt_succ 15
  regDivisor_lt := Nat.zero_lt_succ 7
  sample_le := h.sample_le
  dac := nofun

end Channel4

end ZenithGb
