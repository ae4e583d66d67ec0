import ZenithGb.Apu.Trigger
import ZenithGb.Apu.Voice
import ZenithGb.Lib.Counter

/-!
# The waveforms of the square channels and of the wave channel

A trigger starts the timer of its channel, and from then on the channel is to go through its
waveform at the frequency of its registers, whatever happens to the other channels, to the length
counters and to the envelopes meanwhile. A square channel goes round the eight positions of its duty
wave, one in `(2048 - frequency) * 4` T-cycles. A trigger does not take it back to the first one.
The wave channel goes round the 32 samples of wave RAM, one in `(2048 - frequency) * 2` T-cycles,
but its first comes 6 T-cycles after the trigger.

A sweep moves the frequency of channel 1, so there this is about a sweep with shift 0.

## Main results

* `Apu.square_wave` — where a square channel is, and what is heard of it
* `Apu.sampled_wave` — the same of the wave channel
-/

namespace ZenithGb

open Outcome

/-! ### Shared by the channels -/

theorem frequencyPeriod_eq (frequency mult : ℕ) :
    Yields (frequencyPeriod frequency mult) (· = (2048 - frequency) * mult) := by
  refine Meets.bind (Q := (· = 2048 - frequency)) ?_ ?_
  · exact meets_of_ok fun n h => (checkedSub_eq_ok.mp h).2.symm
  · rintro _ rfl
    exact meets_of_ok fun n h => (checkedMul_eq_ok.mp h).2.symm

namespace Envelope

theorem disableIf_register (c : Prop) [Decidable c] (e : Envelope) :
    (if c then { e with enabled := false } else e).period = e.period ∧
      (if c then { e with enabled := false } else e).initialVolume = e.initialVolume := by
  split <;> exact ⟨rfl, rfl⟩

/-- A clock does not touch the register. -/
theorem clock_register (e : Envelope) : Yields e.clock fun e' =>
    e'.period = e.period ∧ e'.initialVolume = e.initialVolume := by
  refine .ite (fun _ => ⟨rfl, rfl⟩) fun _ => (yields_any _).bind fun n _ => ?_
  exact .ite (fun _ => ⟨rfl, rfl⟩) fun _ => disableIf_register _ _

end Envelope

namespace Sweep

/-- The shift and the frequency register are the same. -/
def SameRegister (s s' : Sweep) : Prop := s'.shift = s.shift ∧ s'.regFrequency = s.regFrequency

theorem calcFrequency_register (s : Sweep) :
    Yields s.calcFrequency fun r => s.SameRegister r.2 := by
  refine (yields_any _).bind fun n _ => ?_
  refine .ite (fun _ => (yields_any _).bind fun offset _ => ?_) fun _ => ?_
  · refine Meets.bind (Q := fun r : ℤ × Sweep => s.SameRegister r.2) ⟨rfl, rfl⟩ fun r hr => ?_
    exact (yields_any _).bind fun _ _ => hr
  · refine Meets.bind (Q := fun r : ℤ × Sweep => s.SameRegister r.2) ⟨rfl, rfl⟩ fun r hr => ?_
    exact (yields_any _).bind fun _ _ => hr

/-- With shift 0 a trigger and a clock do not move the frequency. -/
theorem trigger_of_shift {s : Sweep} (h : s.shift = 0) : Yields s.trigger fun r =>
    r.2.shift = 0 ∧ r.2.regFrequency = s.regFrequency :=
  .ite (fun hne => absurd h hne) fun _ => ⟨h, rfl⟩

theorem clock_of_shift {s : Sweep} (h : s.shift = 0) : Yields s.clock fun r =>
    r.2.shift = 0 ∧ r.2.regFrequency = s.regFrequency := by
  refine .ite (fun _ => ⟨h, rfl⟩) fun _ => (yields_any _).bind fun n _ => ?_
  refine .ite (fun _ => ⟨h, rfl⟩) fun _ => .ite (fun _ => ⟨h, rfl⟩) fun _ => ?_
  refine (calcFrequency_register _).bind fun r ⟨hshift, hfrequency⟩ => ?_
  have hzero : r.2.shift = 0 := hshift.trans h
  refine .ite (fun _ => ⟨hzero, hfrequency⟩) fun _ => ?_
  exact .ite (fun _ => ⟨hzero, hfrequency⟩) fun hne => absurd hzero hne

end Sweep

/-! ### Square channels -/

def dutyByte (waveduty : ℕ) : UInt8 :=
  dutyWave.cell ⟨waveduty % 4, Nat.mod_lt _ (Nat.succ_pos 3)⟩

/-- The bit of a duty wave at a position. -/
def dutyBit (waveduty position : ℕ) : UInt8 :=
  (dutyByte waveduty >>> UInt8.ofNat position) &&& 1

/-- What a square channel plays from. -/
structure Square where
  freqTimer : ℕ
  frequency : ℕ
  dutyCycle : ℕ
  waveduty : ℕ
  envelope : Envelope
  sample : UInt8

def Channel1.square (c : Channel1) : Square :=
  ⟨c.freqTimer, c.sweep.getFrequency, c.dutyCycle, c.regWaveduty, c.envelope, c.sample⟩

def Channel2.square (c : Channel2) : Square :=
  ⟨c.freqTimer, c.regFrequency, c.dutyCycle, c.regWaveduty, c.envelope, c.sample⟩

namespace Square

/-- The T-cycles of a position. -/
def period (s : Square) : ℕ := (2048 - s.frequency) * 4

/-- The bit of a position at the volume of the envelope, which a period of 0 holds at its initial
volume. -/
def Heard (s₀ : Square) (position : ℕ) (sample : UInt8) : Prop :=
  ∃ volume ≤ 15, sample = volume * dutyBit s₀.waveduty position ∧
    (s₀.envelope.period = 0 → volume = s₀.envelope.initialVolume)

/-- The channel with the settings of `s₀`, as a divider with a count and a place in the wave. -/
structure Plays (s₀ : Square) (x : ℕ × ℕ × Option ℕ) (s : Square) : Prop where
  frequency : s.frequency = s₀.frequency
  waveduty : s.waveduty = s₀.waveduty
  envelopePeriod : s.envelope.period = s₀.envelope.period
  initialVolume : s.envelope.initialVolume = s₀.envelope.initialVolume
  envelope : s.envelope.Bounded
  freqTimer : s.freqTimer = x.1
  dutyCycle : s.dutyCycle = x.2.1
  heard : ∀ position, x.2.2 = some position → s₀.Heard position s.sample

/-- A T-cycle of the divider. -/
def next (s₀ : Square) : ℕ × ℕ × Option ℕ → ℕ × ℕ × Option ℕ :=
  Divider.step s₀.period (Cycle.step 8)

variable {s₀ s : Square} {x : ℕ × ℕ × Option ℕ}

theorem Plays.wait (h : s₀.Plays x s) (hwait : 1 < s.freqTimer) :
    s₀.Plays (s₀.next x) { s with freqTimer := s.freqTimer - 1 } := by
  rw [next, Divider.step, if_neg (by rw [← h.freqTimer]; omega)]
  exact { h with freqTimer := congrArg (· - 1) h.freqTimer }

theorem heard_squareSample (h : s₀.Plays x s) :
    Yields (squareSample s.envelope s.waveduty s.dutyCycle) (s₀.Heard x.2.1) := by
  refine Meets.bind (Q := (· = dutyByte s₀.waveduty)) ?_ ?_
  · refine meets_of_ok fun wave hwave => ?_
    obtain ⟨hlt, hwave⟩ := Mem.get_eq_ok.mp hwave
    rw [← hwave, ← h.waveduty]
    congr 1
    exact Fin.ext (Nat.mod_eq_of_lt hlt).symm
  rintro _ rfl
  refine Meets.bind (Q := (· = dutyByte s₀.waveduty >>> UInt8.ofNat x.2.1)) ?_ ?_
  · rw [checkedShrU8, h.dutyCycle]
    exact .ite (fun _ => rfl) fun _ => trivial
  rintro _ rfl
  rw [checkedMulU8]
  have hvolume := Envelope.getVolume_le h.envelope
  refine .ite (fun _ => ⟨_, hvolume, rfl, fun hzero => ?_⟩) fun _ => trivial
  rw [Envelope.getVolume, if_pos (h.envelopePeriod.trans hzero), h.initialVolume]

theorem Plays.advance (h : s₀.Plays x s) (hlast : s.freqTimer ≤ 1) {sample : UInt8}
    (hsample : s₀.Heard x.2.1 sample) {next : ℕ} (hnext : s.dutyCycle + 1 = next) :
    s₀.Plays (s₀.next x)
      { s with freqTimer := (2048 - s.frequency) * 4, sample, dutyCycle := next &&& 0x7 } := by
  rw [Square.next, Divider.step, if_pos (h.freqTimer ▸ hlast)]
  refine { h with freqTimer := ?_, dutyCycle := ?_, heard := ?_ }
  · show (2048 - s.frequency) * 4 = _
    rw [h.frequency]
    rfl
  · show next &&& (2 ^ 3 - 1) = _
    rw [Nat.and_two_pow_sub_one_eq_mod, ← hnext, h.dutyCycle]
    rfl
  · rintro _ ⟨⟩
    exact hsample

/-- Where the channel is `t` T-cycles after its timer started at position `d`. -/
structure Sounds (s₀ : Square) (d t : ℕ) (s : Square) : Prop where
  freqTimer : s.freqTimer = s₀.period - t % s₀.period
  dutyCycle : s.dutyCycle = (d + t / s₀.period) % 8
  heard : s₀.period ≤ t → s₀.Heard ((d + (t / s₀.period - 1)) % 8) s.sample

theorem Plays.sounds {d t : ℕ} (hperiod : 1 ≤ s₀.period) (hd : d < 8)
    (h : s₀.Plays (s₀.next^[t] (s₀.period, d, none)) s) : s₀.Sounds d t s := by
  rw [next, Divider.iterate_full hperiod, Cycle.iterate_step hd] at h
  refine ⟨h.freqTimer, h.dutyCycle, fun hle => h.heard _ (if_neg ?_)⟩
  exact Nat.pos_iff_ne_zero.mp (Nat.div_pos hle hperiod)

end Square

namespace Channel1

variable {s₀ : Square} {x : ℕ × ℕ × Option ℕ} {c : Channel1}

/-- While the channel is enabled it plays, from a frequency that no sweep moves. -/
def Plays (s₀ : Square) (x : ℕ × ℕ × Option ℕ) (c : Channel1) : Prop :=
  c.isEnabled = true → c.sweep.shift = 0 ∧ s₀.Plays x c.square

theorem clock_isEnabled (c : Channel1) : Yields c.clock fun c' => c'.isEnabled = c.isEnabled := by
  refine .ite (fun _ => rfl) fun _ => (yields_any _).bind fun _ _ => .ite (fun _ => rfl) fun _ => ?_
  exact (yields_any _).bind fun _ _ => (yields_any _).bind fun _ _ => rfl

theorem Plays.clock (h : c.Plays s₀ x) : Yields c.clock (Plays s₀ (s₀.next x)) := by
  cases hon : c.isEnabled with
  | false =>
    refine c.clock_isEnabled.imp fun c' hc' hon' => ?_
    rw [hc', hon] at hon'
    cases hon'
  | true =>
    obtain ⟨hshift, h⟩ := h hon
    refine .ite (fun hwait => fun _ => ⟨hshift, h.wait hwait⟩) fun hlast => ?_
    refine (frequencyPeriod_eq ..).bind ?_
    rintro _ rfl
    refine .ite (fun hoff => ?_) fun _ => ?_
    · have hstill : ({ c with
          freqTimer := (2048 - c.sweep.getFrequency) * 4 } : Channel1).isEnabled = true := hon
      rw [hstill] at hoff
      cases hoff
    refine (Square.heard_squareSample h).bind fun sample hsample => ?_
    refine Meets.bind (Q := (c.dutyCycle + 1 = ·)) ?_ fun next hnext => fun _ => ?_
    · exact meets_of_ok fun next hnext => (checkedAdd_eq_ok.mp hnext).2
    · exact ⟨hshift, h.advance (Nat.not_lt.mp hlast) hsample hnext⟩

theorem Plays.lengthClock (h : c.Plays s₀ x) : c.lengthClock.Plays s₀ x := by
  intro hon
  refine h ?_
  rw [isEnabled, Channel1.lengthClock] at hon
  simp only [Bool.and_eq_true] at hon
  rw [isEnabled, hon.1.1, hon.2]
  rfl

theorem Plays.sweepClock (h : c.Plays s₀ x) : Yields c.sweepClock (Plays s₀ x) := by
  cases hon : c.isEnabled with
  | false =>
    refine (yields_any _).bind fun r _ => fun hon' => ?_
    simp only [isEnabled, Bool.and_eq_true, Bool.and_eq_false_iff] at hon hon'
    rcases hon with hoff | hoff
    · rw [hon'.1.1] at hoff
      cases hoff
    · rw [hon'.2] at hoff
      cases hoff
  | true =>
    obtain ⟨hshift, h⟩ := h hon
    refine (Sweep.clock_of_shift hshift).bind fun r ⟨hzero, hfrequency⟩ => fun _ => ⟨hzero, ?_⟩
    exact { h with frequency := hfrequency.trans h.frequency }

theorem Plays.envelopeClock (h : c.Plays s₀ x) :
    Yields c.envelope.clock fun envelope => Plays s₀ x { c with envelope } := by
  refine meets_of_ok fun envelope hclock => fun hon => ?_
  obtain ⟨hshift, h⟩ := h hon
  obtain ⟨hperiod, hinitial⟩ := c.envelope.clock_register.of_ok hclock
  exact ⟨hshift, { h with
    envelopePeriod := hperiod.trans h.envelopePeriod
    initialVolume := hinitial.trans h.initialVolume
    envelope := (Envelope.clock_bounded h.envelope).of_ok hclock }⟩

/-- A trigger starts the timer, at the position where the channel is. -/
theorem writeNr14_plays (h : c.Bounded) (hshift : c.sweep.shift = 0) {data : UInt8}
    (hdata : (data &&& 0x80 != 0) = true) : Yields (c.writeNr14 data) fun c' =>
      c'.Plays c'.square (c'.square.period, c.dutyCycle, none) := by
  have hmsb : (c.sweep.setFrequencyMsb data).shift = 0 := hshift
  simp only [writeNr14, hdata]
  refine (yields_any _).bind fun l _ => ?_
  refine .ite (fun _ => fun hon => ?_) fun _ => .ite (fun _ => ?_) fun hnot => ?_
  · cases hon
  · refine (frequencyPeriod_eq ..).bind ?_
    rintro _ rfl
    refine (Sweep.trigger_of_shift hmsb).bind ?_
    rintro r ⟨hzero, hfrequency⟩
    refine fun _ => ⟨hzero, rfl, rfl, rfl, rfl, ?_, ?_, rfl, ?_⟩
    · exact Envelope.trigger_bounded h.envelope
    · show (2048 - Sweep.getFrequency _) * 4 = (2048 - Sweep.getFrequency _) * 4
      rw [Sweep.getFrequency, Sweep.getFrequency, hfrequency]
    · rintro _ ⟨⟩
  · exact absurd rfl hnot

end Channel1

namespace Channel2

variable {s₀ : Square} {x : ℕ × ℕ × Option ℕ} {c : Channel2}

/-- While the channel is enabled it plays. -/
def Plays (s₀ : Square) (x : ℕ × ℕ × Option ℕ) (c : Channel2) : Prop :=
  c.isEnabled = true → s₀.Plays x c.square

theorem clock_isEnabled (c : Channel2) : Yields c.clock fun c' => c'.isEnabled = c.isEnabled := by
  refine .ite (fun _ => rfl) fun _ => (yields_any _).bind fun _ _ => .ite (fun _ => rfl) fun _ => ?_
  exact (yields_any _).bind fun _ _ => (yields_any _).bind fun _ _ => rfl

theorem Plays.clock (h : c.Plays s₀ x) : Yields c.clock (Plays s₀ (s₀.next x)) := by
  cases hon : c.isEnabled with
  | false =>
    refine c.clock_isEnabled.imp fun c' hc' hon' => ?_
    rw [hc', hon] at hon'
    cases hon'
  | true =>
    have h := h hon
    refine .ite (fun hwait => fun _ => h.wait hwait) fun hlast => ?_
    refine (frequencyPeriod_eq ..).bind ?_
    rintro _ rfl
    refine .ite (fun hoff => ?_) fun _ => ?_
    · have hstill : ({ c with freqTimer := (2048 - c.regFrequency) * 4 } : Channel2).isEnabled =
          true := hon
      rw [hstill] at hoff
      cases hoff
    refine (Square.heard_squareSample h).bind fun sample hsample => ?_
    refine Meets.bind (Q := (c.dutyCycle + 1 = ·)) ?_ fun next hnext => fun _ => ?_
    · exact meets_of_ok fun next hnext => (checkedAdd_eq_ok.mp hnext).2
    · exact h.advance (Nat.not_lt.mp hlast) hsample hnext

theorem Plays.lengthClock (h : c.Plays s₀ x) : c.lengthClock.Plays s₀ x := by
  intro hon
  refine h ?_
  rw [isEnabled, Channel2.lengthClock] at hon
  simp only [Bool.and_eq_true] at hon
  rw [isEnabled, hon.1.1, hon.2]
  rfl

theorem Plays.envelopeClock (h : c.Plays s₀ x) :
    Yields c.envelope.clock fun envelope => Plays s₀ x { c with envelope } := by
  refine meets_of_ok fun envelope hclock => fun hon => ?_
  have h := h hon
  obtain ⟨hperiod, hinitial⟩ := c.envelope.clock_register.of_ok hclock
  exact { h with
    envelopePeriod := hperiod.trans h.envelopePeriod
    initialVolume := hinitial.trans h.initialVolume
    envelope := (Envelope.clock_bounded h.envelope).of_ok hclock }

/-- A trigger starts the timer, at the position where the channel is. -/
theorem writeNr24_plays (h : c.Bounded) {data : UInt8} (hdata : (data &&& 0x80 != 0) = true) :
    Yields (c.writeNr24 data) fun c' =>
      c'.Plays c'.square (c'.square.period, c.dutyCycle, none) := by
  simp only [writeNr24, hdata]
  refine (yields_any _).bind fun l _ => ?_
  refine .ite (fun _ => fun hon => ?_) fun _ => .ite (fun _ => ?_) fun hnot => ?_
  · cases hon
  · refine (frequencyPeriod_eq ..).bind ?_
    rintro _ rfl
    refine fun _ => ⟨rfl, rfl, rfl, rfl, ?_, rfl, rfl, ?_⟩
    · exact Envelope.trigger_bounded h.envelope
    · rintro _ ⟨⟩
  · exact absurd rfl hnot

end Channel2

/-! ### The wave channel -/

namespace Channel3

/-- A sample of wave RAM at the volume of NR32. -/
def level (c : Channel3) (index : ℕ) : UInt8 :=
  let byte := c.waveRam.cell (Fin.ofNat 16 (index / 2))
  let waveSample : UInt8 := if index % 2 = 0 then byte >>> 4 else byte &&& 0xF
  match c.regVolume with
  | 0 => waveSample >>> 4
  | volShift + 1 => waveSample >>> UInt8.ofNat volShift

/-- The T-cycles of a sample. -/
def period (c : Channel3) : ℕ := (2048 - c.regFrequency) * 2

/-- While it is enabled, the channel with the settings of `c₀` is a divider with a count and a place
in wave RAM. -/
structure PlaysOn (c₀ : Channel3) (x : ℕ × ℕ × Option ℕ) (c : Channel3) : Prop where
  regFrequency : c.regFrequency = c₀.regFrequency
  regVolume : c.regVolume = c₀.regVolume
  waveRam : c.waveRam = c₀.waveRam
  freqTimer : c.freqTimer = x.1
  sampleIndex : c.sampleIndex = x.2.1
  heard : ∀ index, x.2.2 = some index → c.sample = c₀.level index

def Plays (c₀ : Channel3) (x : ℕ × ℕ × Option ℕ) (c : Channel3) : Prop :=
  c.isEnabled = true → c₀.PlaysOn x c

/-- A T-cycle of the divider. -/
def next (c₀ : Channel3) : ℕ × ℕ × Option ℕ → ℕ × ℕ × Option ℕ :=
  Divider.step c₀.period (Cycle.step 32)

variable {c₀ c : Channel3} {x : ℕ × ℕ × Option ℕ}

theorem clock_isEnabled (c : Channel3) : Yields c.clock fun c' => c'.isEnabled = c.isEnabled := by
  refine Meets.ite_bind (yields_any _) fun step _ => ?_
  refine .ite (fun _ => rfl) fun _ => (yields_any _).bind fun _ _ => .ite (fun _ => rfl) fun _ => ?_
  refine (yields_any _).bind fun _ _ => ?_
  simp only
  split
  · rfl
  · exact (yields_any _).bind fun _ _ => rfl

theorem PlaysOn.wait (h : c₀.PlaysOn x c) (hwait : 1 < c.freqTimer) (lastSampleStep : ℕ) :
    c₀.PlaysOn (c₀.next x) { c with lastSampleStep, freqTimer := c.freqTimer - 1 } := by
  rw [next, Divider.step, if_neg (by rw [← h.freqTimer]; omega)]
  exact { h with freqTimer := congrArg (· - 1) h.freqTimer }

theorem PlaysOn.advance (h : c₀.PlaysOn x c) (hlast : c.freqTimer ≤ 1) {sample : UInt8}
    (hsample : sample = c.level c.sampleIndex) :
    c₀.PlaysOn (c₀.next x) { c with
      freqTimer := (2048 - c.regFrequency) * 2, sample, sampleIndex := (c.sampleIndex + 1) % 32
      lastSampleStep := 0 } := by
  rw [next, Divider.step, if_pos (h.freqTimer ▸ hlast)]
  refine { h with freqTimer := ?_, sampleIndex := ?_, heard := ?_ }
  · show (2048 - c.regFrequency) * 2 = _
    rw [h.regFrequency]
    rfl
  · show (c.sampleIndex + 1) % 32 = _
    rw [h.sampleIndex]
    rfl
  · rintro _ ⟨⟩
    show sample = _
    rw [hsample, level, level, h.regVolume, h.waveRam, h.sampleIndex]

theorem Plays.clock (h : c₀.Plays x c) : Yields c.clock (c₀.Plays (c₀.next x)) := by
  cases hon : c.isEnabled with
  | false =>
    refine c.clock_isEnabled.imp fun c' hc' hon' => ?_
    rw [hc', hon] at hon'
    cases hon'
  | true =>
    have h := h hon
    refine Meets.ite_bind (yields_any _) fun step _ => ?_
    refine .ite (fun hwait => fun _ => h.wait hwait step) fun hlast => ?_
    refine (frequencyPeriod_eq ..).bind ?_
    rintro _ rfl
    refine .ite (fun hoff => ?_) fun _ => ?_
    · have hstill : ({ c with
          lastSampleStep := step, freqTimer := (2048 - c.regFrequency) * 2 } : Channel3).isEnabled =
            true := hon
      rw [hstill] at hoff
      cases hoff
    refine Meets.bind (Q := (· = c.waveRam.cell (Fin.ofNat 16 (c.sampleIndex / 2)))) ?_ ?_
    · refine meets_of_ok fun byte hbyte => ?_
      obtain ⟨hlt, hbyte⟩ := Mem.get_eq_ok.mp hbyte
      rw [← hbyte]
      congr 1
      exact Fin.ext (Nat.mod_eq_of_lt hlt).symm
    rintro _ rfl
    simp only
    split
    case h_1 hzero =>
      refine fun _ => h.advance (Nat.not_lt.mp hlast) ?_
      rw [level, hzero]
    case h_2 volShift hshift =>
      refine Meets.bind (Q := (· = c.level c.sampleIndex)) ?_ fun sample hsample => fun _ => ?_
      · rw [level, hshift, checkedShrU8]
        exact .ite (fun _ => rfl) fun _ => trivial
      · exact h.advance (Nat.not_lt.mp hlast) hsample

theorem Plays.lengthClock (h : c₀.Plays x c) : c₀.Plays x c.lengthClock := by
  intro hon
  have hbefore : c.isEnabled = true := by
    rw [isEnabled, Channel3.lengthClock] at hon
    simp only [Bool.and_eq_true] at hon
    rw [isEnabled, hon.1.1, hon.2]
    rfl
  exact { h hbefore with }

/-- A trigger starts the timer with a count of 6, at the first sample. -/
theorem writeNr34_plays {data : UInt8} (hdata : (data &&& 0x80 != 0) = true) :
    Yields (c.writeNr34 data) fun c' => c'.Plays (6, 0, none) c' := by
  simp only [writeNr34, hdata]
  refine (yields_any _).bind fun l _ => ?_
  refine .ite (fun _ => fun hon => ?_) fun _ => .ite (fun _ => ?_) fun hnot => ?_
  · cases hon
  · refine (yields_any _).bind fun _ _ => fun _ => ⟨rfl, rfl, rfl, rfl, rfl, ?_⟩
    rintro _ ⟨⟩
  · exact absurd rfl hnot

/-- Where the channel is `t` T-cycles after its trigger. -/
structure Sounds (c₀ : Channel3) (t : ℕ) (c : Channel3) : Prop where
  waits : t < 6 → c.freqTimer = 6 - t ∧ c.sampleIndex = 0
  freqTimer : 6 ≤ t → c.freqTimer = c₀.period - (t - 6) % c₀.period
  sampleIndex : 6 ≤ t → c.sampleIndex = ((t - 6) / c₀.period + 1) % 32
  heard : 6 ≤ t → c.sample = c₀.level ((t - 6) / c₀.period % 32)

theorem PlaysOn.sounds {t : ℕ} (hperiod : 1 ≤ c₀.period)
    (h : c₀.PlaysOn (c₀.next^[t] (6, 0, none)) c) : c₀.Sounds t c := by
  rw [next, Divider.iterate_delayed (by decide) hperiod] at h
  by_cases hwaits : t < 6
  · rw [if_pos hwaits] at h
    exact ⟨fun _ => ⟨h.freqTimer, h.sampleIndex⟩, fun hle => by omega, fun hle => by omega,
      fun hle => by omega⟩
  · rw [if_neg hwaits, Cycle.iterate_step (by decide), Nat.zero_add, if_neg (Nat.succ_ne_zero _),
      Nat.zero_add, Nat.add_sub_cancel] at h
    exact ⟨fun hlt => absurd hlt hwaits, fun _ => h.freqTimer, fun _ => h.sampleIndex,
      fun _ => h.heard _ rfl⟩

end Channel3

/-! ### The unit -/

namespace Apu

/-- The two square channels. -/
inductive SquareNo
  | one | two
  deriving DecidableEq, Repr

def SquareNo.channelNo : SquareNo → ChannelNo
  | .one => .one
  | .two => .two

def squareOf (a : Apu) : SquareNo → Square
  | .one => a.channel1.square
  | .two => a.channel2.square

variable {a a₀ a' : Apu}

theorem voice_one (s₀ : Square) (x : ℕ × ℕ × Option ℕ) :
    Voice .one fun t a => a.channel1.Plays s₀ (s₀.next^[t] x) where
  same := by
    intro t a a' hsame h
    rwa [show a'.channel1 = a.channel1 from hsame]
  channels h := by
    rw [Function.iterate_succ_apply']
    exact clockChannels_one h.clock
  lengths h := h.lengthClock
  sweep h := h.sweepClock
  envelopes h := h.envelopeClock.bind fun _ h => (yields_any _).bind fun _ _ =>
    (yields_any _).bind fun _ _ => h
  copies _ h := h
  shutdown _ := by
    intro hon
    cases hon

theorem voice_two (s₀ : Square) (x : ℕ × ℕ × Option ℕ) :
    Voice .two fun t a => a.channel2.Plays s₀ (s₀.next^[t] x) where
  same := by
    intro t a a' hsame h
    rwa [show a'.channel2 = a.channel2 from hsame]
  channels h := by
    rw [Function.iterate_succ_apply']
    exact clockChannels_two h.clock
  lengths h := h.lengthClock
  sweep h := (yields_any _).imp fun _ _ => h
  envelopes h := (yields_any _).bind fun _ _ => h.envelopeClock.bind fun _ h =>
    (yields_any _).bind fun _ _ => h
  copies _ h := h
  shutdown _ := by
    intro hon
    cases hon

theorem voice_three (c₀ : Channel3) (x : ℕ × ℕ × Option ℕ) :
    Voice .three fun t a => c₀.Plays (c₀.next^[t] x) a.channel3 where
  same := by
    intro t a a' hsame h
    rwa [show a'.channel3 = a.channel3 from hsame]
  channels h := by
    rw [Function.iterate_succ_apply']
    exact clockChannels_three h.clock
  lengths h := h.lengthClock
  sweep h := (yields_any _).imp fun _ _ => h
  envelopes h := (yields_any _).bind fun _ _ => (yields_any _).bind fun _ _ =>
    (yields_any _).bind fun _ _ => h
  copies _ h := fun hon => { h hon with }
  shutdown _ := by
    intro hon
    cases hon

theorem whenEnabled_on (hon : a.audioEnabled = true) (write : Checked Apu) :
    a.whenEnabled write = write := by
  rw [whenEnabled, hon]
  rfl

/-- A trigger starts a square channel where it is. -/
theorem trigger_plays_one (h : a.Bounded) (hon : a.audioEnabled = true) {data : UInt8}
    (hdata : data &&& 0x80 ≠ 0) (hshift : a.channel1.sweep.shift = 0) :
    Yields (step (.write .nr14 data) a) fun a₀ => a₀.channel1.Plays a₀.channel1.square
      (a₀.channel1.square.period, a.channel1.dutyCycle, none) := by
  rw [step_write]
  show Yields (a.whenEnabled _) _
  rw [whenEnabled_on hon]
  exact (Channel1.writeNr14_plays h.channel1 hshift (by simpa using hdata)).bind fun _ hc => hc

theorem trigger_plays_two (h : a.Bounded) (hon : a.audioEnabled = true) {data : UInt8}
    (hdata : data &&& 0x80 ≠ 0) :
    Yields (step (.write .nr24 data) a) fun a₀ => a₀.channel2.Plays a₀.channel2.square
      (a₀.channel2.square.period, a.channel2.dutyCycle, none) := by
  rw [step_write]
  show Yields (a.whenEnabled _) _
  rw [whenEnabled_on hon]
  exact (Channel2.writeNr24_plays h.channel2 (by simpa using hdata)).bind fun _ hc => hc

theorem trigger_plays_three (hon : a.audioEnabled = true) {data : UInt8}
    (hdata : data &&& 0x80 ≠ 0) :
    Yields (step (.write .nr34 data) a) fun a₀ => a₀.channel3.Plays (6, 0, none) a₀.channel3 := by
  rw [step_write]
  show Yields (a.whenEnabled _) _
  rw [whenEnabled_on hon]
  exact (Channel3.writeNr34_plays (by simpa using hdata)).bind fun _ hc => hc

theorem one_le_period_one (h : a.Bounded) : 1 ≤ a.channel1.square.period := by
  have hfrequency := h.channel1.sweep.regFrequency_le
  show 1 ≤ (2048 - a.channel1.sweep.regFrequency) * 4
  omega

theorem one_le_period_two (h : a.Bounded) : 1 ≤ a.channel2.square.period := by
  have hfrequency := h.channel2.regFrequency_le
  show 1 ≤ (2048 - a.channel2.regFrequency) * 4
  omega

theorem one_le_period_three (h : a.Bounded) : 1 ≤ a.channel3.period := by
  have hfrequency := h.channel3.regFrequency_le
  show 1 ≤ (2048 - a.channel3.regFrequency) * 2
  omega

/-- **The square channels.** From a trigger on, and until its registers are written again, a square
channel that is still enabled has gone round its duty wave by one position for each
`(2048 - frequency) * 4` T-cycles, and what is heard is the bit of the last position at the volume
of the envelope. For channel 1 this is without a sweep. -/
theorem square_wave (h : a.Reachable) (hon : a.audioEnabled = true) (n : SquareNo) {data : UInt8}
    (hdata : data &&& 0x80 ≠ 0) (hshift : n = .one → a.channel1.sweep.shift = 0)
    (htrigger : step (.write (nrx4 n.channelNo) data) a = .ok a₀) {ops : List Op}
    (hops : ∀ op ∈ ops, op.writesTo n.channelNo = false)
    (hrun : Machine.exec step ops a₀ = .ok a') (henabled : a'.isEnabledOf n.channelNo = true) :
    (a₀.squareOf n).Sounds (a.squareOf n).dutyCycle (ops.map Player.tCycles).sum
      (a'.squareOf n) := by
  have hbounded : a₀.Bounded := (Reachable.bounded (.step _ h htrigger))
  cases n with
  | one =>
    have hplays := (trigger_plays_one h.bounded hon hdata (hshift rfl)).of_ok htrigger
    have hend := ((voice_one _ _).exec (t := 0) hops hplays).of_ok hrun henabled
    rw [Nat.zero_add] at hend
    exact hend.2.sounds (one_le_period_one hbounded) h.bounded.channel1.dutyCycle_lt
  | two =>
    have hplays := (trigger_plays_two h.bounded hon hdata).of_ok htrigger
    have hend := ((voice_two _ _).exec (t := 0) hops hplays).of_ok hrun henabled
    rw [Nat.zero_add] at hend
    exact hend.sounds (one_le_period_two hbounded) h.bounded.channel2.dutyCycle_lt

/-- Channels 2 and 3 at the highest frequency. -/
def shrill : Checked Apu :=
  Machine.exec step
    [.write .nr22 0xF0, .write .nr23 0xFF, .write .nr30 0x80, .write .nr33 0xFF]
    (new (.ofMode .modeDmg))

theorem square_wave_shrill : ∃ a a₀ a' : Apu, shrill = .ok a ∧
    step (.write .nr24 0x87) a = .ok a₀ ∧ Machine.exec step [.clock, .clock] a₀ = .ok a' ∧
      (a₀.squareOf .two).Sounds (a.squareOf .two).dutyCycle 8 (a'.squareOf .two) := by
  have hrun : (do
      let a ← shrill
      let a₀ ← step (.write .nr24 0x87) a
      let a' ← Machine.exec step [.clock, .clock] a₀
      return (a.audioEnabled, a'.isEnabledOf .two)) = .ok (true, true) := by decide +kernel
  obtain ⟨a, ha, hrun⟩ := bind_eq_ok.mp hrun
  obtain ⟨a₀, ha₀, hrun⟩ := bind_eq_ok.mp hrun
  obtain ⟨a', ha', hrun⟩ := bind_eq_ok.mp hrun
  obtain ⟨hon, henabled⟩ := Prod.ext_iff.mp (ok_inj.mp hrun)
  have hreach : a.Reachable := .exec (.start ⟨_, rfl⟩) ha
  exact ⟨a, a₀, a', ha, ha₀, ha', square_wave hreach hon .two (by decide) (fun h => by cases h) ha₀
    (by decide) ha' henabled⟩

/-- **The wave channel.** From a trigger on, and until its registers or wave RAM are written again,
the wave channel, while enabled, reads its first sample after 6 T-cycles and then one for each
`(2048 - frequency) * 2`, round and round the 32 of wave RAM. What is heard is the last of them at
the volume of NR32. -/
theorem sampled_wave (h : a.Reachable) (hon : a.audioEnabled = true) {data : UInt8}
    (hdata : data &&& 0x80 ≠ 0) (htrigger : step (.write .nr34 data) a = .ok a₀) {ops : List Op}
    (hops : ∀ op ∈ ops, op.writesTo .three = false)
    (hrun : Machine.exec step ops a₀ = .ok a') (henabled : a'.isEnabledOf .three = true) :
    a₀.channel3.Sounds (ops.map Player.tCycles).sum a'.channel3 := by
  have hbounded : a₀.Bounded := (Reachable.bounded (.step _ h htrigger))
  have hplays := (trigger_plays_three hon hdata).of_ok htrigger
  have hend := ((voice_three _ _).exec (t := 0) hops hplays).of_ok hrun henabled
  rw [Nat.zero_add] at hend
  exact hend.sounds (one_le_period_three hbounded)

theorem sampled_wave_shrill : ∃ a a₀ a' : Apu, shrill = .ok a ∧
    step (.write .nr34 0x87) a = .ok a₀ ∧ Machine.exec step [.clock, .clock] a₀ = .ok a' ∧
      a₀.channel3.Sounds 8 a'.channel3 := by
  have hrun : (do
      let a ← shrill
      let a₀ ← step (.write .nr34 0x87) a
      let a' ← Machine.exec step [.clock, .clock] a₀
      return (a.audioEnabled, a'.isEnabledOf .three)) = .ok (true, true) := by decide +kernel
  obtain ⟨a, ha, hrun⟩ := bind_eq_ok.mp hrun
  obtain ⟨a₀, ha₀, hrun⟩ := bind_eq_ok.mp hrun
  obtain ⟨a', ha', hrun⟩ := bind_eq_ok.mp hrun
  obtain ⟨hon, henabled⟩ := Prod.ext_iff.mp (ok_inj.mp hrun)
  have hreach : a.Reachable := .exec (.start ⟨_, rfl⟩) ha
  exact ⟨a, a₀, a', ha, ha₀, ha', sampled_wave hreach hon (by decide) ha₀ (by decide) ha' henabled⟩

end Apu

end ZenithGb
