import ZenithGb.Apu.Sequencer

/-!
# The sound unit while it is off

Turning the sound off clears the channels and the master registers. While it is off the clocks
go on, the frame sequencer goes on ticking, and most register writes are ignored one by one: each
has a test of its own. The length registers are the exception, since DMG accepts them. `Off` is
what the rest of the unit relies on meanwhile, so that it stays silent and its registers read as
cleared.

## Main results

* `Apu.step_off` — the unit stays off under everything but the operation that turns it on
* `Apu.Off.read` — what its registers read meanwhile
* `Apu.powered_off_inert` — both, for every sequence of operations after it was turned off
-/

namespace ZenithGb

open Outcome

/-! ### Units that have been shut down -/

theorem Sweep.clock_new : Sweep.new.clock = .ok (false, .new) := rfl

theorem Envelope.clock_cleared : (Envelope.new 0 false 0).clock = .ok (.new 0 false 0) := rfl

theorem LengthCounter.shutdown_enabled (l : LengthCounter) : l.shutdown.enabled = false := by
  rw [shutdown]
  split <;> rfl

/-- The duty bits of NR11 and NR21 are masked out. -/
theorem maskedDuty (data : UInt8) :
    (((data &&& (0x3F : UInt8)) >>> 6) &&& (0x3 : UInt8)).toNat = 0 := by
  have hle : (data &&& (0x3F : UInt8)).toNat ≤ 0x3F := toNat_and_le data 0x3F
  have hzero : ((data &&& (0x3F : UInt8)) >>> 6).toNat = 0 := by
    rw [UInt8.toNat_shiftRight, Nat.shiftRight_eq_div_pow]
    show (data &&& (0x3F : UInt8)).toNat / 2 ^ 6 = 0
    omega
  rw [UInt8.toNat_and, hzero, Nat.zero_and]

/-! ### Channels that have been shut down -/

namespace Channel1

/-- What is left of the channel while the sound is off. -/
structure Off (c : Channel1) : Prop where
  isEnabledFlag : c.isEnabledFlag = false
  regDacEnable : c.regDacEnable = false
  regWaveduty : c.regWaveduty = 0
  sweep : c.sweep = .new
  envelope : c.envelope = .new 0 false 0
  lengthCounter : c.lengthCounter.enabled = false

theorem shutdown_off (c : Channel1) : c.shutdown.Off :=
  ⟨rfl, rfl, rfl, rfl, rfl, LengthCounter.shutdown_enabled _⟩

variable {c : Channel1}

theorem Off.isEnabled (h : c.Off) : c.isEnabled = false := by
  rw [Channel1.isEnabled, h.isEnabledFlag, Bool.false_and]

theorem Off.lengthClock (h : c.Off) : c.lengthClock = c := by
  rw [Channel1.lengthClock, LengthCounter.clock_of_disabled h.lengthCounter]
  simp

theorem Off.sweepClock (h : c.Off) : c.sweepClock = .ok c := by
  have hclock : c.sweep.clock = .ok (false, c.sweep) := by rw [h.sweep, Sweep.clock_new]
  rw [Channel1.sweepClock, hclock, ok_bind]
  show Except.ok { c with isEnabledFlag := c.isEnabledFlag && !false } = .ok c
  simp

theorem Off.clock (h : c.Off) : Yields c.clock Off := by
  refine Meets.ite (fun _ => { h with }) fun _ => (yields_any _).bind fun _ _ => ?_
  exact Meets.ite (fun _ => { h with }) fun _ => (yields_any _).bind fun _ _ =>
    (yields_any _).bind fun _ _ => { h with }

theorem Off.writeNr11 (h : c.Off) (data : UInt8) : Yields (c.writeNr11 (data &&& 0x3F)) Off :=
  (yields_any _).bind fun _ _ => { h with regWaveduty := maskedDuty data }

end Channel1

namespace Channel2

/-- What is left of the channel while the sound is off. -/
structure Off (c : Channel2) : Prop where
  isEnabledFlag : c.isEnabledFlag = false
  regDacEnable : c.regDacEnable = false
  regWaveduty : c.regWaveduty = 0
  envelope : c.envelope = .new 0 false 0
  lengthCounter : c.lengthCounter.enabled = false

theorem shutdown_off (c : Channel2) : c.shutdown.Off :=
  ⟨rfl, rfl, rfl, rfl, LengthCounter.shutdown_enabled _⟩

variable {c : Channel2}

theorem Off.isEnabled (h : c.Off) : c.isEnabled = false := by
  rw [Channel2.isEnabled, h.isEnabledFlag, Bool.false_and]

theorem Off.lengthClock (h : c.Off) : c.lengthClock = c := by
  rw [Channel2.lengthClock, LengthCounter.clock_of_disabled h.lengthCounter]
  simp

theorem Off.clock (h : c.Off) : Yields c.clock Off := by
  refine Meets.ite (fun _ => { h with }) fun _ => (yields_any _).bind fun _ _ => ?_
  exact Meets.ite (fun _ => { h with }) fun _ => (yields_any _).bind fun _ _ =>
    (yields_any _).bind fun _ _ => { h with }

theorem Off.writeNr21 (h : c.Off) (data : UInt8) : Yields (c.writeNr21 (data &&& 0x3F)) Off :=
  (yields_any _).bind fun _ _ => { h with regWaveduty := maskedDuty data }

end Channel2

namespace Channel3

/-- What is left of the channel while the sound is off. -/
structure Off (c : Channel3) : Prop where
  isEnabledFlag : c.isEnabledFlag = false
  regDacEnable : c.regDacEnable = false
  regVolume : c.regVolume = 0
  lengthCounter : c.lengthCounter.enabled = false

theorem shutdown_off (c : Channel3) : c.shutdown.Off :=
  ⟨rfl, rfl, rfl, LengthCounter.shutdown_enabled _⟩

variable {c : Channel3}

theorem Off.isEnabled (h : c.Off) : c.isEnabled = false := by
  rw [Channel3.isEnabled, h.isEnabledFlag, Bool.false_and]

theorem Off.lengthClock (h : c.Off) : c.lengthClock = c := by
  rw [Channel3.lengthClock, LengthCounter.clock_of_disabled h.lengthCounter]
  simp

theorem Off.clock (h : c.Off) : Yields c.clock Off := by
  refine Meets.ite_bind (yields_any _) fun step _ => ?_
  refine Meets.ite (fun _ => { h with }) fun _ => (yields_any _).bind fun _ _ => ?_
  refine Meets.ite (fun _ => { h with }) fun hrun => absurd ?_ hrun
  show (!c.isEnabled) = true
  rw [h.isEnabled]
  rfl

theorem Off.writeNr31 (h : c.Off) (data : UInt8) : Yields (c.writeNr31 data) Off :=
  (yields_any _).bind fun _ _ => { h with }

theorem Off.writeWaveRam (h : c.Off) (addr : ℕ) (data : UInt8) :
    Yields (c.writeWaveRam addr data) Off :=
  Meets.ite (fun _ => Meets.ite (fun _ => (yields_any _).bind fun _ _ => { h with }) fun _ => h)
    fun _ => (yields_any _).bind fun _ _ => { h with }

end Channel3

namespace Channel4

/-- What is left of the channel while the sound is off. -/
structure Off (c : Channel4) : Prop where
  isEnabledFlag : c.isEnabledFlag = false
  regDacEnable : c.regDacEnable = false
  regClockShift : c.regClockShift = 0
  regLfsr7bit : c.regLfsr7bit = false
  regDivisor : c.regDivisor = 0
  envelope : c.envelope = .new 0 false 0
  lengthCounter : c.lengthCounter.enabled = false

theorem shutdown_off (c : Channel4) : c.shutdown.Off :=
  ⟨rfl, rfl, rfl, rfl, rfl, rfl, LengthCounter.shutdown_enabled _⟩

variable {c : Channel4}

theorem Off.isEnabled (h : c.Off) : c.isEnabled = false := by
  rw [Channel4.isEnabled, h.isEnabledFlag, Bool.false_and]

theorem Off.lengthClock (h : c.Off) : c.lengthClock = c := by
  rw [Channel4.lengthClock, LengthCounter.clock_of_disabled h.lengthCounter]
  simp

theorem Off.clock (h : c.Off) : Yields c.clock Off := by
  refine Meets.ite (fun _ => { h with }) fun _ => (yields_any _).bind fun _ _ => ?_
  exact Meets.ite (fun _ => { h with }) fun _ => (yields_any _).bind fun _ _ => { h with }

theorem Off.writeNr41 (h : c.Off) (data : UInt8) : Yields (c.writeNr41 data) Off :=
  (yields_any _).bind fun _ _ => { h with }

end Channel4

/-! ### The unit -/

namespace Apu

/-- The sound is off, and everything that turning it off cleared still is. -/
structure Off (ctx : GbCtx) (a : Apu) : Prop where
  channel1 : a.channel1.Off
  channel2 : a.channel2.Off
  channel3 : a.channel3.Off
  channel4 : a.channel4.Off
  audioEnabled : a.audioEnabled = false
  rightVol : a.rightVol = 0
  leftVol : a.leftVol = 0
  rightPan : a.rightPan = fun _ => false
  leftPan : a.leftPan = fun _ => false
  rightVin : a.rightVin = false
  leftVin : a.leftVin = false
  ctx : a.ctx = ctx

variable {ctx : GbCtx} {a a' : Apu}

/-- Turning the sound off. -/
theorem writeNr52_off {data : UInt8} (hon : a.audioEnabled = true) (hdata : data &&& 0x80 = 0) :
    (a.writeNr52 data).Off a.ctx := by
  have hbit : (data &&& 0x80 != 0) = false := by rw [hdata]; rfl
  have hwrite : a.writeNr52 data = { a.shutdown with audioEnabled := false } := by
    simp only [writeNr52, hon, hbit]
  rw [hwrite]
  exact ⟨Channel1.shutdown_off _, Channel2.shutdown_off _, Channel3.shutdown_off _,
    Channel4.shutdown_off _, rfl, rfl, rfl, rfl, rfl, rfl, rfl, rfl⟩

theorem Off.isEnabledOf (h : a.Off ctx) (ch : ChannelNo) : a.isEnabledOf ch = false := by
  cases ch with
  | one => exact h.channel1.isEnabled
  | two => exact h.channel2.isEnabled
  | three => exact h.channel3.isEnabled
  | four => exact h.channel4.isEnabled

theorem Off.lengthCounterOf (h : a.Off ctx) (ch : ChannelNo) :
    (a.lengthCounterOf ch).enabled = false := by
  cases ch with
  | one => exact h.channel1.lengthCounter
  | two => exact h.channel2.lengthCounter
  | three => exact h.channel3.lengthCounter
  | four => exact h.channel4.lengthCounter

/-! ### Clocks -/

theorem Off.lengthClocks (h : a.Off ctx) : a.lengthClocks = a := by
  rw [Apu.lengthClocks, h.channel1.lengthClock, h.channel2.lengthClock, h.channel3.lengthClock,
    h.channel4.lengthClock]

theorem Off.envelopeClocks (h : a.Off ctx) : a.envelopeClocks = .ok a := by
  have h1 : a.channel1.envelope.clock = .ok a.channel1.envelope := by
    rw [h.channel1.envelope, Envelope.clock_cleared]
  have h2 : a.channel2.envelope.clock = .ok a.channel2.envelope := by
    rw [h.channel2.envelope, Envelope.clock_cleared]
  have h4 : a.channel4.envelope.clock = .ok a.channel4.envelope := by
    rw [h.channel4.envelope, Envelope.clock_cleared]
  rw [Apu.envelopeClocks, h1, h2, h4]
  rfl

/-- What the sequencer clocks is not there to be moved. -/
theorem Off.frameSequencerTick (h : a.Off ctx) : Yields a.frameSequencerTick (· = a) := by
  rw [Apu.frameSequencerTick]
  split
  case h_1 | h_2 => exact h.lengthClocks
  case h_3 | h_4 =>
    simp only [h.lengthClocks, h.channel1.sweepClock]
    rfl
  case h_5 =>
    rw [h.envelopeClocks]
    rfl
  case h_6 | h_7 | h_8 => rfl
  case h_9 => trivial

theorem Off.clockFrameSequencer (h : a.Off ctx) : Yields a.clockFrameSequencer (Off ctx) := by
  refine (yields_any _).bind fun n _ => Meets.ite (fun _ => { h with }) fun _ => ?_
  have hreloaded : Off ctx { a with frameSequencer := frameSequencerStart } := { h with }
  refine hreloaded.frameSequencerTick.bind fun a' ha' => (yields_any _).bind fun _ _ => ?_
  rw [ha']
  exact { h with
    channel1 := { h.channel1 with }, channel2 := { h.channel2 with }
    channel3 := { h.channel3 with }, channel4 := { h.channel4 with } }

theorem Off.clockChannels (h : a.Off ctx) : Yields a.clockChannels (Off ctx) := by
  refine h.channel1.clock.bind fun _ h1 => ?_
  refine h.channel2.clock.bind fun _ h2 => ?_
  refine h.channel3.clock.bind fun _ h3 => ?_
  refine h.channel4.clock.bind fun _ h4 => ?_
  have hoff : ∀ n : ℕ, Off ctx { a with
      channel1 := _, channel2 := _, channel3 := _, channel4 := _, sampleCounter := n } :=
    fun n => { h with channel1 := h1, channel2 := h2, channel3 := h3, channel4 := h4 }
  refine (yields_any _).bind fun _ _ => Meets.ite (fun _ => ?_) fun _ => hoff _
  exact (yields_any _).bind fun _ _ => hoff _

theorem Off.clock (h : a.Off ctx) : Yields a.clock (Off ctx) :=
  h.clockFrameSequencer.bind fun _ h => h.clockChannels.bind fun _ h => h.clockChannels.bind
    fun _ h => h.clockChannels.bind fun _ h => h.clockChannels

/-! ### Register writes -/

theorem Off.whenEnabled (h : a.Off ctx) (write : Checked Apu) : a.whenEnabled write = .ok a := by
  rw [Apu.whenEnabled, h.audioEnabled]
  rfl

theorem Off.whenLengthWritable (h : a.Off ctx) {write : Checked Apu}
    (hw : Yields write (Off ctx)) : Yields (a.whenLengthWritable write) (Off ctx) :=
  Meets.ite (fun _ => h) fun _ => hw

theorem Off.whenLengthWritable_cgb (h : a.Off ctx) (hcgb : ctx.cgb = true)
    (write : Checked Apu) : a.whenLengthWritable write = .ok a := by
  rw [Apu.whenLengthWritable, h.audioEnabled, h.ctx, hcgb]
  rfl

theorem Off.lengthData (h : a.Off ctx) (data : UInt8) : a.lengthData data = data &&& 0x3F := by
  rw [Apu.lengthData, h.audioEnabled]
  rfl

theorem Off.writeNr50 (h : a.Off ctx) (data : UInt8) : a.writeNr50 data = a := by
  rw [Apu.writeNr50, h.audioEnabled]
  rfl

theorem Off.writeNr51 (h : a.Off ctx) (data : UInt8) : a.writeNr51 data = a := by
  rw [Apu.writeNr51, h.audioEnabled]
  rfl

/-- Turning the sound off once more. -/
theorem Off.writeNr52 (h : a.Off ctx) {data : UInt8} (hdata : (data &&& 0x80 != 0) = false) :
    a.writeNr52 data = a := by
  have hoff := h.audioEnabled
  simp only [Apu.writeNr52, hoff, hdata]
  rw [← hoff]

/-- The registers whose writes take effect while the sound is off, on DMG. -/
def Register.isLength : Register → Bool
  | .nr11 | .nr21 | .nr31 | .nr41 => true
  | _ => false

/-- All other writes are ignored. -/
theorem Off.write_of_not_isLength (h : a.Off ctx) {register : Register} {data : UInt8}
    (hlength : register.isLength = false) (hoff : (Op.write register data).enables = false) :
    a.write data register = .ok a := by
  cases register with
  | nr11 | nr21 | nr31 | nr41 => cases hlength
  | nr50 => exact congrArg Except.ok (h.writeNr50 data)
  | nr51 => exact congrArg Except.ok (h.writeNr51 data)
  | nr52 => exact congrArg Except.ok (h.writeNr52 hoff)
  | _ => exact h.whenEnabled _

theorem Off.write (h : a.Off ctx) {register : Register} {data : UInt8}
    (hoff : (Op.write register data).enables = false) :
    Yields (a.write data register) (Off ctx) := by
  cases hlength : register.isLength with
  | false =>
    rw [h.write_of_not_isLength hlength hoff]
    exact h
  | true =>
    cases register with
    | nr11 =>
      refine h.whenLengthWritable ?_
      rw [h.lengthData]
      exact (h.channel1.writeNr11 data).bind fun _ h1 => { h with channel1 := h1 }
    | nr21 =>
      refine h.whenLengthWritable ?_
      rw [h.lengthData]
      exact (h.channel2.writeNr21 data).bind fun _ h2 => { h with channel2 := h2 }
    | nr31 =>
      refine h.whenLengthWritable ?_
      exact (h.channel3.writeNr31 data).bind fun _ h3 => { h with channel3 := h3 }
    | nr41 =>
      refine h.whenLengthWritable ?_
      exact (h.channel4.writeNr41 data).bind fun _ h4 => { h with channel4 := h4 }
    | _ => cases hlength

/-- CGB ignores the length registers too. -/
theorem Off.write_cgb (h : a.Off ctx) (hcgb : ctx.cgb = true) {register : Register} {data : UInt8}
    (hoff : (Op.write register data).enables = false) : a.write data register = .ok a := by
  cases hlength : register.isLength with
  | false => exact h.write_of_not_isLength hlength hoff
  | true =>
    cases register with
    | nr11 | nr21 | nr31 | nr41 => exact h.whenLengthWritable_cgb hcgb _
    | _ => cases hlength

/-! ### Operations and their sequences -/

/-- **One operation** that does not turn the sound on leaves it off. -/
theorem step_off {op : Op} (h : a.Off ctx) (hop : op.enables = false) :
    Yields (step op a) (Off ctx) := by
  cases op with
  | clock =>
    rw [step_clock]
    exact h.clock
  | write register data =>
    rw [step_write]
    exact h.write hop
  | read register => exact h
  | writeWaveRam address data =>
    rw [step_writeWaveRam]
    exact (h.channel3.writeWaveRam _ data).bind fun _ h3 => { h with channel3 := h3 }
  | readWaveRam address =>
    rw [step_readWaveRam]
    exact meets_map.mpr ((yields_any _).imp fun _ _ => h)

/-- On CGB it leaves the length counts alone as well. -/
theorem step_keepsIdle {op : Op} (h : a.Off ctx) (hcgb : ctx.cgb = true)
    (hop : op.enables = false) : Yields (step op a) (KeepsIdle a) := by
  cases op with
  | clock =>
    rw [step_clock]
    exact clock_keepsIdle a
  | write register data =>
    rw [step_write, h.write_cgb hcgb hop]
    exact KeepsIdle.refl a
  | read register => exact KeepsIdle.refl a
  | writeWaveRam address data =>
    rw [step_writeWaveRam]
    refine (Channel3.writeWaveRam_lengthCounter ..).bind fun c3 h3 => keepsIdle_of_eq fun ch => ?_
    cases ch with
    | three => exact h3
    | one | two | four => rfl
  | readWaveRam address =>
    rw [step_readWaveRam]
    exact meets_map.mpr ((yields_any _).imp fun _ _ => KeepsIdle.refl a)

/-- What the registers read while the sound is off. -/
def cleared : Register → UInt8
  | .nr10 => 0x80
  | .nr11 | .nr21 => 0x3F
  | .nr12 | .nr22 | .nr42 | .nr43 | .nr50 | .nr51 => 0x00
  | .nr14 | .nr24 | .nr34 | .nr44 => 0xBF
  | .nr13 | .nr23 | .nr31 | .nr33 | .nr41 => 0xFF
  | .nr30 => 0x7F
  | .nr32 => 0x9F
  | .nr52 => 0x70

theorem readNrx4_of_disabled {l : LengthCounter} (h : l.enabled = false) : readNrx4 l = 0xBF := by
  rw [readNrx4, h]
  rfl

theorem Off.read (h : a.Off ctx) (register : Register) : a.read register = cleared register := by
  cases register with
  | nr10 => rw [Apu.read, Channel1.readNr10, h.channel1.sweep]; rfl
  | nr11 => rw [Apu.read, Channel1.readNr11, h.channel1.regWaveduty]; rfl
  | nr12 => rw [Apu.read, Channel1.readNr12, h.channel1.envelope]; rfl
  | nr14 => exact readNrx4_of_disabled h.channel1.lengthCounter
  | nr21 => rw [Apu.read, Channel2.readNr21, h.channel2.regWaveduty]; rfl
  | nr22 => rw [Apu.read, Channel2.readNr22, h.channel2.envelope]; rfl
  | nr24 => exact readNrx4_of_disabled h.channel2.lengthCounter
  | nr30 => rw [Apu.read, Channel3.readNr30, h.channel3.regDacEnable]; rfl
  | nr32 => rw [Apu.read, Channel3.readNr32, h.channel3.regVolume]; rfl
  | nr34 => exact readNrx4_of_disabled h.channel3.lengthCounter
  | nr42 => rw [Apu.read, Channel4.readNr42, h.channel4.envelope]; rfl
  | nr43 =>
    rw [Apu.read, Channel4.readNr43, h.channel4.regClockShift, h.channel4.regLfsr7bit,
      h.channel4.regDivisor]
    rfl
  | nr44 => exact readNrx4_of_disabled h.channel4.lengthCounter
  | nr50 => rw [Apu.read, readNr50, h.rightVol, h.leftVol, h.leftVin, h.rightVin]; rfl
  | nr51 => rw [Apu.read, readNr51, h.rightPan, h.leftPan]; rfl
  | nr52 =>
    rw [Apu.read, readNr52, h.audioEnabled, h.channel1.isEnabled, h.channel2.isEnabled,
      h.channel3.isEnabled, h.channel4.isEnabled]
    rfl
  | nr13 | nr23 | nr31 | nr33 | nr41 => rfl

/-- The unit stays off for any number of operations, on CGB with the length counts it was turned
off with. -/
theorem exec_off {off : Apu} (h : off.Off ctx) {ops : List Op}
    (hops : ∀ op ∈ ops, op.enables = false) :
    Yields (Machine.exec step ops off) fun a =>
      a.Off ctx ∧
        (ctx.cgb = true → ∀ ch, (a.lengthCounterOf ch).count = (off.lengthCounterOf ch).count) := by
  refine Machine.exec_meets (P := fun op => op.enables = false) ?_ ops off hops ⟨h, fun _ _ => rfl⟩
  rintro op a hop ⟨ha, hcounts⟩
  refine meets_of_ok fun a' hstep => ⟨(step_off ha hop).of_ok hstep, fun hcgb ch => ?_⟩
  obtain ⟨n, hn⟩ := (step_keepsIdle ha hcgb hop).of_ok hstep ch (ha.lengthCounterOf ch)
  rw [hn]
  exact hcounts hcgb ch

/-- **The sound unit is inert while it is off.** After a write that turns the sound off, and any
operations that do not turn it on again, no channel is enabled and the registers read as cleared;
on CGB the length counts are those the unit was turned off with. -/
theorem powered_off_inert (h : a.Reachable) (hon : a.audioEnabled = true) {data : UInt8}
    (hdata : data &&& 0x80 = 0) {ops : List Op} (hops : ∀ op ∈ ops, op.enables = false) :
    ∃ off a', step (.write .nr52 data) a = .ok off ∧ Machine.exec step ops off = .ok a' ∧
      (∀ ch, a'.isEnabledOf ch = false) ∧ (∀ register, a'.read register = cleared register) ∧
      (a.ctx.cgb = true →
        ∀ ch, (a'.lengthCounterOf ch).count = (off.lengthCounterOf ch).count) := by
  have hoff : (a.writeNr52 data).Off a.ctx := writeNr52_off hon hdata
  obtain ⟨a', ha', -⟩ := (exec_total (writeNr52_bounded h.bounded data) ops).exists_ok
  obtain ⟨hstill, hcounts⟩ := (exec_off hoff hops).of_ok ha'
  exact ⟨_, a', step_write .., ha', hstill.isEnabledOf, hstill.read, hcounts⟩

/-- From power-on on CGB: the sound is turned off, an M-cycle passes and a length register is
written. -/
theorem powered_off_inert_nr11 :
    ∃ off a', step (.write .nr52 0x00) (new (.ofMode .modeCgb)) = .ok off ∧
      Machine.exec step [.clock, .write .nr11 0x3F] off = .ok a' ∧
      (∀ ch, a'.isEnabledOf ch = false) ∧ (∀ register, a'.read register = cleared register) ∧
      ((new (.ofMode .modeCgb)).ctx.cgb = true →
        ∀ ch, (a'.lengthCounterOf ch).count = (off.lengthCounterOf ch).count) :=
  powered_off_inert (.start ⟨_, rfl⟩) rfl rfl (by decide)

end Apu

end ZenithGb
