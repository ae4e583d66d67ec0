import ZenithGb.Apu.Channels

/-!
# The sound unit

`apu.rs`: the frame sequencer, the four channels and the NRxx registers. What is mixed and sent
to the host is not modelled; taking a sample is modelled as far as it can panic.
-/

namespace ZenithGb

structure Apu where
  channel1 : Channel1
  channel2 : Channel2
  channel3 : Channel3
  channel4 : Channel4
  sampleCounter : ℕ
  frameSequencer : ℕ
  frameSequencerStep : ℕ
  audioEnabled : Bool
  rightPan : Fin 4 → Bool
  rightVol : UInt8
  leftPan : Fin 4 → Bool
  leftVol : UInt8
  leftVin : Bool
  rightVin : Bool
  ctx : GbCtx

namespace Apu

/-- T-cycles between two ticks of the frame sequencer, in units of four: it runs at 512 Hz. -/
def frameSequencerStart : ℕ := 2048

/-- T-cycles between two samples at 44.1 kHz. -/
def sampleCounterStart : ℕ := 95

def new (ctx : GbCtx) : Apu :=
  { ctx, channel1 := .new ctx, channel2 := .new ctx, channel3 := .new ctx, channel4 := .new ctx,
    sampleCounter := sampleCounterStart, frameSequencer := frameSequencerStart,
    frameSequencerStep := 0, audioEnabled := true, rightPan := ![true, true, false, false],
    rightVol := 7, leftPan := fun _ => true, leftVol := 7, leftVin := false, rightVin := false }

/-! ### Clocking -/

/-- `get_volume_scale`, as far as it can panic. -/
def getVolumeScale (vol : UInt8) : Checked Unit := do
  let _ ← checkedAddU8 .apuSample vol 1

def sampleAudio (a : Apu) : Checked Unit :=
  (List.finRange 4).forM fun i => do
    if a.leftPan i then getVolumeScale a.leftVol
    if a.rightPan i then getVolumeScale a.rightVol

def lengthClocks (a : Apu) : Apu :=
  { a with
    channel1 := a.channel1.lengthClock, channel2 := a.channel2.lengthClock
    channel3 := a.channel3.lengthClock, channel4 := a.channel4.lengthClock }

/-- The envelopes of the channels that have one. -/
def envelopeClocks (a : Apu) : Checked Apu := do
  let envelope1 ← a.channel1.envelope.clock
  let envelope2 ← a.channel2.envelope.clock
  let envelope4 ← a.channel4.envelope.clock
  return { a with
    channel1 := { a.channel1 with envelope := envelope1 }
    channel2 := { a.channel2 with envelope := envelope2 }
    channel4 := { a.channel4 with envelope := envelope4 } }

def updateFrameSequencerSteps (a : Apu) (step : ℕ) : Apu :=
  { a with
    channel1.lengthCounter := a.channel1.lengthCounter.updateFrameSequencerStep step
    channel2.lengthCounter := a.channel2.lengthCounter.updateFrameSequencerStep step
    channel3.lengthCounter := a.channel3.lengthCounter.updateFrameSequencerStep step
    channel4.lengthCounter := a.channel4.lengthCounter.updateFrameSequencerStep step }

/-- What the frame sequencer clocks in its current step. -/
def frameSequencerTick (a : Apu) : Checked Apu :=
  match a.frameSequencerStep with
  | 0 | 4 => .ok a.lengthClocks
  | 2 | 6 => do
    let a := a.lengthClocks
    return { a with channel1 := ← a.channel1.sweepClock }
  | 7 => a.envelopeClocks
  | 1 | 3 | 5 => .ok a
  | _ => .error (.unreachable .apuFrameSequencer)

def clockFrameSequencer (a : Apu) : Checked Apu := do
  let frameSequencer ← checkedSub .apuFrameSequencer a.frameSequencer 1
  let a := { a with frameSequencer }
  if a.frameSequencer ≠ 0 then return a
  else
    let a ← { a with frameSequencer := frameSequencerStart }.frameSequencerTick
    let nextStep := (← checkedAdd 8 .apuFrameSequencer a.frameSequencerStep 1) &&& 0x7
    return { a with frameSequencerStep := nextStep }.updateFrameSequencerSteps nextStep

/-- One T-cycle of the channels and of the sample counter. -/
def clockChannels (a : Apu) : Checked Apu := do
  let channel1 ← a.channel1.clock
  let channel2 ← a.channel2.clock
  let channel3 ← a.channel3.clock
  let channel4 ← a.channel4.clock
  let sampleCounter ← checkedSub .apuSample a.sampleCounter 1
  let a := { a with channel1, channel2, channel3, channel4, sampleCounter }
  if a.sampleCounter = 0 then
    let a := { a with sampleCounter := sampleCounterStart }
    a.sampleAudio
    return a
  else return a

/-- One M-cycle. -/
def clock (a : Apu) : Checked Apu := do
  let a ← a.clockFrameSequencer
  let a ← a.clockChannels
  let a ← a.clockChannels
  let a ← a.clockChannels
  a.clockChannels

/-! ### Master registers -/

def writeNr50 (a : Apu) (data : UInt8) : Apu :=
  if !a.audioEnabled then a
  else { a with
    rightVol := data &&& 0x7
    rightVin := data &&& 0x8 != 0
    leftVol := (data >>> (4 : UInt8)) &&& (0x7 : UInt8)
    leftVin := data &&& 0x80 != 0 }

def writeNr51 (a : Apu) (data : UInt8) : Apu :=
  if !a.audioEnabled then a
  else { a with
    rightPan := fun i => (data >>> UInt8.ofNat i) &&& (0x1 : UInt8) != 0
    leftPan := fun i => (data >>> UInt8.ofNat (i + 4)) &&& (0x1 : UInt8) != 0 }

/-- Everything that turning the sound off clears. -/
def shutdown (a : Apu) : Apu :=
  { a with
    leftVin := false, rightVin := false, leftVol := 0, rightVol := 0
    leftPan := fun _ => false, rightPan := fun _ => false
    channel1 := a.channel1.shutdown, channel2 := a.channel2.shutdown
    channel3 := a.channel3.shutdown, channel4 := a.channel4.shutdown }

def writeNr52 (a : Apu) (data : UInt8) : Apu :=
  let enableBit := data &&& 0x80 != 0
  let a := match a.audioEnabled, enableBit with
    | true, false => a.shutdown
    | false, true => { a with frameSequencerStep := 0 }
    | _, _ => a
  { a with audioEnabled := enableBit }

def readNr50 (a : Apu) : UInt8 :=
  a.rightVol ||| (a.leftVol <<< (4 : UInt8)) ||| ((bit a.leftVin) <<< (7 : UInt8)) |||
    ((bit a.rightVin) <<< (3 : UInt8))

def readNr51 (a : Apu) : UInt8 :=
  (List.finRange 4).foldl (fun acc i => acc |||
    ((bit (a.rightPan i)) <<< UInt8.ofNat i) ||| ((bit (a.leftPan i)) <<< UInt8.ofNat (i + 4))) 0

def readNr52 (a : Apu) : UInt8 :=
  ((bit a.audioEnabled) <<< (7 : UInt8)) |||
    (bit a.channel1.isEnabled ||| ((bit a.channel2.isEnabled) <<< (1 : UInt8)) |||
      ((bit a.channel3.isEnabled) <<< (2 : UInt8)) |||
      ((bit a.channel4.isEnabled) <<< (3 : UInt8))) ||| (0x70 : UInt8)

/-! ### Channel registers

Most writes are ignored while the sound is off. The length registers are ignored only on CGB;
on DMG they are written, and the duty bits of NR11 and NR21 are masked out.
-/

/-- A register write that needs the sound to be on. -/
def whenEnabled (a : Apu) (write : Checked Apu) : Checked Apu :=
  if !a.audioEnabled then .ok a else write

/-- A length register write, which DMG accepts while the sound is off. -/
def whenLengthWritable (a : Apu) (write : Checked Apu) : Checked Apu :=
  if !a.audioEnabled && a.ctx.cgb then .ok a else write

/-- The data a square channel's length register sees. -/
def lengthData (a : Apu) (data : UInt8) : UInt8 :=
  if a.audioEnabled then data else data &&& 0x3F

def writeNr10 (a : Apu) (data : UInt8) : Checked Apu :=
  a.whenEnabled <| return { a with channel1 := a.channel1.writeNr10 data }

def writeNr11 (a : Apu) (data : UInt8) : Checked Apu :=
  a.whenLengthWritable do return { a with channel1 := ← a.channel1.writeNr11 (a.lengthData data) }

def writeNr12 (a : Apu) (data : UInt8) : Checked Apu :=
  a.whenEnabled <| return { a with channel1 := a.channel1.writeNr12 data }

def writeNr13 (a : Apu) (data : UInt8) : Checked Apu :=
  a.whenEnabled <| return { a with channel1 := a.channel1.writeNr13 data }

def writeNr14 (a : Apu) (data : UInt8) : Checked Apu :=
  a.whenEnabled do return { a with channel1 := ← a.channel1.writeNr14 data }

def writeNr21 (a : Apu) (data : UInt8) : Checked Apu :=
  a.whenLengthWritable do return { a with channel2 := ← a.channel2.writeNr21 (a.lengthData data) }

def writeNr22 (a : Apu) (data : UInt8) : Checked Apu :=
  a.whenEnabled <| return { a with channel2 := a.channel2.writeNr22 data }

def writeNr23 (a : Apu) (data : UInt8) : Checked Apu :=
  a.whenEnabled <| return { a with channel2 := a.channel2.writeNr23 data }

def writeNr24 (a : Apu) (data : UInt8) : Checked Apu :=
  a.whenEnabled do return { a with channel2 := ← a.channel2.writeNr24 data }

def writeWaveRam (a : Apu) (address : ℕ) (data : UInt8) : Checked Apu := do
  return { a with channel3 := ← a.channel3.writeWaveRam address data }

def writeNr30 (a : Apu) (data : UInt8) : Checked Apu :=
  a.whenEnabled <| return { a with channel3 := a.channel3.writeNr30 data }

def writeNr31 (a : Apu) (data : UInt8) : Checked Apu :=
  a.whenLengthWritable do return { a with channel3 := ← a.channel3.writeNr31 data }

def writeNr32 (a : Apu) (data : UInt8) : Checked Apu :=
  a.whenEnabled <| return { a with channel3 := a.channel3.writeNr32 data }

def writeNr33 (a : Apu) (data : UInt8) : Checked Apu :=
  a.whenEnabled <| return { a with channel3 := a.channel3.writeNr33 data }

def writeNr34 (a : Apu) (data : UInt8) : Checked Apu :=
  a.whenEnabled do return { a with channel3 := ← a.channel3.writeNr34 data }

def writeNr41 (a : Apu) (data : UInt8) : Checked Apu :=
  a.whenLengthWritable do return { a with channel4 := ← a.channel4.writeNr41 data }

def writeNr42 (a : Apu) (data : UInt8) : Checked Apu :=
  a.whenEnabled <| return { a with channel4 := a.channel4.writeNr42 data }

def writeNr43 (a : Apu) (data : UInt8) : Checked Apu :=
  a.whenEnabled <| return { a with channel4 := a.channel4.writeNr43 data }

def writeNr44 (a : Apu) (data : UInt8) : Checked Apu :=
  a.whenEnabled do return { a with channel4 := ← a.channel4.writeNr44 data }

end Apu

end ZenithGb
