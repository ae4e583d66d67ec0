import Mathlib.Data.Fin.VecNotation
import ZenithGb.Apu.Units
import ZenithGb.Lib.Store

/-!
# The four sound channels

`channel1.rs` to `channel4.rs`. What channels 1 and 2, and the NRx4 writes of all four, have in
common is written once; each channel keeps its own functions under the source's names.
-/

namespace ZenithGb

/-! ### Shared by the channels -/

def lengthCounterInit : ℕ := 64

/-- Reloading the length counter from the low six bits of NRx1. -/
def lengthFromNrx1 (data : UInt8) : Checked ℕ :=
  checkedSub .apuChannel lengthCounterInit (data &&& (0x3F : UInt8)).toNat

/-- `(2048 - frequency) * mult`, the reload value of a frequency timer. -/
def frequencyPeriod (frequency mult : ℕ) : Checked ℕ := do
  checkedMul 16 .apuChannel (← checkedSub .apuChannel 2048 frequency) mult

def dutyWave : Mem 4 UInt8 := ⟨![0b00000001, 0b10000001, 0b10000111, 0b01111110]⟩

/-- The current sample of a square channel. -/
def squareSample (envelope : Envelope) (regWaveduty dutyCycle : ℕ) : Checked UInt8 := do
  let wave ← dutyWave.get (.index .apuChannel) regWaveduty
  let wave ← checkedShrU8 .apuChannel wave dutyCycle
  checkedMulU8 .apuChannel envelope.getVolume (wave &&& (0x1 : UInt8))

/-- What follows the length counter in an NRx4 write: stop, trigger, or neither. -/
def afterNrx4 {χ : Type} (lengthCounter : LengthCounter) (triggerBit : Bool) (stop : χ → χ)
    (trigger : χ → Checked χ) (c : χ) : Checked χ :=
  if lengthCounter.enabled && lengthCounter.count == 0 then .ok (stop c)
  else if triggerBit then trigger c
  else .ok c

/-- Reading NRx4: only the length enable bit can be read. -/
def readNrx4 (l : LengthCounter) : UInt8 := (0xBF : UInt8) ||| ((bit l.enabled) <<< (6 : UInt8))

/-! ### Channel 1: square with sweep -/

structure Channel1 where
  freqTimer : ℕ
  sweep : Sweep
  envelope : Envelope
  lengthCounter : LengthCounter
  isEnabledFlag : Bool
  dutyCycle : ℕ
  regWaveduty : ℕ
  regDacEnable : Bool
  sample : UInt8
  deriving DecidableEq, Repr

namespace Channel1

def new (ctx : GbCtx) : Channel1 :=
  { freqTimer := 0, dutyCycle := 0, envelope := .new 0xF false 3, sweep := .new,
    lengthCounter := .new lengthCounterInit ctx, isEnabledFlag := true, regWaveduty := 2,
    regDacEnable := true, sample := 0 }

def isEnabled (c : Channel1) : Bool := c.isEnabledFlag && c.regDacEnable

def sweepClock (c : Channel1) : Checked Channel1 := do
  let (isOverflow, sweep) ← c.sweep.clock
  return { c with sweep, isEnabledFlag := c.isEnabledFlag && !isOverflow }

def trigger (c : Channel1) : Checked Channel1 := do
  let freqTimer ← frequencyPeriod c.sweep.getFrequency 4
  let (isOverflow, sweep) ← c.sweep.trigger
  return { c with
    freqTimer, sweep, envelope := c.envelope.trigger
    isEnabledFlag := c.regDacEnable && !isOverflow }

def writeNr10 (c : Channel1) (data : UInt8) : Channel1 :=
  let (disableChannel, sweep) := c.sweep.writeNr10 data
  { c with sweep, isEnabledFlag := c.isEnabledFlag && !disableChannel }

def writeNr11 (c : Channel1) (data : UInt8) : Checked Channel1 := do
  let count ← lengthFromNrx1 data
  return { c with
    lengthCounter := c.lengthCounter.setCount count
    regWaveduty := ((data >>> 6) &&& (0x3 : UInt8)).toNat }

def writeNr12 (c : Channel1) (data : UInt8) : Channel1 :=
  let regDacEnable := data &&& 0xF8 != 0
  { c with
    regDacEnable, isEnabledFlag := c.isEnabledFlag && regDacEnable
    envelope := c.envelope.writeNrx2 data }

def writeNr13 (c : Channel1) (data : UInt8) : Channel1 :=
  { c with sweep := c.sweep.setFrequencyLsb data }

def writeNr14 (c : Channel1) (data : UInt8) : Checked Channel1 := do
  let lengthEnableBit := data &&& 0x40 != 0
  let triggerBit := data &&& 0x80 != 0
  let c := { c with sweep := c.sweep.setFrequencyMsb data }
  let lengthCounter ← c.lengthCounter.writeNrx4 triggerBit lengthEnableBit
  afterNrx4 lengthCounter triggerBit (fun c => { c with isEnabledFlag := false }) trigger
    { c with lengthCounter }

def readNr10 (c : Channel1) : UInt8 := c.sweep.readNr10
def readNr11 (c : Channel1) : UInt8 :=
  ((UInt8.ofNat c.regWaveduty) <<< (6 : UInt8)) ||| (0x3F : UInt8)
def readNr12 (c : Channel1) : UInt8 := c.envelope.readNrx2
def readNr13 (_c : Channel1) : UInt8 := 0xFF
def readNr14 (c : Channel1) : UInt8 := readNrx4 c.lengthCounter

def clock (c : Channel1) : Checked Channel1 :=
  if c.freqTimer > 1 then .ok { c with freqTimer := c.freqTimer - 1 }
  else do
    let freqTimer ← frequencyPeriod c.sweep.getFrequency 4
    let c := { c with freqTimer }
    if !c.isEnabled then return { c with sample := 0 }
    else
      let sample ← squareSample c.envelope c.regWaveduty c.dutyCycle
      let next ← checkedAdd 8 .apuChannel c.dutyCycle 1
      return { c with sample, dutyCycle := next &&& 0x7 }

def lengthClock (c : Channel1) : Channel1 :=
  let (stop, lengthCounter) := c.lengthCounter.clock
  { c with lengthCounter, isEnabledFlag := c.isEnabledFlag && !stop }

def shutdown (c : Channel1) : Channel1 :=
  { c with
    isEnabledFlag := false, regDacEnable := false, dutyCycle := 0, regWaveduty := 0
    sweep := c.sweep.shutdown, envelope := c.envelope.shutdown
    lengthCounter := c.lengthCounter.shutdown }

end Channel1

/-! ### Channel 2: square -/

structure Channel2 where
  freqTimer : ℕ
  envelope : Envelope
  lengthCounter : LengthCounter
  isEnabledFlag : Bool
  dutyCycle : ℕ
  regWaveduty : ℕ
  regFrequency : ℕ
  regDacEnable : Bool
  sample : UInt8
  deriving DecidableEq, Repr

namespace Channel2

def new (ctx : GbCtx) : Channel2 :=
  { freqTimer := 0, dutyCycle := 0, regFrequency := 0, envelope := .new 0 false 0,
    lengthCounter := .new lengthCounterInit ctx, isEnabledFlag := false, regWaveduty := 0,
    regDacEnable := false, sample := 0 }

def isEnabled (c : Channel2) : Bool := c.isEnabledFlag && c.regDacEnable

def trigger (c : Channel2) : Checked Channel2 := do
  let freqTimer ← frequencyPeriod c.regFrequency 4
  return { c with
    freqTimer, isEnabledFlag := c.regDacEnable, envelope := c.envelope.trigger }

def writeNr21 (c : Channel2) (data : UInt8) : Checked Channel2 := do
  let count ← lengthFromNrx1 data
  return { c with
    lengthCounter := c.lengthCounter.setCount count
    regWaveduty := ((data >>> 6) &&& (0x3 : UInt8)).toNat }

def writeNr22 (c : Channel2) (data : UInt8) : Channel2 :=
  let regDacEnable := data &&& 0xF8 != 0
  { c with
    regDacEnable, isEnabledFlag := c.isEnabledFlag && regDacEnable
    envelope := c.envelope.writeNrx2 data }

def writeNr23 (c : Channel2) (data : UInt8) : Channel2 :=
  { c with regFrequency := Sweep.frequencyLsb c.regFrequency data }

def writeNr24 (c : Channel2) (data : UInt8) : Checked Channel2 := do
  let lengthEnableBit := data &&& 0x40 != 0
  let triggerBit := data &&& 0x80 != 0
  let c := { c with regFrequency := Sweep.frequencyMsb c.regFrequency data }
  let lengthCounter ← c.lengthCounter.writeNrx4 triggerBit lengthEnableBit
  afterNrx4 lengthCounter triggerBit (fun c => { c with isEnabledFlag := false }) trigger
    { c with lengthCounter }

def readNr21 (c : Channel2) : UInt8 :=
  ((UInt8.ofNat c.regWaveduty) <<< (6 : UInt8)) ||| (0x3F : UInt8)
def readNr22 (c : Channel2) : UInt8 := c.envelope.readNrx2
def readNr23 (_c : Channel2) : UInt8 := 0xFF
def readNr24 (c : Channel2) : UInt8 := readNrx4 c.lengthCounter

def clock (c : Channel2) : Checked Channel2 :=
  if c.freqTimer > 1 then .ok { c with freqTimer := c.freqTimer - 1 }
  else do
    let freqTimer ← frequencyPeriod c.regFrequency 4
    let c := { c with freqTimer }
    if !c.isEnabled then return { c with sample := 0 }
    else
      let sample ← squareSample c.envelope c.regWaveduty c.dutyCycle
      let next ← checkedAdd 8 .apuChannel c.dutyCycle 1
      return { c with sample, dutyCycle := next &&& 0x7 }

def lengthClock (c : Channel2) : Channel2 :=
  let (stop, lengthCounter) := c.lengthCounter.clock
  { c with lengthCounter, isEnabledFlag := c.isEnabledFlag && !stop }

def shutdown (c : Channel2) : Channel2 :=
  { c with
    isEnabledFlag := false, regDacEnable := false, dutyCycle := 0, regWaveduty := 0
    regFrequency := 0, envelope := c.envelope.shutdown
    lengthCounter := c.lengthCounter.shutdown }

end Channel2

/-! ### Channel 3: wave -/

structure Channel3 where
  freqTimer : ℕ
  lastSampleStep : ℕ
  lengthCounter : LengthCounter
  isEnabledFlag : Bool
  sampleIndex : ℕ
  regDacEnable : Bool
  regVolume : ℕ
  regFrequency : ℕ
  waveRam : Mem 16 UInt8
  sample : UInt8
  ctx : GbCtx

namespace Channel3

def lengthCounterInit : ℕ := 256

def new (ctx : GbCtx) : Channel3 :=
  { ctx, freqTimer := 0, lastSampleStep := 0, lengthCounter := .new lengthCounterInit ctx,
    sampleIndex := 0, isEnabledFlag := false, regDacEnable := false, regVolume := 0,
    regFrequency := 0, waveRam := .fill 16 0, sample := 0 }

def isEnabled (c : Channel3) : Bool := c.isEnabledFlag && c.regDacEnable

/-- Triggering while the channel reads a sample alters the first bytes of wave RAM on DMG. -/
def triggerCorruption (c : Channel3) : Checked (Mem 16 UInt8) :=
  if c.freqTimer = 2 ∧ c.isEnabled ∧ !c.ctx.cgb then
    let nextByteIndex := c.sampleIndex / 2 % 256
    if nextByteIndex < 4 then do
      let byte ← c.waveRam.get (.index .apuChannel) nextByteIndex
      c.waveRam.set (.index .apuChannel) 0 byte
    else
      let alignedIndex := nextByteIndex &&& 0xFC
      [0, 1, 2, 3].foldlM (fun ram i => do
        let byte ← Mem.get (.index .apuChannel) ram (alignedIndex + i)
        ram.set (.index .apuChannel) i byte) c.waveRam
  else .ok c.waveRam

def trigger (c : Channel3) : Checked Channel3 := do
  let waveRam ← c.triggerCorruption
  return { c with waveRam, isEnabledFlag := c.regDacEnable, freqTimer := 6, sampleIndex := 0 }

def writeNr30 (c : Channel3) (data : UInt8) : Channel3 :=
  let regDacEnable := data &&& 0x80 != 0
  { c with regDacEnable, isEnabledFlag := c.isEnabledFlag && regDacEnable }

def writeNr31 (c : Channel3) (data : UInt8) : Checked Channel3 := do
  let count ← checkedSub .apuChannel lengthCounterInit data.toNat
  return { c with lengthCounter := c.lengthCounter.setCount count }

def writeNr32 (c : Channel3) (data : UInt8) : Channel3 :=
  { c with regVolume := ((data &&& (0x60 : UInt8)) >>> 5).toNat }

def writeNr33 (c : Channel3) (data : UInt8) : Channel3 :=
  { c with regFrequency := Sweep.frequencyLsb c.regFrequency data }

def writeNr34 (c : Channel3) (data : UInt8) : Checked Channel3 := do
  let lengthEnableBit := data &&& 0x40 != 0
  let triggerBit := data &&& 0x80 != 0
  let c := { c with regFrequency := Sweep.frequencyMsb c.regFrequency data }
  let lengthCounter ← c.lengthCounter.writeNrx4 triggerBit lengthEnableBit
  afterNrx4 lengthCounter triggerBit (fun c => { c with isEnabledFlag := false }) trigger
    { c with lengthCounter }

/-- The byte of wave RAM the channel last read. -/
def lastByteIndex (c : Channel3) : ℕ :=
  (if c.sampleIndex = 0 then 31 else c.sampleIndex - 1) / 2

def writeWaveRam (c : Channel3) (addr : ℕ) (data : UInt8) : Checked Channel3 :=
  if c.isEnabled then
    if c.lastSampleStep < 2 || c.ctx.cgb then do
      let waveRam ← c.waveRam.set (.index .apuWaveRam) c.lastByteIndex data
      return { c with waveRam }
    else .ok c
  else do
    let waveRam ← c.waveRam.set (.index .apuWaveRam) (addr &&& 0xF) data
    return { c with waveRam }

def readNr30 (c : Channel3) : UInt8 := ((bit c.regDacEnable) <<< (7 : UInt8)) ||| (0x7F : UInt8)
def readNr31 (_c : Channel3) : UInt8 := 0xFF
def readNr32 (c : Channel3) : UInt8 :=
  ((UInt8.ofNat c.regVolume) <<< (5 : UInt8)) ||| (0x9F : UInt8)
def readNr33 (_c : Channel3) : UInt8 := 0xFF
def readNr34 (c : Channel3) : UInt8 := readNrx4 c.lengthCounter

def readWaveRam (c : Channel3) (addr : ℕ) : Checked UInt8 :=
  if c.isEnabled then
    if c.lastSampleStep < 2 || c.ctx.cgb then c.waveRam.get (.index .apuWaveRam) c.lastByteIndex
    else .ok 0xFF
  else c.waveRam.get (.index .apuWaveRam) (addr &&& 0xF)

def clock (c : Channel3) : Checked Channel3 := do
  let lastSampleStep ←
    if c.lastSampleStep ≠ 0xFF then checkedAdd 16 .apuChannel c.lastSampleStep 1
    else pure c.lastSampleStep
  let c := { c with lastSampleStep }
  if c.freqTimer > 1 then return { c with freqTimer := c.freqTimer - 1 }
  else
    let freqTimer ← frequencyPeriod c.regFrequency 2
    let c := { c with freqTimer }
    if !c.isEnabled then return { c with sample := 0 }
    else
      let byte ← c.waveRam.get (.index .apuChannel) (c.sampleIndex / 2)
      let waveSample : UInt8 :=
        if c.sampleIndex % 2 = 0 then byte >>> (4 : UInt8) else byte &&& (0xF : UInt8)
      let sample ← match c.regVolume with
        | 0 => pure (waveSample >>> (4 : UInt8))
        | volShift + 1 => checkedShrU8 .apuChannel waveSample volShift
      return { c with sample, sampleIndex := (c.sampleIndex + 1) % 32, lastSampleStep := 0 }

def lengthClock (c : Channel3) : Channel3 :=
  let (stop, lengthCounter) := c.lengthCounter.clock
  { c with lengthCounter, isEnabledFlag := c.isEnabledFlag && !stop }

def shutdown (c : Channel3) : Channel3 :=
  { c with
    isEnabledFlag := false, regDacEnable := false, regFrequency := 0, regVolume := 0
    sampleIndex := 0, lengthCounter := c.lengthCounter.shutdown }

end Channel3

/-! ### Channel 4: noise -/

structure Channel4 where
  freqTimer : ℕ
  lengthCounter : LengthCounter
  envelope : Envelope
  isEnabledFlag : Bool
  lfsr : UInt16
  regDacEnable : Bool
  regClockShift : ℕ
  regLfsr7bit : Bool
  regDivisor : ℕ
  sample : UInt8
  deriving DecidableEq, Repr

namespace Channel4

def divisors : Mem 8 UInt8 := ⟨![8, 16, 32, 48, 64, 80, 96, 112]⟩

def new (ctx : GbCtx) : Channel4 :=
  { lengthCounter := .new lengthCounterInit ctx, envelope := .new 0 false 0, freqTimer := 0,
    lfsr := 0, regClockShift := 0, regDivisor := 0, regLfsr7bit := false,
    isEnabledFlag := false, regDacEnable := false, sample := 0 }

def isEnabled (c : Channel4) : Bool := c.isEnabledFlag && c.regDacEnable

/-- `divisor << reg_clock_shift` in 16 bits: bits shifted out at the top are lost. -/
def calcFreq (c : Channel4) : Checked ℕ := do
  let divisor ← divisors.get (.index .apuChannel) c.regDivisor
  if c.regClockShift < 16 then return (divisor.toNat <<< c.regClockShift) % 0x10000
  else .error (.overflow .apuChannel)

def trigger (c : Channel4) : Checked Channel4 := do
  let freqTimer ← c.calcFreq
  return { c with
    freqTimer, isEnabledFlag := c.regDacEnable, lfsr := 0, envelope := c.envelope.trigger }

def writeNr41 (c : Channel4) (data : UInt8) : Checked Channel4 := do
  let count ← lengthFromNrx1 data
  return { c with lengthCounter := c.lengthCounter.setCount count }

def writeNr42 (c : Channel4) (data : UInt8) : Channel4 :=
  let regDacEnable := data &&& 0xF8 != 0
  { c with
    regDacEnable, isEnabledFlag := c.isEnabledFlag && regDacEnable
    envelope := c.envelope.writeNrx2 data }

def writeNr43 (c : Channel4) (data : UInt8) : Channel4 :=
  { c with
    regClockShift := ((data >>> 4) &&& (0xF : UInt8)).toNat
    regLfsr7bit := data &&& 0x8 != 0
    regDivisor := (data &&& (0x7 : UInt8)).toNat }

def writeNr44 (c : Channel4) (data : UInt8) : Checked Channel4 := do
  let lengthEnableBit := data &&& 0x40 != 0
  let triggerBit := data &&& 0x80 != 0
  let lengthCounter ← c.lengthCounter.writeNrx4 triggerBit lengthEnableBit
  afterNrx4 lengthCounter triggerBit (fun c => { c with isEnabledFlag := false }) trigger
    { c with lengthCounter }

def readNr41 (_c : Channel4) : UInt8 := 0xFF
def readNr42 (c : Channel4) : UInt8 := c.envelope.readNrx2

def readNr43 (c : Channel4) : UInt8 :=
  ((UInt8.ofNat c.regClockShift) <<< (4 : UInt8)) |||
    (if c.regLfsr7bit then (0x8 : UInt8) else 0) ||| UInt8.ofNat c.regDivisor

def readNr44 (c : Channel4) : UInt8 := readNrx4 c.lengthCounter

/-- One step of the shift register. -/
def stepLfsr (lfsr : UInt16) (sevenBit : Bool) : UInt16 :=
  let low : UInt16 := lfsr &&& 0x1
  let next : UInt16 := (lfsr >>> (1 : UInt16)) &&& (0x1 : UInt16)
  let xorResult : UInt16 := (low ^^^ next) ^^^ (1 : UInt16)
  let lfsr : UInt16 := (lfsr &&& (0x7FFF : UInt16)) ||| (xorResult <<< (15 : UInt16))
  let lfsr : UInt16 :=
    if sevenBit then (lfsr &&& (0xFF7F : UInt16)) ||| (xorResult <<< (7 : UInt16)) else lfsr
  lfsr >>> (1 : UInt16)

def clock (c : Channel4) : Checked Channel4 :=
  if c.freqTimer > 1 then .ok { c with freqTimer := c.freqTimer - 1 }
  else do
    let freqTimer ← c.calcFreq
    let c := { c with freqTimer }
    if !c.isEnabled then return { c with sample := 0 }
    else
      let lfsr := stepLfsr c.lfsr c.regLfsr7bit
      let sample ← checkedMulU8 .apuChannel c.envelope.getVolume (lfsr &&& (0x1 : UInt16)).toUInt8
      return { c with lfsr, sample }

def lengthClock (c : Channel4) : Channel4 :=
  let (stop, lengthCounter) := c.lengthCounter.clock
  { c with lengthCounter, isEnabledFlag := c.isEnabledFlag && !stop }

def shutdown (c : Channel4) : Channel4 :=
  { c with
    isEnabledFlag := false, regDacEnable := false, regClockShift := 0, regDivisor := 0
    regLfsr7bit := false, lengthCounter := c.lengthCounter.shutdown
    envelope := c.envelope.shutdown }

end Channel4

end ZenithGb
