import Mathlib.Data.Int.Notation
import ZenithGb.Panic
import ZenithGb.Util

/-!
# Length counter, sweep and envelope

`lengthcounter.rs`, `sweep.rs` and `envelope.rs`: the three units the channels are built from.
-/

namespace ZenithGb

/-! ### Length counter -/

structure LengthCounter where
  frameSeqStep : ℕ
  initialCount : ℕ
  count : ℕ
  enabled : Bool
  ctx : GbCtx
  deriving DecidableEq, Repr

namespace LengthCounter

def new (initialCount : ℕ) (ctx : GbCtx) : LengthCounter :=
  { ctx, frameSeqStep := 0, initialCount, count := 1, enabled := false }

/-- One length clock; the result says that the channel must stop. -/
def clock (l : LengthCounter) : Bool × LengthCounter :=
  let l := if l.enabled && l.count != 0 then { l with count := l.count - 1 } else l
  (l.enabled && l.count == 0, l)

def writeNrx4Enabled (l : LengthCounter) (triggerBit enableBit : Bool) :
    Checked LengthCounter :=
  if !triggerBit || l.count != 0 then .ok l
  else
    let l := { l with count := l.initialCount }
    if enableBit then do
      let count ← checkedSub .apuLength l.count (l.frameSeqStep &&& 1)
      return { l with count }
    else return l

def writeNrx4DisabledToEnabled (l : LengthCounter) (triggerBit : Bool) : Checked LengthCounter :=
  if l.frameSeqStep &&& 1 = 0 then .ok l
  else
    let l := { l with count := l.count - 1 }
    if l.count = 0 ∧ triggerBit then do
      let count ← checkedSub .apuLength l.initialCount 1
      return { l with count }
    else return l

def writeNrx4Disabled (l : LengthCounter) (triggerBit : Bool) : LengthCounter :=
  if !triggerBit || l.count != 0 then l else { l with count := l.initialCount }

def writeNrx4 (l : LengthCounter) (triggerBit enableBit : Bool) : Checked LengthCounter := do
  let l ←
    if l.enabled then l.writeNrx4Enabled triggerBit enableBit
    else if enableBit then l.writeNrx4DisabledToEnabled triggerBit
    else pure (l.writeNrx4Disabled triggerBit)
  return { l with enabled := enableBit }

def setCount (l : LengthCounter) (count : ℕ) : LengthCounter := { l with count }

def updateFrameSequencerStep (l : LengthCounter) (step : ℕ) : LengthCounter :=
  { l with frameSeqStep := step }

def shutdown (l : LengthCounter) : LengthCounter :=
  let l := { l with enabled := false, frameSeqStep := 0 }
  if l.ctx.cgb then { l with count := l.initialCount } else l

end LengthCounter

/-! ### Sweep -/

structure Sweep where
  periodTimer : ℕ
  enabled : Bool
  negatedSinceTrigger : Bool
  period : ℕ
  negate : Bool
  shift : ℕ
  shadowFrequency : ℕ
  regFrequency : ℕ
  deriving DecidableEq, Repr

namespace Sweep

def new : Sweep :=
  { periodTimer := 0, enabled := false, negate := false, period := 0, shift := 0,
    shadowFrequency := 0, regFrequency := 0, negatedSinceTrigger := false }

/-- `n as i16` for a 16-bit `n`. -/
def asI16 (n : ℕ) : ℤ := if n < 0x8000 then n else n - 0x10000

/-- A result of checked `i16` arithmetic. -/
def checkedI16 (z : ℤ) : Checked ℤ :=
  if -0x8000 ≤ z ∧ z < 0x8000 then .ok z else .error (.overflow .apuSweep)

def calcFrequency (s : Sweep) : Checked (ℕ × Sweep) := do
  let offset := asI16 (← checkedShr 16 .apuSweep s.shadowFrequency s.shift)
  let (offset, s) ←
    if s.negate then do
      let offset ← checkedI16 (-offset)
      pure (offset, { s with negatedSinceTrigger := true })
    else pure (offset, s)
  let sum ← checkedI16 (asI16 s.shadowFrequency + offset)
  return ((sum % 0x10000).toNat, s)

def overflowCheck (frequency : ℕ) : Bool := frequency > 2047

def reloadTimer (s : Sweep) : Sweep :=
  { s with periodTimer := if s.period = 0 then 8 else s.period }

/-- One sweep clock; the result says that the channel must stop. -/
def clock (s : Sweep) : Checked (Bool × Sweep) :=
  if !s.enabled then .ok (false, s)
  else do
    let periodTimer ← checkedSub .apuSweep s.periodTimer 1
    let s := { s with periodTimer }
    if s.periodTimer ≠ 0 then return (false, s)
    else
      let s := s.reloadTimer
      if s.period = 0 then return (false, s)
      else
        let (nextFreq, s) ← s.calcFrequency
        if overflowCheck nextFreq then return (true, s)
        else if s.shift = 0 then return (false, s)
        else
          let s := { s with shadowFrequency := nextFreq, regFrequency := nextFreq }
          let (checkFreq, s) ← s.calcFrequency
          return (overflowCheck checkFreq, s)

/-- Write the sweep register; the result says that the channel must stop. -/
def writeNr10 (s : Sweep) (data : UInt8) : Bool × Sweep :=
  let s := { s with
    period := ((data >>> 4) &&& (0x7 : UInt8)).toNat
    negate := (data >>> 3) &&& 0x1 != 0
    shift := (data &&& (0x7 : UInt8)).toNat }
  (!s.negate && s.negatedSinceTrigger, s)

def readNr10 (s : Sweep) : UInt8 :=
  (UInt8.ofNat s.period <<< 4) ||| (if s.negate then 0x8 else 0) ||| UInt8.ofNat s.shift ||| 0x80

def trigger (s : Sweep) : Checked (Bool × Sweep) :=
  let s := { s with negatedSinceTrigger := false, shadowFrequency := s.regFrequency }
  let s := { s with enabled := s.period != 0 || s.shift != 0 }.reloadTimer
  if s.shift ≠ 0 then do
    let (freq, s) ← s.calcFrequency
    return (overflowCheck freq, s)
  else return (false, s)

/-- The three high bits of an 11-bit frequency. -/
def frequencyMsb (frequency : ℕ) (freqMsb : UInt8) : ℕ :=
  ((freqMsb.toNat &&& 0x7) <<< 8) ||| (frequency &&& 0xFF)

/-- The eight low bits of an 11-bit frequency. -/
def frequencyLsb (frequency : ℕ) (freqLsb : UInt8) : ℕ := (frequency &&& 0x700) ||| freqLsb.toNat

def setFrequencyMsb (s : Sweep) (freqMsb : UInt8) : Sweep :=
  { s with regFrequency := frequencyMsb s.regFrequency freqMsb }

def setFrequencyLsb (s : Sweep) (freqLsb : UInt8) : Sweep :=
  { s with regFrequency := frequencyLsb s.regFrequency freqLsb }

def getFrequency (s : Sweep) : ℕ := s.regFrequency

def shutdown (_s : Sweep) : Sweep := .new

end Sweep

/-! ### Envelope -/

structure Envelope where
  periodTimer : ℕ
  enabled : Bool
  volume : UInt8
  initialVolume : UInt8
  addMode : Bool
  period : ℕ
  deriving DecidableEq, Repr

namespace Envelope

def new (initialVolume : UInt8) (addMode : Bool) (period : ℕ) : Envelope :=
  { enabled := false, periodTimer := 0, addMode, period, initialVolume, volume := 0 }

def reloadTimer (e : Envelope) : Envelope :=
  { e with periodTimer := if e.period = 0 then 8 else e.period }

def clock (e : Envelope) : Checked Envelope :=
  if e.period = 0 || !e.enabled then .ok e
  else do
    let periodTimer ← checkedSub .apuEnvelope e.periodTimer 1
    let e := { e with periodTimer }
    if e.periodTimer ≠ 0 then return e
    else
      let e := e.reloadTimer
      let volume :=
        if e.addMode then if e.volume < 15 then e.volume + 1 else e.volume
        else if e.volume > 0 then e.volume - 1 else e.volume
      let e := { e with volume }
      return if e.volume = 0 ∨ e.volume = 15 then { e with enabled := false } else e

def writeNrx2 (e : Envelope) (data : UInt8) : Envelope :=
  { e with
    initialVolume := (data >>> 4) &&& 0xF
    addMode := data &&& 0x8 != 0
    period := (data &&& (0x7 : UInt8)).toNat }

def readNrx2 (e : Envelope) : UInt8 :=
  (e.initialVolume <<< 4) ||| (if e.addMode then 0x8 else 0) ||| UInt8.ofNat e.period

def trigger (e : Envelope) : Envelope :=
  { e with enabled := true, volume := e.initialVolume }.reloadTimer

def getVolume (e : Envelope) : UInt8 := if e.period = 0 then e.initialVolume else e.volume

def shutdown (_e : Envelope) : Envelope := .new 0 false 0

end Envelope

end ZenithGb
