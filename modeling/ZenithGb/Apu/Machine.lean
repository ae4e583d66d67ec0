import ZenithGb.Apu.Apu
import ZenithGb.Lib.Run

/-!
# The sound unit as a machine

What the rest of the system can do to the sound unit: clock it for one M-cycle, write or read a
register, write or read a byte of wave RAM. `Apu.step` performs one such operation, so a sequence
of operations is `Machine.exec Apu.step`, from the state `Apu.new` builds.
-/

namespace ZenithGb

namespace Apu

/-- The registers of the sound unit. -/
inductive Register
  | nr10 | nr11 | nr12 | nr13 | nr14
  | nr21 | nr22 | nr23 | nr24
  | nr30 | nr31 | nr32 | nr33 | nr34
  | nr41 | nr42 | nr43 | nr44
  | nr50 | nr51 | nr52
  deriving DecidableEq, Repr

def write (a : Apu) (data : UInt8) : Register → Checked Apu
  | .nr10 => a.writeNr10 data
  | .nr11 => a.writeNr11 data
  | .nr12 => a.writeNr12 data
  | .nr13 => a.writeNr13 data
  | .nr14 => a.writeNr14 data
  | .nr21 => a.writeNr21 data
  | .nr22 => a.writeNr22 data
  | .nr23 => a.writeNr23 data
  | .nr24 => a.writeNr24 data
  | .nr30 => a.writeNr30 data
  | .nr31 => a.writeNr31 data
  | .nr32 => a.writeNr32 data
  | .nr33 => a.writeNr33 data
  | .nr34 => a.writeNr34 data
  | .nr41 => a.writeNr41 data
  | .nr42 => a.writeNr42 data
  | .nr43 => a.writeNr43 data
  | .nr44 => a.writeNr44 data
  | .nr50 => .ok (a.writeNr50 data)
  | .nr51 => .ok (a.writeNr51 data)
  | .nr52 => .ok (a.writeNr52 data)

def read (a : Apu) : Register → UInt8
  | .nr10 => a.channel1.readNr10
  | .nr11 => a.channel1.readNr11
  | .nr12 => a.channel1.readNr12
  | .nr13 => a.channel1.readNr13
  | .nr14 => a.channel1.readNr14
  | .nr21 => a.channel2.readNr21
  | .nr22 => a.channel2.readNr22
  | .nr23 => a.channel2.readNr23
  | .nr24 => a.channel2.readNr24
  | .nr30 => a.channel3.readNr30
  | .nr31 => a.channel3.readNr31
  | .nr32 => a.channel3.readNr32
  | .nr33 => a.channel3.readNr33
  | .nr34 => a.channel3.readNr34
  | .nr41 => a.channel4.readNr41
  | .nr42 => a.channel4.readNr42
  | .nr43 => a.channel4.readNr43
  | .nr44 => a.channel4.readNr44
  | .nr50 => a.readNr50
  | .nr51 => a.readNr51
  | .nr52 => a.readNr52

def readWaveRam (a : Apu) (address : ℕ) : Checked UInt8 := a.channel3.readWaveRam address

/-- What can be done to the sound unit. -/
inductive Op
  | clock
  | write (register : Register) (data : UInt8)
  | read (register : Register)
  | writeWaveRam (address : UInt16) (data : UInt8)
  | readWaveRam (address : UInt16)
  deriving DecidableEq, Repr

/-- Perform one operation. A read also gives the byte it read. -/
def perform (op : Op) (a : Apu) : Checked (Option UInt8 × Apu) :=
  match op with
  | .clock => do return (none, ← a.clock)
  | .write register data => do return (none, ← a.write data register)
  | .read register => .ok (some (a.read register), a)
  | .writeWaveRam address data => do return (none, ← a.writeWaveRam address.toNat data)
  | .readWaveRam address => do return (some (← a.readWaveRam address.toNat), a)

/-- Perform one operation for its effect. -/
def step (op : Op) (a : Apu) : Checked Apu := Prod.snd <$> perform op a

/-- The operation that turns the sound on, when it is off. -/
def Op.enables : Op → Bool
  | .write .nr52 data => data &&& 0x80 != 0
  | _ => false

/-- The length counters of the four channels. -/
def lengthCounters (a : Apu) : List LengthCounter :=
  [a.channel1.lengthCounter, a.channel2.lengthCounter, a.channel3.lengthCounter,
    a.channel4.lengthCounter]

/-- The four channels. -/
inductive ChannelNo
  | one | two | three | four
  deriving DecidableEq, Repr

def lengthCounterOf (a : Apu) : ChannelNo → LengthCounter
  | .one => a.channel1.lengthCounter
  | .two => a.channel2.lengthCounter
  | .three => a.channel3.lengthCounter
  | .four => a.channel4.lengthCounter

def isEnabledOf (a : Apu) : ChannelNo → Bool
  | .one => a.channel1.isEnabled
  | .two => a.channel2.isEnabled
  | .three => a.channel3.isEnabled
  | .four => a.channel4.isEnabled

/-! ### The operations one by one -/

variable (a : Apu)

theorem step_clock : step .clock a = a.clock := by
  show Prod.snd <$> (a.clock >>= fun a' => pure (none, a')) = a.clock
  cases a.clock <;> rfl

theorem step_write (register : Register) (data : UInt8) :
    step (.write register data) a = a.write data register := by
  show Prod.snd <$> (a.write data register >>= fun a' => pure (none, a')) = a.write data register
  cases a.write data register <;> rfl

theorem step_writeWaveRam (address : UInt16) (data : UInt8) :
    step (.writeWaveRam address data) a = a.writeWaveRam address.toNat data := by
  show Prod.snd <$> (a.writeWaveRam address.toNat data >>= fun a' => pure (none, a')) = _
  cases a.writeWaveRam address.toNat data <;> rfl

theorem step_readWaveRam (address : UInt16) :
    step (.readWaveRam address) a = (fun _ => a) <$> a.readWaveRam address.toNat := by
  show Prod.snd <$> (a.readWaveRam address.toNat >>= fun b => pure (some b, a)) = _
  cases a.readWaveRam address.toNat <;> rfl

end Apu

end ZenithGb
