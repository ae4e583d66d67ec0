import ZenithGb.Soc.Bus

/-!
# The CPU: registers and bus access

`cpu.rs` and `register.rs`. Everything that runs on the CPU works on a `Machine`, the CPU with the
system it is connected to, and is a computation in `Exec`: it changes the machine, or panics.
-/

namespace ZenithGb

structure Cpu where
  opcode : UInt8
  regAf : UInt16
  regBc : UInt16
  regDe : UInt16
  regHl : UInt16
  regSp : UInt16
  regPc : UInt16
  branchSkipped : Bool
  imeNext : Bool
  ime : Bool
  halted : Bool
  deriving DecidableEq, Repr

def flagC : UInt8 := 0x10
def flagH : UInt8 := 0x20
def flagN : UInt8 := 0x40
def flagZ : UInt8 := 0x80

namespace Cpu

/-! ### Registers -/

def a (c : Cpu) : UInt8 := getHigh c.regAf
def f (c : Cpu) : UInt8 := getLow c.regAf
def b (c : Cpu) : UInt8 := getHigh c.regBc
def c (c : Cpu) : UInt8 := getLow c.regBc
def d (c : Cpu) : UInt8 := getHigh c.regDe
def e (c : Cpu) : UInt8 := getLow c.regDe
def h (c : Cpu) : UInt8 := getHigh c.regHl
def l (c : Cpu) : UInt8 := getLow c.regHl

def setA (c : Cpu) (v : UInt8) : Cpu := { c with regAf := setHigh c.regAf v }
def setF (c : Cpu) (v : UInt8) : Cpu := { c with regAf := setLow c.regAf v }
def setB (c : Cpu) (v : UInt8) : Cpu := { c with regBc := setHigh c.regBc v }
def setC (c : Cpu) (v : UInt8) : Cpu := { c with regBc := setLow c.regBc v }
def setD (c : Cpu) (v : UInt8) : Cpu := { c with regDe := setHigh c.regDe v }
def setE (c : Cpu) (v : UInt8) : Cpu := { c with regDe := setLow c.regDe v }
def setH (c : Cpu) (v : UInt8) : Cpu := { c with regHl := setHigh c.regHl v }
def setL (c : Cpu) (v : UInt8) : Cpu := { c with regHl := setLow c.regHl v }

def setAf (c : Cpu) (v : UInt16) : Cpu := { c with regAf := v }
def setBc (c : Cpu) (v : UInt16) : Cpu := { c with regBc := v }
def setDe (c : Cpu) (v : UInt16) : Cpu := { c with regDe := v }
def setHl (c : Cpu) (v : UInt16) : Cpu := { c with regHl := v }
def setSp (c : Cpu) (v : UInt16) : Cpu := { c with regSp := v }
def setPc (c : Cpu) (v : UInt16) : Cpu := { c with regPc := v }

def getFlag (c : Cpu) (flag : UInt8) : Bool := c.f &&& flag != 0

def setFlag (c : Cpu) (flag : UInt8) (set : Bool) : Cpu :=
  c.setF (if set then c.f ||| flag else c.f &&& ~~~flag)

/-- The four flags at once. -/
def setFlags (c : Cpu) (z n h carry : Bool) : Cpu :=
  (((c.setFlag flagZ z).setFlag flagN n).setFlag flagH h).setFlag flagC carry

/-! ### Starting up -/

def new : Cpu :=
  { opcode := 0x0, regAf := 0, regBc := 0, regDe := 0, regHl := 0, regSp := 0, regPc := 0,
    branchSkipped := false, ime := false, imeNext := false, halted := false }

/-- The registers a boot ROM leaves behind. -/
def initRegisters (cpu : Cpu) (a b c d e h l : UInt8) : Cpu :=
  (((((((cpu.setA a).setB b).setC c).setD d).setE e).setH h).setL l).setSp 0xFFFE |>.setPc 0x100

/-- `CPU::init`: registers as after the boot ROM, and the first opcode prefetched. -/
def init (cpu : Cpu) (cartridge : Cartridge) (mode : CompatibilityMode) : Checked Cpu := do
  let cpu := match mode with
    | .modeCgb =>
      (cpu.initRegisters 0x11 0x0 0x0 0xFF 0x56 0x0 0x0D).setFlags true false false false
    | .modeCgbDmg =>
      (cpu.initRegisters 0x11 0x0 0x0 0x0 0x08 0x0 0x7C).setFlags true false false false
    | .modeDmg =>
      let checksumNonzero := cartridge.header.headerChecksum != 0x0
      (cpu.initRegisters 0x1 0 0x13 0 0xD8 0x1 0x4D).setFlags true false checksumNonzero
        checksumNonzero
  let opcode ← cartridge.data.get (.index .cpuInit) 0x100
  return { cpu with opcode, regPc := cpu.regPc + 1 }

end Cpu

/-- The CPU and the system it drives. -/
structure Machine where
  cpu : Cpu
  soc : Soc

/-- Computations of the CPU. -/
abbrev Exec := StateT Machine Checked

namespace Exec

/-! ### Access to the two halves -/

def cpu : Exec Cpu := return (← get).cpu

def modifyCpu (f : Cpu → Cpu) : Exec Unit := modify fun m => { m with cpu := f m.cpu }

def soc : Exec Soc := return (← get).soc

def modifySoc (f : Soc → Soc) : Exec Unit := modify fun m => { m with soc := f m.soc }

/-- Pure checks of the source, performed in place. -/
def check {α : Type} (x : Checked α) : Exec α := StateT.lift x

/-- `soc.clock()` -/
def clock : Exec Unit := fun m => do
  let soc ← m.soc.clock
  return ((), { m with soc })

/-- `soc.clock_read(address)` -/
def clockRead (address : UInt16) : Exec UInt8 := fun m => do
  let (byte, soc) ← m.soc.clockRead address
  return (byte, { m with soc })

/-- `soc.clock_write(address, data)` -/
def clockWrite (address : UInt16) (data : UInt8) : Exec Unit := fun m => do
  let soc ← m.soc.clockWrite address data
  return ((), { m with soc })

/-! ### Encoded operands -/

def readR8 (r8Encoded : UInt8) : Exec UInt8 := do
  let cpu ← cpu
  match r8Encoded.toNat with
  | 0x7 => return cpu.a
  | 0x6 => check (.error (.unreachable .readR8))
  | 0x5 => return cpu.l
  | 0x4 => return cpu.h
  | 0x3 => return cpu.e
  | 0x2 => return cpu.d
  | 0x1 => return cpu.c
  | 0x0 => return cpu.b
  | _ => check (.error (.unreachable .readR8))

def writeR8 (r8Encoded val : UInt8) : Exec Unit :=
  match r8Encoded.toNat with
  | 0x7 => modifyCpu (·.setA val)
  | 0x6 => check (.error (.unreachable .writeR8))
  | 0x5 => modifyCpu (·.setL val)
  | 0x4 => modifyCpu (·.setH val)
  | 0x3 => modifyCpu (·.setE val)
  | 0x2 => modifyCpu (·.setD val)
  | 0x1 => modifyCpu (·.setC val)
  | 0x0 => modifyCpu (·.setB val)
  | _ => check (.error (.unreachable .writeR8))

def readR16 (r16Encoded : UInt8) : Exec UInt16 := do
  let cpu ← cpu
  match r16Encoded.toNat with
  | 0x0 => return cpu.regBc
  | 0x1 => return cpu.regDe
  | 0x2 => return cpu.regHl
  | 0x3 => return cpu.regSp
  | _ => check (.error (.unreachable .readR16))

def writeR16 (r16Encoded : UInt8) (val : UInt16) : Exec Unit :=
  match r16Encoded.toNat with
  | 0x0 => modifyCpu (·.setBc val)
  | 0x1 => modifyCpu (·.setDe val)
  | 0x2 => modifyCpu (·.setHl val)
  | 0x3 => modifyCpu (·.setSp val)
  | _ => check (.error (.unreachable .writeR16))

def readR16stkMsb (r16Encoded : UInt8) : Exec UInt8 := do
  let cpu ← cpu
  match r16Encoded.toNat with
  | 0x0 => return cpu.b
  | 0x1 => return cpu.d
  | 0x2 => return cpu.h
  | 0x3 => return cpu.a
  | _ => check (.error (.unreachable .readR16))

def readR16stkLsb (r16Encoded : UInt8) : Exec UInt8 := do
  let cpu ← cpu
  match r16Encoded.toNat with
  | 0x0 => return cpu.c
  | 0x1 => return cpu.e
  | 0x2 => return cpu.l
  | 0x3 => return cpu.f
  | _ => check (.error (.unreachable .readR16))

def writeR16stk (r16Encoded : UInt8) (val : UInt16) : Exec Unit :=
  match r16Encoded.toNat with
  | 0x0 => modifyCpu (·.setBc val)
  | 0x1 => modifyCpu (·.setDe val)
  | 0x2 => modifyCpu (·.setHl val)
  | 0x3 => modifyCpu (·.setAf (val &&& 0xFFF0))
  | _ => check (.error (.unreachable .writeR16))

/-! ### Fetching and the stack -/

def clockWriteAtHl (val : UInt8) : Exec Unit := do clockWrite (← cpu).regHl val

def clockReadAtHl : Exec UInt8 := do clockRead (← cpu).regHl

/-- The byte at PC, which moves on. -/
def clockConsumeByteFromPc : Exec UInt8 := do
  let pc := (← cpu).regPc
  modifyCpu (·.setPc (pc + 1))
  clockRead pc

def clockFetch : Exec Unit := do
  let opcode ← clockConsumeByteFromPc
  modifyCpu fun c => { c with opcode }

def clockPushU8 (val : UInt8) : Exec Unit := do
  let sp := (← cpu).regSp - 1
  modifyCpu (·.setSp sp)
  clockWrite sp val

def clockPopU8 : Exec UInt8 := do
  let sp := (← cpu).regSp
  modifyCpu (·.setSp (sp + 1))
  clockRead sp

def clockPopU16 : Exec UInt16 := do
  let lsb ← clockPopU8
  let msb ← clockPopU8
  return value msb lsb

end Exec

end ZenithGb
