import ZenithGb.Cpu.State

/-!
# The CPU: the instruction handlers

`inst_impl.rs`. A handler gets the operand kind of its source from the instruction table, where it
looks at it at all, and the opcode.
-/

namespace ZenithGb

inductive OperandKind
  | none | r8 | r16 | imm8 | imm16 | r8Addr | r16Addr | imm8Addr | imm16Addr
  | flagNZ | flagZ | flagNC | flagC | bit
  deriving DecidableEq, Repr

/-- A byte sign-extended to a word, `e as i8` seen in 16 bits. -/
def signExtend (e : UInt8) : UInt16 :=
  if e < 0x80 then e.toUInt16 else e.toUInt16 ||| (0xFF00 : UInt16)

namespace Exec

/-- The register in the low three bits of an opcode. -/
def srcReg (opcode : UInt8) : UInt8 := opcode &&& 0x7

/-- The register in bits 3 to 5 of an opcode. -/
def dstReg (opcode : UInt8) : UInt8 := (opcode >>> (3 : UInt8)) &&& (0x7 : UInt8)

/-- The register pair in bits 4 and 5 of an opcode. -/
def reg16 (opcode : UInt8) : UInt8 := (opcode >>> (4 : UInt8)) &&& (0x3 : UInt8)

/-- A `debug_assert!` of a handler. -/
def debugAssert (c : Prop) [Decidable c] : Exec Unit := check (assert .opcode c)

def setFlag (flag : UInt8) (set : Bool) : Exec Unit := modifyCpu (·.setFlag flag set)

def setFlags (z n h c : Bool) : Exec Unit := modifyCpu (·.setFlags z n h c)

/-- Two immediate bytes, low byte first. -/
def clockConsumeWordFromPc : Exec UInt16 := do
  let lsb ← clockConsumeByteFromPc
  let msb ← clockConsumeByteFromPc
  return value msb lsb

/-! ### Loads -/

def opcodeNop : Exec Unit := return

/-- The breakpoint this reports to the host is not modelled. -/
def opcodeLdBB : Exec Unit := return

def opcodeLdR8R8 (opcode : UInt8) : Exec Unit := do
  let val ← readR8 (srcReg opcode)
  debugAssert (dstReg opcode ≠ 0x6)
  debugAssert (srcReg opcode ≠ 0x6)
  writeR8 (dstReg opcode) val

def opcodeLdR8Imm8 (opcode : UInt8) : Exec Unit := do
  let n8 ← clockConsumeByteFromPc
  debugAssert (dstReg opcode ≠ 0x6)
  writeR8 (dstReg opcode) n8

def opcodeLdABcaddr (opcode : UInt8) : Exec Unit := do
  debugAssert (opcode = 0x0A)
  let val ← clockRead (← cpu).regBc
  modifyCpu (·.setA val)

def opcodeLdADeaddr (opcode : UInt8) : Exec Unit := do
  debugAssert (opcode = 0x1A)
  let val ← clockRead (← cpu).regDe
  modifyCpu (·.setA val)

def opcodeLdAHliaddr (opcode : UInt8) : Exec Unit := do
  debugAssert (opcode = 0x2A)
  let val ← clockRead (← cpu).regHl
  modifyCpu (·.setA val)
  modifyCpu fun c => c.setHl (c.regHl + 1)

def opcodeLdAHldaddr (opcode : UInt8) : Exec Unit := do
  debugAssert (opcode = 0x3A)
  let val ← clockRead (← cpu).regHl
  modifyCpu (·.setA val)
  modifyCpu fun c => c.setHl (c.regHl - 1)

def opcodeLdR8Hladdr (opcode : UInt8) : Exec Unit := do
  debugAssert (opcode ∈ [0x46, 0x4E, 0x56, 0x5E, 0x66, 0x6E, 0x7E])
  debugAssert (srcReg opcode = 0x6)
  let val ← clockReadAtHl
  debugAssert (dstReg opcode ≠ 0x6)
  writeR8 (dstReg opcode) val

def opcodeLdAImm16addr (opcode : UInt8) : Exec Unit := do
  debugAssert (opcode = 0xFA)
  let addr ← clockConsumeWordFromPc
  let val ← clockRead addr
  modifyCpu (·.setA val)

/-- SP plus a signed byte, with the flags both users of it set. -/
def addSpE8 (e : UInt8) : Exec UInt16 := do
  let spVal := (← cpu).regSp
  let sum := spVal + signExtend e
  let carries := spVal ^^^ signExtend e ^^^ sum
  setFlags false false (carries &&& 0x10 == 0x10) (carries &&& 0x100 == 0x100)
  return sum

def opcodeLdHlSpi (opcode : UInt8) : Exec Unit := do
  debugAssert (opcode = 0xF8)
  let e ← clockConsumeByteFromPc
  let sum ← addSpE8 e
  modifyCpu (·.setHl sum)
  clock

def opcodeLdSpHl (opcode : UInt8) : Exec Unit := do
  debugAssert (opcode = 0xF9)
  modifyCpu fun c => c.setSp c.regHl
  clock

def opcodeLdR16Imm16 (opcode : UInt8) : Exec Unit := do
  debugAssert (opcode ∈ [0x01, 0x11, 0x21, 0x31])
  let val ← clockConsumeWordFromPc
  writeR16 (reg16 opcode) val

def opcodeLdHliaddrA (opcode : UInt8) : Exec Unit := do
  debugAssert (opcode = 0x22)
  let hl := (← cpu).regHl
  modifyCpu (·.setHl (hl + 1))
  clockWrite hl (← cpu).a

def opcodeLdHldaddrA (opcode : UInt8) : Exec Unit := do
  debugAssert (opcode = 0x32)
  let hl := (← cpu).regHl
  modifyCpu (·.setHl (hl - 1))
  clockWrite hl (← cpu).a

def opcodeLdBcaddrA (opcode : UInt8) : Exec Unit := do
  debugAssert (opcode = 0x02)
  clockWrite (← cpu).regBc (← cpu).a

def opcodeLdDeaddrA (opcode : UInt8) : Exec Unit := do
  debugAssert (opcode = 0x12)
  clockWrite (← cpu).regDe (← cpu).a

def opcodeHladdrR8 (opcode : UInt8) : Exec Unit := do
  debugAssert (opcode ∈ [0x70, 0x71, 0x72, 0x73, 0x74, 0x75, 0x77])
  let val ← readR8 (srcReg opcode)
  debugAssert (dstReg opcode = 0x6)
  debugAssert (srcReg opcode ≠ 0x6)
  clockWriteAtHl val

def opcodeImm16addrR16 (opcode : UInt8) : Exec Unit := do
  debugAssert (opcode = 0x08)
  let addr ← clockConsumeWordFromPc
  let sp := (← cpu).regSp
  clockWrite addr (getLow sp)
  let next ← check (checkedAddU16 .storeSp addr 1)
  clockWrite next (getHigh sp)

def opcodeHladdrImm8 (opcode : UInt8) : Exec Unit := do
  debugAssert (opcode = 0x36)
  let val ← clockConsumeByteFromPc
  clockWriteAtHl val

/-- An address in the high page. -/
def highAddr (low : UInt8) : UInt16 := low.toUInt16 ||| (0xFF00 : UInt16)

def opcodeR8addrA (opcode : UInt8) : Exec Unit := do
  debugAssert (opcode = 0xE2)
  clockWrite (highAddr (← cpu).c) (← cpu).a

def opcodeImm16addrA (opcode : UInt8) : Exec Unit := do
  debugAssert (opcode = 0xEA)
  let addr ← clockConsumeWordFromPc
  clockWrite addr (← cpu).a

def opcodeR8C (opcode : UInt8) : Exec Unit := do
  debugAssert (opcode = 0xF2)
  let val ← clockRead (highAddr (← cpu).c)
  modifyCpu (·.setA val)

def opcodeLdhR8addrA (opcode : UInt8) : Exec Unit := do
  debugAssert (opcode = 0xE0)
  let low ← clockConsumeByteFromPc
  clockWrite (highAddr low) (← cpu).a

def opcodeLdhAR8addr (opcode : UInt8) : Exec Unit := do
  debugAssert (opcode = 0xF0)
  let low ← clockConsumeByteFromPc
  let val ← clockRead (highAddr low)
  modifyCpu (·.setA val)

/-! ### Increment and decrement -/

/-- The result of an 8-bit increment, with its flags set. -/
def inc8 (currVal : UInt8) : Exec UInt8 := do
  let sum := currVal + 1
  setFlag flagZ (sum == 0)
  setFlag flagN false
  setFlag flagH (sum &&& 0xF == 0)
  return sum

/-- The result of an 8-bit decrement, with its flags set. -/
def dec8 (currVal : UInt8) : Exec UInt8 := do
  let sum := currVal - 1
  setFlag flagZ (sum == 0)
  setFlag flagN true
  setFlag flagH (sum &&& 0x0F == 0x0F)
  return sum

def opcodeIncR8 (opcode : UInt8) : Exec Unit := do
  debugAssert (dstReg opcode ≠ 0x6)
  let sum ← inc8 (← readR8 (dstReg opcode))
  writeR8 (dstReg opcode) sum

def opcodeIncR16 (opcode : UInt8) : Exec Unit := do
  let currVal ← readR16 (reg16 opcode)
  writeR16 (reg16 opcode) (currVal + 1)
  clock

def opcodeIncR16addr (opcode : UInt8) : Exec Unit := do
  debugAssert (opcode = 0x34)
  let sum ← inc8 (← clockReadAtHl)
  clockWriteAtHl sum

def opcodeDecR8 (opcode : UInt8) : Exec Unit := do
  debugAssert (dstReg opcode ≠ 0x6)
  let sum ← dec8 (← readR8 (dstReg opcode))
  writeR8 (dstReg opcode) sum

def opcodeDecR16 (opcode : UInt8) : Exec Unit := do
  let currVal ← readR16 (reg16 opcode)
  writeR16 (reg16 opcode) (currVal - 1)
  clock

def opcodeDecR16addr (opcode : UInt8) : Exec Unit := do
  debugAssert (opcode = 0x35)
  let sum ← dec8 (← clockReadAtHl)
  clockWriteAtHl sum

/-! ### Rotations

`rlc`, `rrc`, `rl` and `rr` rotate a byte and set all four flags.
-/

def rrc (val : UInt8) : Exec UInt8 := do
  let carryBit := val &&& 0x1
  let result := (val >>> (1 : UInt8)) ||| (carryBit <<< (7 : UInt8))
  setFlags (result == 0) false false (carryBit == 0x1)
  return result

def rr (val : UInt8) : Exec UInt8 := do
  let carryFlag := (← cpu).getFlag flagC
  let carryNext := val &&& 0x1
  let result := ((bit carryFlag) <<< (7 : UInt8)) ||| (val >>> (1 : UInt8))
  setFlags (result == 0) false false (carryNext == 0x1)
  return result

def rlc (val : UInt8) : Exec UInt8 := do
  let carryBit := val &&& 0x80
  let result := (val <<< (1 : UInt8)) ||| (carryBit >>> (7 : UInt8))
  setFlags (result == 0) false false (carryBit == 0x80)
  return result

def rl (val : UInt8) : Exec UInt8 := do
  let carryFlag := (← cpu).getFlag flagC
  let carryNext := val &&& 0x80
  let result := (val <<< (1 : UInt8)) ||| bit carryFlag
  setFlags (result == 0) false false (carryNext == 0x80)
  return result

/-- A rotation of A, which always clears Z. -/
def rotateA (rotate : UInt8 → Exec UInt8) : Exec Unit := do
  let result ← rotate (← cpu).a
  modifyCpu (·.setA result)
  setFlag flagZ false

def opcodeRlca (opcode : UInt8) : Exec Unit := do
  debugAssert (opcode = 0x7)
  rotateA rlc

def opcodeRrca (opcode : UInt8) : Exec Unit := do
  debugAssert (opcode = 0x0F)
  rotateA rrc

def opcodeRla (opcode : UInt8) : Exec Unit := do
  debugAssert (opcode = 0x17)
  rotateA rl

def opcodeRra (opcode : UInt8) : Exec Unit := do
  debugAssert (opcode = 0x1F)
  rotateA rr

/-! ### Arithmetic and logic on A -/

/-- The source operand of an arithmetic instruction, by its kind. -/
def clockConsumeSrcR8Imm8Hladdr (src : OperandKind) (opcode : UInt8) : Exec UInt8 :=
  match src with
  | .r8 => do
    debugAssert (srcReg opcode ≠ 0x6)
    debugAssert (srcReg opcode < 0x8)
    readR8 (srcReg opcode)
  | .r16Addr => clockReadAtHl
  | .imm8 => clockConsumeByteFromPc
  | _ => check (.error (.unreachable .opcode))

def addA8 (val carry : UInt8) : Exec Unit := do
  let dstVal := (← cpu).a
  let sumFull := dstVal.toNat + val.toNat + carry.toNat
  let sumLow := dstVal + val + carry
  let half := (dstVal &&& (0xF : UInt8)).toNat + (val &&& (0xF : UInt8)).toNat + carry.toNat
  setFlags (sumLow == 0) false (half > 0xF) (sumFull > 0xFF)
  modifyCpu (·.setA sumLow)

def subA8 (val carry : UInt8) : Exec Unit := do
  let dstVal := (← cpu).a
  let resFull : ℤ := (dstVal.toNat : ℤ) - val.toNat - carry.toNat
  let resLow := dstVal - val - carry
  let halfCarry : ℤ :=
    ((dstVal &&& (0xF : UInt8)).toNat : ℤ) - (val &&& (0xF : UInt8)).toNat - carry.toNat
  setFlags (resLow == 0) true (halfCarry < 0) (resFull < 0)
  modifyCpu (·.setA resLow)

/-- A logical operation on A: only Z depends on the result. -/
def logicA8 (op : UInt8 → UInt8 → UInt8) (h : Bool) (val : UInt8) : Exec Unit := do
  let result := op (← cpu).a val
  setFlags (result == 0) false h false
  modifyCpu (·.setA result)

def andA8 (val : UInt8) : Exec Unit := logicA8 (· &&& ·) true val
def xorA8 (val : UInt8) : Exec Unit := logicA8 (· ^^^ ·) false val
def orA8 (val : UInt8) : Exec Unit := logicA8 (· ||| ·) false val

def cpA8 (val : UInt8) : Exec Unit := do
  let aVal := (← cpu).a
  subA8 val 0
  modifyCpu (·.setA aVal)

/-- The carry flag as the byte `adc` and `sbc` add. -/
def carry : Exec UInt8 := return bit ((← cpu).getFlag flagC)

def opcodeAddR8Imm8Hladdr (src : OperandKind) (opcode : UInt8) : Exec Unit := do
  let srcVal ← clockConsumeSrcR8Imm8Hladdr src opcode
  addA8 srcVal 0

def opcodeAdc (src : OperandKind) (opcode : UInt8) : Exec Unit := do
  let srcVal ← clockConsumeSrcR8Imm8Hladdr src opcode
  addA8 srcVal (← carry)

def opcodeSub (src : OperandKind) (opcode : UInt8) : Exec Unit := do
  let srcVal ← clockConsumeSrcR8Imm8Hladdr src opcode
  subA8 srcVal 0

def opcodeSbc (src : OperandKind) (opcode : UInt8) : Exec Unit := do
  let srcVal ← clockConsumeSrcR8Imm8Hladdr src opcode
  subA8 srcVal (← carry)

def opcodeAnd (src : OperandKind) (opcode : UInt8) : Exec Unit := do
  let srcVal ← clockConsumeSrcR8Imm8Hladdr src opcode
  andA8 srcVal

def opcodeXor (src : OperandKind) (opcode : UInt8) : Exec Unit := do
  let srcVal ← clockConsumeSrcR8Imm8Hladdr src opcode
  xorA8 srcVal

def opcodeOr (src : OperandKind) (opcode : UInt8) : Exec Unit := do
  let srcVal ← clockConsumeSrcR8Imm8Hladdr src opcode
  orA8 srcVal

def opcodeCp (src : OperandKind) (opcode : UInt8) : Exec Unit := do
  let srcVal ← clockConsumeSrcR8Imm8Hladdr src opcode
  cpA8 srcVal

def opcodeAddHlR16 (opcode : UInt8) : Exec Unit := do
  let srcVal ← readR16 (reg16 opcode)
  let dstVal := (← cpu).regHl
  let half := (dstVal &&& (0xFFF : UInt16)).toNat + (srcVal &&& (0xFFF : UInt16)).toNat
  setFlag flagN false
  setFlag flagH (half > 0xFFF)
  setFlag flagC (srcVal.toNat + dstVal.toNat > 0xFFFF)
  modifyCpu (·.setHl (srcVal + dstVal))
  clock

def opcodeAddSpE8 (opcode : UInt8) : Exec Unit := do
  debugAssert (opcode = 0xE8)
  let e ← clockConsumeByteFromPc
  let sum ← addSpE8 e
  clock
  clock
  modifyCpu (·.setSp sum)

def opcodeDaa : Exec Unit := do
  let originalVal := (← cpu).a
  let h := (← cpu).getFlag flagH
  let c := (← cpu).getFlag flagC
  let n := (← cpu).getFlag flagN
  let low : UInt8 := if (!n && originalVal &&& 0xF > 0x9) || h then 0x6 else 0
  let carryNext := (!n && originalVal > 0x99) || c
  let offset : UInt8 := low ||| (if carryNext then 0x60 else 0)
  let daaValue := if n then originalVal - offset else originalVal + offset
  modifyCpu (·.setA daaValue)
  setFlag flagC carryNext
  setFlag flagH false
  setFlag flagZ (daaValue == 0)

def opcodeCpl : Exec Unit := do
  modifyCpu fun c => c.setA (~~~c.a)
  setFlag flagN true
  setFlag flagH true

def opcodeScf : Exec Unit := do
  setFlag flagC true
  setFlag flagN false
  setFlag flagH false

def opcodeCcf : Exec Unit := do
  let c := (← cpu).getFlag flagC
  setFlag flagC !c
  setFlag flagN false
  setFlag flagH false

/-! ### Control -/

def opcodeStop (opcode : UInt8) : Exec Unit := do
  debugAssert (opcode = 0x10)
  modifySoc (·.cgbSpeedSwitch)

/-- HALT with interrupts disabled and one pending does not halt. -/
def opcodeHalt : Exec Unit := do
  if (← cpu).ime || (← soc).activeInterrupts == 0 then
    modifyCpu fun c => { c with halted := true }
    modifySoc (·.setCpuHalted true)

def opcodeDi : Exec Unit := modifyCpu fun c => { c with ime := false }

def opcodeEi : Exec Unit := modifyCpu fun c => { c with imeNext := true }

/-- The condition in bits 3 and 4 of a conditional opcode. -/
def branchTaken (opcode : UInt8) (c : Cpu) : Bool :=
  match ((opcode >>> (3 : UInt8)) &&& (0x3 : UInt8)).toNat with
  | 0x3 => c.getFlag flagC
  | 0x2 => !c.getFlag flagC
  | 0x1 => c.getFlag flagZ
  | _ => !c.getFlag flagZ

/-- What a conditional branch does: go on with it, or record that it was skipped. -/
def branch (taken : Bool) (go : Exec Unit) : Exec Unit :=
  if taken then go else modifyCpu fun c => { c with branchSkipped := true }

/-- Jump relative to PC. -/
def jumpRelative (e : UInt8) : Exec Unit := do
  modifyCpu fun c => c.setPc (c.regPc + signExtend e)
  clock

/-- Jump to an address. -/
def jump (addr : UInt16) : Exec Unit := do
  modifyCpu (·.setPc addr)
  clock

def opcodeJrE8 : Exec Unit := do
  let e ← clockConsumeByteFromPc
  jumpRelative e

def opcodeJrCc (opcode : UInt8) : Exec Unit := do
  debugAssert (opcode ∈ [0x20, 0x28, 0x30, 0x38])
  let taken := branchTaken opcode (← cpu)
  let e ← clockConsumeByteFromPc
  branch taken (jumpRelative e)

def opcodeJpHl : Exec Unit := modifyCpu fun c => c.setPc c.regHl

def opcodeJpA16 : Exec Unit := do
  let addr ← clockConsumeWordFromPc
  jump addr

def opcodeJpCc (opcode : UInt8) : Exec Unit := do
  let addr ← clockConsumeWordFromPc
  branch (branchTaken opcode (← cpu)) (jump addr)

/-- Push PC and continue at an address. -/
def call (addr : UInt16) : Exec Unit := do
  clock
  clockPushU8 (getHigh (← cpu).regPc)
  clockPushU8 (getLow (← cpu).regPc)
  modifyCpu (·.setPc addr)

def opcodeCallA16 : Exec Unit := do
  let addr ← clockConsumeWordFromPc
  call addr

def opcodeCallCc (opcode : UInt8) : Exec Unit := do
  let addr ← clockConsumeWordFromPc
  debugAssert (opcode ∈ [0xC4, 0xCC, 0xD4, 0xDC])
  branch (branchTaken opcode (← cpu)) (call addr)

def opcodeRst (opcode : UInt8) : Exec Unit := do
  clock
  clockPushU8 (getHigh (← cpu).regPc)
  clockPushU8 (getLow (← cpu).regPc)
  let low ← check (checkedSubU8 .opcode opcode 0xC7)
  modifyCpu (·.setPc (value 0x0 low))

/-- Return to the address on the stack. -/
def ret : Exec Unit := do
  let retVal ← clockPopU16
  modifyCpu (·.setPc retVal)
  clock

def opcodeRet : Exec Unit := ret

def opcodeRetCc (opcode : UInt8) : Exec Unit := do
  debugAssert (opcode ∈ [0xC0, 0xC8, 0xD0, 0xD8])
  let taken := branchTaken opcode (← cpu)
  clock
  branch taken ret

def opcodeReti : Exec Unit := do
  let retVal ← clockPopU16
  modifyCpu (·.setPc retVal)
  modifyCpu fun c => { c with ime := true }
  clock

def opcodePush (opcode : UInt8) : Exec Unit := do
  clock
  clockPushU8 (← readR16stkMsb (reg16 opcode))
  clockPushU8 (← readR16stkLsb (reg16 opcode))

def opcodePop (opcode : UInt8) : Exec Unit := do
  let val ← clockPopU16
  writeR16stk (reg16 opcode) val

/-! ### Opcodes that must not be executed -/

def undocumented : Exec Unit := check (.error (.unreachable .illegalOpcode))

def opcodePrefix : Exec Unit := undocumented
def opcodeIllegalD3 : Exec Unit := undocumented
def opcodeIllegalDb : Exec Unit := undocumented
def opcodeIllegalDd : Exec Unit := undocumented
def opcodeIllegalE3 : Exec Unit := undocumented
def opcodeIllegalE4 : Exec Unit := undocumented
def opcodeIllegalEb : Exec Unit := undocumented
def opcodeIllegalEc : Exec Unit := undocumented
def opcodeIllegalEd : Exec Unit := undocumented
def opcodeIllegalF4 : Exec Unit := undocumented
def opcodeIllegalFc : Exec Unit := undocumented
def opcodeIllegalFd : Exec Unit := undocumented

/-! ### 0xCB instructions -/

def clockReadR8Hladdr (srcDecoded : UInt8) : Exec UInt8 :=
  if srcDecoded = 0x6 then clockReadAtHl else readR8 srcDecoded

def clockWriteR8Hladdr (dstDecoded data : UInt8) : Exec Unit :=
  if dstDecoded = 0x6 then clockWriteAtHl data else writeR8 dstDecoded data

/-- Read the operand of a 0xCB instruction, compute, and write it back. -/
def modifyR8Hladdr (compute : UInt8 → Exec UInt8) (opcode : UInt8) : Exec Unit := do
  let val ← clockReadR8Hladdr (srcReg opcode)
  let newVal ← compute val
  clockWriteR8Hladdr (srcReg opcode) newVal

def opcodeRlc (opcode : UInt8) : Exec Unit := modifyR8Hladdr rlc opcode
def opcodeRrc (opcode : UInt8) : Exec Unit := modifyR8Hladdr rrc opcode
def opcodeRl (opcode : UInt8) : Exec Unit := modifyR8Hladdr rl opcode
def opcodeRr (opcode : UInt8) : Exec Unit := modifyR8Hladdr rr opcode

def sla (val : UInt8) : Exec UInt8 := do
  -- Strip least significant bit
  let newVal := (← rlc val) &&& 0xFE
  setFlag flagZ (newVal == 0)
  return newVal

def sra (val : UInt8) : Exec UInt8 := do
  let highBit := val &&& 0x80
  let newVal := ((← rrc val) &&& (0x7F : UInt8)) ||| highBit
  setFlag flagZ (newVal == 0)
  return newVal

def swap (val : UInt8) : Exec UInt8 := do
  let low4 := val &&& 0xF
  let newVal := (val >>> (4 : UInt8)) ||| (low4 <<< (4 : UInt8))
  setFlags (newVal == 0) false false false
  return newVal

def srl (val : UInt8) : Exec UInt8 := do
  let newVal := (← rrc val) &&& 0x7F
  setFlag flagZ (newVal == 0)
  return newVal

def opcodeSla (opcode : UInt8) : Exec Unit := modifyR8Hladdr sla opcode
def opcodeSra (opcode : UInt8) : Exec Unit := modifyR8Hladdr sra opcode
def opcodeSwap (opcode : UInt8) : Exec Unit := modifyR8Hladdr swap opcode
def opcodeSrl (opcode : UInt8) : Exec Unit := modifyR8Hladdr srl opcode

def opcodeBit (opcode : UInt8) : Exec Unit := do
  let val ← clockReadR8Hladdr (srcReg opcode)
  let bitSet := (val >>> dstReg opcode) &&& (0x1 : UInt8)
  setFlag flagZ (bitSet == 0)
  setFlag flagN false
  setFlag flagH true

def opcodeRes (opcode : UInt8) : Exec Unit :=
  modifyR8Hladdr (fun val => return val &&& ~~~((0x1 : UInt8) <<< dstReg opcode)) opcode

def opcodeSet (opcode : UInt8) : Exec Unit :=
  modifyR8Hladdr (fun val => return val ||| ((0x1 : UInt8) <<< dstReg opcode)) opcode

end Exec

end ZenithGb
