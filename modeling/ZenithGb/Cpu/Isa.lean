import ZenithGb.Cpu.State

/-!
# The CPU: what the instruction tables say

The comments of the two instruction tables give each opcode a mnemonic and, for each of the flags Z,
N, H and C, a column: `-` for unchanged, 0 or 1, or the letter of the flag if it is computed. This
module transcribes them, and says in arithmetic what the mnemonics compute.

## Main definitions

* `Mnemonic.changes` — the registers an instruction may change
* `Mnemonic.Operand`, `Mnemonic.computed` — the byte it works on, and the flags it computes
* `listings`, `listingsCb` — the comments of the tables
-/

namespace ZenithGb

/-! ### Registers and flags -/

/-- The 8-bit registers, without F. -/
inductive R8
  | b | c | d | e | h | l | a
  deriving DecidableEq, Repr

/-- The registers of a program, apart from PC and F. -/
inductive Reg
  | r8 (r : R8)
  | sp
  deriving DecidableEq, Repr

def R8.get (cpu : Cpu) : R8 → UInt8
  | .b => cpu.b
  | .c => cpu.c
  | .d => cpu.d
  | .e => cpu.e
  | .h => cpu.h
  | .l => cpu.l
  | .a => cpu.a

def Reg.read (cpu : Cpu) : Reg → UInt16
  | .r8 r => (r.get cpu).toUInt16
  | .sp => cpu.regSp

@[ext] structure Flags where
  z : Bool
  n : Bool
  h : Bool
  c : Bool
  deriving DecidableEq, Repr

def Cpu.flags (c : Cpu) : Flags :=
  ⟨c.getFlag flagZ, c.getFlag flagN, c.getFlag flagH, c.getFlag flagC⟩

namespace Flags

/-- The carry flag as a number. -/
def carry (f : Flags) : ℕ := if f.c then 1 else 0

/-- The flags of an 8-bit sum: carries out of bits 3 and 7. -/
def ofSum (x y carry : ℕ) : Flags where
  z := (x + y + carry) % 0x100 = 0
  n := false
  h := 0x10 ≤ x % 0x10 + y % 0x10 + carry
  c := 0x100 ≤ x + y + carry

/-- The flags of an 8-bit difference: borrows out of bits 3 and 7. -/
def ofDifference (x y borrow : ℕ) : Flags where
  z := (x + 0x200 - (y + borrow)) % 0x100 = 0
  n := true
  h := x % 0x10 < y % 0x10 + borrow
  c := x < y + borrow

/-- The flags of a 16-bit sum: carries out of bits 11 and 15. -/
def ofSum16 (x y : ℕ) : Flags where
  z := (x + y) % 0x10000 = 0
  n := false
  h := 0x1000 ≤ x % 0x1000 + y % 0x1000
  c := 0x10000 ≤ x + y

/-- The flags of a result, and of the bit that was shifted out of it. -/
def ofResult (result : ℕ) (out : Bool) : Flags where
  z := result % 0x100 = 0
  n := false
  h := false
  c := out

/-- The flags in the high nibble of a byte. -/
def ofByte (x : UInt8) : Flags :=
  ⟨x.toNat.testBit 7, x.toNat.testBit 6, x.toNat.testBit 5, x.toNat.testBit 4⟩

/-- What DAA adds or subtracts, and the carry it leaves. -/
def correction (f : Flags) (a : ℕ) : ℕ × Bool :=
  let carry := f.c || (!f.n && decide (0x99 < a))
  ((if f.h || (!f.n && decide (0x9 < a % 0x10)) then 0x6 else 0) +
    (if carry then 0x60 else 0), carry)

/-- The flags of DAA. -/
def ofDaa (f : Flags) (a : ℕ) : Flags :=
  let (offset, carry) := f.correction a
  ofResult (if f.n then a + 0x100 - offset else a + offset) carry

end Flags

/-! ### Columns -/

/-- What a column says of its flag. -/
inductive Column
  | kept | zero | one | computed
  deriving DecidableEq, Repr

structure FlagColumns where
  z : Column
  n : Column
  h : Column
  c : Column
  deriving DecidableEq, Repr

def Column.apply (before computed : Bool) : Column → Bool
  | .kept => before
  | .zero => false
  | .one => true
  | .computed => computed

def FlagColumns.apply (cols : FlagColumns) (before computed : Flags) : Flags :=
  ⟨cols.z.apply before.z computed.z, cols.n.apply before.n computed.n,
    cols.h.apply before.h computed.h, cols.c.apply before.c computed.c⟩

namespace FlagColumns

variable {before computed : Flags}

/-! The names spell the columns after the `f`, with `_` for `-`. -/

def same : FlagColumns := ⟨.kept, .kept, .kept, .kept⟩
def fz0h_ : FlagColumns := ⟨.computed, .zero, .computed, .kept⟩
def fz1h_ : FlagColumns := ⟨.computed, .one, .computed, .kept⟩
def f000c : FlagColumns := ⟨.zero, .zero, .zero, .computed⟩
def f_0hc : FlagColumns := ⟨.kept, .zero, .computed, .computed⟩
def fz_0c : FlagColumns := ⟨.computed, .kept, .zero, .computed⟩
def f_11_ : FlagColumns := ⟨.kept, .one, .one, .kept⟩
def f_001 : FlagColumns := ⟨.kept, .zero, .zero, .one⟩
def f_00c : FlagColumns := ⟨.kept, .zero, .zero, .computed⟩
def fz0hc : FlagColumns := ⟨.computed, .zero, .computed, .computed⟩
def fz1hc : FlagColumns := ⟨.computed, .one, .computed, .computed⟩
def f1100 : FlagColumns := ⟨.one, .one, .zero, .zero⟩
def fz010 : FlagColumns := ⟨.computed, .zero, .one, .zero⟩
def fz000 : FlagColumns := ⟨.computed, .zero, .zero, .zero⟩
def f1000 : FlagColumns := ⟨.one, .zero, .zero, .zero⟩
def fznhc : FlagColumns := ⟨.computed, .computed, .computed, .computed⟩
def f00hc : FlagColumns := ⟨.zero, .zero, .computed, .computed⟩
def fz00c : FlagColumns := ⟨.computed, .zero, .zero, .computed⟩
def fz01_ : FlagColumns := ⟨.computed, .zero, .one, .kept⟩

@[simp] theorem same_apply : same.apply before computed = before := rfl

end FlagColumns

/-! ### Operands -/

/-- The operands of the mnemonics. -/
inductive Arg
  | r8 (r : R8)
  | bc | de | hl | sp | af
  /-- In memory: `[BC]`, `[DE]`, `[HL]`, `[HL+]`, `[HL-]`, `[C]`, `[a8]`, `[a16]`. -/
  | atBc | atDe | atHl | atHli | atHld | atC | atA8 | atA16
  /-- After the opcode, the last as `SP+`. -/
  | n8 | n16 | e8 | spE8
  deriving DecidableEq, Repr

namespace Arg

@[match_pattern] abbrev b : Arg := .r8 .b
@[match_pattern] abbrev c : Arg := .r8 .c
@[match_pattern] abbrev d : Arg := .r8 .d
@[match_pattern] abbrev e : Arg := .r8 .e
@[match_pattern] abbrev h : Arg := .r8 .h
@[match_pattern] abbrev l : Arg := .r8 .l
@[match_pattern] abbrev a : Arg := .r8 .a

/-- The registers that hold the operand. F is not one of them. -/
def regs : Arg → List Reg
  | .r8 r => [.r8 r]
  | .bc => [.r8 .b, .r8 .c]
  | .de => [.r8 .d, .r8 .e]
  | .hl => [.r8 .h, .r8 .l]
  | .sp => [.sp]
  | .af => [.r8 .a]
  | _ => []

/-- The registers that move when the operand is accessed. -/
def moves : Arg → List Reg
  | .atHli | .atHld => [.r8 .h, .r8 .l]
  | _ => []

/-- The 16-bit operands of ADD HL. -/
def word (cpu : Cpu) : Arg → UInt16
  | .bc => cpu.regBc
  | .de => cpu.regDe
  | .hl => cpu.regHl
  | _ => cpu.regSp

/-- The byte `x` is the operand: in a register, or what the bus returns for it. The byte of AF is
the one POP loads F from. -/
def Holds (m : Machine) (x : UInt8) : Arg → Prop
  | .r8 r => x = r.get m.cpu
  | .atHl => ∃ soc, m.soc.clockRead m.cpu.regHl = .ok (x, soc)
  | .n8 | .e8 | .spE8 => ∃ soc, m.soc.clockRead m.cpu.regPc = .ok (x, soc)
  | .af => ∃ soc, m.soc.clockRead m.cpu.regSp = .ok (x, soc)
  | _ => True

end Arg

/-! ### Mnemonics -/

/-- The instructions, without the conditions and the targets of jumps. -/
inductive Mnemonic
  | nop | stop | halt | di | ei | jr | jp | call | ret | reti | rst
  | ld (dst src : Arg) | ldh (dst src : Arg) | push (src : Arg) | pop (dst : Arg)
  | inc (dst : Arg) | dec (dst : Arg)
  | add (dst src : Arg) | adc (dst src : Arg) | sub (dst src : Arg) | sbc (dst src : Arg)
  | and (dst src : Arg) | xor (dst src : Arg) | or (dst src : Arg) | cp (dst src : Arg)
  | rlca | rrca | rla | rra | daa | cpl | scf | ccf
  | rlc (dst : Arg) | rrc (dst : Arg) | rl (dst : Arg) | rr (dst : Arg)
  | sla (dst : Arg) | sra (dst : Arg) | swap (dst : Arg) | srl (dst : Arg)
  | bit (k : ℕ) (src : Arg) | res (k : ℕ) (dst : Arg) | set (k : ℕ) (dst : Arg)
  | cbPrefix | illegal
  deriving DecidableEq, Repr

namespace Mnemonic

/-- The registers an instruction may change: its destination, HL where it is stepped on, and SP
where the stack is used. -/
def changes : Mnemonic → List Reg
  | .ld dst src | .ldh dst src => dst.regs ++ dst.moves ++ src.moves
  | .pop dst => .sp :: dst.regs
  | .push _ | .call | .ret | .reti | .rst => [.sp]
  | .inc dst | .dec dst | .rlc dst | .rrc dst | .rl dst | .rr dst | .sla dst | .sra dst | .swap dst
  | .srl dst | .res _ dst | .set _ dst => dst.regs
  | .add dst _ | .adc dst _ | .sub dst _ | .sbc dst _ | .and dst _ | .xor dst _ | .or dst _ =>
    dst.regs
  | .rlca | .rrca | .rla | .rra | .daa | .cpl => [.r8 .a]
  | _ => []

/-- The byte `x` is the one the flags of the instruction depend on, if there is one. -/
def Operand (m : Machine) (x : UInt8) : Mnemonic → Prop
  | .inc dst | .dec dst | .rlc dst | .rrc dst | .rl dst | .rr dst | .sla dst | .sra dst | .swap dst
  | .srl dst => dst.Holds m x
  | .add _ src | .adc _ src | .sub _ src | .sbc _ src | .and _ src | .xor _ src | .or _ src
  | .cp _ src | .bit _ src => src.Holds m x
  | .rlca | .rrca | .rla | .rra => Arg.a.Holds m x
  | .ld _ .spE8 => Arg.spE8.Holds m x
  | .pop dst => dst.Holds m x
  | _ => True

/-- The flags an instruction computes in `cpu` from the byte `x`. -/
def computed (cpu : Cpu) (x : UInt8) : Mnemonic → Flags
  | .inc _ => .ofSum x.toNat 1 0
  | .dec _ => .ofDifference x.toNat 1 0
  | .add .hl src => .ofSum16 cpu.regHl.toNat (src.word cpu).toNat
  | .add .sp _ | .ld _ .spE8 => .ofSum (cpu.regSp.toNat % 0x100) x.toNat 0
  | .add _ _ => .ofSum cpu.a.toNat x.toNat 0
  | .adc _ _ => .ofSum cpu.a.toNat x.toNat cpu.flags.carry
  | .sub _ _ | .cp _ _ => .ofDifference cpu.a.toNat x.toNat 0
  | .sbc _ _ => .ofDifference cpu.a.toNat x.toNat cpu.flags.carry
  | .and _ _ => .ofResult (cpu.a.toNat &&& x.toNat) false
  | .xor _ _ => .ofResult (cpu.a.toNat ^^^ x.toNat) false
  | .or _ _ => .ofResult (cpu.a.toNat ||| x.toNat) false
  | .rlc _ | .rlca => .ofResult (2 * x.toNat + x.toNat / 0x80) (0x80 ≤ x.toNat)
  | .rl _ | .rla => .ofResult (2 * x.toNat + cpu.flags.carry) (0x80 ≤ x.toNat)
  | .sla _ => .ofResult (2 * x.toNat) (0x80 ≤ x.toNat)
  | .rrc _ | .rrca => .ofResult (x.toNat / 2 + 0x80 * (x.toNat % 2)) (x.toNat % 2 = 1)
  | .rr _ | .rra => .ofResult (x.toNat / 2 + 0x80 * cpu.flags.carry) (x.toNat % 2 = 1)
  | .sra _ => .ofResult (x.toNat / 2 + x.toNat / 0x80 * 0x80) (x.toNat % 2 = 1)
  | .srl _ => .ofResult (x.toNat / 2) (x.toNat % 2 = 1)
  | .swap _ => .ofResult (x.toNat % 0x10 * 0x10 + x.toNat / 0x10) false
  | .bit k _ => .ofResult (x.toNat / 2 ^ k % 2) false
  | .daa => .ofDaa cpu.flags cpu.a.toNat
  | .ccf => .ofResult 0 !cpu.flags.c
  | .pop _ => .ofByte x
  | _ => cpu.flags

end Mnemonic

/-! ### The tables -/

/-- The comment of a table entry. -/
structure Listing where
  mnemonic : Mnemonic
  flags : FlagColumns
  deriving DecidableEq, Repr

/-- The comments of `INSTR_INDEX`, four to a line. -/
def listings : List Listing := [
  ⟨.nop, .same⟩, ⟨.ld .bc .n16, .same⟩, ⟨.ld .atBc .a, .same⟩, ⟨.inc .bc, .same⟩,
  ⟨.inc .b, .fz0h_⟩, ⟨.dec .b, .fz1h_⟩, ⟨.ld .b .n8, .same⟩, ⟨.rlca, .f000c⟩,
  ⟨.ld .atA16 .sp, .same⟩, ⟨.add .hl .bc, .f_0hc⟩, ⟨.ld .a .atBc, .same⟩, ⟨.dec .bc, .same⟩,
  ⟨.inc .c, .fz0h_⟩, ⟨.dec .c, .fz1h_⟩, ⟨.ld .c .n8, .same⟩, ⟨.rrca, .f000c⟩,
  ⟨.stop, .same⟩, ⟨.ld .de .n16, .same⟩, ⟨.ld .atDe .a, .same⟩, ⟨.inc .de, .same⟩,
  ⟨.inc .d, .fz0h_⟩, ⟨.dec .d, .fz1h_⟩, ⟨.ld .d .n8, .same⟩, ⟨.rla, .f000c⟩,
  ⟨.jr, .same⟩, ⟨.add .hl .de, .f_0hc⟩, ⟨.ld .a .atDe, .same⟩, ⟨.dec .de, .same⟩,
  ⟨.inc .e, .fz0h_⟩, ⟨.dec .e, .fz1h_⟩, ⟨.ld .e .n8, .same⟩, ⟨.rra, .f000c⟩,
  ⟨.jr, .same⟩, ⟨.ld .hl .n16, .same⟩, ⟨.ld .atHli .a, .same⟩, ⟨.inc .hl, .same⟩,
  ⟨.inc .h, .fz0h_⟩, ⟨.dec .h, .fz1h_⟩, ⟨.ld .h .n8, .same⟩, ⟨.daa, .fz_0c⟩,
  ⟨.jr, .same⟩, ⟨.add .hl .hl, .f_0hc⟩, ⟨.ld .a .atHli, .same⟩, ⟨.dec .hl, .same⟩,
  ⟨.inc .l, .fz0h_⟩, ⟨.dec .l, .fz1h_⟩, ⟨.ld .l .n8, .same⟩, ⟨.cpl, .f_11_⟩,
  ⟨.jr, .same⟩, ⟨.ld .sp .n16, .same⟩, ⟨.ld .atHld .a, .same⟩, ⟨.inc .sp, .same⟩,
  ⟨.inc .atHl, .fz0h_⟩, ⟨.dec .atHl, .fz1h_⟩, ⟨.ld .atHl .n8, .same⟩, ⟨.scf, .f_001⟩,
  ⟨.jr, .same⟩, ⟨.add .hl .sp, .f_0hc⟩, ⟨.ld .a .atHld, .same⟩, ⟨.dec .sp, .same⟩,
  ⟨.inc .a, .fz0h_⟩, ⟨.dec .a, .fz1h_⟩, ⟨.ld .a .n8, .same⟩, ⟨.ccf, .f_00c⟩,
  ⟨.ld .b .b, .same⟩, ⟨.ld .b .c, .same⟩, ⟨.ld .b .d, .same⟩, ⟨.ld .b .e, .same⟩,
  ⟨.ld .b .h, .same⟩, ⟨.ld .b .l, .same⟩, ⟨.ld .b .atHl, .same⟩, ⟨.ld .b .a, .same⟩,
  ⟨.ld .c .b, .same⟩, ⟨.ld .c .c, .same⟩, ⟨.ld .c .d, .same⟩, ⟨.ld .c .e, .same⟩,
  ⟨.ld .c .h, .same⟩, ⟨.ld .c .l, .same⟩, ⟨.ld .c .atHl, .same⟩, ⟨.ld .c .a, .same⟩,
  ⟨.ld .d .b, .same⟩, ⟨.ld .d .c, .same⟩, ⟨.ld .d .d, .same⟩, ⟨.ld .d .e, .same⟩,
  ⟨.ld .d .h, .same⟩, ⟨.ld .d .l, .same⟩, ⟨.ld .d .atHl, .same⟩, ⟨.ld .d .a, .same⟩,
  ⟨.ld .e .b, .same⟩, ⟨.ld .e .c, .same⟩, ⟨.ld .e .d, .same⟩, ⟨.ld .e .e, .same⟩,
  ⟨.ld .e .h, .same⟩, ⟨.ld .e .l, .same⟩, ⟨.ld .e .atHl, .same⟩, ⟨.ld .e .a, .same⟩,
  ⟨.ld .h .b, .same⟩, ⟨.ld .h .c, .same⟩, ⟨.ld .h .d, .same⟩, ⟨.ld .h .e, .same⟩,
  ⟨.ld .h .h, .same⟩, ⟨.ld .h .l, .same⟩, ⟨.ld .h .atHl, .same⟩, ⟨.ld .h .a, .same⟩,
  ⟨.ld .l .b, .same⟩, ⟨.ld .l .c, .same⟩, ⟨.ld .l .d, .same⟩, ⟨.ld .l .e, .same⟩,
  ⟨.ld .l .h, .same⟩, ⟨.ld .l .l, .same⟩, ⟨.ld .l .atHl, .same⟩, ⟨.ld .l .a, .same⟩,
  ⟨.ld .atHl .b, .same⟩, ⟨.ld .atHl .c, .same⟩, ⟨.ld .atHl .d, .same⟩, ⟨.ld .atHl .e, .same⟩,
  ⟨.ld .atHl .h, .same⟩, ⟨.ld .atHl .l, .same⟩, ⟨.halt, .same⟩, ⟨.ld .atHl .a, .same⟩,
  ⟨.ld .a .b, .same⟩, ⟨.ld .a .c, .same⟩, ⟨.ld .a .d, .same⟩, ⟨.ld .a .e, .same⟩,
  ⟨.ld .a .h, .same⟩, ⟨.ld .a .l, .same⟩, ⟨.ld .a .atHl, .same⟩, ⟨.ld .a .a, .same⟩,
  ⟨.add .a .b, .fz0hc⟩, ⟨.add .a .c, .fz0hc⟩, ⟨.add .a .d, .fz0hc⟩, ⟨.add .a .e, .fz0hc⟩,
  ⟨.add .a .h, .fz0hc⟩, ⟨.add .a .l, .fz0hc⟩, ⟨.add .a .atHl, .fz0hc⟩, ⟨.add .a .a, .fz0hc⟩,
  ⟨.adc .a .b, .fz0hc⟩, ⟨.adc .a .c, .fz0hc⟩, ⟨.adc .a .d, .fz0hc⟩, ⟨.adc .a .e, .fz0hc⟩,
  ⟨.adc .a .h, .fz0hc⟩, ⟨.adc .a .l, .fz0hc⟩, ⟨.adc .a .atHl, .fz0hc⟩, ⟨.adc .a .a, .fz0hc⟩,
  ⟨.sub .a .b, .fz1hc⟩, ⟨.sub .a .c, .fz1hc⟩, ⟨.sub .a .d, .fz1hc⟩, ⟨.sub .a .e, .fz1hc⟩,
  ⟨.sub .a .h, .fz1hc⟩, ⟨.sub .a .l, .fz1hc⟩, ⟨.sub .a .atHl, .fz1hc⟩, ⟨.sub .a .a, .f1100⟩,
  ⟨.sbc .a .b, .fz1hc⟩, ⟨.sbc .a .c, .fz1hc⟩, ⟨.sbc .a .d, .fz1hc⟩, ⟨.sbc .a .e, .fz1hc⟩,
  ⟨.sbc .a .h, .fz1hc⟩, ⟨.sbc .a .l, .fz1hc⟩, ⟨.sbc .a .atHl, .fz1hc⟩, ⟨.sbc .a .a, .fz1h_⟩,
  ⟨.and .a .b, .fz010⟩, ⟨.and .a .c, .fz010⟩, ⟨.and .a .d, .fz010⟩, ⟨.and .a .e, .fz010⟩,
  ⟨.and .a .h, .fz010⟩, ⟨.and .a .l, .fz010⟩, ⟨.and .a .atHl, .fz010⟩, ⟨.and .a .a, .fz010⟩,
  ⟨.xor .a .b, .fz000⟩, ⟨.xor .a .c, .fz000⟩, ⟨.xor .a .d, .fz000⟩, ⟨.xor .a .e, .fz000⟩,
  ⟨.xor .a .h, .fz000⟩, ⟨.xor .a .l, .fz000⟩, ⟨.xor .a .atHl, .fz000⟩, ⟨.xor .a .a, .f1000⟩,
  ⟨.or .a .b, .fz000⟩, ⟨.or .a .c, .fz000⟩, ⟨.or .a .d, .fz000⟩, ⟨.or .a .e, .fz000⟩,
  ⟨.or .a .h, .fz000⟩, ⟨.or .a .l, .fz000⟩, ⟨.or .a .atHl, .fz000⟩, ⟨.or .a .a, .fz000⟩,
  ⟨.cp .a .b, .fz1hc⟩, ⟨.cp .a .c, .fz1hc⟩, ⟨.cp .a .d, .fz1hc⟩, ⟨.cp .a .e, .fz1hc⟩,
  ⟨.cp .a .h, .fz1hc⟩, ⟨.cp .a .l, .fz1hc⟩, ⟨.cp .a .atHl, .fz1hc⟩, ⟨.cp .a .a, .f1100⟩,
  ⟨.ret, .same⟩, ⟨.pop .bc, .same⟩, ⟨.jp, .same⟩, ⟨.jp, .same⟩,
  ⟨.call, .same⟩, ⟨.push .bc, .same⟩, ⟨.add .a .n8, .fz0hc⟩, ⟨.rst, .same⟩,
  ⟨.ret, .same⟩, ⟨.ret, .same⟩, ⟨.jp, .same⟩, ⟨.cbPrefix, .same⟩,
  ⟨.call, .same⟩, ⟨.call, .same⟩, ⟨.adc .a .n8, .fz0hc⟩, ⟨.rst, .same⟩,
  ⟨.ret, .same⟩, ⟨.pop .de, .same⟩, ⟨.jp, .same⟩, ⟨.illegal, .same⟩,
  ⟨.call, .same⟩, ⟨.push .de, .same⟩, ⟨.sub .a .n8, .fz1hc⟩, ⟨.rst, .same⟩,
  ⟨.ret, .same⟩, ⟨.reti, .same⟩, ⟨.jp, .same⟩, ⟨.illegal, .same⟩,
  ⟨.call, .same⟩, ⟨.illegal, .same⟩, ⟨.sbc .a .n8, .fz1hc⟩, ⟨.rst, .same⟩,
  ⟨.ldh .atA8 .a, .same⟩, ⟨.pop .hl, .same⟩, ⟨.ld .atC .a, .same⟩, ⟨.illegal, .same⟩,
  ⟨.illegal, .same⟩, ⟨.push .hl, .same⟩, ⟨.and .a .n8, .fz010⟩, ⟨.rst, .same⟩,
  ⟨.add .sp .e8, .f00hc⟩, ⟨.jp, .same⟩, ⟨.ld .atA16 .a, .same⟩, ⟨.illegal, .same⟩,
  ⟨.illegal, .same⟩, ⟨.illegal, .same⟩, ⟨.xor .a .n8, .fz000⟩, ⟨.rst, .same⟩,
  ⟨.ldh .a .atA8, .same⟩, ⟨.pop .af, .fznhc⟩, ⟨.ld .a .atC, .same⟩, ⟨.di, .same⟩,
  ⟨.illegal, .same⟩, ⟨.push .af, .same⟩, ⟨.or .a .n8, .fz000⟩, ⟨.rst, .same⟩,
  ⟨.ld .hl .spE8, .f00hc⟩, ⟨.ld .sp .hl, .same⟩, ⟨.ld .a .atA16, .same⟩, ⟨.ei, .same⟩,
  ⟨.illegal, .same⟩, ⟨.illegal, .same⟩, ⟨.cp .a .n8, .fz1hc⟩, ⟨.rst, .same⟩]

/-- The comments of `INSTR_INDEX_CB`: eight entries for each mnemonic, one for each operand. -/
def listingsCb : List Listing :=
  let args : List Arg := [.b, .c, .d, .e, .h, .l, .atHl, .a]
  args.map (⟨.rlc ·, .fz00c⟩) ++ args.map (⟨.rrc ·, .fz00c⟩) ++ args.map (⟨.rl ·, .fz00c⟩) ++
  args.map (⟨.rr ·, .fz00c⟩) ++ args.map (⟨.sla ·, .fz00c⟩) ++ args.map (⟨.sra ·, .fz00c⟩) ++
  args.map (⟨.swap ·, .fz000⟩) ++ args.map (⟨.srl ·, .fz00c⟩) ++
  (List.range 8).flatMap (fun k => args.map (⟨.bit k ·, .fz01_⟩)) ++
  (List.range 8).flatMap (fun k => args.map (⟨.res k ·, .same⟩)) ++
  (List.range 8).flatMap (fun k => args.map (⟨.set k ·, .same⟩))

theorem length_listings : listings.length = 256 := by decide +kernel

theorem length_listingsCb : listingsCb.length = 256 := by decide +kernel

/-- The comment of an opcode, of the second table after the prefix. -/
def listing (cb : Bool) (opcode : UInt8) : Listing :=
  if cb then listingsCb.get (opcode.toFin.cast length_listingsCb.symm)
  else listings.get (opcode.toFin.cast length_listings.symm)

/-- A check of the rows of a table against their comments, each with its opcode. -/
def rowsPass {α : Type} (p : UInt8 → α → Listing → Bool) (insts : List α)
    (rows : List Listing) : Bool :=
  (List.zipWith (fun n row => p (.ofNat n) row.1 row.2) (List.range 256) (insts.zip rows)).all id

theorem pass_of_rowsPass {α : Type} {p : UInt8 → α → Listing → Bool} {insts : List α}
    {rows : List Listing} (h : rowsPass p insts rows = true) (hinsts : insts.length = 256)
    (hrows : rows.length = 256) (opcode : UInt8) :
    p opcode (insts.get (opcode.toFin.cast hinsts.symm))
      (rows.get (opcode.toFin.cast hrows.symm)) = true := by
  have hlen : (insts.zip rows).length = 256 := by rw [List.length_zip, hinsts, hrows, min_self]
  have hpass : entriesPass (fun n row => p n row.1 row.2) (insts.zip rows) = true := h
  have hrow := pass_of_entriesPass hpass hlen opcode
  simp only [List.get_eq_getElem, List.getElem_zip] at hrow
  exact hrow

end ZenithGb
