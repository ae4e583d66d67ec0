import ZenithGb.Cpu.Alu
import ZenithGb.Cpu.Interrupts

/-!
# The CPU: the handlers do what the tables say

A handler serves many entries of the instruction tables and decodes its operands from the opcode.
`OpcodeFn.listing` is the comment its entries should have. Each handler does what this comment says,
and the comments of the tables are these, but for four entries whose operand is A itself.

## Main results

* `Exec.describes_modifyR8Hladdr`, `Exec.describes_arith` — families of handlers
* `Exec.describes_call` — what every handler does
* `Exec.zeroIn_call` — Z and the register that is written back
* `Exec.listing_entry` — the comments of the tables
* `Exec.architectural_effect` — what every instruction does to the flags and the registers
-/

namespace ZenithGb

open Outcome

/-! ### The comments of a handler -/

namespace OpcodeFn

open Exec

/-- The source operand of an arithmetic instruction. -/
def srcArg (src : OperandKind) (opcode : UInt8) : Arg :=
  match src with
  | .r8 => .ofR8 (srcReg opcode)
  | .imm8 => .n8
  | _ => .atHl

/-- What the comments say of the instructions of a handler. -/
def listing (src : OperandKind) (opcode : UInt8) : OpcodeFn → Listing
  | .opcodeNop => ⟨.nop, .same⟩
  | .opcodeLdR16Imm16 => ⟨.ld (.ofR16 (reg16 opcode)) .n16, .same⟩
  | .opcodeLdBcaddrA => ⟨.ld .atBc .a, .same⟩
  | .opcodeLdDeaddrA => ⟨.ld .atDe .a, .same⟩
  | .opcodeLdHliaddrA => ⟨.ld .atHli .a, .same⟩
  | .opcodeLdHldaddrA => ⟨.ld .atHld .a, .same⟩
  | .opcodeLdABcaddr => ⟨.ld .a .atBc, .same⟩
  | .opcodeLdADeaddr => ⟨.ld .a .atDe, .same⟩
  | .opcodeLdAHliaddr => ⟨.ld .a .atHli, .same⟩
  | .opcodeLdAHldaddr => ⟨.ld .a .atHld, .same⟩
  | .opcodeLdR8Imm8 => ⟨.ld (.ofR8 (dstReg opcode)) .n8, .same⟩
  | .opcodeHladdrImm8 => ⟨.ld .atHl .n8, .same⟩
  | .opcodeImm16addrR16 => ⟨.ld .atA16 .sp, .same⟩
  | .opcodeLdBB => ⟨.ld .b .b, .same⟩
  | .opcodeLdR8R8 => ⟨.ld (.ofR8 (dstReg opcode)) (.ofR8 (srcReg opcode)), .same⟩
  | .opcodeLdR8Hladdr => ⟨.ld (.ofR8 (dstReg opcode)) .atHl, .same⟩
  | .opcodeHladdrR8 => ⟨.ld .atHl (.ofR8 (srcReg opcode)), .same⟩
  | .opcodeLdhR8addrA => ⟨.ldh .atA8 .a, .same⟩
  | .opcodeLdhAR8addr => ⟨.ldh .a .atA8, .same⟩
  | .opcodeR8addrA => ⟨.ld .atC .a, .same⟩
  | .opcodeR8C => ⟨.ld .a .atC, .same⟩
  | .opcodeImm16addrA => ⟨.ld .atA16 .a, .same⟩
  | .opcodeLdAImm16addr => ⟨.ld .a .atA16, .same⟩
  | .opcodeLdHlSpi => ⟨.ld .hl .spE8, .f00hc⟩
  | .opcodeLdSpHl => ⟨.ld .sp .hl, .same⟩
  | .opcodeIncR16 => ⟨.inc (.ofR16 (reg16 opcode)), .same⟩
  | .opcodeDecR16 => ⟨.dec (.ofR16 (reg16 opcode)), .same⟩
  | .opcodeIncR8 => ⟨.inc (.ofR8 (dstReg opcode)), .fz0h_⟩
  | .opcodeDecR8 => ⟨.dec (.ofR8 (dstReg opcode)), .fz1h_⟩
  | .opcodeIncR16addr => ⟨.inc .atHl, .fz0h_⟩
  | .opcodeDecR16addr => ⟨.dec .atHl, .fz1h_⟩
  | .opcodeRlca => ⟨.rlca, .f000c⟩
  | .opcodeRrca => ⟨.rrca, .f000c⟩
  | .opcodeRla => ⟨.rla, .f000c⟩
  | .opcodeRra => ⟨.rra, .f000c⟩
  | .opcodeDaa => ⟨.daa, .fz_0c⟩
  | .opcodeCpl => ⟨.cpl, .f_11_⟩
  | .opcodeScf => ⟨.scf, .f_001⟩
  | .opcodeCcf => ⟨.ccf, .f_00c⟩
  | .opcodeAddHlR16 => ⟨.add .hl (.ofR16 (reg16 opcode)), .f_0hc⟩
  | .opcodeAddSpE8 => ⟨.add .sp .e8, .f00hc⟩
  | .opcodeAddR8Imm8Hladdr => ⟨.add .a (srcArg src opcode), .fz0hc⟩
  | .opcodeAdc => ⟨.adc .a (srcArg src opcode), .fz0hc⟩
  | .opcodeSub => ⟨.sub .a (srcArg src opcode), .fz1hc⟩
  | .opcodeSbc => ⟨.sbc .a (srcArg src opcode), .fz1hc⟩
  | .opcodeAnd => ⟨.and .a (srcArg src opcode), .fz010⟩
  | .opcodeXor => ⟨.xor .a (srcArg src opcode), .fz000⟩
  | .opcodeOr => ⟨.or .a (srcArg src opcode), .fz000⟩
  | .opcodeCp => ⟨.cp .a (srcArg src opcode), .fz1hc⟩
  | .opcodePush => ⟨.push (.ofR16stk (reg16 opcode)), .same⟩
  | .opcodePop =>
    ⟨.pop (.ofR16stk (reg16 opcode)), if Arg.ofR16stk (reg16 opcode) = .af then .fznhc else .same⟩
  | .opcodeStop => ⟨.stop, .same⟩
  | .opcodeHalt => ⟨.halt, .same⟩
  | .opcodeDi => ⟨.di, .same⟩
  | .opcodeEi => ⟨.ei, .same⟩
  | .opcodeJrE8 | .opcodeJrCc => ⟨.jr, .same⟩
  | .opcodeJpCc | .opcodeJpA16 | .opcodeJpHl => ⟨.jp, .same⟩
  | .opcodeCallCc | .opcodeCallA16 => ⟨.call, .same⟩
  | .opcodeRetCc | .opcodeRet => ⟨.ret, .same⟩
  | .opcodeReti => ⟨.reti, .same⟩
  | .opcodeRst => ⟨.rst, .same⟩
  | .opcodePrefix => ⟨.cbPrefix, .same⟩
  | .opcodeIllegalD3 | .opcodeIllegalDb | .opcodeIllegalDd | .opcodeIllegalE3 | .opcodeIllegalE4
  | .opcodeIllegalEb | .opcodeIllegalEc | .opcodeIllegalEd | .opcodeIllegalF4 | .opcodeIllegalFc
  | .opcodeIllegalFd => ⟨.illegal, .same⟩
  | .opcodeRlc => ⟨.rlc (.ofR8 (srcReg opcode)), .fz00c⟩
  | .opcodeRrc => ⟨.rrc (.ofR8 (srcReg opcode)), .fz00c⟩
  | .opcodeRl => ⟨.rl (.ofR8 (srcReg opcode)), .fz00c⟩
  | .opcodeRr => ⟨.rr (.ofR8 (srcReg opcode)), .fz00c⟩
  | .opcodeSla => ⟨.sla (.ofR8 (srcReg opcode)), .fz00c⟩
  | .opcodeSra => ⟨.sra (.ofR8 (srcReg opcode)), .fz00c⟩
  | .opcodeSwap => ⟨.swap (.ofR8 (srcReg opcode)), .fz000⟩
  | .opcodeSrl => ⟨.srl (.ofR8 (srcReg opcode)), .fz00c⟩
  | .opcodeBit => ⟨.bit (dstReg opcode).toNat (.ofR8 (srcReg opcode)), .fz01_⟩
  | .opcodeRes => ⟨.res (dstReg opcode).toNat (.ofR8 (srcReg opcode)), .same⟩
  | .opcodeSet => ⟨.set (dstReg opcode).toNat (.ofR8 (srcReg opcode)), .same⟩

end OpcodeFn

/-- What the comment of an entry says of an instruction. -/
def Listing.Describes (row : Listing) (m m' : Machine) : Prop :=
  ∃ x, row.mnemonic.Operand m x ∧
    Sets (row.flags.apply m.cpu.flags (row.mnemonic.computed m.cpu x)) row.mnemonic.changes
      m.cpu m'.cpu

theorem Listing.describes_same {mn : Mnemonic} {m m' : Machine} :
    Listing.Describes ⟨mn, .same⟩ m m' ↔
      (∃ x, mn.Operand m x) ∧ m'.cpu.flags = m.cpu.flags ∧
        Cpu.Keeps mn.changes m.cpu m'.cpu :=
  ⟨fun ⟨x, hx, h⟩ => ⟨⟨x, hx⟩, h.flags, h.keeps⟩, fun ⟨⟨x, hx⟩, h, h'⟩ => ⟨x, hx, h, h'⟩⟩

@[simp] theorem Arg.moves_ofR16 {code : UInt8} : (Arg.ofR16 code).moves = [] := by
  rw [Arg.ofR16]
  split <;> rfl

theorem Arg.holds_ofR16 {code : UInt8} {m : Machine} {x : UInt8} : (Arg.ofR16 code).Holds m x := by
  rw [Arg.ofR16]
  split <;> trivial

namespace Exec

variable {m : Machine} {k opcode : UInt8}

theorem ensures_undocumented {Q : Unit → Machine → Prop} : Ensures undocumented m Q := by
  simp [undocumented]

/-! ### Families -/

theorem ensures_clockReadR8Hladdr {Q : UInt8 → Machine → Prop}
    (h : ∀ x soc, (Arg.ofR8 k).Holds m x → Q x ⟨m.cpu, soc⟩) :
    Ensures (clockReadR8Hladdr k) m Q := by
  rw [clockReadR8Hladdr]
  refine ensures_ite.mpr ⟨?_, fun _ => ?_⟩
  · rintro rfl
    exact ensures_clockReadAtHl.mpr fun x soc hread => h x soc ⟨soc, hread⟩
  · refine ensures_readR8.mpr fun r hr => h _ m.soc ?_
    rw [Arg.ofR8_eq hr]
    rfl

/-- The operand of an arithmetic instruction. PC moves if it follows the opcode. -/
theorem ensures_clockConsumeSrc {src : OperandKind} {Q : UInt8 → Machine → Prop}
    (h : ∀ x pc soc, (OpcodeFn.srcArg src opcode).Holds m x → Q x ⟨m.cpu.setPc pc, soc⟩) :
    Ensures (clockConsumeSrcR8Imm8Hladdr src opcode) m Q := by
  unfold clockConsumeSrcR8Imm8Hladdr
  split
  · simp only [ensures_bind, ensures_debugAssert, ensures_readR8]
    intro _ _ r hr
    refine h _ m.cpu.regPc m.soc ?_
    rw [OpcodeFn.srcArg, Arg.ofR8_eq hr]
    rfl
  · exact ensures_clockReadAtHl.mpr fun x soc hread => h x m.cpu.regPc soc ⟨soc, hread⟩
  · exact ensures_clockConsumeByteFromPc.mpr fun x soc hread => h x _ soc ⟨soc, hread⟩
  · simp

theorem sets_writeR8 {v : UInt8} {fl : Flags} {c : Cpu} (h : Sets fl [] c m.cpu) :
    Ensures (writeR8 k v) m fun _ m' => Sets fl (Arg.ofR8 k).regs c m'.cpu := by
  refine ensures_writeR8.mpr fun r hr => ?_
  rw [Arg.ofR8_eq hr]
  exact ⟨Cpu.flags_set.trans h.flags,
    (Cpu.keeps_set (List.mem_singleton_self _)).mpr (h.keeps.mono (List.nil_subset _))⟩

theorem sets_clockWriteR8Hladdr {v : UInt8} {fl : Flags} {c : Cpu} (h : Sets fl [] c m.cpu) :
    Ensures (clockWriteR8Hladdr k v) m fun _ m' => Sets fl (Arg.ofR8 k).regs c m'.cpu := by
  rw [clockWriteR8Hladdr]
  refine ensures_ite.mpr ⟨?_, fun _ => sets_writeR8 h⟩
  rintro rfl
  exact ensures_clockWriteAtHl.mpr fun _ _ => h

/-- Read, compute, and write back. -/
theorem describes_modifyR8Hladdr {row : Listing} {compute : UInt8 → Exec UInt8}
    (h : Computes [] row.flags (fun c x => row.mnemonic.computed c x) compute)
    (hop : ∀ x, (Arg.ofR8 (srcReg opcode)).Holds m x → row.mnemonic.Operand m x)
    (hrs : row.mnemonic.changes = (Arg.ofR8 (srcReg opcode)).regs) :
    Ensures (modifyR8Hladdr compute opcode) m fun _ m' => row.Describes m m' := by
  rw [modifyR8Hladdr, ensures_bind]
  refine ensures_clockReadR8Hladdr fun x soc hx => ?_
  rw [ensures_bind]
  refine (h ⟨m.cpu, soc⟩ x).mono fun v m' hsets => ?_
  refine (sets_clockWriteR8Hladdr hsets).mono fun _ m'' hsets => ⟨x, hop x hx, ?_⟩
  rw [hrs]
  exact hsets

/-- The same in a register. -/
theorem describes_modifyR8 {row : Listing} {compute : UInt8 → Exec UInt8}
    (h : Computes [] row.flags (fun c x => row.mnemonic.computed c x) compute)
    (hop : ∀ x, (Arg.ofR8 k).Holds m x → row.mnemonic.Operand m x)
    (hrs : row.mnemonic.changes = (Arg.ofR8 k).regs) :
    Ensures (do
        let sum ← compute (← readR8 k)
        writeR8 k sum) m fun _ m' => row.Describes m m' := by
  simp only [ensures_bind, ensures_readR8]
  intro r hr
  refine (h m _).mono fun v m' hsets => ?_
  refine (sets_writeR8 hsets).mono fun _ m'' hsets => ⟨r.get m.cpu, hop _ ?_, ?_⟩
  · rw [Arg.ofR8_eq hr]
    rfl
  · rw [hrs]
    exact hsets

/-- The same in memory. -/
theorem describes_modifyAtHl {row : Listing} {compute : UInt8 → Exec UInt8}
    (h : Computes [] row.flags (fun c x => row.mnemonic.computed c x) compute)
    (hop : ∀ x, Arg.atHl.Holds m x → row.mnemonic.Operand m x) (hrs : row.mnemonic.changes = []) :
    Ensures (do
        let sum ← compute (← clockReadAtHl)
        clockWriteAtHl sum) m fun _ m' => row.Describes m m' := by
  simp only [ensures_bind, ensures_clockReadAtHl, ensures_clockWriteAtHl]
  intro x soc hread
  refine (h ⟨m.cpu, soc⟩ x).mono fun v m' hsets soc' _ => ⟨x, hop x ⟨soc, hread⟩, ?_⟩
  rw [hrs]
  exact hsets

/-- An operation on A. -/
theorem describes_arith {row : Listing} {src : OperandKind} {compute : UInt8 → Exec Unit}
    (h : Computes row.mnemonic.changes row.flags (fun c x => row.mnemonic.computed c x) compute)
    (hop : ∀ x, (OpcodeFn.srcArg src opcode).Holds m x → row.mnemonic.Operand m x) :
    Ensures (do compute (← clockConsumeSrcR8Imm8Hladdr src opcode)) m fun _ m' =>
      row.Describes m m' := by
  rw [ensures_bind]
  refine ensures_clockConsumeSrc fun x pc soc hx => ?_
  refine (h ⟨m.cpu.setPc pc, soc⟩ x).mono fun v m' hsets => ⟨x, hop x hx, hsets.flags, ?_⟩
  exact (Cpu.keeps_setPc.mpr Cpu.keeps_refl).trans hsets.keeps

/-- A rotation of A clears the Z flag that the rotation has set. -/
theorem describes_rotateA {row : Listing} {rotate : UInt8 → Exec UInt8}
    (h : Computes [] .fz00c (fun c x => row.mnemonic.computed c x) rotate)
    (hrow : row.flags = .f000c) (hrs : row.mnemonic.changes = [.r8 .a])
    (hop : row.mnemonic.Operand m m.cpu.a) :
    Ensures (rotateA rotate) m fun _ m' => row.Describes m m' := by
  rw [rotateA]
  simp only [ensures_bind, ensures_cpu, ensures_modifyCpu, ensures_setFlag]
  refine (h m m.cpu.a).mono fun v m' hsets => ⟨m.cpu.a, hop, ?_⟩
  rw [hrow, hrs]
  refine ⟨?_, by simpa using hsets.keeps.mono (List.nil_subset _)⟩
  rw [Cpu.flags_setFlagZ, Cpu.flags_setA, hsets.flags]
  rfl

/-! ### Loads of registers -/

theorem describes_opcodeLdR8R8 : Ensures (opcodeLdR8R8 opcode) m fun _ m' =>
    Listing.Describes ⟨.ld (.ofR8 (dstReg opcode)) (.ofR8 (srcReg opcode)), .same⟩ m m' := by
  simp only [opcodeLdR8R8, ensures_bind, ensures_readR8, ensures_debugAssert, ensures_writeR8]
  intro src hsrc _ _ dst hdst
  rw [Arg.ofR8_eq hsrc, Arg.ofR8_eq hdst]
  exact Listing.describes_same.mpr
    ⟨⟨0, trivial⟩, Cpu.flags_set, (Cpu.keeps_set (.head _)).mpr Cpu.keeps_refl⟩

theorem describes_opcodeLdR8Imm8 : Ensures (opcodeLdR8Imm8 opcode) m fun _ m' =>
    Listing.Describes ⟨.ld (.ofR8 (dstReg opcode)) .n8, .same⟩ m m' := by
  simp only [opcodeLdR8Imm8, ensures_bind, ensures_clockConsumeByteFromPc, ensures_debugAssert,
    ensures_writeR8]
  intro x soc _ _ dst hdst
  rw [Arg.ofR8_eq hdst]
  exact Listing.describes_same.mpr ⟨⟨0, trivial⟩, Cpu.flags_set,
    (Cpu.keeps_set (.head _)).mpr (Cpu.keeps_setPc.mpr Cpu.keeps_refl)⟩

theorem describes_opcodeLdR8Hladdr : Ensures (opcodeLdR8Hladdr opcode) m fun _ m' =>
    Listing.Describes ⟨.ld (.ofR8 (dstReg opcode)) .atHl, .same⟩ m m' := by
  simp only [opcodeLdR8Hladdr, ensures_bind, ensures_clockReadAtHl, ensures_debugAssert,
    ensures_writeR8]
  intro _ _ x soc _ _ dst hdst
  rw [Arg.ofR8_eq hdst]
  exact Listing.describes_same.mpr
    ⟨⟨0, trivial⟩, Cpu.flags_set, (Cpu.keeps_set (.head _)).mpr Cpu.keeps_refl⟩

theorem describes_opcodeHladdrR8 : Ensures (opcodeHladdrR8 opcode) m fun _ m' =>
    Listing.Describes ⟨.ld .atHl (.ofR8 (srcReg opcode)), .same⟩ m m' := by
  simp only [opcodeHladdrR8, ensures_bind, ensures_readR8, ensures_debugAssert,
    ensures_clockWriteAtHl]
  intro _ src hsrc _ _ soc _
  rw [Arg.ofR8_eq hsrc]
  exact Listing.describes_same.mpr ⟨⟨0, trivial⟩, rfl, Cpu.keeps_refl⟩

/-! ### Pairs -/

theorem describes_modifyR16 {mn : Mnemonic} {compute : UInt16 → UInt16}
    (hop : ∃ x, mn.Operand m x) (hrs : mn.changes = (Arg.ofR16 k).regs) :
    Ensures (do
        let currVal ← readR16 k
        writeR16 k (compute currVal)
        clock) m fun _ m' => Listing.Describes ⟨mn, .same⟩ m m' := by
  rw [ensures_bind]
  refine ensures_readR16 ?_
  rw [ensures_bind]
  refine (ensures_writeR16 ⟨rfl, Cpu.keeps_refl⟩ fun _ hr => hr).mono fun _ m' hsets => ?_
  refine ensures_clock.mpr fun soc _ => Listing.describes_same.mpr ⟨hop, hsets.flags, ?_⟩
  rw [hrs]
  exact hsets.keeps

theorem describes_opcodeLdR16Imm16 : Ensures (opcodeLdR16Imm16 opcode) m fun _ m' =>
    Listing.Describes ⟨.ld (.ofR16 (reg16 opcode)) .n16, .same⟩ m m' := by
  simp only [opcodeLdR16Imm16, clockConsumeWordFromPc, ensures_bind, ensures_debugAssert,
    ensures_clockConsumeByteFromPc, ensures_pure]
  intro _ low soc _ high soc' _
  refine (ensures_writeR16 (c := m.cpu) ⟨rfl, by simp⟩ ?_).mono fun _ m' h => ⟨0, trivial, h⟩
  intro r hr
  simp [Mnemonic.changes, hr]

/-! ### SP plus a signed byte -/

theorem describes_opcodeLdHlSpi : Ensures (opcodeLdHlSpi opcode) m fun _ m' =>
    Listing.Describes ⟨.ld .hl .spE8, .f00hc⟩ m m' := by
  simp only [opcodeLdHlSpi, ensures_bind, ensures_debugAssert, ensures_clockConsumeByteFromPc,
    ensures_modifyCpu, ensures_clock]
  intro _ x soc hread
  refine (computes_addSpE8 _ x).mono fun sum m' hsets soc' _ => ⟨x, ⟨soc, hread⟩, ?_⟩
  have hkeeps := (Cpu.keeps_setPc.mpr Cpu.keeps_refl).trans hsets.keeps
  exact ⟨hsets.flags,
    (Cpu.keeps_setHl (.head _) (.tail _ (.head _))).mpr (hkeeps.mono (List.nil_subset _))⟩

theorem describes_opcodeAddSpE8 : Ensures (opcodeAddSpE8 opcode) m fun _ m' =>
    Listing.Describes ⟨.add .sp .e8, .f00hc⟩ m m' := by
  simp only [opcodeAddSpE8, ensures_bind, ensures_debugAssert, ensures_clockConsumeByteFromPc,
    ensures_modifyCpu, ensures_clock]
  intro _ x soc hread
  refine (computes_addSpE8 _ x).mono fun sum m' hsets soc' _ soc'' _ => ⟨x, ⟨soc, hread⟩, ?_⟩
  have hkeeps := (Cpu.keeps_setPc.mpr Cpu.keeps_refl).trans hsets.keeps
  exact ⟨hsets.flags, (Cpu.keeps_setSp (.head _)).mpr (hkeeps.mono (List.nil_subset _))⟩

/-! ### Bits and the stack -/

theorem describes_opcodeBit : Ensures (opcodeBit opcode) m fun _ m' =>
    Listing.Describes ⟨.bit (dstReg opcode).toNat (.ofR8 (srcReg opcode)), .fz01_⟩ m m' := by
  rw [opcodeBit, ensures_bind]
  refine ensures_clockReadR8Hladdr fun x soc hx => ?_
  simp only [ensures_bind, ensures_setFlag]
  refine ⟨x, hx, ?_, by simp⟩
  rw [Cpu.flags_setFlagH, Cpu.flags_setFlagN, Cpu.flags_setFlagZ,
    Flags.beq_zero_ofResult x (toNat_dstReg_lt opcode)]
  rfl

theorem ensures_readR16stkMsb {Q : UInt8 → Machine → Prop} (h : ∀ v, Q v m) :
    Ensures (readR16stkMsb k) m Q := by
  rw [readR16stkMsb, ensures_bind, ensures_cpu]
  split <;> simp [h]

theorem ensures_readR16stkLsb {Q : UInt8 → Machine → Prop} (h : ∀ v, Q v m) :
    Ensures (readR16stkLsb k) m Q := by
  rw [readR16stkLsb, ensures_bind, ensures_cpu]
  split <;> simp [h]

theorem describes_opcodePush : Ensures (opcodePush opcode) m fun _ m' =>
    Listing.Describes ⟨.push (.ofR16stk (reg16 opcode)), .same⟩ m m' := by
  simp only [opcodePush, ensures_bind, ensures_clock]
  intro soc _
  refine ensures_readR16stkMsb fun msb => ?_
  refine ensures_clockPushU8.mpr fun soc' _ => ?_
  refine ensures_readR16stkLsb fun lsb => ensures_clockPushU8.mpr fun soc'' _ => ⟨0, trivial, ?_⟩
  simp [sets_iff, Mnemonic.changes]

/-- The low nibble is cut off what AF is loaded with. -/
theorem sets_setAf {rs : List Reg} (ha : .r8 .a ∈ rs) {c c' : Cpu} (h : Cpu.Keeps rs c c')
    (hlow : c.f &&& 0x0F = 0) (msb lsb : UInt8) :
    Sets (.ofByte lsb) rs c (c'.setAf (value msb lsb &&& 0xFFF0)) := by
  have hf : (c'.setAf (value msb lsb &&& 0xFFF0)).f = lsb &&& 0xF0 := by
    show getLow (value msb lsb &&& 0xFFF0) = _
    rw [getLow_and, getLow_value]
    rfl
  have hflags : ∀ x : UInt8, Cpu.flagsOf (x &&& 0xF0) = .ofByte x :=
    forall_uint8 (by decide +kernel)
  have hzero : ∀ x : UInt8, (x &&& 0xF0) &&& 0x0F = 0 := forall_uint8 (by decide +kernel)
  refine ⟨?_, fun r hr => ?_, ?_⟩
  · rw [Cpu.flags_eq, hf, hflags]
  · rw [← h.regs r hr]
    cases r with
    | sp => rfl
    | r8 r =>
      cases r with
      | a => exact absurd ha hr
      | _ => rfl
  · rw [hf, hzero, hlow]

theorem describes_opcodePop (hlow : m.cpu.f &&& 0x0F = 0) :
    Ensures (opcodePop opcode) m fun _ m' =>
      (OpcodeFn.listing .none opcode .opcodePop).Describes m m' := by
  simp only [opcodePop, clockPopU16, ensures_bind, ensures_clockPopU8, ensures_pure]
  intro lsb soc hlsb msb soc' _
  have hop : (Arg.ofR16stk (reg16 opcode)).Holds m lsb := by
    rw [Arg.ofR16stk]
    split <;> first | trivial | exact ⟨soc, hlsb⟩
  refine Ensures.mono (Q := fun _ m' => _) ?_ fun _ m' h => ⟨lsb, hop, h⟩
  simp only [OpcodeFn.listing]
  rw [writeR16stk, Arg.ofR16stk]
  split
  case h_1 hk | h_2 hk | h_3 hk =>
    rw [hk]
    simp [sets_iff, Mnemonic.changes, Arg.regs]
  case h_4 hk =>
    rw [hk]
    refine ensures_modifyCpu.mpr (sets_setAf ?_ ?_ hlow msb lsb)
    · exact .tail _ (.head _)
    · simp [Mnemonic.changes]
  case h_5 => simp

/-! ### Zero -/

/-- Z says of each of these registers whether it is zero. -/
def ZeroIn (rs : List Reg) (c : Cpu) : Prop := ∀ r : R8, .r8 r ∈ rs → c.flags.z = (r.get c == 0)

theorem zeroIn_nil {c : Cpu} : ZeroIn [] c := fun _ hr => absurd hr List.not_mem_nil

theorem zeroIn_writeR8 {v : UInt8} (hz : m.cpu.flags.z = (v == 0)) :
    Ensures (writeR8 k v) m fun _ m' => ZeroIn (Arg.ofR8 k).regs m'.cpu := by
  refine ensures_writeR8.mpr fun r hr r' hr' => ?_
  rw [Arg.ofR8_eq hr] at hr'
  obtain rfl : r' = r := by simpa [Arg.regs] using hr'
  rw [Cpu.flags_set, R8.get_set, if_pos rfl, hz]

/-- Read, compute, and write back. In memory there is no register to speak of. -/
theorem zeroIn_modifyR8Hladdr {compute : UInt8 → Exec UInt8} (h : TellsZero compute) :
    Ensures (modifyR8Hladdr compute opcode) m fun _ m' =>
      ZeroIn (Arg.ofR8 (srcReg opcode)).regs m'.cpu := by
  rw [modifyR8Hladdr, ensures_bind]
  intro x m1 _
  rw [ensures_bind]
  refine (h m1 x).mono fun v m2 hz => ?_
  rw [clockWriteR8Hladdr]
  refine ensures_ite.mpr ⟨?_, fun _ => zeroIn_writeR8 hz⟩
  intro hk
  rw [hk]
  exact fun _ _ _ => zeroIn_nil

theorem zeroIn_modifyR8 {compute : UInt8 → Exec UInt8} (h : TellsZero compute) :
    Ensures (do
        let sum ← compute (← readR8 k)
        writeR8 k sum) m fun _ m' => ZeroIn (Arg.ofR8 k).regs m'.cpu := by
  rw [ensures_bind]
  intro x m1 _
  rw [ensures_bind]
  exact (h m1 x).mono fun v m2 hz => zeroIn_writeR8 hz

theorem zeroIn_a {x : Exec Unit} (h : TellsZeroA x) :
    Ensures x m fun _ m' => ZeroIn [.r8 .a] m'.cpu := by
  refine (h m).mono fun _ m' hz r hr => ?_
  obtain rfl : r = .a := by simpa using hr
  exact hz

/-! ### All handlers -/

section

variable {m : Machine} {inst : Instruction} {opcode : UInt8}

attribute [local simp] OpcodeFn.listing Listing.describes_same Mnemonic.Operand Mnemonic.changes
  Arg.regs Arg.moves Arg.Holds

theorem describes_call (hlow : m.cpu.f &&& 0x0F = 0) (fn : OpcodeFn) :
    Ensures (fn.call inst opcode) m fun _ m' => (fn.listing inst.src opcode).Describes m m' := by
  cases fn with
  | opcodeNop => simp [OpcodeFn.call, opcodeNop]
  | opcodeLdR16Imm16 => exact describes_opcodeLdR16Imm16
  | opcodeLdBcaddrA => simp [OpcodeFn.call, opcodeLdBcaddrA]
  | opcodeIncR16 => exact describes_modifyR16 ⟨0, Arg.holds_ofR16⟩ rfl
  | opcodeIncR8 =>
    refine ensures_bind.mpr (ensures_debugAssert.mpr fun _ => ?_)
    exact describes_modifyR8 computes_inc8 (fun _ hx => hx) rfl
  | opcodeDecR8 =>
    refine ensures_bind.mpr (ensures_debugAssert.mpr fun _ => ?_)
    exact describes_modifyR8 computes_dec8 (fun _ hx => hx) rfl
  | opcodeLdR8Imm8 => exact describes_opcodeLdR8Imm8
  | opcodeRlca =>
    refine ensures_bind.mpr (ensures_debugAssert.mpr fun _ => ?_)
    exact describes_rotateA computes_rlc rfl rfl rfl
  | opcodeImm16addrR16 => simp [OpcodeFn.call, opcodeImm16addrR16, clockConsumeWordFromPc]
  | opcodeAddHlR16 =>
    exact (sets_opcodeAddHlR16 opcode).mono fun _ m' h => ⟨0, Arg.holds_ofR16, h⟩
  | opcodeLdABcaddr => simp [OpcodeFn.call, opcodeLdABcaddr]
  | opcodeDecR16 => exact describes_modifyR16 ⟨0, Arg.holds_ofR16⟩ rfl
  | opcodeRrca =>
    refine ensures_bind.mpr (ensures_debugAssert.mpr fun _ => ?_)
    exact describes_rotateA computes_rrc rfl rfl rfl
  | opcodeStop => simp [OpcodeFn.call, opcodeStop]
  | opcodeLdDeaddrA => simp [OpcodeFn.call, opcodeLdDeaddrA]
  | opcodeRla =>
    refine ensures_bind.mpr (ensures_debugAssert.mpr fun _ => ?_)
    exact describes_rotateA computes_rl rfl rfl rfl
  | opcodeJrE8 => simp [OpcodeFn.call, opcodeJrE8, jumpRelative]
  | opcodeLdADeaddr => simp [OpcodeFn.call, opcodeLdADeaddr]
  | opcodeRra =>
    refine ensures_bind.mpr (ensures_debugAssert.mpr fun _ => ?_)
    exact describes_rotateA computes_rr rfl rfl rfl
  | opcodeJrCc => simp [OpcodeFn.call, opcodeJrCc, branch, jumpRelative]
  | opcodeLdHliaddrA => simp [OpcodeFn.call, opcodeLdHliaddrA]
  | opcodeDaa => exact sets_opcodeDaa.mono fun _ m' h => ⟨0, trivial, h⟩
  | opcodeLdAHliaddr => simp [OpcodeFn.call, opcodeLdAHliaddr]
  | opcodeCpl => exact sets_opcodeCpl.mono fun _ m' h => ⟨0, trivial, h⟩
  | opcodeLdHldaddrA => simp [OpcodeFn.call, opcodeLdHldaddrA]
  | opcodeIncR16addr =>
    refine ensures_bind.mpr (ensures_debugAssert.mpr fun _ => ?_)
    exact describes_modifyAtHl computes_inc8 (fun _ hx => hx) rfl
  | opcodeDecR16addr =>
    refine ensures_bind.mpr (ensures_debugAssert.mpr fun _ => ?_)
    exact describes_modifyAtHl computes_dec8 (fun _ hx => hx) rfl
  | opcodeHladdrImm8 => simp [OpcodeFn.call, opcodeHladdrImm8]
  | opcodeScf => exact sets_opcodeScf.mono fun _ m' h => ⟨0, trivial, h⟩
  | opcodeLdAHldaddr => simp [OpcodeFn.call, opcodeLdAHldaddr]
  | opcodeCcf => exact sets_opcodeCcf.mono fun _ m' h => ⟨0, trivial, h⟩
  | opcodeLdBB => simp [OpcodeFn.call, opcodeLdBB]
  | opcodeLdR8R8 => exact describes_opcodeLdR8R8
  | opcodeLdR8Hladdr => exact describes_opcodeLdR8Hladdr
  | opcodeHladdrR8 => exact describes_opcodeHladdrR8
  | opcodeHalt => simp [OpcodeFn.call, opcodeHalt]
  | opcodeAddR8Imm8Hladdr => exact describes_arith (computes_addA8 0) fun _ hx => hx
  | opcodeAdc => exact describes_arith computes_adc fun _ hx => hx
  | opcodeSub => exact describes_arith (computes_subA8 0 (Nat.zero_le 1)) fun _ hx => hx
  | opcodeSbc => exact describes_arith computes_sbc fun _ hx => hx
  | opcodeAnd => exact describes_arith computes_andA8 fun _ hx => hx
  | opcodeXor => exact describes_arith computes_xorA8 fun _ hx => hx
  | opcodeOr => exact describes_arith computes_orA8 fun _ hx => hx
  | opcodeCp => exact describes_arith computes_cpA8 fun _ hx => hx
  | opcodeRetCc => simp [OpcodeFn.call, opcodeRetCc, branch, ret, clockPopU16]
  | opcodePop => exact describes_opcodePop hlow
  | opcodeJpCc => simp [OpcodeFn.call, opcodeJpCc, branch, jump, clockConsumeWordFromPc]
  | opcodeJpA16 => simp [OpcodeFn.call, opcodeJpA16, jump, clockConsumeWordFromPc]
  | opcodeCallCc => simp [OpcodeFn.call, opcodeCallCc, branch, call, clockConsumeWordFromPc]
  | opcodePush => exact describes_opcodePush
  | opcodeRst => simp [OpcodeFn.call, opcodeRst]
  | opcodeRet => simp [OpcodeFn.call, opcodeRet, ret, clockPopU16]
  | opcodeCallA16 => simp [OpcodeFn.call, opcodeCallA16, call, clockConsumeWordFromPc]
  | opcodeReti => simp [OpcodeFn.call, opcodeReti, clockPopU16]
  | opcodeLdhR8addrA => simp [OpcodeFn.call, opcodeLdhR8addrA]
  | opcodeR8addrA => simp [OpcodeFn.call, opcodeR8addrA]
  | opcodeAddSpE8 => exact describes_opcodeAddSpE8
  | opcodeJpHl => simp [OpcodeFn.call, opcodeJpHl]
  | opcodeImm16addrA => simp [OpcodeFn.call, opcodeImm16addrA, clockConsumeWordFromPc]
  | opcodeLdhAR8addr => simp [OpcodeFn.call, opcodeLdhAR8addr]
  | opcodeR8C => simp [OpcodeFn.call, opcodeR8C]
  | opcodeDi => simp [OpcodeFn.call, opcodeDi]
  | opcodeLdHlSpi => exact describes_opcodeLdHlSpi
  | opcodeLdSpHl => simp [OpcodeFn.call, opcodeLdSpHl]
  | opcodeLdAImm16addr => simp [OpcodeFn.call, opcodeLdAImm16addr, clockConsumeWordFromPc]
  | opcodeEi => simp [OpcodeFn.call, opcodeEi]
  | opcodeRlc => exact describes_modifyR8Hladdr computes_rlc (fun _ hx => hx) rfl
  | opcodeRrc => exact describes_modifyR8Hladdr computes_rrc (fun _ hx => hx) rfl
  | opcodeRl => exact describes_modifyR8Hladdr computes_rl (fun _ hx => hx) rfl
  | opcodeRr => exact describes_modifyR8Hladdr computes_rr (fun _ hx => hx) rfl
  | opcodeSla => exact describes_modifyR8Hladdr computes_sla (fun _ hx => hx) rfl
  | opcodeSra => exact describes_modifyR8Hladdr computes_sra (fun _ hx => hx) rfl
  | opcodeSwap => exact describes_modifyR8Hladdr computes_swap (fun _ hx => hx) rfl
  | opcodeSrl => exact describes_modifyR8Hladdr computes_srl (fun _ hx => hx) rfl
  | opcodeBit => exact describes_opcodeBit
  | opcodeRes => exact describes_modifyR8Hladdr computes_pure (fun _ hx => trivial) rfl
  | opcodeSet => exact describes_modifyR8Hladdr computes_pure (fun _ hx => trivial) rfl
  -- These return nothing.
  | opcodePrefix | opcodeIllegalD3 | opcodeIllegalDb | opcodeIllegalDd | opcodeIllegalE3
  | opcodeIllegalE4 | opcodeIllegalEb | opcodeIllegalEc | opcodeIllegalEd | opcodeIllegalF4
  | opcodeIllegalFc | opcodeIllegalFd => exact ensures_undocumented

/-- Wherever Z is computed, but for POP AF, it is about what is written back. -/
theorem zeroIn_call (fn : OpcodeFn)
    (hz : (fn.listing inst.src opcode).flags.z = .computed ∨
      (fn.listing inst.src opcode).flags.z = .one)
    (hpop : (fn.listing inst.src opcode).mnemonic ≠ .pop .af) :
    Ensures (fn.call inst opcode) m fun _ m' =>
      ZeroIn (fn.listing inst.src opcode).mnemonic.changes m'.cpu := by
  cases fn with
  | opcodeIncR8 =>
    refine ensures_bind.mpr (ensures_debugAssert.mpr fun _ => ?_)
    exact zeroIn_modifyR8 tellsZero_inc8
  | opcodeDecR8 =>
    refine ensures_bind.mpr (ensures_debugAssert.mpr fun _ => ?_)
    exact zeroIn_modifyR8 tellsZero_dec8
  | opcodeDaa => exact zeroIn_a tellsZeroA_opcodeDaa
  | opcodeAddR8Imm8Hladdr => exact zeroIn_a (tellsZeroA_bind fun _ => tellsZeroA_addA8 _ _)
  | opcodeAdc =>
    exact zeroIn_a (tellsZeroA_bind fun _ => tellsZeroA_bind fun _ => tellsZeroA_addA8 _ _)
  | opcodeSub => exact zeroIn_a (tellsZeroA_bind fun _ => tellsZeroA_subA8 _ _)
  | opcodeSbc =>
    exact zeroIn_a (tellsZeroA_bind fun _ => tellsZeroA_bind fun _ => tellsZeroA_subA8 _ _)
  | opcodeAnd | opcodeXor | opcodeOr =>
    exact zeroIn_a (tellsZeroA_bind fun _ => tellsZeroA_logicA8 _ _ _)
  | opcodeRlc => exact zeroIn_modifyR8Hladdr tellsZero_rlc
  | opcodeRrc => exact zeroIn_modifyR8Hladdr tellsZero_rrc
  | opcodeRl => exact zeroIn_modifyR8Hladdr tellsZero_rl
  | opcodeRr => exact zeroIn_modifyR8Hladdr tellsZero_rr
  | opcodeSla => exact zeroIn_modifyR8Hladdr (tellsZero_shift rlc fun _ v => v &&& 0xFE)
  | opcodeSra =>
    exact zeroIn_modifyR8Hladdr (tellsZero_shift rrc fun x v => (v &&& 0x7F) ||| (x &&& 0x80))
  | opcodeSrl => exact zeroIn_modifyR8Hladdr (tellsZero_shift rrc fun _ v => v &&& 0x7F)
  | opcodeSwap => exact zeroIn_modifyR8Hladdr tellsZero_swap
  -- No register is written back.
  | opcodeIncR16addr | opcodeDecR16addr | opcodeCp | opcodeBit => exact fun _ _ _ => zeroIn_nil
  | opcodePop =>
    have haf : Arg.ofR16stk (reg16 opcode) ≠ .af := fun h => hpop (congrArg Mnemonic.pop h)
    simp only [OpcodeFn.listing, if_neg haf] at hz
    obtain hz | hz := hz <;> cases hz
  | _ => obtain hz | hz := hz <;> cases hz

end

/-! ### The tables -/

/-- Where the operand is A itself, the comment says what the columns of the handler then come to. -/
def onA : List (Listing × Listing) :=
  [(⟨.sub .a .a, .fz1hc⟩, ⟨.sub .a .a, .f1100⟩), (⟨.sbc .a .a, .fz1hc⟩, ⟨.sbc .a .a, .fz1h_⟩),
    (⟨.xor .a .a, .fz000⟩, ⟨.xor .a .a, .f1000⟩), (⟨.cp .a .a, .fz1hc⟩, ⟨.cp .a .a, .f1100⟩)]

/-- The comment is the one of the handler, up to `onA`. -/
def agrees (opcode : UInt8) (inst : Instruction) (row : Listing) : Bool :=
  inst.exec.listing inst.src opcode == row || onA.contains (inst.exec.listing inst.src opcode, row)

theorem rowsPass_agrees : rowsPass agrees instrIndex listings = true := by decide +kernel

theorem rowsPass_agrees_cb : rowsPass agrees instrIndexCb listingsCb = true := by decide +kernel

/-- The entry of an opcode, of the second table after the prefix. -/
def entry (cb : Bool) (opcode : UInt8) : Instruction :=
  if cb then getInstructionCb opcode else getInstruction opcode

/-- The comments agree with the handlers. -/
theorem listing_entry (cb : Bool) (opcode : UInt8) :
    (entry cb opcode).exec.listing (entry cb opcode).src opcode = listing cb opcode ∨
      ((entry cb opcode).exec.listing (entry cb opcode).src opcode, listing cb opcode) ∈ onA := by
  have h : agrees opcode (entry cb opcode) (listing cb opcode) = true := by
    cases cb with
    | false => exact pass_of_rowsPass rowsPass_agrees length_instrIndex length_listings opcode
    | true => exact pass_of_rowsPass rowsPass_agrees_cb length_instrIndexCb length_listingsCb opcode
  rw [agrees, Bool.or_eq_true, beq_iff_eq, List.contains_iff_mem] at h
  exact h

theorem ofDifference_self (x : ℕ) : Flags.ofDifference x x 0 = ⟨true, true, false, false⟩ := by
  simp [Flags.ofDifference]

theorem ofDifference_self_carry (x : ℕ) (f : Flags) : (Flags.ofDifference x x f.carry).c = f.c := by
  obtain ⟨z, n, h, c⟩ := f
  cases c <;> simp [Flags.ofDifference, Flags.carry]

theorem describes_of_onA {row row' : Listing} {m m' : Machine} (hrow : (row, row') ∈ onA)
    (h : row.Describes m m') : row'.Describes m m' := by
  obtain ⟨x, hx, hflags, hkeeps⟩ := h
  have hsub := ofDifference_self m.cpu.a.toNat
  have hsbc := ofDifference_self_carry m.cpu.a.toNat m.cpu.flags
  have hxor := congrArg (fun n => (Flags.ofResult n false).z) (Nat.xor_self m.cpu.a.toNat)
  simp only [onA, List.mem_cons, Prod.mk.injEq, List.not_mem_nil, or_false] at hrow
  obtain ⟨rfl, rfl⟩ | ⟨rfl, rfl⟩ | ⟨rfl, rfl⟩ | ⟨rfl, rfl⟩ := hrow <;>
    obtain rfl : x = m.cpu.a := hx
  · refine ⟨m.cpu.a, rfl, hflags.trans ?_, hkeeps⟩
    exact congrArg (FlagColumns.apply .fz1hc m.cpu.flags) hsub
  · refine ⟨m.cpu.a, rfl, hflags.trans ?_, hkeeps⟩
    exact congrArg (Flags.mk _ true _) hsbc
  · refine ⟨m.cpu.a, rfl, hflags.trans ?_, hkeeps⟩
    exact congrArg (Flags.mk · false false false) hxor
  · refine ⟨m.cpu.a, rfl, hflags.trans ?_, hkeeps⟩
    exact congrArg (FlagColumns.apply .fz1hc m.cpu.flags) hsub

/-- The columns of the handler have Z computed where the comment has it set, for the same mnemonic. -/
theorem zero_of_onA {row row' : Listing} (hrow : (row, row') ∈ onA) :
    row.flags.z = .computed ∧ row.mnemonic = row'.mnemonic := by
  simp only [onA, List.mem_cons, Prod.mk.injEq, List.not_mem_nil, or_false] at hrow
  obtain ⟨rfl, rfl⟩ | ⟨rfl, rfl⟩ | ⟨rfl, rfl⟩ | ⟨rfl, rfl⟩ := hrow <;> exact ⟨rfl, rfl⟩

/-- **Architectural effect.** An instruction that returns sets the flags as the columns of its
comment say, leaves the low nibble of F zero, and changes no register but those its mnemonic
names. Where Z is computed or set, it says whether the register that is written back is zero; POP AF
alone loads it. -/
theorem architectural_effect (cb : Bool) (opcode : UInt8) {m m' : Machine}
    (hlow : m.cpu.f &&& 0x0F = 0)
    (hrun : (entry cb opcode).exec.call (entry cb opcode) opcode m = .ok ((), m')) :
    let row := listing cb opcode
    m'.cpu.f &&& 0x0F = 0 ∧
      (∃ x, row.mnemonic.Operand m x ∧
        m'.cpu.flags = row.flags.apply m.cpu.flags (row.mnemonic.computed m.cpu x)) ∧
      (∀ r ∉ row.mnemonic.changes, r.read m'.cpu = r.read m.cpu) ∧
      (row.flags.z = .computed ∨ row.flags.z = .one → row.mnemonic ≠ .pop .af →
        ∀ r : R8, .r8 r ∈ row.mnemonic.changes → m'.cpu.flags.z = (r.get m'.cpu == 0)) := by
  have hhandler := describes_call hlow (entry cb opcode).exec () m' hrun
  have hrow : (listing cb opcode).Describes m m' := by
    rcases listing_entry cb opcode with heq | hon
    · rw [← heq]
      exact hhandler
    · exact describes_of_onA hon hhandler
  obtain ⟨x, hx, hflags, hkeeps⟩ := hrow
  refine ⟨hkeeps.low.trans hlow, ⟨x, hx, hflags⟩, hkeeps.regs, fun hz hpop => ?_⟩
  rcases listing_entry cb opcode with heq | hon
  · rw [← heq] at hz hpop ⊢
    exact zeroIn_call _ hz hpop () m' hrun
  · obtain ⟨hcomputed, hmnemonic⟩ := zero_of_onA hon
    rw [← hmnemonic] at hpop ⊢
    exact zeroIn_call _ (.inl hcomputed) hpop () m' hrun

/-- After power-on, ADD A n8 in front of the byte 0x1F. -/
theorem architectural_effect_boot :
    ∃ m m', Gameboy.boot (programCartridge [0xC6, 0x1F]) ⟨.none, none, none⟩ = .ok m ∧
      (entry false 0xC6).exec.call (entry false 0xC6) 0xC6 m = .ok ((), m') ∧
      m'.cpu.f &&& 0x0F = 0 ∧
      (∃ x, Arg.n8.Holds m x ∧ m'.cpu.flags = .ofSum m.cpu.a.toNat x.toNat 0) ∧
      (∀ r ∉ [Reg.r8 .a], r.read m'.cpu = r.read m.cpu) ∧
      m'.cpu.flags.z = (m'.cpu.a == 0) := by
  obtain ⟨⟨u, m'⟩, hrun⟩ := exists_of_isOk (x :=
    Gameboy.boot (programCartridge [0xC6, 0x1F]) ⟨.none, none, none⟩ >>=
      (entry false 0xC6).exec.call (entry false 0xC6) 0xC6) (by decide +kernel)
  obtain ⟨m, hm, hcall⟩ := bind_eq_ok.mp hrun
  have hlow : (fun m : Machine => m.cpu.f &&& 0x0F) <$>
      (Gameboy.boot (programCartridge [0xC6, 0x1F]) ⟨.none, none, none⟩) = .ok 0 := by
    decide +kernel
  rw [hm] at hlow
  obtain ⟨hlow', hflags, hkeeps, hzero⟩ :=
    architectural_effect false 0xC6 (ok_inj.mp hlow) hcall
  exact ⟨m, m', hm, hcall, hlow', hflags, hkeeps,
    hzero (.inl rfl) (by decide) .a List.mem_cons_self⟩

end Exec

end ZenithGb
