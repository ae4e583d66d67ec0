import ZenithGb.Cpu.Drives
import ZenithGb.Cpu.Interrupts
import ZenithGb.Cpu.Timing
import ZenithGb.Soc.Crashes

/-!
# Where the emulator can crash

The emulator is full of assertions and checked arithmetic. `Gameboy.Crash` lists the panics that a
program, a cartridge and a printer can bring about; the others cannot happen. The decoding cannot
fail, since every handler is in the tables only under opcodes that it accepts; the cycles add up,
since the tables agree with the handlers; and the components keep within their bounds.

## Main results

* `OpcodeFn.accepted_getInstruction` — the tables use the handlers as the handlers assert
* `Exec.sturdy_handler` — a handler crashes in a known way or not at all
* `Gameboy.exec_crashes` — so does every run of the emulator
-/

namespace ZenithGb

open Outcome

/-- The panics of the emulator. -/
inductive Gameboy.Crash (trusted : Prop) : Panic → Prop
  | soc (e : Panic) : Soc.Crash trusted e → Gameboy.Crash trusted e
  /-- An opcode that is not an instruction. -/
  | illegal : Gameboy.Crash trusted (.unreachable .illegalOpcode)
  /-- LD [a16], SP at the last address. -/
  | storeSp : Gameboy.Crash trusted (.overflow .storeSp)
  /-- The dispatch of an interrupt with PC at 0. -/
  | dispatch : Gameboy.Crash trusted (.overflow .handleInterrupt)

/-! ### Decoding -/

/-- What a handler asserts of the entry it is called from. -/
def OpcodeFn.accepts (fn : OpcodeFn) (src : OperandKind) (opcode : UInt8) : Bool :=
  let source := src == .r8 && Exec.srcReg opcode != 0x6 || src == .r16Addr || src == .imm8
  match fn with
  | opcodeLdR8R8 => Exec.dstReg opcode != 0x6 && Exec.srcReg opcode != 0x6
  | opcodeLdR8Imm8 | opcodeIncR8 | opcodeDecR8 => Exec.dstReg opcode != 0x6
  | opcodeLdABcaddr => opcode == 0x0A
  | opcodeLdADeaddr => opcode == 0x1A
  | opcodeLdAHliaddr => opcode == 0x2A
  | opcodeLdAHldaddr => opcode == 0x3A
  | opcodeLdR8Hladdr => [0x46, 0x4E, 0x56, 0x5E, 0x66, 0x6E, 0x7E].contains opcode
  | opcodeLdAImm16addr => opcode == 0xFA
  | opcodeLdHlSpi => opcode == 0xF8
  | opcodeLdSpHl => opcode == 0xF9
  | opcodeLdR16Imm16 => [0x01, 0x11, 0x21, 0x31].contains opcode
  | opcodeLdHliaddrA => opcode == 0x22
  | opcodeLdHldaddrA => opcode == 0x32
  | opcodeLdBcaddrA => opcode == 0x02
  | opcodeLdDeaddrA => opcode == 0x12
  | opcodeHladdrR8 => [0x70, 0x71, 0x72, 0x73, 0x74, 0x75, 0x77].contains opcode
  | opcodeImm16addrR16 => opcode == 0x08
  | opcodeHladdrImm8 => opcode == 0x36
  | opcodeR8addrA => opcode == 0xE2
  | opcodeImm16addrA => opcode == 0xEA
  | opcodeR8C => opcode == 0xF2
  | opcodeLdhR8addrA => opcode == 0xE0
  | opcodeLdhAR8addr => opcode == 0xF0
  | opcodeIncR16addr => opcode == 0x34
  | opcodeDecR16addr => opcode == 0x35
  | opcodeRlca => opcode == 0x07
  | opcodeRrca => opcode == 0x0F
  | opcodeRla => opcode == 0x17
  | opcodeRra => opcode == 0x1F
  | opcodeAddR8Imm8Hladdr | opcodeAdc | opcodeSub | opcodeSbc | opcodeAnd | opcodeXor | opcodeOr
  | opcodeCp => source
  | opcodeAddSpE8 => opcode == 0xE8
  | opcodeStop => opcode == 0x10
  | opcodeJrCc => [0x20, 0x28, 0x30, 0x38].contains opcode
  | opcodeCallCc => [0xC4, 0xCC, 0xD4, 0xDC].contains opcode
  | opcodeRetCc => [0xC0, 0xC8, 0xD0, 0xD8].contains opcode
  | opcodeRst => 0xC7 ≤ opcode
  | _ => true

namespace OpcodeFn

/-- The table uses a handler where the handler accepts it. -/
def Accepted (table : UInt8 → Instruction) (opcode : UInt8) : Prop :=
  (table opcode).exec.accepts (table opcode).src opcode = true

instance (table : UInt8 → Instruction) (opcode : UInt8) : Decidable (Accepted table opcode) :=
  inferInstanceAs (Decidable (_ = _))

theorem accepted_of_all {table : UInt8 → Instruction}
    (h : ∀ n : Fin 256, Accepted table ⟨⟨n⟩⟩) (opcode : UInt8) : Accepted table opcode :=
  h opcode.toFin

/-- **Decoding.** The first table uses every handler as the handler asserts. -/
theorem accepted_getInstruction : ∀ opcode, Accepted getInstruction opcode :=
  accepted_of_all (by decide +kernel)

theorem accepted_getInstructionCb : ∀ opcode, Accepted getInstructionCb opcode :=
  accepted_of_all (by decide +kernel)

end OpcodeFn

namespace Exec

variable {trusted : Prop} {α β : Type} {x : Exec α} {f : α → Exec β}

/-- From a sound system, `x` returns to one, or crashes in a known way. -/
def Sturdy (trusted : Prop) (x : Exec α) : Prop :=
  Maintains x (fun m => m.soc.Sound trusted) (Gameboy.Crash trusted)

@[grind ←] theorem Sturdy.bind (hx : Sturdy trusted x) (hf : ∀ a, Sturdy trusted (f a)) :
    Sturdy trusted (x >>= f) :=
  Maintains.bind hx hf

/-! ### Access to the two halves -/

@[grind ←] theorem sturdy_pure (a : α) : Sturdy trusted (pure a : Exec α) := maintains_pure a

@[grind ←] theorem sturdy_cpu : Sturdy trusted cpu := fun _ h => h

@[grind ←] theorem sturdy_soc : Sturdy trusted soc := fun _ h => h

@[grind ←] theorem sturdy_modifyCpu (g : Cpu → Cpu) : Sturdy trusted (modifyCpu g) := fun _ h => h

theorem sturdy_check {y : Checked α} (h : Meets y (fun _ => True) (Gameboy.Crash trusted)) :
    Sturdy trusted (check y) :=
  maintains_lift h

@[grind ←] theorem sturdy_debugAssert {c : Prop} [Decidable c] (h : c) :
    Sturdy trusted (debugAssert c) :=
  sturdy_check (meets_assert _ h _)

/-- An operation of the system that takes no time. -/
theorem sturdy_modifySoc {g : Soc → Soc} (op : Soc.Op) (h : ∀ s, Soc.step op s = .ok (g s)) :
    Sturdy trusted (modifySoc g) :=
  fun m hm => (Soc.meets_step op hm).of_ok (h m.soc)

@[grind ←] theorem sturdy_clock : Sturdy trusted clock := fun _ h =>
  ((Soc.meets_step .clock h).mono (fun _ => id) .soc).bind fun _ hs => hs

@[grind ←] theorem sturdy_clockRead (address : UInt16) : Sturdy trusted (clockRead address) := by
  intro m h
  have hread := (Soc.meets_step (.read address) h).mono (fun _ => id) Gameboy.Crash.soc
  exact (meets_map.mp hread).bind fun _ hs => hs

@[grind ←] theorem sturdy_clockWrite (address : UInt16) (data : UInt8) :
    Sturdy trusted (clockWrite address data) := fun _ h =>
  ((Soc.meets_step (.write address data) h).mono (fun _ => id) .soc).bind fun _ hs => hs

theorem sturdy_setCpuHalted (halted : Bool) :
    Sturdy trusted (modifySoc (·.setCpuHalted halted)) :=
  sturdy_modifySoc (.setCpuHalted halted) fun _ => rfl

theorem sturdy_clearInterrupt (interrupt : UInt8) :
    Sturdy trusted (modifySoc (·.clearInterrupt interrupt)) :=
  sturdy_modifySoc (.clearInterrupt interrupt) fun _ => rfl

@[grind ←] theorem sturdy_cgbSpeedSwitch : Sturdy trusted (modifySoc (·.cgbSpeedSwitch)) :=
  sturdy_modifySoc .speedSwitch fun _ => rfl

/-! ### Operands, fetching and the stack -/

/-- A field of three bits that is not 6 names a register. -/
theorem sturdy_readR8 {r : UInt8} (hlt : r < 8) (hne : r ≠ 0x6) : Sturdy trusted (readR8 r) := by
  have hlt' : r.toNat < 8 := UInt8.lt_iff_toNat_lt.mp hlt
  have hne' : r.toNat ≠ 6 := fun h => hne (UInt8.toNat_inj.mp h)
  refine sturdy_cpu.bind fun c => ?_
  split
  case h_2 | h_9 => grind
  all_goals exact sturdy_pure _

theorem sturdy_writeR8 {r : UInt8} (hlt : r < 8) (hne : r ≠ 0x6) (val : UInt8) :
    Sturdy trusted (writeR8 r val) := by
  have hlt' : r.toNat < 8 := UInt8.lt_iff_toNat_lt.mp hlt
  have hne' : r.toNat ≠ 6 := fun h => hne (UInt8.toNat_inj.mp h)
  rw [writeR8]
  split
  case h_2 | h_9 => grind
  all_goals exact sturdy_modifyCpu _

theorem srcReg_lt (opcode : UInt8) : srcReg opcode < 8 :=
  UInt8.lt_iff_toNat_lt.mpr (Nat.lt_succ_of_le (toNat_and_le opcode 0x7))

theorem dstReg_lt (opcode : UInt8) : dstReg opcode < 8 :=
  UInt8.lt_iff_toNat_lt.mpr (Nat.lt_succ_of_le (toNat_and_le (opcode >>> 3) 0x7))

theorem reg16_toNat_lt (opcode : UInt8) : (reg16 opcode).toNat < 4 :=
  Nat.lt_succ_of_le (toNat_and_le (opcode >>> 4) 0x3)

@[grind ←] theorem sturdy_readR8_src {opcode : UInt8} (h : srcReg opcode ≠ 0x6) :
    Sturdy trusted (readR8 (srcReg opcode)) :=
  sturdy_readR8 (srcReg_lt opcode) h

@[grind ←] theorem sturdy_readR8_dst {opcode : UInt8} (h : dstReg opcode ≠ 0x6) :
    Sturdy trusted (readR8 (dstReg opcode)) :=
  sturdy_readR8 (dstReg_lt opcode) h

@[grind ←] theorem sturdy_writeR8_dst {opcode : UInt8} (h : dstReg opcode ≠ 0x6) (val : UInt8) :
    Sturdy trusted (writeR8 (dstReg opcode) val) :=
  sturdy_writeR8 (dstReg_lt opcode) h val

@[grind ←] theorem sturdy_readR16 (opcode : UInt8) : Sturdy trusted (readR16 (reg16 opcode)) := by
  have hlt := reg16_toNat_lt opcode
  refine sturdy_cpu.bind fun c => ?_
  split
  case h_5 => grind
  all_goals exact sturdy_pure _

@[grind ←] theorem sturdy_writeR16 (opcode : UInt8) (val : UInt16) :
    Sturdy trusted (writeR16 (reg16 opcode) val) := by
  have hlt := reg16_toNat_lt opcode
  rw [writeR16]
  split
  case h_5 => grind
  all_goals exact sturdy_modifyCpu _

@[grind ←] theorem sturdy_readR16stkMsb (opcode : UInt8) :
    Sturdy trusted (readR16stkMsb (reg16 opcode)) := by
  have hlt := reg16_toNat_lt opcode
  refine sturdy_cpu.bind fun c => ?_
  split
  case h_5 => grind
  all_goals exact sturdy_pure _

@[grind ←] theorem sturdy_readR16stkLsb (opcode : UInt8) :
    Sturdy trusted (readR16stkLsb (reg16 opcode)) := by
  have hlt := reg16_toNat_lt opcode
  refine sturdy_cpu.bind fun c => ?_
  split
  case h_5 => grind
  all_goals exact sturdy_pure _

@[grind ←] theorem sturdy_writeR16stk (opcode : UInt8) (val : UInt16) :
    Sturdy trusted (writeR16stk (reg16 opcode) val) := by
  have hlt := reg16_toNat_lt opcode
  rw [writeR16stk]
  split
  case h_5 => grind
  all_goals exact sturdy_modifyCpu _

@[grind ←] theorem sturdy_setFlag (flag : UInt8) (set : Bool) :
    Sturdy trusted (setFlag flag set) :=
  sturdy_modifyCpu _

@[grind ←] theorem sturdy_setFlags (z n h c : Bool) : Sturdy trusted (setFlags z n h c) :=
  sturdy_modifyCpu _

@[grind ←] theorem sturdy_clockWriteAtHl (val : UInt8) : Sturdy trusted (clockWriteAtHl val) :=
  sturdy_cpu.bind fun _ => sturdy_clockWrite _ _

@[grind ←] theorem sturdy_clockReadAtHl : Sturdy trusted clockReadAtHl :=
  sturdy_cpu.bind fun _ => sturdy_clockRead _

@[grind ←] theorem sturdy_clockConsumeByteFromPc : Sturdy trusted clockConsumeByteFromPc :=
  sturdy_cpu.bind fun _ => (sturdy_modifyCpu _).bind fun _ => sturdy_clockRead _

@[grind ←] theorem sturdy_clockConsumeWordFromPc : Sturdy trusted clockConsumeWordFromPc :=
  sturdy_clockConsumeByteFromPc.bind fun _ => sturdy_clockConsumeByteFromPc.bind fun _ =>
    sturdy_pure _

@[grind ←] theorem sturdy_clockFetch : Sturdy trusted clockFetch :=
  sturdy_clockConsumeByteFromPc.bind fun _ => sturdy_modifyCpu _

@[grind ←] theorem sturdy_clockPushU8 (val : UInt8) : Sturdy trusted (clockPushU8 val) :=
  sturdy_cpu.bind fun _ => (sturdy_modifyCpu _).bind fun _ => sturdy_clockWrite _ _

@[grind ←] theorem sturdy_clockPopU8 : Sturdy trusted clockPopU8 :=
  sturdy_cpu.bind fun _ => (sturdy_modifyCpu _).bind fun _ => sturdy_clockRead _

@[grind ←] theorem sturdy_clockPopU16 : Sturdy trusted clockPopU16 :=
  sturdy_clockPopU8.bind fun _ => sturdy_clockPopU8.bind fun _ => sturdy_pure _

/-! ### Handlers -/

/-- What a handler asks of the source operand's kind. -/
def SourceOk (src : OperandKind) (opcode : UInt8) : Prop :=
  src = .r8 ∧ srcReg opcode ≠ 0x6 ∨ src = .r16Addr ∨ src = .imm8

@[grind ←] theorem sturdy_clockConsumeSrc {src : OperandKind} {opcode : UInt8}
    (h : SourceOk src opcode) : Sturdy trusted (clockConsumeSrcR8Imm8Hladdr src opcode) := by
  obtain ⟨rfl, hne⟩ | rfl | rfl := h
  · exact (sturdy_debugAssert hne).bind fun _ => (sturdy_debugAssert (srcReg_lt opcode)).bind
      fun _ => sturdy_readR8_src hne
  · exact sturdy_clockReadAtHl
  · exact sturdy_clockConsumeByteFromPc

@[grind ←] theorem sturdy_inc8 (v : UInt8) : Sturdy trusted (inc8 v) := by unfold inc8; grind
@[grind ←] theorem sturdy_dec8 (v : UInt8) : Sturdy trusted (dec8 v) := by unfold dec8; grind
@[grind ←] theorem sturdy_rlc (v : UInt8) : Sturdy trusted (rlc v) := by unfold rlc; grind
@[grind ←] theorem sturdy_rrc (v : UInt8) : Sturdy trusted (rrc v) := by unfold rrc; grind
@[grind ←] theorem sturdy_rl (v : UInt8) : Sturdy trusted (rl v) := by unfold rl; grind
@[grind ←] theorem sturdy_rr (v : UInt8) : Sturdy trusted (rr v) := by unfold rr; grind
@[grind ←] theorem sturdy_sla (v : UInt8) : Sturdy trusted (sla v) := by unfold sla; grind
@[grind ←] theorem sturdy_sra (v : UInt8) : Sturdy trusted (sra v) := by unfold sra; grind
@[grind ←] theorem sturdy_swap (v : UInt8) : Sturdy trusted (swap v) := by unfold swap; grind
@[grind ←] theorem sturdy_srl (v : UInt8) : Sturdy trusted (srl v) := by unfold srl; grind
@[grind ←] theorem sturdy_addA8 (v c : UInt8) : Sturdy trusted (addA8 v c) := by
  unfold addA8
  grind
@[grind ←] theorem sturdy_subA8 (v c : UInt8) : Sturdy trusted (subA8 v c) := by
  unfold subA8
  grind
@[grind ←] theorem sturdy_cpA8 (v : UInt8) : Sturdy trusted (cpA8 v) := by unfold cpA8; grind
@[grind ←] theorem sturdy_addSpE8 (e : UInt8) : Sturdy trusted (addSpE8 e) := by
  unfold addSpE8
  grind
@[grind ←] theorem sturdy_carry : Sturdy trusted carry := by unfold carry; grind
@[grind ←] theorem sturdy_jump (addr : UInt16) : Sturdy trusted (jump addr) := by unfold jump; grind
@[grind ←] theorem sturdy_call (addr : UInt16) : Sturdy trusted (call addr) := by unfold call; grind
@[grind ←] theorem sturdy_ret : Sturdy trusted ret := by unfold ret; grind

@[grind ←] theorem sturdy_jumpRelative (e : UInt8) : Sturdy trusted (jumpRelative e) := by
  unfold jumpRelative
  grind

@[grind ←] theorem sturdy_logicA8 (op : UInt8 → UInt8 → UInt8) (h : Bool) (v : UInt8) :
    Sturdy trusted (logicA8 op h v) := by
  unfold logicA8
  grind

@[grind ←] theorem sturdy_rotateA {rotate : UInt8 → Exec UInt8}
    (h : ∀ v, Sturdy trusted (rotate v)) : Sturdy trusted (rotateA rotate) :=
  sturdy_cpu.bind fun _ => (h _).bind fun _ => (sturdy_modifyCpu _).bind fun _ =>
    sturdy_setFlag _ _

@[grind ←] theorem sturdy_branch (taken : Bool) {go : Exec Unit} (h : Sturdy trusted go) :
    Sturdy trusted (branch taken go) :=
  Maintains.ite (fun _ => h) fun _ => sturdy_modifyCpu _

@[grind ←] theorem sturdy_clockReadR8Hladdr (opcode : UInt8) :
    Sturdy trusted (clockReadR8Hladdr (srcReg opcode)) :=
  Maintains.ite (fun _ => sturdy_clockReadAtHl) fun hne => sturdy_readR8_src hne

@[grind ←] theorem sturdy_modifyR8Hladdr {compute : UInt8 → Exec UInt8}
    (h : ∀ v, Sturdy trusted (compute v)) (opcode : UInt8) :
    Sturdy trusted (modifyR8Hladdr compute opcode) :=
  (sturdy_clockReadR8Hladdr opcode).bind fun v => (h v).bind fun _ =>
    Maintains.ite (fun _ => sturdy_clockWriteAtHl _) fun hne =>
      sturdy_writeR8 (srcReg_lt opcode) hne _

theorem sturdy_opcodeHalt : Sturdy trusted opcodeHalt := by
  refine sturdy_cpu.bind fun c => sturdy_soc.bind fun s => Maintains.ite (fun _ => ?_) fun _ => ?_
  · exact (sturdy_modifyCpu _).bind fun _ => sturdy_setCpuHalted true
  · exact sturdy_pure _

theorem sturdy_undocumented : Sturdy trusted undocumented := sturdy_check .illegal

theorem sturdy_opcodeImm16addrR16 {opcode : UInt8} (h : opcode = 0x08) :
    Sturdy trusted (opcodeImm16addrR16 opcode) := by
  refine (sturdy_debugAssert h).bind fun _ => sturdy_clockConsumeWordFromPc.bind fun addr =>
    sturdy_cpu.bind fun c => (sturdy_clockWrite _ _).bind fun _ => ?_
  refine Sturdy.bind (sturdy_check ?_) fun _ => sturdy_clockWrite _ _
  rw [checkedAddU16]
  split
  · trivial
  · exact .storeSp

theorem sturdy_opcodeRst {opcode : UInt8} (h : 0xC7 ≤ opcode) :
    Sturdy trusted (opcodeRst opcode) := by
  refine sturdy_clock.bind fun _ => sturdy_cpu.bind fun _ => (sturdy_clockPushU8 _).bind fun _ =>
    sturdy_cpu.bind fun _ => (sturdy_clockPushU8 _).bind fun _ => ?_
  refine Sturdy.bind (sturdy_check ?_) fun _ => sturdy_modifyCpu _
  rw [checkedSubU8, if_pos h]
  trivial

theorem sturdy_opcodeLdR8Hladdr {opcode : UInt8}
    (h : opcode ∈ [0x46, 0x4E, 0x56, 0x5E, 0x66, 0x6E, 0x7E]) :
    Sturdy trusted (opcodeLdR8Hladdr opcode) := by
  have hall : ([0x46, 0x4E, 0x56, 0x5E, 0x66, 0x6E, 0x7E] : List UInt8).all
      (fun o => srcReg o == 0x6 && dstReg o != 0x6) = true := rfl
  have hregs := List.all_eq_true.mp hall opcode h
  simp only [Bool.and_eq_true, beq_iff_eq, bne_iff_ne] at hregs
  obtain ⟨hsrc, hdst⟩ := hregs
  unfold opcodeLdR8Hladdr
  grind

theorem sturdy_opcodeHladdrR8 {opcode : UInt8}
    (h : opcode ∈ [0x70, 0x71, 0x72, 0x73, 0x74, 0x75, 0x77]) :
    Sturdy trusted (opcodeHladdrR8 opcode) := by
  have hall : ([0x70, 0x71, 0x72, 0x73, 0x74, 0x75, 0x77] : List UInt8).all
      (fun o => srcReg o != 0x6 && dstReg o == 0x6) = true := rfl
  have hregs := List.all_eq_true.mp hall opcode h
  simp only [Bool.and_eq_true, beq_iff_eq, bne_iff_ne] at hregs
  obtain ⟨hsrc, hdst⟩ := hregs
  unfold opcodeHladdrR8
  grind

/-- The source operand, as the table has it. -/
theorem sourceOk_of_accepts {src : OperandKind} {opcode : UInt8}
    (h : (src == .r8 && srcReg opcode != 0x6 || src == .r16Addr || src == .imm8) = true) :
    SourceOk src opcode := by
  simpa [SourceOk, or_assoc] using h

/-- **Handlers.** Called from an entry it accepts, a handler crashes in a known way or not at
all. -/
theorem sturdy_handler {fn : OpcodeFn} {inst : Instruction} {opcode : UInt8}
    (h : fn.accepts inst.src opcode = true) : Sturdy trusted (fn.call inst opcode) := by
  cases fn with
  | opcodeHalt => exact sturdy_opcodeHalt
  | opcodeImm16addrR16 => exact sturdy_opcodeImm16addrR16 (beq_iff_eq.mp h)
  | opcodeRst => exact sturdy_opcodeRst (of_decide_eq_true h)
  | opcodeLdR8Hladdr => exact sturdy_opcodeLdR8Hladdr (List.contains_iff_mem.mp h)
  | opcodeHladdrR8 => exact sturdy_opcodeHladdrR8 (List.contains_iff_mem.mp h)
  | opcodePrefix | opcodeIllegalD3 | opcodeIllegalDb | opcodeIllegalDd | opcodeIllegalE3
  | opcodeIllegalE4 | opcodeIllegalEb | opcodeIllegalEc | opcodeIllegalEd | opcodeIllegalF4
  | opcodeIllegalFc | opcodeIllegalFd => exact sturdy_undocumented
  | opcodeAddR8Imm8Hladdr | opcodeAdc | opcodeSub | opcodeSbc | opcodeAnd | opcodeXor | opcodeOr
  | opcodeCp =>
    have hsource := sourceOk_of_accepts h
    simp only [OpcodeFn.call, opcodeAddR8Imm8Hladdr, opcodeAdc, opcodeSub, opcodeSbc, opcodeAnd,
      opcodeXor, opcodeOr, opcodeCp, andA8, xorA8, orA8]
    grind
  | _ =>
    simp only [OpcodeFn.accepts, beq_iff_eq, bne_iff_ne, Bool.and_eq_true, List.contains_iff_mem]
      at h
    simp only [OpcodeFn.call, opcodeNop, opcodeLdR16Imm16, opcodeLdBcaddrA, opcodeIncR16,
      opcodeIncR8, opcodeDecR8, opcodeLdR8Imm8, opcodeRlca, opcodeAddHlR16, opcodeLdABcaddr,
      opcodeDecR16, opcodeRrca, opcodeStop, opcodeLdDeaddrA, opcodeRla, opcodeJrE8,
      opcodeLdADeaddr, opcodeRra, opcodeJrCc, opcodeLdHliaddrA, opcodeDaa, opcodeLdAHliaddr,
      opcodeCpl, opcodeLdHldaddrA, opcodeIncR16addr, opcodeDecR16addr, opcodeHladdrImm8, opcodeScf,
      opcodeLdAHldaddr, opcodeCcf, opcodeLdBB, opcodeLdR8R8, opcodeRetCc, opcodePop, opcodeJpCc,
      opcodeJpA16, opcodeCallCc, opcodePush, opcodeRet, opcodeCallA16, opcodeReti,
      opcodeLdhR8addrA, opcodeR8addrA, opcodeAddSpE8, opcodeJpHl,
      opcodeImm16addrA, opcodeLdhAR8addr, opcodeR8C, opcodeDi, opcodeLdHlSpi, opcodeLdSpHl,
      opcodeLdAImm16addr, opcodeEi, opcodeRlc, opcodeRrc, opcodeRl, opcodeRr, opcodeSla, opcodeSra,
      opcodeSwap, opcodeSrl, opcodeBit, opcodeRes, opcodeSet]
    grind

/-! ### Interrupts and the step -/

theorem sturdy_enterInterrupt (active : Option (UInt8 × UInt16)) :
    Sturdy trusted (enterInterrupt active) := by
  unfold enterInterrupt
  split
  · exact (sturdy_modifyCpu _).bind fun _ => sturdy_clearInterrupt _
  · exact sturdy_modifyCpu _

theorem sturdy_handleInterrupt : Sturdy trusted handleInterrupt := by
  refine sturdy_clock.bind fun _ => sturdy_clock.bind fun _ => sturdy_cpu.bind fun c => ?_
  refine Sturdy.bind (sturdy_check ?_) fun _ => (sturdy_clockPushU8 _).bind fun _ =>
    sturdy_soc.bind fun _ => (sturdy_clockPushU8 _).bind fun _ =>
    (sturdy_enterInterrupt _).bind fun _ => (sturdy_modifyCpu _).bind fun _ => sturdy_clockFetch
  rw [checkedSubU16]
  split
  · trivial
  · exact .dispatch

theorem sturdy_checkInterrupts : Sturdy trusted checkInterrupts := by
  refine sturdy_soc.bind fun s => Maintains.ite (fun _ => sturdy_pure _) fun _ => ?_
  refine (sturdy_modifyCpu _).bind fun _ => (sturdy_setCpuHalted false).bind fun _ => ?_
  refine sturdy_cpu.bind fun c => Maintains.ite (fun _ => sturdy_pure _) fun _ => ?_
  exact Maintains.ite (fun _ => sturdy_handleInterrupt.bind fun _ => sturdy_pure _) fun _ =>
    sturdy_pure _

/-- An instruction is fetched from an entry that its handler accepts. -/
theorem sturdy_executed {x : Instruction × UInt8 → Exec α}
    (hx : ∀ inst opcode, inst.exec.accepts inst.src opcode = true →
      Sturdy trusted (x (inst, opcode))) : Sturdy trusted (fetchInstruction >>= x) := by
  have hfetch : fetchInstruction >>= x = cpu >>= fun c =>
      if c.opcode = 0xCB then clockFetch >>= fun _ => cpu >>= fun c =>
        x (getInstructionCb c.opcode, c.opcode)
      else x (getInstruction c.opcode, c.opcode) := by
    refine (bind_assoc cpu _ x).trans (congrArg (cpu >>= ·) (funext fun c => ?_))
    dsimp only
    split
    · exact (bind_assoc clockFetch _ x).trans rfl
    · exact pure_bind _ x
  rw [hfetch]
  refine sturdy_cpu.bind fun c => Maintains.ite (fun _ => ?_) fun _ => ?_
  · exact sturdy_clockFetch.bind fun _ => sturdy_cpu.bind fun c =>
      hx _ _ (OpcodeFn.accepted_getInstructionCb c.opcode)
  · exact hx _ _ (OpcodeFn.accepted_getInstruction c.opcode)

theorem sturdy_stepUnchecked : Sturdy trusted stepUnchecked := by
  refine sturdy_soc.bind fun _ => sturdy_checkInterrupts.bind fun _ =>
    (sturdy_modifyCpu _).bind fun _ => sturdy_cpu.bind fun _ =>
    Maintains.ite (fun _ => ?_) fun _ => ?_
  · exact sturdy_clock.bind fun _ => sturdy_soc.bind fun _ => sturdy_pure _
  · exact sturdy_executed fun inst opcode h => (sturdy_handler h).bind fun _ =>
      sturdy_clockFetch.bind fun _ => sturdy_soc.bind fun _ => (sturdy_modifyCpu _).bind fun _ =>
      sturdy_pure _

/-- A step leaves no mark of a branch that was not taken, which is what the assertion about the
cycles of the next step needs. -/
theorem branchSkipped_of_step {m m' : Machine} {elapsed : ℕ} (hskip : m.cpu.branchSkipped = false)
    (h : step m = .ok (elapsed, m')) : m'.cpu.branchSkipped = false := by
  cases stepped_of_step h with
  | waited hcheck _ hclock _ =>
    rw [(takes_clock _ _ _ hclock).branchSkipped, withImeApplied_branchSkipped,
      (interruptCheck_of_checkInterrupts hcheck).branchSkipped, hskip]
  | executed _ _ _ _ _ hm' _ =>
    rw [hm']

/-- The machine between two steps. -/
structure Ready (trusted : Prop) (m : Machine) : Prop where
  soc : m.soc.Sound trusted
  skip : m.cpu.branchSkipped = false

/-- **Steps.** A step crashes in a known way or not at all. -/
theorem meets_step {m : Machine} (h : Ready trusted m) :
    Meets (step m) (fun r => Ready trusted r.2) (Gameboy.Crash trusted) := by
  have hsturdy : Sturdy trusted stepUnchecked := sturdy_stepUnchecked
  have hsoc := hsturdy m h.soc
  rw [← step_eq_stepUnchecked h.skip] at hsoc
  cases hstep : step m with
  | ok r => exact ⟨hsoc.of_ok hstep, branchSkipped_of_step h.skip hstep⟩
  | error e => exact hsoc.of_error hstep

end Exec

namespace Gameboy

open Exec

variable {trusted : Prop} {m : Machine} {cartridge : Cartridge} {config : Config}

theorem meets_round (inputs : List Soc.InputEvent) (h : Ready trusted m) :
    Meets (round inputs m) (Ready trusted) (Crash trusted) :=
  (meets_step h).bind fun _ hr =>
    ⟨(Soc.meets_step (.processEvents inputs) hr.soc).of_ok rfl, hr.skip⟩

theorem ready_boot (h : boot cartridge config = .ok m) : Ready m.soc.mbc.NeverPanics m := by
  refine ⟨Soc.sound_new (boot_eq_ok h), ?_⟩
  obtain ⟨m1, hnew, h⟩ := bind_eq_ok.mp h
  obtain ⟨cpu, hinit, h⟩ := bind_eq_ok.mp h
  cases h
  obtain ⟨soc, -, hnew⟩ := bind_eq_ok.mp hnew
  cases hnew
  obtain ⟨opcode, -, hinit⟩ := bind_eq_ok.mp hinit
  cases hinit
  dsimp only
  cases compMode cartridge config <;> rfl

/-- **Crashes.** A run of the emulator from power-on, over any program and any input, ends in none
of its many panics but these: an opcode that is no instruction, the last address as the operand of
LD [a16], SP, an interrupt with PC at 0, VRAM DMA from 0xFE00 or above, a row of the window whose
address leaves 16 bits, a printer that rejects its input, the end of the cycle counter, and, if its
mapper can panic at all, a panic of the mapper. -/
theorem exec_crashes (hboot : boot cartridge config = .ok m)
    (rounds : List (List Soc.InputEvent)) :
    FailsIn (Crash m.soc.mbc.NeverPanics) (Machine.exec round rounds m) := fun _ he =>
  (Machine.exec_meets (P := fun _ => True) (fun inputs _ _ h => meets_round inputs h) rounds m
    (fun _ _ => trivial) (ready_boot hboot)).of_error he

/-- Two programs that crash: an opcode that is no instruction, and LD [0xFFFF], SP. -/
theorem exec_crashes_storeSp :
    (∃ m e, boot (programCartridge [0xD3]) ⟨.none, none, none⟩ = .ok m ∧
      Machine.exec round [[]] m = .error e ∧ e = .unreachable .illegalOpcode ∧
      Crash m.soc.mbc.NeverPanics e) ∧
    ∃ m e, boot (programCartridge [0x08, 0xFF, 0xFF]) ⟨.none, none, none⟩ = .ok m ∧
      Machine.exec round [[]] m = .error e ∧ e = .overflow .storeSp ∧
      Crash m.soc.mbc.NeverPanics e := by
  constructor
  · obtain ⟨m, hm, hpanic⟩ := exists_of_error_after (f := Machine.exec round [[]])
      (x := boot (programCartridge [0xD3]) ⟨.none, none, none⟩)
      (e := .unreachable .illegalOpcode) (by decide +kernel)
    exact ⟨m, _, hm, hpanic, rfl, exec_crashes hm [[]] _ hpanic⟩
  · obtain ⟨m, hm, hpanic⟩ := exists_of_error_after (f := Machine.exec round [[]])
      (x := boot (programCartridge [0x08, 0xFF, 0xFF]) ⟨.none, none, none⟩)
      (e := .overflow .storeSp) (by decide +kernel)
    exact ⟨m, _, hm, hpanic, rfl, exec_crashes hm [[]] _ hpanic⟩

end Gameboy

end ZenithGb
