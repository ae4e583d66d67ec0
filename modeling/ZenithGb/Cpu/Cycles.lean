import ZenithGb.Cpu.Step
import ZenithGb.Lib.Stateful
import ZenithGb.Soc.Machine

/-!
# The CPU: the cycles of the handlers

A bus access or a plain clock takes one M-cycle, everything else none, and a sequence takes the sum
of its parts. One lemma for each function of the CPU says what it takes, up to the handlers that do
not change the flags the next step depends on.

## Main results

* `Exec.Takes`, `Exec.Takes.bind` — what a computation takes
* `Exec.takes_clock`, `Exec.takes_clockRead`, `Exec.takes_clockWrite` — what takes an M-cycle
-/

namespace ZenithGb

open Outcome

/-- The flags of the CPU that steer the next step. -/
structure Cpu.Control where
  ime : Bool
  imeNext : Bool
  halted : Bool
  branchSkipped : Bool

def Cpu.control (c : Cpu) : Cpu.Control := ⟨c.ime, c.imeNext, c.halted, c.branchSkipped⟩

/-- `n` M-cycles pass, and the flags stay as they are. -/
structure Passes (n : ℕ) (m m' : Machine) : Prop where
  cycles : m'.soc.cycles = m.soc.cycles + n
  control : m'.cpu.control = m.cpu.control

namespace Passes

variable {n : ℕ} {m m' : Machine}

theorem ime (h : Passes n m m') : m'.cpu.ime = m.cpu.ime := congrArg (·.ime) h.control

theorem imeNext (h : Passes n m m') : m'.cpu.imeNext = m.cpu.imeNext :=
  congrArg (·.imeNext) h.control

theorem halted (h : Passes n m m') : m'.cpu.halted = m.cpu.halted := congrArg (·.halted) h.control

theorem branchSkipped (h : Passes n m m') : m'.cpu.branchSkipped = m.cpu.branchSkipped :=
  congrArg (·.branchSkipped) h.control

end Passes

theorem graded_passes : Graded Passes where
  refl _ := ⟨rfl, rfl⟩
  trans h h' := ⟨by rw [h'.cycles, h.cycles, Nat.add_assoc], h'.control.trans h.control⟩

namespace Exec

variable {α β : Type} {x : Exec α} {f : α → Exec β} {m m' : Machine}

/-- When it returns, `x` has taken `n` M-cycles and left the flags alone. -/
def Takes (n : ℕ) (x : Exec α) : Prop := Does x (Passes n)

/-! ### Rules -/

theorem Takes.bind {a b : ℕ} (hx : Takes a x) (hf : ∀ v, Takes b (f v)) : Takes (b + a) (x >>= f) :=
  graded_passes.bind hx hf (Nat.add_comm a b)

/-- Something free comes first. -/
theorem Takes.andThen {n : ℕ} (hx : Takes 0 x) (hf : ∀ v, Takes n (f v)) : Takes n (x >>= f) :=
  hx.bind hf

/-- Something free comes last. -/
theorem Takes.last {n : ℕ} (hx : Takes n x) (hf : ∀ v, Takes 0 (f v)) : Takes n (x >>= f) :=
  graded_passes.bind hx hf (Nat.add_zero n)

theorem takes_pure (v : α) : Takes 0 (pure v : Exec α) := graded_passes.pure v

theorem takes_cpu : Takes 0 cpu := Takes.bind graded_passes.get fun _ => takes_pure _

theorem takes_soc : Takes 0 soc := Takes.bind graded_passes.get fun _ => takes_pure _

theorem takes_check (y : Checked α) : Takes 0 (check y) := graded_passes.lift y

theorem takes_debugAssert (c : Prop) [Decidable c] : Takes 0 (debugAssert c) := takes_check _

/-- A change to the registers keeps the flags. -/
theorem takes_modifyCpu {g : Cpu → Cpu} (h : ∀ c, (g c).control = c.control) :
    Takes 0 (modifyCpu g) :=
  does_modify fun m => ⟨rfl, h m.cpu⟩

theorem takes_modifySoc {g : Soc → Soc} (h : ∀ s, (g s).cycles = s.cycles) :
    Takes 0 (modifySoc g) :=
  does_modify fun m => ⟨h m.soc, rfl⟩

theorem passes_of_step (op : Soc.Op) {soc : Soc} (h : Soc.step op m.soc = .ok soc)
    (hop : op.isCycle = true) : Passes 1 m { m with soc } :=
  ⟨by rw [(Soc.effect_of_step h).cycles, hop]; rfl, rfl⟩

theorem takes_clock : Takes 1 clock := by
  intro m _ m' h
  obtain ⟨soc, hsoc, h⟩ := bind_eq_ok.mp h
  cases h
  exact passes_of_step .clock hsoc rfl

theorem takes_clockRead (address : UInt16) : Takes 1 (clockRead address) := by
  intro m _ m' h
  obtain ⟨⟨byte, soc⟩, hsoc, h⟩ := bind_eq_ok.mp h
  cases h
  refine passes_of_step (.read address) ?_ rfl
  rw [Soc.step, hsoc]
  rfl

theorem takes_clockWrite (address : UInt16) (data : UInt8) : Takes 1 (clockWrite address data) := by
  intro m _ m' h
  obtain ⟨soc, hsoc, h⟩ := bind_eq_ok.mp h
  cases h
  exact passes_of_step (.write address data) hsoc rfl

/-! ### Operands, fetching and the stack -/

theorem takes_readR8 (r8Encoded : UInt8) : Takes 0 (readR8 r8Encoded) := by
  refine takes_cpu.andThen fun c => ?_
  split <;> first | exact takes_pure _ | exact takes_check _

theorem takes_writeR8 (r8Encoded val : UInt8) : Takes 0 (writeR8 r8Encoded val) := by
  rw [writeR8]
  split <;> first | exact (takes_modifyCpu fun _ => rfl) | exact takes_check _

theorem takes_readR16 (r16Encoded : UInt8) : Takes 0 (readR16 r16Encoded) := by
  refine takes_cpu.andThen fun c => ?_
  split <;> first | exact takes_pure _ | exact takes_check _

theorem takes_writeR16 (r16Encoded : UInt8) (val : UInt16) : Takes 0 (writeR16 r16Encoded val) := by
  rw [writeR16]
  split <;> first | exact (takes_modifyCpu fun _ => rfl) | exact takes_check _

theorem takes_readR16stkMsb (r16Encoded : UInt8) : Takes 0 (readR16stkMsb r16Encoded) := by
  refine takes_cpu.andThen fun c => ?_
  split <;> first | exact takes_pure _ | exact takes_check _

theorem takes_readR16stkLsb (r16Encoded : UInt8) : Takes 0 (readR16stkLsb r16Encoded) := by
  refine takes_cpu.andThen fun c => ?_
  split <;> first | exact takes_pure _ | exact takes_check _

theorem takes_writeR16stk (r16Encoded : UInt8) (val : UInt16) :
    Takes 0 (writeR16stk r16Encoded val) := by
  rw [writeR16stk]
  split <;> first | exact (takes_modifyCpu fun _ => rfl) | exact takes_check _

theorem takes_setFlag (flag : UInt8) (set : Bool) : Takes 0 (setFlag flag set) :=
  takes_modifyCpu fun _ => rfl

theorem takes_setFlags (z n h c : Bool) : Takes 0 (setFlags z n h c) := takes_modifyCpu fun _ => rfl

theorem takes_clockWriteAtHl (val : UInt8) : Takes 1 (clockWriteAtHl val) :=
  takes_cpu.andThen fun _ => takes_clockWrite _ _

theorem takes_clockReadAtHl : Takes 1 clockReadAtHl :=
  takes_cpu.andThen fun _ => takes_clockRead _

theorem takes_clockConsumeByteFromPc : Takes 1 clockConsumeByteFromPc :=
  takes_cpu.andThen fun _ => .andThen (takes_modifyCpu fun _ => rfl) fun _ => takes_clockRead _

theorem takes_clockConsumeWordFromPc : Takes 2 clockConsumeWordFromPc :=
  takes_clockConsumeByteFromPc.bind fun _ => takes_clockConsumeByteFromPc.bind fun _ => takes_pure _

theorem takes_clockFetch : Takes 1 clockFetch :=
  takes_clockConsumeByteFromPc.bind fun _ => takes_modifyCpu fun _ => rfl

theorem takes_clockPushU8 (val : UInt8) : Takes 1 (clockPushU8 val) :=
  takes_cpu.andThen fun _ => .andThen (takes_modifyCpu fun _ => rfl) fun _ => takes_clockWrite _ _

theorem takes_clockPopU8 : Takes 1 clockPopU8 :=
  takes_cpu.andThen fun _ => .andThen (takes_modifyCpu fun _ => rfl) fun _ => takes_clockRead _

theorem takes_clockPopU16 : Takes 2 clockPopU16 :=
  takes_clockPopU8.bind fun _ => takes_clockPopU8.bind fun _ => takes_pure _

/-! ### Handlers -/

section

variable (opcode : UInt8)

theorem takes_opcodeLdR8R8 : Takes 0 (opcodeLdR8R8 opcode) :=
  (takes_readR8 _).andThen fun _ => (takes_debugAssert _).andThen fun _ =>
    (takes_debugAssert _).andThen fun _ => takes_writeR8 _ _

theorem takes_opcodeLdR8Imm8 : Takes 1 (opcodeLdR8Imm8 opcode) :=
  takes_clockConsumeByteFromPc.bind fun _ => (takes_debugAssert _).andThen fun _ =>
    takes_writeR8 _ _

theorem takes_opcodeLdABcaddr : Takes 1 (opcodeLdABcaddr opcode) :=
  (takes_debugAssert _).andThen fun _ => takes_cpu.andThen fun _ =>
    (takes_clockRead _).bind fun _ => takes_modifyCpu fun _ => rfl

theorem takes_opcodeLdADeaddr : Takes 1 (opcodeLdADeaddr opcode) :=
  (takes_debugAssert _).andThen fun _ => takes_cpu.andThen fun _ =>
    (takes_clockRead _).bind fun _ => takes_modifyCpu fun _ => rfl

theorem takes_opcodeLdAHliaddr : Takes 1 (opcodeLdAHliaddr opcode) :=
  (takes_debugAssert _).andThen fun _ => takes_cpu.andThen fun _ =>
    (takes_clockRead _).bind fun _ => .andThen (takes_modifyCpu fun _ => rfl) fun _ =>
    takes_modifyCpu fun _ => rfl

theorem takes_opcodeLdAHldaddr : Takes 1 (opcodeLdAHldaddr opcode) :=
  (takes_debugAssert _).andThen fun _ => takes_cpu.andThen fun _ =>
    (takes_clockRead _).bind fun _ => .andThen (takes_modifyCpu fun _ => rfl) fun _ =>
    takes_modifyCpu fun _ => rfl

theorem takes_opcodeLdR8Hladdr : Takes 1 (opcodeLdR8Hladdr opcode) :=
  (takes_debugAssert _).andThen fun _ => (takes_debugAssert _).andThen fun _ =>
    takes_clockReadAtHl.bind fun _ => (takes_debugAssert _).andThen fun _ => takes_writeR8 _ _

theorem takes_opcodeLdAImm16addr : Takes 3 (opcodeLdAImm16addr opcode) :=
  (takes_debugAssert _).andThen fun _ => takes_clockConsumeWordFromPc.bind fun _ =>
    (takes_clockRead _).bind fun _ => takes_modifyCpu fun _ => rfl

theorem takes_addSpE8 (e : UInt8) : Takes 0 (addSpE8 e) :=
  takes_cpu.andThen fun _ => (takes_setFlags _ _ _ _).andThen fun _ => takes_pure _

theorem takes_opcodeLdHlSpi : Takes 2 (opcodeLdHlSpi opcode) :=
  (takes_debugAssert _).andThen fun _ => takes_clockConsumeByteFromPc.bind fun _ =>
    (takes_addSpE8 _).andThen fun _ => .andThen (takes_modifyCpu fun _ => rfl) fun _ => takes_clock

theorem takes_opcodeLdSpHl : Takes 1 (opcodeLdSpHl opcode) :=
  (takes_debugAssert _).andThen fun _ =>
    .andThen (takes_modifyCpu fun _ => rfl) fun _ => takes_clock

theorem takes_opcodeLdR16Imm16 : Takes 2 (opcodeLdR16Imm16 opcode) :=
  (takes_debugAssert _).andThen fun _ => takes_clockConsumeWordFromPc.bind fun _ =>
    takes_writeR16 _ _

theorem takes_opcodeLdHliaddrA : Takes 1 (opcodeLdHliaddrA opcode) :=
  (takes_debugAssert _).andThen fun _ => takes_cpu.andThen fun _ =>
    .andThen (takes_modifyCpu fun _ => rfl) fun _ => takes_cpu.andThen fun _ => takes_clockWrite _ _

theorem takes_opcodeLdHldaddrA : Takes 1 (opcodeLdHldaddrA opcode) :=
  (takes_debugAssert _).andThen fun _ => takes_cpu.andThen fun _ =>
    .andThen (takes_modifyCpu fun _ => rfl) fun _ => takes_cpu.andThen fun _ => takes_clockWrite _ _

theorem takes_opcodeLdBcaddrA : Takes 1 (opcodeLdBcaddrA opcode) :=
  (takes_debugAssert _).andThen fun _ => takes_cpu.andThen fun _ => takes_cpu.andThen fun _ =>
    takes_clockWrite _ _

theorem takes_opcodeLdDeaddrA : Takes 1 (opcodeLdDeaddrA opcode) :=
  (takes_debugAssert _).andThen fun _ => takes_cpu.andThen fun _ => takes_cpu.andThen fun _ =>
    takes_clockWrite _ _

theorem takes_opcodeHladdrR8 : Takes 1 (opcodeHladdrR8 opcode) :=
  (takes_debugAssert _).andThen fun _ => (takes_readR8 _).andThen fun _ =>
    (takes_debugAssert _).andThen fun _ => (takes_debugAssert _).andThen fun _ =>
    takes_clockWriteAtHl _

theorem takes_opcodeImm16addrR16 : Takes 4 (opcodeImm16addrR16 opcode) :=
  (takes_debugAssert _).andThen fun _ => takes_clockConsumeWordFromPc.bind fun _ =>
    takes_cpu.andThen fun _ => (takes_clockWrite _ _).bind fun _ =>
    (takes_check _).andThen fun _ => takes_clockWrite _ _

theorem takes_opcodeHladdrImm8 : Takes 2 (opcodeHladdrImm8 opcode) :=
  (takes_debugAssert _).andThen fun _ => takes_clockConsumeByteFromPc.bind fun _ =>
    takes_clockWriteAtHl _

theorem takes_opcodeR8addrA : Takes 1 (opcodeR8addrA opcode) :=
  (takes_debugAssert _).andThen fun _ => takes_cpu.andThen fun _ => takes_cpu.andThen fun _ =>
    takes_clockWrite _ _

theorem takes_opcodeImm16addrA : Takes 3 (opcodeImm16addrA opcode) :=
  (takes_debugAssert _).andThen fun _ => takes_clockConsumeWordFromPc.bind fun _ =>
    takes_cpu.andThen fun _ => takes_clockWrite _ _

theorem takes_opcodeR8C : Takes 1 (opcodeR8C opcode) :=
  (takes_debugAssert _).andThen fun _ => takes_cpu.andThen fun _ =>
    (takes_clockRead _).bind fun _ => takes_modifyCpu fun _ => rfl

theorem takes_opcodeLdhR8addrA : Takes 2 (opcodeLdhR8addrA opcode) :=
  (takes_debugAssert _).andThen fun _ => takes_clockConsumeByteFromPc.bind fun _ =>
    takes_cpu.andThen fun _ => takes_clockWrite _ _

theorem takes_opcodeLdhAR8addr : Takes 2 (opcodeLdhAR8addr opcode) :=
  (takes_debugAssert _).andThen fun _ => takes_clockConsumeByteFromPc.bind fun _ =>
    (takes_clockRead _).bind fun _ => takes_modifyCpu fun _ => rfl

theorem takes_inc8 (currVal : UInt8) : Takes 0 (inc8 currVal) :=
  (takes_setFlag _ _).andThen fun _ => (takes_setFlag _ _).andThen fun _ =>
    (takes_setFlag _ _).andThen fun _ => takes_pure _

theorem takes_dec8 (currVal : UInt8) : Takes 0 (dec8 currVal) :=
  (takes_setFlag _ _).andThen fun _ => (takes_setFlag _ _).andThen fun _ =>
    (takes_setFlag _ _).andThen fun _ => takes_pure _

theorem takes_opcodeIncR8 : Takes 0 (opcodeIncR8 opcode) :=
  (takes_debugAssert _).andThen fun _ => (takes_readR8 _).andThen fun _ =>
    (takes_inc8 _).andThen fun _ => takes_writeR8 _ _

theorem takes_opcodeDecR8 : Takes 0 (opcodeDecR8 opcode) :=
  (takes_debugAssert _).andThen fun _ => (takes_readR8 _).andThen fun _ =>
    (takes_dec8 _).andThen fun _ => takes_writeR8 _ _

theorem takes_opcodeIncR16 : Takes 1 (opcodeIncR16 opcode) :=
  (takes_readR16 _).andThen fun _ => (takes_writeR16 _ _).andThen fun _ => takes_clock

theorem takes_opcodeDecR16 : Takes 1 (opcodeDecR16 opcode) :=
  (takes_readR16 _).andThen fun _ => (takes_writeR16 _ _).andThen fun _ => takes_clock

theorem takes_opcodeIncR16addr : Takes 2 (opcodeIncR16addr opcode) :=
  (takes_debugAssert _).andThen fun _ => takes_clockReadAtHl.bind fun _ =>
    (takes_inc8 _).andThen fun _ => takes_clockWriteAtHl _

theorem takes_opcodeDecR16addr : Takes 2 (opcodeDecR16addr opcode) :=
  (takes_debugAssert _).andThen fun _ => takes_clockReadAtHl.bind fun _ =>
    (takes_dec8 _).andThen fun _ => takes_clockWriteAtHl _

theorem takes_rrc (val : UInt8) : Takes 0 (rrc val) :=
  (takes_setFlags _ _ _ _).andThen fun _ => takes_pure _

theorem takes_rlc (val : UInt8) : Takes 0 (rlc val) :=
  (takes_setFlags _ _ _ _).andThen fun _ => takes_pure _

theorem takes_rr (val : UInt8) : Takes 0 (rr val) :=
  takes_cpu.andThen fun _ => (takes_setFlags _ _ _ _).andThen fun _ => takes_pure _

theorem takes_rl (val : UInt8) : Takes 0 (rl val) :=
  takes_cpu.andThen fun _ => (takes_setFlags _ _ _ _).andThen fun _ => takes_pure _

theorem takes_rotateA {rotate : UInt8 → Exec UInt8} (h : ∀ val, Takes 0 (rotate val)) :
    Takes 0 (rotateA rotate) :=
  takes_cpu.andThen fun _ => (h _).andThen fun _ => .andThen (takes_modifyCpu fun _ => rfl) fun _ =>
    takes_setFlag _ _

theorem takes_opcodeAddHlR16 : Takes 1 (opcodeAddHlR16 opcode) :=
  (takes_readR16 _).andThen fun _ => takes_cpu.andThen fun _ => (takes_setFlag _ _).andThen fun _ =>
    (takes_setFlag _ _).andThen fun _ => (takes_setFlag _ _).andThen fun _ =>
    .andThen (takes_modifyCpu fun _ => rfl) fun _ => takes_clock

theorem takes_opcodeAddSpE8 : Takes 3 (opcodeAddSpE8 opcode) :=
  (takes_debugAssert _).andThen fun _ => takes_clockConsumeByteFromPc.bind fun _ =>
    (takes_addSpE8 _).andThen fun _ => takes_clock.bind fun _ => takes_clock.bind fun _ =>
    takes_modifyCpu fun _ => rfl

theorem takes_opcodeDaa : Takes 0 opcodeDaa :=
  takes_cpu.andThen fun _ => takes_cpu.andThen fun _ => takes_cpu.andThen fun _ =>
    takes_cpu.andThen fun _ => .andThen (takes_modifyCpu fun _ => rfl) fun _ =>
    (takes_setFlag _ _).andThen fun _ => (takes_setFlag _ _).andThen fun _ => takes_setFlag _ _

theorem takes_opcodeCpl : Takes 0 opcodeCpl :=
  .andThen (takes_modifyCpu fun _ => rfl) fun _ => (takes_setFlag _ _).andThen fun _ =>
    takes_setFlag _ _

theorem takes_opcodeScf : Takes 0 opcodeScf :=
  (takes_setFlag _ _).andThen fun _ => (takes_setFlag _ _).andThen fun _ => takes_setFlag _ _

theorem takes_opcodeCcf : Takes 0 opcodeCcf :=
  takes_cpu.andThen fun _ => (takes_setFlag _ _).andThen fun _ =>
    (takes_setFlag _ _).andThen fun _ => takes_setFlag _ _

theorem takes_opcodeStop : Takes 0 (opcodeStop opcode) :=
  (takes_debugAssert _).andThen fun _ =>
    takes_modifySoc fun s => (Soc.aside_cgbSpeedSwitch s).cycles

theorem takes_jumpRelative (e : UInt8) : Takes 1 (jumpRelative e) :=
  .andThen (takes_modifyCpu fun _ => rfl) fun _ => takes_clock

theorem takes_jump (addr : UInt16) : Takes 1 (jump addr) :=
  .andThen (takes_modifyCpu fun _ => rfl) fun _ => takes_clock

theorem takes_call (addr : UInt16) : Takes 3 (call addr) :=
  takes_clock.bind fun _ => takes_cpu.andThen fun _ => (takes_clockPushU8 _).bind fun _ =>
    takes_cpu.andThen fun _ => (takes_clockPushU8 _).bind fun _ => takes_modifyCpu fun _ => rfl

theorem takes_ret : Takes 3 ret :=
  takes_clockPopU16.bind fun _ => .andThen (takes_modifyCpu fun _ => rfl) fun _ => takes_clock

theorem takes_opcodeJrE8 : Takes 2 opcodeJrE8 :=
  takes_clockConsumeByteFromPc.bind fun _ => takes_jumpRelative _

theorem takes_opcodeJpHl : Takes 0 opcodeJpHl := takes_modifyCpu fun _ => rfl

theorem takes_opcodeJpA16 : Takes 3 opcodeJpA16 :=
  takes_clockConsumeWordFromPc.bind fun _ => takes_jump _

theorem takes_opcodeCallA16 : Takes 5 opcodeCallA16 :=
  takes_clockConsumeWordFromPc.bind fun _ => takes_call _

theorem takes_opcodeRst : Takes 3 (opcodeRst opcode) :=
  takes_clock.bind fun _ => takes_cpu.andThen fun _ => (takes_clockPushU8 _).bind fun _ =>
    takes_cpu.andThen fun _ => (takes_clockPushU8 _).bind fun _ =>
    (takes_check _).andThen fun _ => takes_modifyCpu fun _ => rfl

theorem takes_opcodePush : Takes 3 (opcodePush opcode) :=
  takes_clock.bind fun _ => (takes_readR16stkMsb _).andThen fun _ =>
    (takes_clockPushU8 _).bind fun _ => (takes_readR16stkLsb _).andThen fun _ =>
    takes_clockPushU8 _

theorem takes_opcodePop : Takes 2 (opcodePop opcode) :=
  takes_clockPopU16.bind fun _ => takes_writeR16stk _ _

/-! ### Arithmetic -/

/-- The M-cycles an arithmetic instruction takes to get its operand. -/
def srcClocks (src : OperandKind) : ℕ := if src = .r8 then 0 else 1

theorem takes_clockConsumeSrc (src : OperandKind) :
    Takes (srcClocks src) (clockConsumeSrcR8Imm8Hladdr src opcode) := by
  unfold clockConsumeSrcR8Imm8Hladdr
  split
  · exact (takes_debugAssert _).andThen fun _ => (takes_debugAssert _).andThen fun _ =>
      takes_readR8 _
  · exact takes_clockReadAtHl
  · exact takes_clockConsumeByteFromPc
  · exact does_error _

/-- An arithmetic instruction takes no longer than getting its operand. -/
theorem takes_arith {src : OperandKind} {op : UInt8 → Exec Unit} (h : ∀ v, Takes 0 (op v)) :
    Takes (srcClocks src) (clockConsumeSrcR8Imm8Hladdr src opcode >>= op) :=
  (takes_clockConsumeSrc opcode src).last h

theorem takes_addA8 (val carry : UInt8) : Takes 0 (addA8 val carry) :=
  takes_cpu.andThen fun _ => (takes_setFlags _ _ _ _).andThen fun _ => takes_modifyCpu fun _ => rfl

theorem takes_subA8 (val carry : UInt8) : Takes 0 (subA8 val carry) :=
  takes_cpu.andThen fun _ => (takes_setFlags _ _ _ _).andThen fun _ => takes_modifyCpu fun _ => rfl

theorem takes_logicA8 (op : UInt8 → UInt8 → UInt8) (h : Bool) (val : UInt8) :
    Takes 0 (logicA8 op h val) :=
  takes_cpu.andThen fun _ => (takes_setFlags _ _ _ _).andThen fun _ => takes_modifyCpu fun _ => rfl

theorem takes_cpA8 (val : UInt8) : Takes 0 (cpA8 val) :=
  takes_cpu.andThen fun _ => (takes_subA8 _ _).andThen fun _ => takes_modifyCpu fun _ => rfl

theorem takes_carry : Takes 0 carry := takes_cpu.andThen fun _ => takes_pure _

/-! ### 0xCB instructions -/

/-- The M-cycles of one access to the operand of a 0xCB instruction. -/
def hladdrClocks : ℕ := if srcReg opcode = 0x6 then 1 else 0

theorem takes_clockReadR8Hladdr :
    Takes (hladdrClocks opcode) (clockReadR8Hladdr (srcReg opcode)) := by
  rw [clockReadR8Hladdr, hladdrClocks]
  split
  · exact takes_clockReadAtHl
  · exact takes_readR8 _

theorem takes_clockWriteR8Hladdr (data : UInt8) :
    Takes (hladdrClocks opcode) (clockWriteR8Hladdr (srcReg opcode) data) := by
  rw [clockWriteR8Hladdr, hladdrClocks]
  split
  · exact takes_clockWriteAtHl _
  · exact takes_writeR8 _ _

theorem takes_modifyR8Hladdr {compute : UInt8 → Exec UInt8} (h : ∀ v, Takes 0 (compute v)) :
    Takes (hladdrClocks opcode + hladdrClocks opcode) (modifyR8Hladdr compute opcode) :=
  (takes_clockReadR8Hladdr opcode).bind fun v => (h v).andThen fun w =>
    takes_clockWriteR8Hladdr opcode w

theorem takes_sla (val : UInt8) : Takes 0 (sla val) :=
  (takes_rlc _).andThen fun _ => (takes_setFlag _ _).andThen fun _ => takes_pure _

theorem takes_sra (val : UInt8) : Takes 0 (sra val) :=
  (takes_rrc _).andThen fun _ => (takes_setFlag _ _).andThen fun _ => takes_pure _

theorem takes_swap (val : UInt8) : Takes 0 (swap val) :=
  (takes_setFlags _ _ _ _).andThen fun _ => takes_pure _

theorem takes_srl (val : UInt8) : Takes 0 (srl val) :=
  (takes_rrc _).andThen fun _ => (takes_setFlag _ _).andThen fun _ => takes_pure _

theorem takes_opcodeBit : Takes (hladdrClocks opcode) (opcodeBit opcode) :=
  (takes_clockReadR8Hladdr opcode).last fun _ => (takes_setFlag _ _).andThen fun _ =>
    (takes_setFlag _ _).andThen fun _ => takes_setFlag _ _

end

end Exec

end ZenithGb
