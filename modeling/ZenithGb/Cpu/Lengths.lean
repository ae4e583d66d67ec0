import Mathlib.Data.UInt
import ZenithGb.Cpu.Effect
import ZenithGb.Cpu.Stack

/-!
# The CPU: the length of an instruction

The handlers consume their operand bytes themselves. `Mnemonic.operandBytes` counts the bytes the
comment of an opcode names, `OpcodeFn.consumes` those its handler consumes, and they agree but for
STOP, whose operand is left to be executed.

## Main results

* `Exec.Advances.bind` — how PC moves along a sequence
* `Exec.advances_call`, `Exec.ensures_skipped` — how it moves in a handler
* `Exec.instruction_length` — how it moves in a step
-/

namespace ZenithGb

open Outcome

/-! ### What the comments say -/

/-- The bytes of an operand that follow the opcode. -/
def Arg.bytes : Arg → ℕ
  | .n8 | .e8 | .spE8 | .atA8 => 1
  | .n16 | .atA16 => 2
  | _ => 0

/-- The bytes that follow an opcode: its operands, the target of a jump, the byte of `STOP n8`, and
the second byte of an opcode with a prefix. `JP HL` is the jump without an operand. -/
def Mnemonic.operandBytes (opcode : UInt8) : Mnemonic → ℕ
  | .ld dst src | .ldh dst src | .add dst src | .adc dst src | .sub dst src | .sbc dst src
  | .and dst src | .xor dst src | .or dst src | .cp dst src => dst.bytes + src.bytes
  | .stop | .jr | .cbPrefix => 1
  | .jp => if opcode = 0xE9 then 0 else 2
  | .call => 2
  | _ => 0

/-- The length of the instruction of an opcode. No operand follows an opcode with a prefix. -/
def instructionLength (opcode : UInt8) : ℕ :=
  1 + (listing false opcode).mnemonic.operandBytes opcode

namespace OpcodeFn

/-- The bytes a handler consumes. -/
def consumes (src : OperandKind) : OpcodeFn → UInt16
  | .opcodeLdR8Imm8 | .opcodeHladdrImm8 | .opcodeLdhR8addrA | .opcodeLdhAR8addr | .opcodeLdHlSpi
  | .opcodeAddSpE8 | .opcodeJrE8 | .opcodeJrCc => 1
  | .opcodeLdR16Imm16 | .opcodeImm16addrR16 | .opcodeImm16addrA | .opcodeLdAImm16addr
  | .opcodeJpA16 | .opcodeJpCc | .opcodeCallA16 | .opcodeCallCc => 2
  | .opcodeAddR8Imm8Hladdr | .opcodeAdc | .opcodeSub | .opcodeSbc | .opcodeAnd | .opcodeXor
  | .opcodeOr | .opcodeCp => if src = .imm8 then 1 else 0
  | _ => 0

/-- The jumps, calls and returns. -/
def isTransfer : OpcodeFn → Bool
  | .opcodeJrE8 | .opcodeJrCc | .opcodeJpA16 | .opcodeJpCc | .opcodeJpHl | .opcodeCallA16
  | .opcodeCallCc | .opcodeRst | .opcodeRet | .opcodeRetCc | .opcodeReti => true
  | _ => false

end OpcodeFn

/-! ### Registers -/

namespace Cpu

variable {c : Cpu} {v : UInt8} {w : UInt16}

@[simp] theorem regPc_setA : (c.setA v).regPc = c.regPc := rfl
@[simp] theorem regPc_setF : (c.setF v).regPc = c.regPc := rfl
@[simp] theorem regPc_setAf : (c.setAf w).regPc = c.regPc := rfl
@[simp] theorem regPc_setBc : (c.setBc w).regPc = c.regPc := rfl
@[simp] theorem regPc_setDe : (c.setDe w).regPc = c.regPc := rfl
@[simp] theorem regPc_setHl : (c.setHl w).regPc = c.regPc := rfl

@[simp] theorem regPc_setFlag {flag : UInt8} {set : Bool} :
    (c.setFlag flag set).regPc = c.regPc := rfl

@[simp] theorem regPc_setFlags {z n h carry : Bool} :
    (c.setFlags z n h carry).regPc = c.regPc := rfl

@[simp] theorem regPc_set {r : R8} : (r.set c v).regPc = c.regPc := by cases r <;> rfl

end Cpu

namespace Exec

variable {α β : Type} {x : Exec α} {f : α → Exec β} {n : UInt16}

/-! ### Rules -/

/-- When it returns, `x` has moved PC on by `n`. -/
def Advances (n : UInt16) (x : Exec α) : Prop := Does x fun m m' => m'.cpu.regPc = m.cpu.regPc + n

theorem graded_advances :
    Graded fun (n : UInt16) (m m' : Machine) => m'.cpu.regPc = m.cpu.regPc + n where
  refl m := (UInt16.add_zero _).symm
  trans h h' := by rw [h', h, UInt16.add_assoc]

theorem Advances.bind {a b : UInt16} (hx : Advances a x) (hf : ∀ v, Advances b (f v))
    (hn : a + b = n) : Advances n (x >>= f) :=
  graded_advances.bind hx hf hn

/-- What does not touch PC comes first. -/
theorem Advances.andThen (hx : Advances 0 x) (hf : ∀ v, Advances n (f v)) : Advances n (x >>= f) :=
  hx.bind hf (UInt16.zero_add n)

/-- What does not touch PC comes last. -/
theorem Advances.last (hx : Advances n x) (hf : ∀ v, Advances 0 (f v)) : Advances n (x >>= f) :=
  hx.bind hf (UInt16.add_zero n)

theorem advances_pure (v : α) : Advances 0 (pure v : Exec α) := graded_advances.pure v

theorem advances_modifyCpu {g : Cpu → Cpu} (h : ∀ c, (g c).regPc = c.regPc) :
    Advances 0 (modifyCpu g) :=
  does_modify fun m => (h m.cpu).trans (UInt16.add_zero _).symm

theorem advances_cpu : Advances 0 cpu :=
  Advances.andThen graded_advances.get fun _ => advances_pure _

theorem advances_check (y : Checked α) : Advances 0 (check y) := graded_advances.lift y

theorem advances_debugAssert (c : Prop) [Decidable c] : Advances 0 (debugAssert c) :=
  advances_check _

/-- The same, from what a computation ensures. -/
theorem advances_of_ensures (h : ∀ m, Ensures x m fun _ m' => m'.cpu.regPc = m.cpu.regPc + n) :
    Advances n x :=
  h

theorem advances_clock : Advances 0 clock := advances_of_ensures fun m => by simp

/-! ### Operands -/

theorem advances_readR8 (k : UInt8) : Advances 0 (readR8 k) :=
  advances_of_ensures fun m => by simp

theorem advances_writeR8 (k val : UInt8) : Advances 0 (writeR8 k val) :=
  advances_of_ensures fun m => by simp

theorem advances_readR16 (k : UInt8) : Advances 0 (readR16 k) := by
  refine advances_cpu.andThen fun c => ?_
  split <;> first | exact advances_pure _ | exact advances_check _

theorem advances_writeR16 (k : UInt8) (val : UInt16) : Advances 0 (writeR16 k val) := by
  rw [writeR16]
  split <;> first | exact advances_modifyCpu fun _ => rfl | exact advances_check _

theorem advances_readR16stkMsb (k : UInt8) : Advances 0 (readR16stkMsb k) := by
  refine advances_cpu.andThen fun c => ?_
  split <;> first | exact advances_pure _ | exact advances_check _

theorem advances_readR16stkLsb (k : UInt8) : Advances 0 (readR16stkLsb k) := by
  refine advances_cpu.andThen fun c => ?_
  split <;> first | exact advances_pure _ | exact advances_check _

theorem advances_writeR16stk (k : UInt8) (val : UInt16) : Advances 0 (writeR16stk k val) := by
  rw [writeR16stk]
  split <;> first | exact advances_modifyCpu fun _ => rfl | exact advances_check _

theorem advances_clockReadAtHl : Advances 0 clockReadAtHl :=
  advances_of_ensures fun m => by simp

theorem advances_clockWriteAtHl (val : UInt8) : Advances 0 (clockWriteAtHl val) :=
  advances_of_ensures fun m => by simp

theorem advances_clockPushU8 (val : UInt8) : Advances 0 (clockPushU8 val) :=
  advances_of_ensures fun m => by simp

theorem advances_clockPopU16 : Advances 0 clockPopU16 :=
  advances_of_ensures fun m => by simp [clockPopU16]

theorem advances_clockConsumeByteFromPc : Advances 1 clockConsumeByteFromPc :=
  advances_of_ensures fun m => by simp

theorem advances_clockConsumeWordFromPc : Advances 2 clockConsumeWordFromPc :=
  advances_clockConsumeByteFromPc.bind
    (fun _ => advances_clockConsumeByteFromPc.last fun _ => advances_pure _) rfl

theorem advances_clockConsumeSrc (src : OperandKind) (opcode : UInt8) :
    Advances (if src = .imm8 then 1 else 0) (clockConsumeSrcR8Imm8Hladdr src opcode) := by
  cases src with
  | r8 =>
    exact (advances_debugAssert _).andThen fun _ => (advances_debugAssert _).andThen fun _ =>
      advances_readR8 _
  | r16Addr => exact advances_clockReadAtHl
  | imm8 => exact advances_clockConsumeByteFromPc
  | _ => exact advances_check _

theorem advances_clockReadR8Hladdr (k : UInt8) : Advances 0 (clockReadR8Hladdr k) :=
  Does.ite (fun _ => advances_clockReadAtHl) fun _ => advances_readR8 _

theorem advances_clockWriteR8Hladdr (k data : UInt8) : Advances 0 (clockWriteR8Hladdr k data) :=
  Does.ite (fun _ => advances_clockWriteAtHl _) fun _ => advances_writeR8 _ _

/-! ### Computations -/

section

variable (v k opcode : UInt8)

theorem advances_inc8 : Advances 0 (inc8 v) := advances_of_ensures fun m => by simp [inc8]
theorem advances_dec8 : Advances 0 (dec8 v) := advances_of_ensures fun m => by simp [dec8]
theorem advances_rlc : Advances 0 (rlc v) := advances_of_ensures fun m => by simp [rlc]
theorem advances_rrc : Advances 0 (rrc v) := advances_of_ensures fun m => by simp [rrc]
theorem advances_rl : Advances 0 (rl v) := advances_of_ensures fun m => by simp [rl]
theorem advances_rr : Advances 0 (rr v) := advances_of_ensures fun m => by simp [rr]
theorem advances_sla : Advances 0 (sla v) := advances_of_ensures fun m => by simp [sla, rlc]
theorem advances_sra : Advances 0 (sra v) := advances_of_ensures fun m => by simp [sra, rrc]
theorem advances_srl : Advances 0 (srl v) := advances_of_ensures fun m => by simp [srl, rrc]
theorem advances_swap : Advances 0 (swap v) := advances_of_ensures fun m => by simp [swap]
theorem advances_addA8 : Advances 0 (addA8 v k) := advances_of_ensures fun m => by simp [addA8]
theorem advances_subA8 : Advances 0 (subA8 v k) := advances_of_ensures fun m => by simp [subA8]
theorem advances_cpA8 : Advances 0 (cpA8 v) := advances_of_ensures fun m => by simp [cpA8, subA8]
theorem advances_carry : Advances 0 carry := advances_of_ensures fun m => by simp [carry]

theorem advances_logicA8 (op : UInt8 → UInt8 → UInt8) (h : Bool) : Advances 0 (logicA8 op h v) :=
  advances_of_ensures fun m => by simp [logicA8]

/-- An operation on A consumes its operand. -/
theorem advances_arith {compute : UInt8 → Exec Unit} (h : ∀ v, Advances 0 (compute v))
    (src : OperandKind) : Advances (if src = .imm8 then 1 else 0)
      (clockConsumeSrcR8Imm8Hladdr src opcode >>= compute) :=
  (advances_clockConsumeSrc src opcode).last h

theorem advances_modifyR8Hladdr {compute : UInt8 → Exec UInt8} (h : ∀ v, Advances 0 (compute v)) :
    Advances 0 (modifyR8Hladdr compute opcode) :=
  (advances_clockReadR8Hladdr _).andThen fun _ => (h _).andThen fun _ =>
    advances_clockWriteR8Hladdr _ _

theorem advances_rotateA {rotate : UInt8 → Exec UInt8} (h : ∀ v, Advances 0 (rotate v)) :
    Advances 0 (rotateA rotate) :=
  advances_cpu.andThen fun _ => (h _).andThen fun _ =>
    advances_of_ensures fun m => by simp

theorem advances_modifyR16 (g : UInt16 → UInt16) :
    Advances 0 (do
      let currVal ← readR16 k
      writeR16 k (g currVal)
      clock) :=
  (advances_readR16 k).andThen fun _ => (advances_writeR16 k _).andThen fun _ => advances_clock

end

/-! ### Handlers -/

section

variable {m m' : Machine} {inst : Instruction} {opcode : UInt8}

/-- A handler that does not transfer control leaves PC behind the bytes it consumes. -/
theorem advances_call {fn : OpcodeFn} (h : fn.isTransfer = false) :
    Advances (fn.consumes inst.src) (fn.call inst opcode) := by
  cases fn with
  -- No operand bytes.
  | opcodeNop | opcodeLdBB | opcodeDi | opcodeEi =>
    exact advances_of_ensures fun m => by
      simp [OpcodeFn.call, OpcodeFn.consumes, opcodeNop, opcodeLdBB, opcodeDi, opcodeEi]
  | opcodeStop | opcodeHalt =>
    exact advances_of_ensures fun m => by
      simp [OpcodeFn.call, OpcodeFn.consumes, opcodeStop, opcodeHalt]
  | opcodeLdBcaddrA | opcodeLdDeaddrA | opcodeLdHliaddrA | opcodeLdHldaddrA | opcodeR8addrA =>
    exact advances_of_ensures fun m => by
      simp [OpcodeFn.call, OpcodeFn.consumes, opcodeLdBcaddrA, opcodeLdDeaddrA, opcodeLdHliaddrA,
        opcodeLdHldaddrA, opcodeR8addrA]
  | opcodeLdABcaddr | opcodeLdADeaddr | opcodeLdAHliaddr | opcodeLdAHldaddr | opcodeR8C =>
    exact advances_of_ensures fun m => by
      simp [OpcodeFn.call, OpcodeFn.consumes, opcodeLdABcaddr, opcodeLdADeaddr, opcodeLdAHliaddr,
        opcodeLdAHldaddr, opcodeR8C]
  | opcodeLdR8R8 | opcodeLdR8Hladdr | opcodeHladdrR8 | opcodeLdSpHl =>
    exact advances_of_ensures fun m => by
      simp [OpcodeFn.call, OpcodeFn.consumes, opcodeLdR8R8, opcodeLdR8Hladdr, opcodeHladdrR8,
        opcodeLdSpHl]
  | opcodeDaa | opcodeCpl | opcodeScf | opcodeCcf =>
    exact advances_of_ensures fun m => by
      simp [OpcodeFn.call, OpcodeFn.consumes, opcodeDaa, opcodeCpl, opcodeScf, opcodeCcf]
  | opcodeBit =>
    exact (advances_clockReadR8Hladdr _).andThen fun _ =>
      advances_of_ensures fun m => by simp [OpcodeFn.consumes]
  | opcodeIncR16 | opcodeDecR16 => exact advances_modifyR16 _ _
  | opcodeAddHlR16 =>
    exact (advances_readR16 _).andThen fun _ =>
      advances_of_ensures fun m => by simp [OpcodeFn.consumes]
  | opcodePush =>
    exact advances_clock.andThen fun _ => (advances_readR16stkMsb _).andThen fun _ =>
      (advances_clockPushU8 _).andThen fun _ => (advances_readR16stkLsb _).andThen fun _ =>
      advances_clockPushU8 _
  | opcodePop => exact advances_clockPopU16.andThen fun _ => advances_writeR16stk _ _
  | opcodeIncR8 =>
    exact (advances_debugAssert _).andThen fun _ => (advances_readR8 _).andThen fun _ =>
      (advances_inc8 _).andThen fun _ => advances_writeR8 _ _
  | opcodeDecR8 =>
    exact (advances_debugAssert _).andThen fun _ => (advances_readR8 _).andThen fun _ =>
      (advances_dec8 _).andThen fun _ => advances_writeR8 _ _
  | opcodeIncR16addr =>
    exact (advances_debugAssert _).andThen fun _ => advances_clockReadAtHl.andThen fun _ =>
      (advances_inc8 _).andThen fun _ => advances_clockWriteAtHl _
  | opcodeDecR16addr =>
    exact (advances_debugAssert _).andThen fun _ => advances_clockReadAtHl.andThen fun _ =>
      (advances_dec8 _).andThen fun _ => advances_clockWriteAtHl _
  | opcodeRlca => exact (advances_debugAssert _).andThen fun _ => advances_rotateA advances_rlc
  | opcodeRrca => exact (advances_debugAssert _).andThen fun _ => advances_rotateA advances_rrc
  | opcodeRla => exact (advances_debugAssert _).andThen fun _ => advances_rotateA advances_rl
  | opcodeRra => exact (advances_debugAssert _).andThen fun _ => advances_rotateA advances_rr
  -- One operand byte.
  | opcodeLdR8Imm8 | opcodeHladdrImm8 | opcodeLdhR8addrA | opcodeLdhAR8addr =>
    exact advances_of_ensures fun m => by
      simp [OpcodeFn.call, OpcodeFn.consumes, opcodeLdR8Imm8, opcodeHladdrImm8, opcodeLdhR8addrA,
        opcodeLdhAR8addr]
  | opcodeLdHlSpi | opcodeAddSpE8 =>
    exact advances_of_ensures fun m => by
      simp [OpcodeFn.call, OpcodeFn.consumes, opcodeLdHlSpi, opcodeAddSpE8, addSpE8]
  -- Two.
  | opcodeLdR16Imm16 =>
    exact (advances_debugAssert _).andThen fun _ => advances_clockConsumeWordFromPc.last fun _ =>
      advances_writeR16 _ _
  | opcodeImm16addrR16 | opcodeImm16addrA | opcodeLdAImm16addr =>
    exact (advances_debugAssert _).andThen fun _ => advances_clockConsumeWordFromPc.last fun _ =>
      advances_of_ensures fun m => by simp
  -- As the table says.
  | opcodeAddR8Imm8Hladdr => exact advances_arith _ (fun v => advances_addA8 v 0) _
  | opcodeAdc =>
    exact advances_arith _ (fun v => advances_carry.andThen fun c => advances_addA8 v c) _
  | opcodeSub => exact advances_arith _ (fun v => advances_subA8 v 0) _
  | opcodeSbc =>
    exact advances_arith _ (fun v => advances_carry.andThen fun c => advances_subA8 v c) _
  | opcodeAnd | opcodeXor | opcodeOr => exact advances_arith _ (fun v => advances_logicA8 v _ _) _
  | opcodeCp => exact advances_arith _ advances_cpA8 _
  -- With a prefix.
  | opcodeRlc => exact advances_modifyR8Hladdr _ advances_rlc
  | opcodeRrc => exact advances_modifyR8Hladdr _ advances_rrc
  | opcodeRl => exact advances_modifyR8Hladdr _ advances_rl
  | opcodeRr => exact advances_modifyR8Hladdr _ advances_rr
  | opcodeSla => exact advances_modifyR8Hladdr _ advances_sla
  | opcodeSra => exact advances_modifyR8Hladdr _ advances_sra
  | opcodeSwap => exact advances_modifyR8Hladdr _ advances_swap
  | opcodeSrl => exact advances_modifyR8Hladdr _ advances_srl
  | opcodeRes | opcodeSet => exact advances_modifyR8Hladdr _ fun _ => advances_pure _
  -- These return nothing.
  | opcodePrefix | opcodeIllegalD3 | opcodeIllegalDb | opcodeIllegalDd | opcodeIllegalE3
  | opcodeIllegalE4 | opcodeIllegalEb | opcodeIllegalEc | opcodeIllegalEd | opcodeIllegalF4
  | opcodeIllegalFc | opcodeIllegalFd => exact advances_check _
  | _ => cases h

/-- A conditional transfer that is skipped has consumed its operand. -/
theorem ensures_skipped {fn : OpcodeFn} (hskips : fn.skips opcode m.cpu = true) :
    Ensures (fn.call inst opcode) m fun _ m' =>
      m'.cpu.regPc = m.cpu.regPc + fn.consumes inst.src := by
  obtain ⟨hcond, htaken⟩ := Bool.and_eq_true_iff.mp hskips
  have htaken : branchTaken opcode m.cpu = false := by simpa using htaken
  have hword : ∀ w, branchTaken opcode (m.cpu.setPc w) = false := fun w => htaken
  cases fn with
  | opcodeJrCc => simp [OpcodeFn.call, OpcodeFn.consumes, opcodeJrCc, branch, htaken]
  | opcodeJpCc =>
    simp [OpcodeFn.call, OpcodeFn.consumes, opcodeJpCc, branch, clockConsumeWordFromPc, hword,
      UInt16.add_assoc]
  | opcodeCallCc =>
    simp [OpcodeFn.call, OpcodeFn.consumes, opcodeCallCc, branch, clockConsumeWordFromPc, hword,
      UInt16.add_assoc]
  | opcodeRetCc => simp [OpcodeFn.call, OpcodeFn.consumes, opcodeRetCc, branch, htaken]
  | _ => cases hcond

/-! ### Steps -/

/-- The instruction transfers control: it jumps, calls or returns, and is not skipped. -/
def Transfers (opcode : UInt8) (c : Cpu) : Prop :=
  (getInstruction opcode).exec.isTransfer = true ∧
    (getInstruction opcode).exec.skips opcode c = false

/-- The handler of an opcode consumes the operands in its comment, but for STOP. -/
def consumesListed (opcode : UInt8) (inst : Instruction) (row : Listing) : Bool :=
  opcode == 0xCB || (inst.exec.consumes inst.src + 1 ==
    .ofNat (1 + row.mnemonic.operandBytes opcode)) == (opcode != 0x10)

theorem rowsPass_consumesListed : rowsPass consumesListed instrIndex listings = true := by
  decide +kernel

theorem consumes_getInstruction {opcode : UInt8} (hcb : opcode ≠ 0xCB) :
    (getInstruction opcode).exec.consumes (getInstruction opcode).src + 1 =
      .ofNat (instructionLength opcode) ↔ opcode ≠ 0x10 := by
  have h : consumesListed opcode (getInstruction opcode) (listing false opcode) = true :=
    pass_of_rowsPass rowsPass_consumesListed length_instrIndex length_listings opcode
  rw [consumesListed, Bool.or_eq_true, beq_iff_eq, or_iff_right hcb, beq_iff_eq] at h
  exact beq_iff_eq.symm.trans ((Bool.eq_iff_iff.mp h).trans bne_iff_ne)

theorem all_consume_nothing : (instrIndexCb.all fun inst =>
    !inst.exec.isTransfer && inst.exec.consumes inst.src == 0) = true := by
  decide +kernel

theorem consumes_getInstructionCb (opcode : UInt8) :
    (getInstructionCb opcode).exec.isTransfer = false ∧
      (getInstructionCb opcode).exec.consumes (getInstructionCb opcode).src = 0 := by
  have h := List.all_eq_true.mp all_consume_nothing (getInstructionCb opcode) (List.get_mem _ _)
  rw [Bool.and_eq_true, Bool.not_eq_true', beq_iff_eq] at h
  exact h

/-- A step that executes an opcode fetches the rest of it, runs its handler and fetches the next. -/
theorem ExecutesOpcode.executed (h : ExecutesOpcode opcode m m') : ∃ m1 m2 m3 inst k, Entered m m1 ∧
    fetchInstruction m1 = .ok ((inst, k), m2) ∧ inst.exec.call inst k m2 = .ok ((), m3) ∧
      Fetched m3 m' := by
  obtain ⟨elapsed, hstep⟩ := h.step
  cases stepped_of_step hstep with
  | @waited dispatched m1 hcheck hhalted =>
    cases dispatched with
    | true => exact absurd ⟨m1, hcheck⟩ h.noInterrupt
    | false =>
      have hrunning := running_of_checkInterrupts hcheck h.running
      exact absurd (hrunning.symm.trans hhalted) Bool.false_ne_true
  | @executed dispatched m1 m2 m3 m4 inst k hcheck _ hfetch hcall hnext he =>
    cases dispatched with
    | true => exact absurd ⟨m1, hcheck⟩ h.noInterrupt
    | false =>
      have hentered := (entered_of_checkInterrupts hcheck).trans (entered_withImeApplied m1)
      obtain ⟨next, soc, hread, rfl⟩ := clockFetch_eq_ok.mp hnext
      subst he
      exact ⟨_, m2, m3, inst, k, hentered, hfetch, hcall, hread, rfl⟩

/-- The opcode is followed by the bytes its handler consumes, or by its second byte. -/
theorem regPc_executed (h : ExecutesOpcode opcode m m') (htransfer : ¬ Transfers opcode m.cpu) :
    m'.cpu.regPc = m.cpu.regPc +
        (if opcode = 0xCB then 2
        else (getInstruction opcode).exec.consumes (getInstruction opcode).src + 1) ∧
      ∃ soc : Soc, soc.clockRead (m'.cpu.regPc - 1) = .ok (m'.cpu.opcode, m'.soc) := by
  obtain ⟨m1, m2, m3, inst, k, hentered, hfetch, hcall, hfetched⟩ := h.executed
  have hnext : m'.cpu.regPc = m3.cpu.regPc + 1 := by rw [hfetched.cpu]
  refine ⟨?_, m3.soc, ?_⟩
  · have hopcode : m1.cpu.opcode = opcode := by rw [hentered.cpu, ← h.opcode]
    obtain ⟨c, m5, hc, hfetch⟩ := run_bind_eq_ok.mp hfetch
    cases hc
    rw [hopcode] at hfetch
    rw [hnext, ← hentered.regPc]
    split at hfetch
    · rename_i hcb
      obtain ⟨_, m6, hsecond, hfetch⟩ := run_bind_eq_ok.mp hfetch
      obtain ⟨byte, soc, -, rfl⟩ := clockFetch_eq_ok.mp hsecond
      cases hfetch
      obtain ⟨hkind, hnone⟩ := consumes_getInstructionCb byte
      have hran := advances_call hkind _ _ _ hcall
      rw [hran, hnone, if_pos hcb]
      show m1.cpu.regPc + 1 + 0 + 1 = _
      rw [UInt16.add_zero, UInt16.add_assoc]
      rfl
    · rename_i hcb
      cases hfetch
      have hskips : (getInstruction opcode).exec.skips opcode m1.cpu =
          (getInstruction opcode).exec.skips opcode m.cpu := by
        rw [hentered.cpu]
        rfl
      have hran : m3.cpu.regPc = m1.cpu.regPc +
          (getInstruction opcode).exec.consumes (getInstruction opcode).src := by
        by_cases hkind : (getInstruction opcode).exec.isTransfer = true
        · have hskipped : (getInstruction opcode).exec.skips opcode m1.cpu = true := by
            rw [hskips, ← Bool.not_eq_false]
            exact fun hnot => htransfer ⟨hkind, hnot⟩
          exact ensures_skipped hskipped _ _ hcall
        · exact advances_call (Bool.eq_false_iff.mpr hkind) _ _ _ hcall
      rw [hran, if_neg hcb, UInt16.add_assoc]
  · rw [hnext, UInt16.add_sub_cancel]
    exact hfetched.read

/-- **The length of an instruction.** A step that executes an instruction, dispatches no interrupt
and transfers no control leaves PC, which is one ahead, the length of the instruction further on,
and the opcode it fetches is the byte behind the instruction, exactly for the opcodes other than
STOP. -/
theorem instruction_length (h : ExecutesOpcode opcode m m')
    (htransfer : ¬ Transfers opcode m.cpu) :
    (m'.cpu.regPc = m.cpu.regPc + .ofNat (instructionLength opcode) ∧
      ∃ soc : Soc, soc.clockRead (m.cpu.regPc + .ofNat (instructionLength opcode) - 1) =
        .ok (m'.cpu.opcode, m'.soc)) ↔ opcode ≠ 0x10 := by
  obtain ⟨hpc, hread⟩ := regPc_executed h htransfer
  have hlength : m'.cpu.regPc = m.cpu.regPc + .ofNat (instructionLength opcode) ↔
      opcode ≠ 0x10 := by
    rw [hpc, UInt16.add_right_inj]
    split
    · rename_i hcb
      subst hcb
      decide
    · rename_i hcb
      exact consumes_getInstruction hcb
  rw [← hlength]
  refine ⟨And.left, fun hpc' => ⟨hpc', ?_⟩⟩
  rw [← hpc']
  exact hread

/-- The machine after power-on with a program of one instruction, and after a step. -/
def bootAndStep (program : List UInt8) : Checked (Machine × Machine) := do
  let m ← Gameboy.boot (programCartridge program) ⟨.none, none, none⟩
  let m' ← Prod.snd <$> step m
  pure (m, m')

/-- What is looked at of the two machines: the flags before the step, and PC. -/
def lengthFacts (p : Machine × Machine) : UInt8 × (UInt8 × Bool × Bool × Bool) × UInt16 × UInt16 :=
  (p.1.cpu.f, runningAt p.1, p.1.cpu.regPc, p.2.cpu.regPc)

theorem executesOpcode_of_lengthFacts (program : List UInt8) (f opcode : UInt8) (pc pc' : UInt16)
    (h : lengthFacts <$> bootAndStep program = .ok (f, (opcode, false, false, true), pc, pc')) :
    ∃ m m', Gameboy.boot (programCartridge program) ⟨.none, none, none⟩ = .ok m ∧
      ExecutesOpcode opcode m m' ∧ m.cpu.f = f ∧ m.cpu.regPc = pc ∧ m'.cpu.regPc = pc' := by
  obtain ⟨⟨m, m'⟩, hboth, hfacts⟩ := map_eq_ok.mp h
  obtain ⟨m0, hboot, hrest⟩ := bind_eq_ok.mp hboth
  obtain ⟨m1, hstep, hret⟩ := bind_eq_ok.mp hrest
  cases hret
  exact ⟨m, m', hboot, executesOpcode_of_runningAt hstep (congrArg (·.2.1) hfacts),
    congrArg Prod.fst hfacts, congrArg (·.2.2.1) hfacts, congrArg (·.2.2.2) hfacts⟩

/-- JR NZ with Z set skips its operand. -/
theorem instruction_length_jr : ∃ m m',
    Gameboy.boot (programCartridge [0x20, 0x05]) ⟨.none, none, none⟩ = .ok m ∧
      ExecutesOpcode 0x20 m m' ∧ m'.cpu.regPc = m.cpu.regPc + 2 := by
  obtain ⟨m, m', hboot, hexec, hf, -, -⟩ := executesOpcode_of_lengthFacts
    [0x20, 0x05] 0x80 0x20 0x101 0x103 (by decide +kernel)
  have htransfer : ¬ Transfers 0x20 m.cpu := by
    rintro ⟨-, hskips⟩
    have hflag : m.cpu.getFlag flagZ = true := by
      rw [Cpu.getFlag, hf]
      rfl
    have hnot : (true && !(!m.cpu.getFlag flagZ)) = false := hskips
    rw [hflag] at hnot
    cases hnot
  exact ⟨m, m', hboot, hexec, ((instruction_length hexec htransfer).mpr (by decide)).1⟩

/-- STOP leaves its operand to be executed. -/
theorem not_instruction_length_stop : ∃ m m',
    Gameboy.boot (programCartridge [0x10, 0x00]) ⟨.none, none, none⟩ = .ok m ∧
      ExecutesOpcode 0x10 m m' ∧ ¬ Transfers 0x10 m.cpu ∧
      m'.cpu.regPc ≠ m.cpu.regPc + .ofNat (instructionLength 0x10) := by
  obtain ⟨m, m', hboot, hexec, -, hpc, hpc'⟩ := executesOpcode_of_lengthFacts
    [0x10, 0x00] 0x80 0x10 0x101 0x102 (by decide +kernel)
  refine ⟨m, m', hboot, hexec, fun h => Bool.false_ne_true h.1, ?_⟩
  rw [hpc, hpc']
  decide

end

end Exec

end ZenithGb
