import ZenithGb.Cpu.Access
import ZenithGb.Cpu.Cycles

/-!
# The CPU: the cycles of a step

What a handler takes and the fetch after it is what the table says, so the check at the end of a
step never fails. The exceptions are the conditional branches, which take less when their condition
is false, and the handlers that change IME or halt the CPU.

## Main results

* `Exec.does_call` — what a handler does to the clock and to the flags of the CPU
* `getInstruction_clocks`, `getInstructionCb_clocks` — the tables agree with the handlers
* `Exec.step_cycles` — a step takes the cycles of its instruction
-/

namespace ZenithGb

open Outcome

namespace OpcodeFn

open Exec

/-- The M-cycles a handler takes unless it skips a branch. -/
def clocks (src : OperandKind) (opcode : UInt8) : OpcodeFn → ℕ
  | .opcodeLdBcaddrA | .opcodeIncR16 | .opcodeLdR8Imm8 | .opcodeAddHlR16 | .opcodeLdABcaddr
  | .opcodeDecR16 | .opcodeLdDeaddrA | .opcodeLdADeaddr | .opcodeLdHliaddrA | .opcodeLdAHliaddr
  | .opcodeLdHldaddrA | .opcodeLdAHldaddr | .opcodeLdR8Hladdr | .opcodeHladdrR8 | .opcodeR8addrA
  | .opcodeR8C | .opcodeLdSpHl => 1
  | .opcodeLdR16Imm16 | .opcodeJrE8 | .opcodeJrCc | .opcodeIncR16addr | .opcodeDecR16addr
  | .opcodeHladdrImm8 | .opcodePop | .opcodeLdhR8addrA | .opcodeLdhAR8addr | .opcodeLdHlSpi => 2
  | .opcodeJpCc | .opcodeJpA16 | .opcodePush | .opcodeRst | .opcodeRet | .opcodeReti
  | .opcodeAddSpE8 | .opcodeImm16addrA | .opcodeLdAImm16addr => 3
  | .opcodeImm16addrR16 | .opcodeRetCc => 4
  | .opcodeCallCc | .opcodeCallA16 => 5
  | .opcodeAddR8Imm8Hladdr | .opcodeAdc | .opcodeSub | .opcodeSbc | .opcodeAnd | .opcodeXor
  | .opcodeOr | .opcodeCp => srcClocks src
  | .opcodeRlc | .opcodeRrc | .opcodeRl | .opcodeRr | .opcodeSla | .opcodeSra | .opcodeSwap
  | .opcodeSrl | .opcodeRes | .opcodeSet => hladdrClocks opcode + hladdrClocks opcode
  | .opcodeBit => hladdrClocks opcode
  | _ => 0

/-- The conditional branches. -/
def isConditional : OpcodeFn → Bool
  | .opcodeJrCc | .opcodeJpCc | .opcodeCallCc | .opcodeRetCc => true
  | _ => false

/-- The M-cycles a conditional branch takes when it is skipped. -/
def skippedClocks : OpcodeFn → ℕ
  | .opcodeJrCc | .opcodeRetCc => 1
  | .opcodeJpCc | .opcodeCallCc => 2
  | _ => 0

/-- The handler is a conditional branch, and its condition is false. -/
def skips (opcode : UInt8) (c : Cpu) (fn : OpcodeFn) : Bool :=
  fn.isConditional && !branchTaken opcode c

/-- What a handler makes of IME. -/
def setsIme (ime : Bool) : OpcodeFn → Bool
  | .opcodeReti => true
  | .opcodeDi => false
  | _ => ime

/-- The handlers that leave the flags of the CPU alone. -/
def isPlain : OpcodeFn → Bool
  | .opcodeReti | .opcodeDi | .opcodeEi | .opcodeHalt => false
  | fn => !fn.isConditional

end OpcodeFn

/-- What a handler that returned did. -/
structure Ran (fn : OpcodeFn) (src : OperandKind) (opcode : UInt8) (m m' : Machine) : Prop where
  cycles : m'.soc.cycles =
    m.soc.cycles + if fn.skips opcode m.cpu then fn.skippedClocks else fn.clocks src opcode
  ime : m'.cpu.ime = fn.setsIme m.cpu.ime
  imeNext : m'.cpu.imeNext = (m.cpu.imeNext || fn == .opcodeEi)
  branchSkipped : m'.cpu.branchSkipped = (m.cpu.branchSkipped || fn.skips opcode m.cpu)
  halted : fn ≠ .opcodeHalt → m'.cpu.halted = m.cpu.halted

namespace Exec

variable {m m' : Machine}

/-! ### Handlers -/

section

variable (inst : Instruction) (opcode : UInt8)

theorem takes_plain {fn : OpcodeFn} (h : fn.isPlain = true) :
    Takes (fn.clocks inst.src opcode) (fn.call inst opcode) := by
  cases fn with
  | opcodeNop => exact takes_pure _
  | opcodeLdR16Imm16 => exact takes_opcodeLdR16Imm16 opcode
  | opcodeLdBcaddrA => exact takes_opcodeLdBcaddrA opcode
  | opcodeIncR16 => exact takes_opcodeIncR16 opcode
  | opcodeIncR8 => exact takes_opcodeIncR8 opcode
  | opcodeDecR8 => exact takes_opcodeDecR8 opcode
  | opcodeLdR8Imm8 => exact takes_opcodeLdR8Imm8 opcode
  | opcodeRlca => exact (takes_debugAssert _).andThen fun _ => takes_rotateA takes_rlc
  | opcodeImm16addrR16 => exact takes_opcodeImm16addrR16 opcode
  | opcodeAddHlR16 => exact takes_opcodeAddHlR16 opcode
  | opcodeLdABcaddr => exact takes_opcodeLdABcaddr opcode
  | opcodeDecR16 => exact takes_opcodeDecR16 opcode
  | opcodeRrca => exact (takes_debugAssert _).andThen fun _ => takes_rotateA takes_rrc
  | opcodeStop => exact takes_opcodeStop opcode
  | opcodeLdDeaddrA => exact takes_opcodeLdDeaddrA opcode
  | opcodeRla => exact (takes_debugAssert _).andThen fun _ => takes_rotateA takes_rl
  | opcodeJrE8 => exact takes_opcodeJrE8
  | opcodeLdADeaddr => exact takes_opcodeLdADeaddr opcode
  | opcodeRra => exact (takes_debugAssert _).andThen fun _ => takes_rotateA takes_rr
  | opcodeLdHliaddrA => exact takes_opcodeLdHliaddrA opcode
  | opcodeDaa => exact takes_opcodeDaa
  | opcodeLdAHliaddr => exact takes_opcodeLdAHliaddr opcode
  | opcodeCpl => exact takes_opcodeCpl
  | opcodeLdHldaddrA => exact takes_opcodeLdHldaddrA opcode
  | opcodeIncR16addr => exact takes_opcodeIncR16addr opcode
  | opcodeDecR16addr => exact takes_opcodeDecR16addr opcode
  | opcodeHladdrImm8 => exact takes_opcodeHladdrImm8 opcode
  | opcodeScf => exact takes_opcodeScf
  | opcodeLdAHldaddr => exact takes_opcodeLdAHldaddr opcode
  | opcodeCcf => exact takes_opcodeCcf
  | opcodeLdBB => exact takes_pure _
  | opcodeLdR8R8 => exact takes_opcodeLdR8R8 opcode
  | opcodeLdR8Hladdr => exact takes_opcodeLdR8Hladdr opcode
  | opcodeHladdrR8 => exact takes_opcodeHladdrR8 opcode
  | opcodePop => exact takes_opcodePop opcode
  | opcodeJpA16 => exact takes_opcodeJpA16
  | opcodePush => exact takes_opcodePush opcode
  | opcodeRst => exact takes_opcodeRst opcode
  | opcodeRet => exact takes_ret
  | opcodeCallA16 => exact takes_opcodeCallA16
  | opcodeLdhR8addrA => exact takes_opcodeLdhR8addrA opcode
  | opcodeR8addrA => exact takes_opcodeR8addrA opcode
  | opcodeAddSpE8 => exact takes_opcodeAddSpE8 opcode
  | opcodeJpHl => exact takes_opcodeJpHl
  | opcodeImm16addrA => exact takes_opcodeImm16addrA opcode
  | opcodeLdhAR8addr => exact takes_opcodeLdhAR8addr opcode
  | opcodeR8C => exact takes_opcodeR8C opcode
  | opcodeLdHlSpi => exact takes_opcodeLdHlSpi opcode
  | opcodeLdSpHl => exact takes_opcodeLdSpHl opcode
  | opcodeLdAImm16addr => exact takes_opcodeLdAImm16addr opcode
  | opcodeAddR8Imm8Hladdr => exact takes_arith opcode (fun v => takes_addA8 v 0)
  | opcodeAdc => exact takes_arith opcode (fun v => takes_carry.andThen (takes_addA8 v))
  | opcodeSub => exact takes_arith opcode (fun v => takes_subA8 v 0)
  | opcodeSbc => exact takes_arith opcode (fun v => takes_carry.andThen (takes_subA8 v))
  | opcodeAnd => exact takes_arith opcode (takes_logicA8 _ _)
  | opcodeXor => exact takes_arith opcode (takes_logicA8 _ _)
  | opcodeOr => exact takes_arith opcode (takes_logicA8 _ _)
  | opcodeCp => exact takes_arith opcode takes_cpA8
  | opcodeRlc => exact takes_modifyR8Hladdr opcode takes_rlc
  | opcodeRrc => exact takes_modifyR8Hladdr opcode takes_rrc
  | opcodeRl => exact takes_modifyR8Hladdr opcode takes_rl
  | opcodeRr => exact takes_modifyR8Hladdr opcode takes_rr
  | opcodeSla => exact takes_modifyR8Hladdr opcode takes_sla
  | opcodeSra => exact takes_modifyR8Hladdr opcode takes_sra
  | opcodeSwap => exact takes_modifyR8Hladdr opcode takes_swap
  | opcodeSrl => exact takes_modifyR8Hladdr opcode takes_srl
  | opcodeRes => exact takes_modifyR8Hladdr opcode (fun _ => takes_pure _)
  | opcodeSet => exact takes_modifyR8Hladdr opcode (fun _ => takes_pure _)
  | opcodeBit => exact takes_opcodeBit opcode
  | opcodePrefix | opcodeIllegalD3 | opcodeIllegalDb | opcodeIllegalDd | opcodeIllegalE3
  | opcodeIllegalE4 | opcodeIllegalEb | opcodeIllegalEc | opcodeIllegalEd | opcodeIllegalF4
  | opcodeIllegalFc | opcodeIllegalFd => exact does_error _
  | opcodeCallCc | opcodeDi | opcodeEi | opcodeHalt | opcodeJpCc | opcodeJrCc
  | opcodeRetCc | opcodeReti => cases h

/-- A plain handler. -/
theorem ran_of_passes {fn : OpcodeFn} {src : OperandKind} (h : fn.isPlain = true)
    (hp : Passes (fn.clocks src opcode) m m') : Ran fn src opcode m m' := by
  have hskips : fn.skips opcode m.cpu = false := by cases fn <;> first | rfl | cases h
  have hime : fn.setsIme m.cpu.ime = m.cpu.ime := by cases fn <;> first | rfl | cases h
  have hei : (fn == .opcodeEi) = false := by cases fn <;> first | rfl | cases h
  refine ⟨by rw [hskips]; exact hp.cycles, by rw [hime]; exact hp.ime, ?_, ?_, fun _ => hp.halted⟩
  · rw [hei, Bool.or_false]
    exact hp.imeNext
  · rw [hskips, Bool.or_false]
    exact hp.branchSkipped

/-! ### Conditional branches -/

/-- `n` M-cycles if the branch is taken, and otherwise none and the branch is recorded as
skipped. -/
structure Branched (n : ℕ) (taken : Bool) (m m' : Machine) : Prop where
  cycles : m'.soc.cycles = m.soc.cycles + if taken then n else 0
  ime : m'.cpu.ime = m.cpu.ime
  imeNext : m'.cpu.imeNext = m.cpu.imeNext
  branchSkipped : m'.cpu.branchSkipped = (m.cpu.branchSkipped || !taken)
  halted : m'.cpu.halted = m.cpu.halted

theorem does_branch {go : Exec Unit} {n : ℕ} (h : Takes n go) (taken : Bool) :
    Does (branch taken go) (Branched n taken) := by
  cases taken with
  | true =>
    intro m u m' hgo
    have hp := h m u m' hgo
    exact ⟨hp.cycles, hp.ime, hp.imeNext, by rw [hp.branchSkipped]; exact (Bool.or_false _).symm,
      hp.halted⟩
  | false =>
    rintro m u m' ⟨⟩
    exact ⟨rfl, rfl, rfl, (Bool.or_true _).symm, rfl⟩

/-- A conditional branch, once it has taken what it takes in any case. -/
theorem Branched.ran {fn : OpcodeFn} {src : OperandKind} {m1 : Machine} {n : ℕ}
    (hcond : fn.isConditional = true) (hclocks : fn.clocks src opcode = n + fn.skippedClocks)
    (hp : Passes fn.skippedClocks m m1) (h : Branched n (branchTaken opcode m.cpu) m1 m') :
    Ran fn src opcode m m' := by
  have hskips : fn.skips opcode m.cpu = !branchTaken opcode m.cpu := by
    rw [OpcodeFn.skips, hcond, Bool.true_and]
  have hime : fn.setsIme m.cpu.ime = m.cpu.ime := by cases fn <;> first | rfl | cases hcond
  have hei : (fn == .opcodeEi) = false := by cases fn <;> first | rfl | cases hcond
  refine ⟨?_, by rw [hime, h.ime, hp.ime], ?_, ?_, fun _ => h.halted.trans hp.halted⟩
  · rw [h.cycles, hp.cycles, hskips, hclocks]
    cases branchTaken opcode m.cpu with
    | true => exact (Nat.add_assoc ..).trans (congrArg _ (Nat.add_comm ..))
    | false => rfl
  · rw [h.imeNext, hp.imeNext, hei, Bool.or_false]
  · rw [h.branchSkipped, hp.branchSkipped, hskips]

theorem run_debugAssert {c : Prop} [Decidable c] {u : Unit} (h : debugAssert c m = .ok (u, m')) :
    m' = m :=
  (run_check_eq_ok.mp h).2.symm

/-- Fetching does not touch the flags register, and so no condition. -/
theorem branchTaken_consumeByte {b : UInt8} (h : clockConsumeByteFromPc m = .ok (b, m')) :
    branchTaken opcode m'.cpu = branchTaken opcode m.cpu := by
  obtain ⟨c, m1, hc, h⟩ := run_bind_eq_ok.mp h
  cases hc
  obtain ⟨u, m2, hm, h⟩ := run_bind_eq_ok.mp h
  cases hm
  obtain ⟨p, hread, h⟩ := bind_eq_ok.mp h
  cases h
  rfl

theorem branchTaken_consumeWord {w : UInt16} (h : clockConsumeWordFromPc m = .ok (w, m')) :
    branchTaken opcode m'.cpu = branchTaken opcode m.cpu := by
  obtain ⟨lsb, m1, h1, h⟩ := run_bind_eq_ok.mp h
  obtain ⟨msb, m2, h2, h⟩ := run_bind_eq_ok.mp h
  cases h
  rw [branchTaken_consumeByte opcode h2, branchTaken_consumeByte opcode h1]

theorem ran_opcodeJrCc (src : OperandKind) :
    Does (opcodeJrCc opcode) (Ran .opcodeJrCc src opcode) := by
  intro m u m' h
  obtain ⟨_, m1, hassert, hcpu⟩ := run_bind_eq_ok.mp h
  cases run_debugAssert hassert
  obtain ⟨c, m2, hc, hrest⟩ := run_bind_eq_ok.mp hcpu
  cases hc
  obtain ⟨e, m3, hfetch, h⟩ := run_bind_eq_ok.mp hrest
  exact Branched.ran opcode rfl rfl (takes_clockConsumeByteFromPc _ _ _ hfetch)
    (does_branch (takes_jumpRelative e) _ _ _ _ h)

theorem ran_opcodeRetCc (src : OperandKind) :
    Does (opcodeRetCc opcode) (Ran .opcodeRetCc src opcode) := by
  intro m u m' h
  obtain ⟨_, m1, hassert, hcpu⟩ := run_bind_eq_ok.mp h
  cases run_debugAssert hassert
  obtain ⟨c, m2, hc, hrest⟩ := run_bind_eq_ok.mp hcpu
  cases hc
  obtain ⟨_, m3, hclock, h⟩ := run_bind_eq_ok.mp hrest
  exact Branched.ran opcode rfl rfl (takes_clock _ _ _ hclock) (does_branch takes_ret _ _ _ _ h)

theorem ran_opcodeJpCc (src : OperandKind) :
    Does (opcodeJpCc opcode) (Ran .opcodeJpCc src opcode) := by
  intro m u m' h
  obtain ⟨addr, m1, hfetch, hcpu⟩ := run_bind_eq_ok.mp h
  obtain ⟨c, m2, hc, hbranch⟩ := run_bind_eq_ok.mp hcpu
  cases hc
  refine Branched.ran opcode rfl rfl (takes_clockConsumeWordFromPc _ _ _ hfetch) ?_
  rw [← branchTaken_consumeWord opcode hfetch]
  exact does_branch (takes_jump addr) _ _ _ _ hbranch

theorem ran_opcodeCallCc (src : OperandKind) :
    Does (opcodeCallCc opcode) (Ran .opcodeCallCc src opcode) := by
  intro m u m' h
  obtain ⟨addr, m1, hfetch, hrest⟩ := run_bind_eq_ok.mp h
  obtain ⟨_, m2, hassert, hcpu⟩ := run_bind_eq_ok.mp hrest
  cases run_debugAssert hassert
  obtain ⟨c, m3, hc, hbranch⟩ := run_bind_eq_ok.mp hcpu
  cases hc
  refine Branched.ran opcode rfl rfl (takes_clockConsumeWordFromPc _ _ _ hfetch) ?_
  rw [← branchTaken_consumeWord opcode hfetch]
  exact does_branch (takes_call addr) _ _ _ _ hbranch

/-! ### The handlers that change the flags -/

theorem ran_opcodeDi (src : OperandKind) : Does opcodeDi (Ran .opcodeDi src opcode) := by
  rintro m u m' ⟨⟩
  exact ⟨rfl, rfl, (Bool.or_false _).symm, (Bool.or_false _).symm, fun _ => rfl⟩

theorem ran_opcodeEi (src : OperandKind) : Does opcodeEi (Ran .opcodeEi src opcode) := by
  rintro m u m' ⟨⟩
  exact ⟨rfl, rfl, (Bool.or_true _).symm, (Bool.or_false _).symm, fun _ => rfl⟩

theorem ran_opcodeHalt (src : OperandKind) : Does opcodeHalt (Ran .opcodeHalt src opcode) := by
  intro m u m' h
  obtain ⟨c, m1, hc, h⟩ := run_bind_eq_ok.mp h
  cases hc
  obtain ⟨s, m2, hs, h⟩ := run_bind_eq_ok.mp h
  cases hs
  split at h
  · cases h
    exact ⟨rfl, rfl, (Bool.or_false _).symm, (Bool.or_false _).symm, fun hne => absurd rfl hne⟩
  · cases h
    exact ⟨rfl, rfl, (Bool.or_false _).symm, (Bool.or_false _).symm, fun hne => absurd rfl hne⟩

theorem ran_opcodeReti (src : OperandKind) : Does opcodeReti (Ran .opcodeReti src opcode) := by
  intro m u m' h
  obtain ⟨retVal, m1, hpop, h⟩ := run_bind_eq_ok.mp h
  obtain ⟨_, m2, hpc, h⟩ := run_bind_eq_ok.mp h
  cases hpc
  obtain ⟨_, m3, hime, h⟩ := run_bind_eq_ok.mp h
  cases hime
  have h1 := takes_clockPopU16 _ _ _ hpop
  have h2 := takes_clock _ _ _ h
  refine ⟨?_, h2.ime, ?_, ?_, fun _ => h2.halted.trans h1.halted⟩
  · rw [h2.cycles, h1.cycles]
    rfl
  · rw [h2.imeNext, ← h1.imeNext]
    exact (Bool.or_false _).symm
  · rw [h2.branchSkipped, ← h1.branchSkipped]
    exact (Bool.or_false _).symm

/-- **Handlers.** What every handler does to the clock and to the flags of the CPU. -/
theorem does_call (fn : OpcodeFn) : Does (fn.call inst opcode) (Ran fn inst.src opcode) := by
  cases hplain : fn.isPlain with
  | true => exact (takes_plain inst opcode hplain).mono fun _ _ => ran_of_passes opcode hplain
  | false =>
    cases fn with
    | opcodeJrCc => exact ran_opcodeJrCc opcode _
    | opcodeRetCc => exact ran_opcodeRetCc opcode _
    | opcodeJpCc => exact ran_opcodeJpCc opcode _
    | opcodeCallCc => exact ran_opcodeCallCc opcode _
    | opcodeDi => exact ran_opcodeDi opcode _
    | opcodeEi => exact ran_opcodeEi opcode _
    | opcodeHalt => exact ran_opcodeHalt opcode _
    | opcodeReti => exact ran_opcodeReti opcode _
    | _ => cases hplain

end

end Exec

/-! ### The tables -/

/-- With `fetched` M-cycles for fetching, the table entry agrees with its handler. -/
def Instruction.Agrees (fetched : ℕ) (opcode : UInt8) (inst : Instruction) : Prop :=
  inst.exec.clocks inst.src opcode + fetched = inst.cycles ∧
    (inst.exec.isConditional = true → inst.exec.skippedClocks + fetched = inst.cyclesSkipped)

instance (fetched : ℕ) (opcode : UInt8) (inst : Instruction) :
    Decidable (inst.Agrees fetched opcode) :=
  inferInstanceAs (Decidable (_ ∧ _))

/-- Every entry of the first table takes what its handler and the next fetch take. -/
theorem getInstruction_agrees (opcode : UInt8) : (getInstruction opcode).Agrees 1 opcode := by
  have h : entriesPass (fun opcode inst => inst.Agrees 1 opcode) instrIndex = true := by
    decide +kernel
  exact of_decide_eq_true (pass_of_entriesPass h length_instrIndex opcode)

/-- In the second table there is one more fetch, for the prefix. -/
theorem getInstructionCb_agrees (opcode : UInt8) : (getInstructionCb opcode).Agrees 2 opcode := by
  have h : entriesPass (fun opcode inst => inst.Agrees 2 opcode) instrIndexCb = true := by
    decide +kernel
  exact of_decide_eq_true (pass_of_entriesPass h length_instrIndexCb opcode)

namespace Exec

variable {m m' m1 : Machine} {dispatched : Bool} {inst : Instruction} {opcode : UInt8}

/-! ### Interrupts -/

/-- `n` M-cycles pass, and IME is off in the end. -/
structure Dispatches (n : ℕ) (m m' : Machine) : Prop where
  cycles : m'.soc.cycles = m.soc.cycles + n
  ime : m'.cpu.ime = false
  imeNext : m'.cpu.imeNext = m.cpu.imeNext
  halted : m'.cpu.halted = m.cpu.halted
  branchSkipped : m'.cpu.branchSkipped = m.cpu.branchSkipped

theorem Takes.dispatches {α β : Type} {x : Exec α} {f : α → Exec β} {a b : ℕ} (hx : Takes a x)
    (hf : ∀ v, Does (f v) (Dispatches b)) : Does (x >>= f) (Dispatches (b + a)) :=
  Does.bind hx hf fun _ _ _ h h' =>
    ⟨by rw [h'.cycles, h.cycles, Nat.add_assoc, Nat.add_comm a], h'.ime, h'.imeNext.trans h.imeNext,
      h'.halted.trans h.halted, h'.branchSkipped.trans h.branchSkipped⟩

theorem takes_enterInterrupt (active : Option (UInt8 × UInt16)) :
    Takes 0 (enterInterrupt active) := by
  unfold enterInterrupt
  cases active with
  | none => exact takes_modifyCpu fun _ => rfl
  | some active =>
    exact .andThen (takes_modifyCpu fun _ => rfl) fun _ => takes_modifySoc fun _ => rfl

theorem does_handleInterrupt : Does handleInterrupt (Dispatches interruptCycles) := by
  have hlast : Does (do modifyCpu fun c => { c with ime := false }; clockFetch) (Dispatches 1) := by
    intro m u m' h
    obtain ⟨_, m1, hime, h⟩ := run_bind_eq_ok.mp h
    cases hime
    have hp := takes_clockFetch _ _ _ h
    exact ⟨hp.cycles, hp.ime, hp.imeNext, hp.halted, hp.branchSkipped⟩
  exact takes_clock.dispatches fun _ => takes_clock.dispatches fun _ =>
    takes_cpu.dispatches fun _ => (takes_check _).dispatches fun _ =>
    (takes_clockPushU8 _).dispatches fun _ =>
    takes_soc.dispatches fun _ => (takes_clockPushU8 _).dispatches fun _ =>
    (takes_enterInterrupt _).dispatches fun _ => hlast

/-- An interrupt is both enabled and requested. -/
def interruptPending (soc : Soc) : Bool :=
  interruptBits.any fun interruptBit => soc.activeInterrupts &&& interruptBit != 0

theorem interruptPending_of_none {soc : Soc} (h : soc.activeInterrupts = 0) :
    interruptPending soc = false := by
  rw [interruptPending, h]
  rfl

/-- The machine a pending interrupt has woken up. -/
def woken (m : Machine) : Machine :=
  { cpu := { m.cpu with halted := false }, soc := m.soc.setCpuHalted false }

/-- The check, without its second look at the requests. -/
theorem run_checkInterrupts (m : Machine) : checkInterrupts m =
    if m.soc.activeInterrupts = 0 then .ok (false, m)
    else if m.cpu.ime = true ∧ interruptPending m.soc = true then
      (handleInterrupt >>= fun _ => pure true) (woken m)
    else .ok (false, woken m) := by
  show (if m.soc.activeInterrupts = 0 then _ else _ : Exec Bool) m = _
  by_cases hnone : m.soc.activeInterrupts = 0
  · rw [if_pos hnone, if_pos hnone]
    rfl
  rw [if_neg hnone, if_neg hnone]
  show (if !m.cpu.ime then _ else _ : Exec Bool) (woken m) = _
  cases m.cpu.ime with
  | false => rfl
  | true =>
    show (if interruptPending m.soc = true then _ else _ : Exec Bool) (woken m) = _
    cases interruptPending m.soc <;> rfl

/-- What checking for interrupts did, when `dispatched` says whether one was dispatched. -/
structure InterruptCheck (dispatched : Bool) (m m1 : Machine) : Prop where
  dispatched_eq : dispatched = (m.cpu.ime && interruptPending m.soc)
  cycles : m1.soc.cycles = m.soc.cycles + if dispatched then interruptCycles else 0
  ime : m1.cpu.ime = (m.cpu.ime && !dispatched)
  imeNext : m1.cpu.imeNext = m.cpu.imeNext
  branchSkipped : m1.cpu.branchSkipped = m.cpu.branchSkipped
  /-- Nothing halts the CPU here, and a dispatch ends HALT. -/
  halted : m.cpu.halted = false ∨ dispatched = true → m1.cpu.halted = false

/-- An interrupt that is dispatched ends HALT. -/
theorem InterruptCheck.not_dispatched (h : InterruptCheck dispatched m m1)
    (hhalted : m1.cpu.halted = true) : dispatched = false := by
  cases dispatched with
  | false => rfl
  | true => exact absurd ((h.halted (.inr rfl)).symm.trans hhalted) nofun

theorem interruptCheck_of_checkInterrupts (h : checkInterrupts m = .ok (dispatched, m1)) :
    InterruptCheck dispatched m m1 := by
  rw [run_checkInterrupts] at h
  split at h
  · rename_i hnone
    cases h
    refine ⟨?_, rfl, (Bool.and_true _).symm, rfl, rfl, fun h => h.elim id nofun⟩
    rw [interruptPending_of_none hnone, Bool.and_false]
  split at h
  · rename_i hpending
    obtain ⟨_, m2, hhandle, h⟩ := run_bind_eq_ok.mp h
    cases h
    have hd := does_handleInterrupt _ _ _ hhandle
    refine ⟨?_, hd.cycles, hd.ime.trans (Bool.and_false _).symm, hd.imeNext, hd.branchSkipped,
      fun _ => hd.halted⟩
    rw [hpending.1, hpending.2, Bool.and_true]
  · rename_i hpending
    cases h
    refine ⟨?_, rfl, (Bool.and_true _).symm, rfl, rfl, fun _ => rfl⟩
    rw [← Bool.and_eq_true] at hpending
    exact (Bool.eq_false_iff.mpr hpending).symm

/-! ### Steps -/

/-- The machine after EI has taken effect, if it was due. -/
def withImeApplied (m : Machine) : Machine :=
  { m with cpu := if m.cpu.imeNext then { m.cpu with ime := true, imeNext := false } else m.cpu }

theorem run_applyImeNext (m : Machine) : applyImeNext m = .ok ((), withImeApplied m) := rfl

/-- Fetching the rest of an opcode takes what the table counts for it. -/
theorem fetchInstruction_agrees (h : fetchInstruction m = .ok ((inst, opcode), m')) :
    ∃ fetched, Passes fetched m m' ∧ inst.Agrees (fetched + 1) opcode := by
  obtain ⟨c, m1, hc, h⟩ := run_bind_eq_ok.mp h
  cases hc
  split at h
  · obtain ⟨_, m2, hfetch, h⟩ := run_bind_eq_ok.mp h
    obtain ⟨c, m3, hc, h⟩ := run_bind_eq_ok.mp h
    cases hc
    cases h
    exact ⟨1, takes_clockFetch _ _ _ hfetch, getInstructionCb_agrees _⟩
  · cases h
    exact ⟨0, graded_passes.refl m, getInstruction_agrees _⟩

/-- The M-cycles of an instruction that is executed in `m`. -/
def instructionCycles (inst : Instruction) (opcode : UInt8) (m : Machine) : ℕ :=
  if inst.exec.skips opcode m.cpu then inst.cyclesSkipped else inst.cycles

/-- An instruction and the fetch of the next opcode take what the table says. -/
theorem cycles_of_instruction {m2 m3 m4 : Machine} {u v : Unit}
    (hskip : m.cpu.branchSkipped = false)
    (hfetch : fetchInstruction m = .ok ((inst, opcode), m2))
    (hcall : inst.exec.call inst opcode m2 = .ok (u, m3)) (hnext : clockFetch m3 = .ok (v, m4)) :
    m4.soc.cycles = m.soc.cycles + instructionCycles inst opcode m2 ∧
      m4.cpu.branchSkipped = inst.exec.skips opcode m2.cpu := by
  obtain ⟨fetched, hp, htaken, hskipped⟩ := fetchInstruction_agrees hfetch
  have hran := does_call inst opcode inst.exec _ _ _ hcall
  have hlast := takes_clockFetch _ _ _ hnext
  constructor
  · rw [hlast.cycles, hran.cycles, hp.cycles, instructionCycles]
    cases hs : inst.exec.skips opcode m2.cpu with
    | true =>
      have hcond : inst.exec.isConditional = true := (Bool.and_eq_true_iff.mp hs).1
      rw [if_pos rfl, if_pos rfl, ← hskipped hcond]
      omega
    | false =>
      rw [if_neg nofun, if_neg nofun, ← htaken]
      omega
  · rw [hlast.branchSkipped, hran.branchSkipped, hp.branchSkipped, hskip, Bool.false_or]

/-- `step` without its assertions. -/
def stepUnchecked : Exec ℕ := do
  let socCycles := (← soc).cycles
  let _ ← checkInterrupts
  applyImeNext
  if (← cpu).halted then
    clock
    return (← soc).cycles - socCycles
  else
    let (inst, opcode) ← fetchInstruction
    inst.exec.call inst opcode
    clockFetch
    let elapsed := (← soc).cycles - socCycles
    modifyCpu fun c => { c with branchSkipped := false }
    return elapsed

theorem withImeApplied_halted (m : Machine) : (withImeApplied m).cpu.halted = m.cpu.halted := by
  rw [withImeApplied]
  dsimp only
  split <;> rfl

theorem withImeApplied_branchSkipped (m : Machine) :
    (withImeApplied m).cpu.branchSkipped = m.cpu.branchSkipped := by
  rw [withImeApplied]
  dsimp only
  split <;> rfl

/-- A step that waits takes one M-cycle. -/
theorem cycles_of_wait {u : Unit} (hcheck : checkInterrupts m = .ok (dispatched, m1))
    (hhalted : m1.cpu.halted = true) (hclock : clock (withImeApplied m1) = .ok (u, m')) :
    m'.soc.cycles = m.soc.cycles + 1 := by
  have hc := interruptCheck_of_checkInterrupts hcheck
  have hcycles1 : m1.soc.cycles = m.soc.cycles := by
    rw [hc.cycles, hc.not_dispatched hhalted]
    rfl
  rw [(takes_clock _ _ _ hclock).cycles, ← hcycles1]
  rfl

/-- A step that executes an instruction takes what the table says, and what the dispatch takes. -/
theorem cycles_of_execute {m2 m3 m4 : Machine} {u v : Unit} (hskip : m.cpu.branchSkipped = false)
    (hcheck : checkInterrupts m = .ok (dispatched, m1))
    (hfetch : fetchInstruction (withImeApplied m1) = .ok ((inst, opcode), m2))
    (hcall : inst.exec.call inst opcode m2 = .ok (u, m3)) (hnext : clockFetch m3 = .ok (v, m4)) :
    m4.soc.cycles = m.soc.cycles + (instructionCycles inst opcode m2 +
        if dispatched then interruptCycles else 0) ∧
      m4.cpu.branchSkipped = inst.exec.skips opcode m2.cpu := by
  have hc := interruptCheck_of_checkInterrupts hcheck
  have hskip1 : (withImeApplied m1).cpu.branchSkipped = false := by
    rw [withImeApplied_branchSkipped, hc.branchSkipped, hskip]
  obtain ⟨hcycles, hskipped⟩ := cycles_of_instruction hskip1 hfetch hcall hnext
  have hcycles1 : (withImeApplied m1).soc.cycles = m1.soc.cycles := rfl
  rw [hcycles1, hc.cycles] at hcycles
  exact ⟨by omega, hskipped⟩

/-- **The assertions of a step never fail.** -/
theorem step_eq_stepUnchecked (hskip : m.cpu.branchSkipped = false) :
    step m = stepUnchecked m := by
  refine run_bind_congr fun s m0 hs => ?_
  cases hs
  refine run_bind_congr fun dispatched m1 hcheck => ?_
  rw [run_bind_of_ok (run_applyImeNext m1), run_bind_of_ok (run_applyImeNext m1)]
  refine run_bind_congr fun c m2 hcpu => ?_
  cases hcpu
  split
  · rename_i hhalted
    rw [withImeApplied_halted] at hhalted
    refine run_bind_congr fun _ m3 hclock => ?_
    have hcycles := cycles_of_wait hcheck hhalted hclock
    refine run_bind_congr fun s m4 hs => ?_
    cases hs
    rw [run_bind_of_ok (run_check_eq_ok.mpr ⟨checkedSub_of_le _ (by omega), rfl⟩),
      run_bind_of_ok (run_check_eq_ok.mpr ⟨assert_of _ (by omega), rfl⟩)]
  · refine run_bind_congr fun i m3 hfetch => ?_
    refine run_bind_congr fun _ m4 hcall => ?_
    refine run_bind_congr fun _ m5 hnext => ?_
    obtain ⟨hcycles, hskipped⟩ := cycles_of_execute hskip hcheck hfetch hcall hnext
    refine run_bind_congr fun s m6 hs => ?_
    cases hs
    rw [run_bind_of_ok (run_check_eq_ok.mpr ⟨checkedSub_of_le _ (by omega), rfl⟩)]
    have hassert : checkCycles i.1 dispatched (m5.soc.cycles - m.soc.cycles) m5 = .ok ((), m5) := by
      refine (run_bind_of_ok (a := m5.cpu) rfl).trans (run_check_eq_ok.mpr ⟨assert_of _ ?_, rfl⟩)
      rw [hskipped, hcycles, Nat.add_sub_cancel_left]
      rfl
    rw [run_bind_of_ok hassert]

/-- What a step did: it waited for an interrupt, or it executed an instruction. -/
inductive Stepped (m m' : Machine) (elapsed : ℕ) : Prop
  | waited {dispatched : Bool} {m1 : Machine} : checkInterrupts m = .ok (dispatched, m1) →
      m1.cpu.halted = true → clock (withImeApplied m1) = .ok ((), m') →
      elapsed = m'.soc.cycles - m.soc.cycles → Stepped m m' elapsed
  | executed {dispatched : Bool} {m1 m2 m3 m4 : Machine} {inst : Instruction} {opcode : UInt8} :
      checkInterrupts m = .ok (dispatched, m1) → m1.cpu.halted = false →
      fetchInstruction (withImeApplied m1) = .ok ((inst, opcode), m2) →
      inst.exec.call inst opcode m2 = .ok ((), m3) → clockFetch m3 = .ok ((), m4) →
      m' = { m4 with cpu := { m4.cpu with branchSkipped := false } } →
      elapsed = m'.soc.cycles - m.soc.cycles → Stepped m m' elapsed

/-- **Steps.** A step that returned waited or executed an instruction. -/
theorem stepped_of_step {elapsed : ℕ} (h : step m = .ok (elapsed, m')) :
    Stepped m m' elapsed := by
  obtain ⟨s, m0, hs, h⟩ := run_bind_eq_ok.mp h
  cases hs
  obtain ⟨dispatched, m1, hcheck, h⟩ := run_bind_eq_ok.mp h
  rw [run_bind_of_ok (run_applyImeNext m1)] at h
  obtain ⟨c, m2, hcpu, h⟩ := run_bind_eq_ok.mp h
  cases hcpu
  split at h
  · rename_i hhalted
    obtain ⟨_, m3, hclock, h⟩ := run_bind_eq_ok.mp h
    obtain ⟨s, m4, hs, h⟩ := run_bind_eq_ok.mp h
    cases hs
    obtain ⟨n, m5, hsub, h⟩ := run_bind_eq_ok.mp h
    obtain ⟨_, m6, hassert, h⟩ := run_bind_eq_ok.mp h
    cases h
    obtain ⟨hvalue, rfl⟩ := run_check_eq_ok.mp hsub
    obtain ⟨-, rfl⟩ := run_check_eq_ok.mp hassert
    exact .waited hcheck (by rwa [withImeApplied_halted] at hhalted) hclock
      (checkedSub_eq_ok.mp hvalue).2.symm
  · rename_i hhalted
    obtain ⟨i, m3, hfetch, h⟩ := run_bind_eq_ok.mp h
    obtain ⟨_, m4, hcall, h⟩ := run_bind_eq_ok.mp h
    obtain ⟨_, m5, hnext, h⟩ := run_bind_eq_ok.mp h
    obtain ⟨s, m6, hs, h⟩ := run_bind_eq_ok.mp h
    cases hs
    obtain ⟨n, m7, hsub, h⟩ := run_bind_eq_ok.mp h
    obtain ⟨_, m8, hassert, h⟩ := run_bind_eq_ok.mp h
    obtain ⟨_, m9, hskip, h⟩ := run_bind_eq_ok.mp h
    cases hskip
    cases h
    obtain ⟨hvalue, rfl⟩ := run_check_eq_ok.mp hsub
    obtain ⟨c, m10, hc, hassert⟩ := run_bind_eq_ok.mp hassert
    cases hc
    obtain ⟨-, rfl⟩ := run_check_eq_ok.mp hassert
    refine .executed hcheck ?_ hfetch hcall hnext rfl (checkedSub_eq_ok.mp hvalue).2.symm
    rw [withImeApplied_halted] at hhalted
    simpa using hhalted

/-- **Cycle accuracy.** From every state between two steps, the assertion at the end of a step does
not fail, and a step that returns takes one M-cycle if the CPU is halted once interrupts have been
checked, and otherwise what the table says of the instruction, and 5 more if it has dispatched an
interrupt. -/
theorem step_cycles (hskip : m.cpu.branchSkipped = false) :
    step m = stepUnchecked m ∧
    ∀ elapsed m', step m = .ok (elapsed, m') →
      m'.soc.cycles = m.soc.cycles + elapsed ∧ m'.cpu.branchSkipped = false ∧
      ∃ dispatched m1, checkInterrupts m = .ok (dispatched, m1) ∧
        (m1.cpu.halted = true → elapsed = 1) ∧
        (m1.cpu.halted = false → ∃ inst opcode m2,
          fetchInstruction (withImeApplied m1) = .ok ((inst, opcode), m2) ∧
          elapsed = instructionCycles inst opcode m2 +
            if dispatched then interruptCycles else 0) := by
  refine ⟨step_eq_stepUnchecked hskip, fun elapsed m' h => ?_⟩
  cases stepped_of_step h with
  | @waited dispatched m1 hcheck hhalted hclock helapsed =>
    have hcycles := cycles_of_wait hcheck hhalted hclock
    refine ⟨by omega, ?_, dispatched, m1, hcheck, fun _ => by omega,
      fun hnot => absurd (hnot.symm.trans hhalted) nofun⟩
    rw [(takes_clock _ _ _ hclock).branchSkipped, withImeApplied_branchSkipped,
      (interruptCheck_of_checkInterrupts hcheck).branchSkipped, hskip]
  | @executed dispatched m1 m2 m3 m4 inst opcode hcheck hhalted hfetch hcall hnext he helapsed =>
    obtain ⟨hcycles, -⟩ := cycles_of_execute hskip hcheck hfetch hcall hnext
    subst he
    dsimp only at helapsed
    refine ⟨?_, rfl, dispatched, m1, hcheck, fun hnot => absurd (hhalted.symm.trans hnot) nofun,
      fun _ => ⟨inst, opcode, m2, hfetch, by omega⟩⟩
    show m4.soc.cycles = m.soc.cycles + elapsed
    omega

/-- How long a step takes in a system of zeros, in a state that is given by its system. -/
theorem exists_step_blank {soc : Soc} {f : Soc → Machine} {n : ℕ}
    (hsoc : Soc.new (.blank 0 0 0xE7) .none none (.ofMode .modeCgb) = .ok soc)
    (h : ((Soc.new (.blank 0 0 0xE7) .none none (.ofMode .modeCgb)).toOption.bind fun soc =>
      (step (f soc)).toOption.map Prod.fst) = some n) : ∃ m', step (f soc) = .ok (n, m') := by
  rw [hsoc] at h
  obtain ⟨⟨elapsed, m'⟩, hstep, rfl⟩ := Option.map_eq_some_iff.mp h
  exact ⟨m', toOption_eq_some.mp hstep⟩

/-- JR NZ takes three M-cycles, or two when it is skipped, and a NOP after the dispatch of an
interrupt takes six. -/
theorem step_cycles_branches :
    ∃ soc m1 m2 m3, Soc.new (.blank 0 0 0xE7) .none none (.ofMode .modeCgb) = .ok soc ∧
      (step ⟨{ Cpu.new with opcode := 0x20 }, soc⟩ = .ok (3, m1) ∧
        m1.soc.cycles = soc.cycles + 3) ∧
      (step ⟨{ Cpu.new with opcode := 0x20, regAf := 0x80 }, soc⟩ = .ok (2, m2) ∧
        m2.soc.cycles = soc.cycles + 2) ∧
      step ⟨{ Cpu.new with ime := true, regPc := 1, regSp := 0xFFFE }, { soc with ie := 1 }⟩ =
        .ok (6, m3) ∧ m3.soc.cycles = soc.cycles + 6 := by
  obtain ⟨soc, hsoc⟩ := exists_of_isOk
    (x := Soc.new (.blank 0 0 0xE7) .none none (.ofMode .modeCgb)) (by decide +kernel)
  obtain ⟨m1, htaken⟩ := exists_step_blank (n := 3)
    (f := fun soc => ⟨{ Cpu.new with opcode := 0x20 }, soc⟩) hsoc (by decide +kernel)
  obtain ⟨m2, hskipped⟩ := exists_step_blank (n := 2)
    (f := fun soc => ⟨{ Cpu.new with opcode := 0x20, regAf := 0x80 }, soc⟩) hsoc
    (by decide +kernel)
  obtain ⟨m3, hdispatched⟩ := exists_step_blank (n := 6)
    (f := fun soc => ⟨{ Cpu.new with ime := true, regPc := 1, regSp := 0xFFFE },
      { soc with ie := 1 }⟩) hsoc (by decide +kernel)
  exact ⟨soc, m1, m2, m3, hsoc, ⟨htaken, ((step_cycles rfl).2 _ _ htaken).1⟩,
    ⟨hskipped, ((step_cycles rfl).2 _ _ hskipped).1⟩, hdispatched,
    ((step_cycles rfl).2 _ _ hdispatched).1⟩

end Exec

end ZenithGb
