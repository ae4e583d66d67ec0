import ZenithGb.Cpu.Interrupts
import ZenithGb.Soc.AddressSafe

/-!
# The CPU: overflows of addresses

Addresses wrap around everywhere but in two places: the dispatch of an interrupt subtracts one from
PC, and LD [a16], SP adds one to its operand.

## Main results

* `Exec.addressSafe_handleInterrupt_iff`, `Exec.addressSafe_opcodeImm16addrR16_iff` — when these two
  overflow
* `Exec.addressSafe_step_iff` — a step overflows in one of the two, or not at all
* `Exec.addressSafe_exec_iff` — so does every run
-/

namespace ZenithGb

open Outcome

namespace Exec

variable {m : Machine}

/-- From no machine, `x` fails with an overflow of an address. -/
abbrev Wraps {α : Type} (x : Exec α) : Prop := ∀ m, AddressSafe (x m)

theorem Wraps.bind {α β : Type} {x : Exec α} {f : α → Exec β} (hx : Wraps x)
    (hf : ∀ a, Wraps (f a)) : Wraps (x >>= f) :=
  fun m => failsIn_run_bind.mpr ⟨hx m, fun a t _ => hf a t⟩

/-! ### Access to the two halves -/

@[simp] theorem wraps_cpu : Wraps cpu := fun _ => failsIn_ok _

@[simp] theorem wraps_soc : Wraps soc := fun _ => failsIn_ok _

@[simp] theorem wraps_modifyCpu (f : Cpu → Cpu) : Wraps (modifyCpu f) := fun _ => failsIn_ok _

@[simp] theorem wraps_modifySoc (f : Soc → Soc) : Wraps (modifySoc f) := fun _ => failsIn_ok _

@[simp] theorem addressSafe_check {α : Type} {x : Checked α} :
    AddressSafe (check x m) ↔ AddressSafe x := failsIn_run_lift

@[simp] theorem wraps_debugAssert {c : Prop} [Decidable c] : Wraps (debugAssert c) := fun _ =>
  addressSafe_check.mpr addressSafe_assert

@[simp] theorem wraps_clock : Wraps clock := fun _ =>
  failsIn_bind.mpr ⟨Soc.addressSafe_clock _, fun _ _ => failsIn_pure _⟩

@[simp] theorem wraps_clockRead (address : UInt16) : Wraps (clockRead address) := fun _ =>
  failsIn_bind.mpr ⟨Soc.addressSafe_clockRead _ _, fun _ _ => failsIn_pure _⟩

@[simp] theorem wraps_clockWrite (address : UInt16) (data : UInt8) :
    Wraps (clockWrite address data) := fun _ =>
  failsIn_bind.mpr ⟨Soc.addressSafe_clockWrite _ _ _, fun _ _ => failsIn_pure _⟩

/-! ### Operands, fetching and the stack -/

@[simp] theorem wraps_readR8 (r8Encoded : UInt8) : Wraps (readR8 r8Encoded) := by
  refine wraps_cpu.bind fun c => ?_
  split <;> intro m <;> simp

@[simp] theorem wraps_writeR8 (r8Encoded val : UInt8) : Wraps (writeR8 r8Encoded val) := by
  rw [writeR8]
  split <;> intro m <;> simp

@[simp] theorem wraps_readR16 (r16Encoded : UInt8) : Wraps (readR16 r16Encoded) := by
  refine wraps_cpu.bind fun c => ?_
  split <;> intro m <;> simp

@[simp] theorem wraps_writeR16 (r16Encoded : UInt8) (val : UInt16) :
    Wraps (writeR16 r16Encoded val) := by
  rw [writeR16]
  split <;> intro m <;> simp

@[simp] theorem wraps_readR16stkMsb (r16Encoded : UInt8) : Wraps (readR16stkMsb r16Encoded) := by
  refine wraps_cpu.bind fun c => ?_
  split <;> intro m <;> simp

@[simp] theorem wraps_readR16stkLsb (r16Encoded : UInt8) : Wraps (readR16stkLsb r16Encoded) := by
  refine wraps_cpu.bind fun c => ?_
  split <;> intro m <;> simp

@[simp] theorem wraps_writeR16stk (r16Encoded : UInt8) (val : UInt16) :
    Wraps (writeR16stk r16Encoded val) := by
  rw [writeR16stk]
  split <;> intro m <;> simp

@[simp] theorem wraps_setFlag (flag : UInt8) (set : Bool) : Wraps (setFlag flag set) :=
  wraps_modifyCpu _

@[simp] theorem wraps_setFlags (z n h c : Bool) : Wraps (setFlags z n h c) := wraps_modifyCpu _

@[simp] theorem wraps_clockConsumeByteFromPc : Wraps clockConsumeByteFromPc := by
  intro m
  simp [clockConsumeByteFromPc]

@[simp] theorem wraps_clockConsumeWordFromPc : Wraps clockConsumeWordFromPc := by
  intro m
  simp [clockConsumeWordFromPc]

@[simp] theorem wraps_clockFetch : Wraps clockFetch := by intro m; simp [clockFetch]

@[simp] theorem wraps_clockReadAtHl : Wraps clockReadAtHl := by intro m; simp [clockReadAtHl]

@[simp] theorem wraps_clockWriteAtHl (val : UInt8) : Wraps (clockWriteAtHl val) := by
  intro m
  simp [clockWriteAtHl]

@[simp] theorem wraps_clockPushU8 (val : UInt8) : Wraps (clockPushU8 val) := by
  intro m; simp [clockPushU8]

@[simp] theorem wraps_clockPopU16 : Wraps clockPopU16 := by intro m; simp [clockPopU16, clockPopU8]

/-! ### Arithmetic and branches -/

@[simp] theorem wraps_clockConsumeSrc (src : OperandKind) (opcode : UInt8) :
    Wraps (clockConsumeSrcR8Imm8Hladdr src opcode) := by
  unfold clockConsumeSrcR8Imm8Hladdr
  split <;> intro m <;> simp

@[simp] theorem wraps_inc8 (v : UInt8) : Wraps (inc8 v) := by intro m; simp [inc8]
@[simp] theorem wraps_dec8 (v : UInt8) : Wraps (dec8 v) := by intro m; simp [dec8]
@[simp] theorem wraps_rlc (v : UInt8) : Wraps (rlc v) := by intro m; simp [rlc]
@[simp] theorem wraps_rrc (v : UInt8) : Wraps (rrc v) := by intro m; simp [rrc]
@[simp] theorem wraps_rl (v : UInt8) : Wraps (rl v) := by intro m; simp [rl]
@[simp] theorem wraps_rr (v : UInt8) : Wraps (rr v) := by intro m; simp [rr]
@[simp] theorem wraps_addSpE8 (e : UInt8) : Wraps (addSpE8 e) := by intro m; simp [addSpE8]
@[simp] theorem wraps_addA8 (v c : UInt8) : Wraps (addA8 v c) := by intro m; simp [addA8]
@[simp] theorem wraps_subA8 (v c : UInt8) : Wraps (subA8 v c) := by intro m; simp [subA8]
@[simp] theorem wraps_logicA8 (op : UInt8 → UInt8 → UInt8) (h : Bool) (v : UInt8) :
    Wraps (logicA8 op h v) := by intro m; simp [logicA8]
@[simp] theorem wraps_carry : Wraps carry := by intro m; simp [carry]
@[simp] theorem wraps_jumpRelative (e : UInt8) : Wraps (jumpRelative e) := by
  intro m; simp [jumpRelative]
@[simp] theorem wraps_jump (addr : UInt16) : Wraps (jump addr) := by intro m; simp [jump]
@[simp] theorem wraps_call (addr : UInt16) : Wraps (call addr) := by intro m; simp [call]
@[simp] theorem wraps_ret : Wraps ret := by intro m; simp [ret]

/-- LD [a16], SP apart, the handlers wrap around; RST subtracts from an opcode that is large
enough. -/
theorem wraps_handler {fn : OpcodeFn} (hfn : fn ≠ .opcodeImm16addrR16) {opcode : UInt8}
    (hrst : fn = .opcodeRst → 0xC7 ≤ opcode) (inst : Instruction) :
    Wraps (fn.call inst opcode) := by
  intro m
  cases fn with
  | opcodeImm16addrR16 => exact absurd rfl hfn
  | opcodeRst =>
    have hsub : checkedSubU8 .opcode opcode 0xC7 = .ok (opcode - 0xC7) := if_pos (hrst rfl)
    simp [OpcodeFn.call, opcodeRst, hsub]
  | opcodeRet => exact wraps_ret m
  | _ =>
    simp [OpcodeFn.call, opcodeNop, opcodeLdR16Imm16, opcodeLdBcaddrA, opcodeIncR16, opcodeIncR8,
      opcodeDecR8, opcodeLdR8Imm8, opcodeRlca, opcodeAddHlR16, opcodeLdABcaddr, opcodeDecR16,
      opcodeRrca, opcodeStop, opcodeLdDeaddrA, opcodeRla, opcodeJrE8, opcodeLdADeaddr, opcodeRra,
      opcodeJrCc, opcodeLdHliaddrA, opcodeDaa, opcodeLdAHliaddr, opcodeCpl, opcodeLdHldaddrA,
      opcodeIncR16addr, opcodeDecR16addr, opcodeHladdrImm8, opcodeScf, opcodeLdAHldaddr, opcodeCcf,
      opcodeLdBB, opcodeLdR8R8, opcodeLdR8Hladdr, opcodeHladdrR8, opcodeHalt, opcodeAddR8Imm8Hladdr,
      opcodeAdc, opcodeSub, opcodeSbc, opcodeAnd, opcodeXor, opcodeOr, opcodeCp, opcodeRetCc,
      opcodePop, opcodeJpCc, opcodeJpA16, opcodeCallCc, opcodePush, opcodeCallA16, opcodeReti,
      opcodeLdhR8addrA, opcodeR8addrA, opcodeAddSpE8, opcodeJpHl, opcodeImm16addrA,
      opcodeLdhAR8addr, opcodeR8C, opcodeDi, opcodeLdHlSpi, opcodeLdSpHl, opcodeLdAImm16addr,
      opcodeEi, opcodeRlc, opcodeRrc, opcodeRl, opcodeRr, opcodeSla, opcodeSra, opcodeSwap,
      opcodeSrl, opcodeBit, opcodeRes, opcodeSet, opcodePrefix, opcodeIllegalD3, opcodeIllegalDb,
      opcodeIllegalDd, opcodeIllegalE3, opcodeIllegalE4, opcodeIllegalEb, opcodeIllegalEc,
      opcodeIllegalEd, opcodeIllegalF4, opcodeIllegalFc, opcodeIllegalFd, undocumented, andA8,
      xorA8, orA8, cpA8, sla, sra, swap, srl, clockReadR8Hladdr, rotateA, branch, modifyR8Hladdr,
      clockWriteR8Hladdr]

/-! ### The two places -/

theorem addressSafe_checkedAddU16_one_iff (addr : UInt16) :
    AddressSafe (checkedAddU16 .storeSp addr 1) ↔ addr ≠ 0xFFFF := by
  have hone : (1 : UInt16).toNat = 1 := rfl
  have hiff : addr.toNat + 1 < 0x10000 ↔ addr ≠ 0xFFFF := by
    rw [ne_eq, ← UInt16.toNat_inj]
    have := addr.toNat_lt
    show _ ↔ ¬ addr.toNat = 0xFFFF
    omega
  simp only [checkedAddU16, failsIn_ite, failsIn_ok, failsIn_error, hone, hiff]
  simp

theorem addressSafe_checkedSubU16_one_iff (pc : UInt16) :
    AddressSafe (checkedSubU16 .handleInterrupt pc 1) ↔ pc ≠ 0 := by
  have hiff : 1 ≤ pc ↔ pc ≠ 0 := by
    rw [UInt16.le_iff_toNat_le, ne_eq, ← UInt16.toNat_inj]
    exact Nat.one_le_iff_ne_zero
  simp only [checkedSubU16, failsIn_ite, failsIn_ok, failsIn_error, hiff]
  simp

/-- LD [a16], SP with the operand 0xFFFF gets as far as the second byte. -/
def StoreOverflows (m : Machine) : Prop :=
  ∃ m1 m2, clockConsumeWordFromPc m = .ok (0xFFFF, m1) ∧
    clockWrite 0xFFFF (getLow m1.cpu.regSp) m1 = .ok ((), m2)

theorem addressSafe_opcodeImm16addrR16_iff :
    AddressSafe (opcodeImm16addrR16 0x08 m) ↔ ¬ StoreOverflows m := by
  constructor
  · rintro hsafe ⟨m1, m2, hword, hstore⟩
    refine hsafe (.overflow .storeSp) ?_ .storeSp
    have hassert : debugAssert ((0x08 : UInt8) = 0x08) m = .ok ((), m) :=
      run_check_eq_ok.mpr ⟨rfl, rfl⟩
    rw [opcodeImm16addrR16]
    rw [run_bind_of_ok hassert, run_bind_of_ok hword, run_bind_of_ok (a := m1.cpu) rfl]
    exact run_bind_of_ok hstore
  · intro hnot
    refine failsIn_run_bind.mpr ⟨wraps_debugAssert m, fun _ _ hassert => ?_⟩
    cases run_debugAssert hassert
    refine failsIn_run_bind.mpr ⟨wraps_clockConsumeWordFromPc m, fun addr m1 hword => ?_⟩
    refine failsIn_run_bind.mpr ⟨wraps_cpu m1, fun c _ hc => ?_⟩
    cases hc
    refine failsIn_run_bind.mpr ⟨wraps_clockWrite _ _ m1, fun _ m2 hstore => ?_⟩
    have hne : addr ≠ 0xFFFF := by
      rintro rfl
      exact hnot ⟨m1, m2, hword, hstore⟩
    refine failsIn_run_bind.mpr ⟨?_, fun next _ _ => wraps_clockWrite _ _ _⟩
    exact addressSafe_check.mpr ((addressSafe_checkedAddU16_one_iff addr).mpr hne)

/-- With PC at 0, the dispatch of an interrupt gets as far as pushing it. -/
def DispatchOverflows (m : Machine) : Prop :=
  m.cpu.regPc = 0 ∧ ∃ m1 m2, clock m = .ok ((), m1) ∧ clock m1 = .ok ((), m2)

/-- A clock does not touch the CPU. -/
theorem cpu_of_clock {m' : Machine} {u : Unit} (h : clock m = .ok (u, m')) : m'.cpu = m.cpu := by
  obtain ⟨soc, -, h⟩ := bind_eq_ok.mp h
  cases h
  rfl

@[simp] theorem wraps_enterInterrupt (active : Option (UInt8 × UInt16)) :
    Wraps (enterInterrupt active) := by
  unfold enterInterrupt
  split <;> intro m <;> simp

theorem addressSafe_handleInterrupt_iff :
    AddressSafe (handleInterrupt m) ↔ ¬ DispatchOverflows m := by
  constructor
  · rintro hsafe ⟨hpc, m1, m2, h1, h2⟩
    refine hsafe (.overflow .handleInterrupt) ?_ .handleInterrupt
    have hpc2 : m2.cpu.regPc = 0 := by rw [cpu_of_clock h2, cpu_of_clock h1, hpc]
    rw [handleInterrupt]
    rw [run_bind_of_ok h1, run_bind_of_ok h2, run_bind_of_ok (a := m2.cpu) rfl, hpc2]
    rfl
  · intro hnot
    refine failsIn_run_bind.mpr ⟨wraps_clock m, fun _ m1 h1 => ?_⟩
    refine failsIn_run_bind.mpr ⟨wraps_clock m1, fun _ m2 h2 => ?_⟩
    refine failsIn_run_bind.mpr ⟨wraps_cpu m2, fun c _ hc => ?_⟩
    cases hc
    have hne : m2.cpu.regPc ≠ 0 := by
      rw [cpu_of_clock h2, cpu_of_clock h1]
      exact fun hpc => hnot ⟨hpc, m1, m2, h1, h2⟩
    refine failsIn_run_bind.mpr ⟨?_, fun pcVal _ _ => by simp⟩
    exact addressSafe_check.mpr ((addressSafe_checkedSubU16_one_iff _).mpr hne)

/-! ### Steps -/

theorem addressSafe_checkInterrupts_iff :
    AddressSafe (checkInterrupts m) ↔
      ¬ (m.cpu.ime = true ∧ interruptPending m.soc = true ∧ DispatchOverflows (woken m)) := by
  have hpending : m.soc.activeInterrupts = 0 → ¬ interruptPending m.soc = true := fun h => by
    rw [interruptPending_of_none h]
    exact nofun
  rw [run_checkInterrupts]
  simp only [failsIn_ite, failsIn_ok, failsIn_run_bind, failsIn_run_pure,
    addressSafe_handleInterrupt_iff, implies_true, true_and, and_true]
  tauto

theorem withImeApplied_opcode (m : Machine) : (withImeApplied m).cpu.opcode = m.cpu.opcode := by
  rw [withImeApplied]
  dsimp only
  split <;> rfl

/-- A step reaches an overflow: it dispatches an interrupt with PC at 0, or it executes
LD [a16], SP with the operand 0xFFFF. -/
inductive AddressOverflows (m : Machine) : Prop
  | dispatch : m.cpu.ime = true → interruptPending m.soc = true → DispatchOverflows (woken m) →
      AddressOverflows m
  | store {dispatched : Bool} {m1 : Machine} : checkInterrupts m = .ok (dispatched, m1) →
      m1.cpu.halted = false → m1.cpu.opcode = 0x08 → StoreOverflows (withImeApplied m1) →
      AddressOverflows m

/-- In the tables LD [a16], SP is the opcode 0x08, and RST is an opcode from 0xC7 on. -/
theorem instruction_wraps (opcode : UInt8) :
    ((getInstruction opcode).exec = .opcodeImm16addrR16 → opcode = 0x08) ∧
      ((getInstruction opcode).exec = .opcodeRst → 0xC7 ≤ opcode) := by
  have h : entriesPass (fun opcode inst => (inst.exec = .opcodeImm16addrR16 → opcode = 0x08) ∧
      (inst.exec = .opcodeRst → 0xC7 ≤ opcode)) instrIndex = true := by decide +kernel
  exact of_decide_eq_true (pass_of_entriesPass h length_instrIndex opcode)

theorem instructionCb_wraps (opcode : UInt8) :
    (getInstructionCb opcode).exec ≠ .opcodeImm16addrR16 ∧
      (getInstructionCb opcode).exec ≠ .opcodeRst := by
  have h : entriesPass (fun _ inst => inst.exec ≠ .opcodeImm16addrR16 ∧
      inst.exec ≠ .opcodeRst) instrIndexCb = true := by decide +kernel
  exact of_decide_eq_true (pass_of_entriesPass h length_instrIndexCb opcode)

theorem wraps_fetchInstruction : Wraps fetchInstruction := by
  intro m
  simp [fetchInstruction]

/-- The instruction of a step, and what follows it. -/
theorem addressSafe_instruction {inst : Instruction} {opcode : UInt8} {m1 : Machine}
    (hfetch : fetchInstruction m = .ok ((inst, opcode), m1))
    (hstore : ¬ (m.cpu.opcode = 0x08 ∧ StoreOverflows m)) :
    AddressSafe (inst.exec.call inst opcode m1) := by
  obtain ⟨c, m2, hc, hfetch⟩ := run_bind_eq_ok.mp hfetch
  cases hc
  split at hfetch
  · obtain ⟨_, m3, hnext, hfetch⟩ := run_bind_eq_ok.mp hfetch
    obtain ⟨c, m4, hc, hfetch⟩ := run_bind_eq_ok.mp hfetch
    cases hc
    cases hfetch
    exact wraps_handler (instructionCb_wraps _).1
      (fun hrst => absurd hrst (instructionCb_wraps _).2) _ _
  · cases hfetch
    obtain ⟨h1, h2⟩ := instruction_wraps m.cpu.opcode
    by_cases hexec : (getInstruction m.cpu.opcode).exec = .opcodeImm16addrR16
    · have hopcode := h1 hexec
      rw [hexec, hopcode]
      exact addressSafe_opcodeImm16addrR16_iff.mpr fun hover => hstore ⟨hopcode, hover⟩
    · exact wraps_handler hexec h2 _ _

/-- **When a step overflows.** -/
theorem addressSafe_step_iff : AddressSafe (step m) ↔ ¬ AddressOverflows m := by
  constructor
  · intro hsafe hover
    obtain ⟨-, hsafe⟩ := failsIn_run_bind.mp hsafe
    obtain ⟨hcheck, hsafe⟩ := failsIn_run_bind.mp (hsafe m.soc m rfl)
    cases hover with
    | dispatch hime hpending hover =>
      exact addressSafe_checkInterrupts_iff.mp hcheck ⟨hime, hpending, hover⟩
    | @store dispatched m1 hrun hrunning hopcode hover =>
      obtain ⟨-, hsafe⟩ := failsIn_run_bind.mp (hsafe dispatched m1 hrun)
      obtain ⟨-, hsafe⟩ := failsIn_run_bind.mp (hsafe () (withImeApplied m1) rfl)
      have hexec := hsafe (withImeApplied m1).cpu (withImeApplied m1) rfl
      rw [if_neg (by rw [withImeApplied_halted, hrunning]; exact nofun)] at hexec
      have hopcode' : (withImeApplied m1).cpu.opcode = 0x08 := by
        rw [withImeApplied_opcode, hopcode]
      have hfetch : fetchInstruction (withImeApplied m1) =
          .ok ((getInstruction 0x08, 0x08), withImeApplied m1) := by
        rw [fetchInstruction, run_bind_of_ok (a := (withImeApplied m1).cpu) rfl, hopcode']
        rfl
      obtain ⟨-, hexec⟩ := failsIn_run_bind.mp hexec
      obtain ⟨hcall, -⟩ := failsIn_run_bind.mp (hexec _ _ hfetch)
      exact addressSafe_opcodeImm16addrR16_iff.mp hcall hover
  · intro hnot
    refine failsIn_run_bind.mpr ⟨wraps_soc m, fun s _ hs => ?_⟩
    cases hs
    refine failsIn_run_bind.mpr ⟨addressSafe_checkInterrupts_iff.mpr fun ⟨hime, hpending, hover⟩ =>
      hnot (.dispatch hime hpending hover), fun dispatched m1 hrun => ?_⟩
    refine failsIn_run_bind.mpr ⟨wraps_modifyCpu _ m1, fun _ _ hime => ?_⟩
    cases hime
    refine failsIn_run_bind.mpr ⟨wraps_cpu _, fun c _ hc => ?_⟩
    cases hc
    refine failsIn_run_ite.mpr ⟨fun _ => by simp, fun hrunning => ?_⟩
    refine failsIn_run_bind.mpr ⟨wraps_fetchInstruction _, fun i m2 hfetch => ?_⟩
    obtain ⟨inst, opcode⟩ := i
    refine failsIn_run_bind.mpr ⟨addressSafe_instruction hfetch ?_, fun _ m3 _ => by
      simp [checkCycles]⟩
    rintro ⟨hopcode, hover⟩
    have hrunning1 : m1.cpu.halted = false := by
      rw [← withImeApplied_halted m1]
      exact Bool.eq_false_iff.mpr hrunning
    exact hnot (.store hrun hrunning1 ((withImeApplied_opcode m1).symm.trans hopcode) hover)

/-! ### Runs -/

theorem addressSafe_round_iff (inputs : List Soc.InputEvent) :
    AddressSafe (Gameboy.round inputs m) ↔ ¬ AddressOverflows m := by
  rw [← addressSafe_step_iff]
  exact failsIn_bind.trans (and_iff_left fun _ _ => failsIn_pure _)

/-- **When a run overflows.** The rounds performed from a machine fail with an overflow of an
address exactly when one of them starts where a step reaches one. -/
theorem addressSafe_exec_iff (m : Machine) (rounds : List (List Soc.InputEvent)) :
    AddressSafe (Machine.exec Gameboy.round rounds m) ↔ ∀ k < rounds.length, ∀ m',
      Machine.exec Gameboy.round (rounds.take k) m = .ok m' → ¬ AddressOverflows m' := by
  refine (Machine.exec_failsIn rounds m).trans ?_
  simp only [addressSafe_round_iff]

/-- LD [0xFFFF], SP -/
def storeAtEnd : Cartridge := programCartridge [0x08, 0xFF, 0xFF]

/-- LD A, 1; LDH [0xFF], A; EI; JP 0xFFFF -/
def jumpToEnd : Cartridge := programCartridge [0x3E, 0x01, 0xE0, 0xFF, 0xFB, 0xC3, 0xFF, 0xFF]

/-- The first step of the one program overflows in the store, and the fifth of the other in the
dispatch of the request that is pending after power-on. -/
theorem not_addressSafe_atEnd :
    (∃ m, Gameboy.boot storeAtEnd ⟨.none, none, none⟩ = .ok m ∧
      Machine.exec Gameboy.round [[]] m = .error (.overflow .storeSp)) ∧
    (∃ m, Gameboy.boot jumpToEnd ⟨.none, none, none⟩ = .ok m ∧ Machine.exec Gameboy.round
      (List.replicate 5 []) m = .error (.overflow .handleInterrupt)) := by
  constructor
  · exact exists_of_error_after (by decide +kernel)
  · exact exists_of_error_after (by decide +kernel)

end Exec

end ZenithGb
