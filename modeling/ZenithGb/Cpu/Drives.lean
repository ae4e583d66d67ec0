import ZenithGb.Gameboy
import ZenithGb.Lib.Stateful
import ZenithGb.Soc.Machine

/-!
# The CPU drives the system

Whatever the CPU does, it does to the system through the operations of `Soc.step`, and it takes no
events from the host. So what holds after every operation of the system holds after every
instruction, and a running emulator never leaves the reachable states of the system: the results on
the components are results on the emulator.

## Main results

* `Exec.drives_step` — a CPU step is a sequence of operations of the system
* `Gameboy.Reachable.soc` — the system of a running emulator is a reachable system
* `Gameboy.round_leads` — a round is a CPU step and then the host's events
-/

namespace ZenithGb

open Outcome

namespace Soc

/-- The operations the CPU performs: all but taking the host's events. -/
def Op.isCpu : Op → Bool
  | .processEvents _ => false
  | _ => true

/-- Perform an operation of the CPU. -/
def cpuStep (op : {op : Op // op.isCpu}) (s : Soc) : Checked Soc := step op.1 s

theorem leads_of_cpuStep {s s' : Soc} (h : Machine.Leads cpuStep s s') :
    Machine.Leads step s s' := by
  refine Machine.Reachable.induction (I := fun t => Machine.Leads step s t) ?_
    (fun op _ _ hs hop => .step op.1 hs hop) h
  rintro _ rfl
  exact .refl _ _

/-- An invariant of the CPU's operations is kept. -/
theorem invariant_of_cpuStep {I : Soc → Prop} {s s' : Soc} (h : Machine.Leads cpuStep s s')
    (hs : I s) (hstep : ∀ op t t', op.isCpu = true → I t → step op t = .ok t' → I t') : I s' := by
  refine Machine.Reachable.induction ?_ (fun op t t' ht hop => hstep op.1 t t' op.2 ht hop) h
  rintro _ rfl
  exact hs

end Soc

namespace Exec

variable {α β : Type} {x : Exec α} {f : α → Exec β}

/-- Whenever `x` returns, the system has been led there by operations of the CPU. -/
def Drives (x : Exec α) : Prop := Does x fun m m' => Machine.Leads Soc.cpuStep m.soc m'.soc

@[grind ←] theorem Drives.bind (hx : Drives x) (hf : ∀ a, Drives (f a)) : Drives (x >>= f) :=
  Does.bind hx hf fun _ _ _ h h' => h.leads h'

/-! ### Access to the two halves -/

@[grind ←] theorem drives_pure (a : α) : Drives (pure a : Exec α) := by
  rintro m _ m' ⟨⟩
  exact .refl _ _

@[grind ←] theorem drives_cpu : Drives cpu := by
  rintro m _ m' ⟨⟩
  exact .refl _ _

@[grind ←] theorem drives_soc : Drives soc := by
  rintro m _ m' ⟨⟩
  exact .refl _ _

@[grind ←] theorem drives_modifyCpu (g : Cpu → Cpu) : Drives (modifyCpu g) := by
  rintro m _ m' ⟨⟩
  exact .refl _ _

@[grind ←] theorem drives_check (y : Checked α) : Drives (check y) := by
  intro m a m' h
  obtain ⟨_, -, h⟩ := bind_eq_ok.mp h
  cases h
  exact .refl _ _

@[grind ←] theorem drives_debugAssert (c : Prop) [Decidable c] : Drives (debugAssert c) :=
  drives_check _

/-- An operation of the system that takes no time. -/
theorem drives_modifySoc {g : Soc → Soc} (op : Soc.Op) (hop : op.isCpu = true)
    (h : ∀ s, Soc.step op s = .ok (g s)) : Drives (modifySoc g) := by
  rintro m _ m' ⟨⟩
  exact .single (i := ⟨op, hop⟩) (h m.soc)

@[grind ←] theorem drives_clock : Drives clock := by
  intro m _ m' h
  obtain ⟨soc, hsoc, h⟩ := bind_eq_ok.mp h
  cases h
  exact .single (i := ⟨.clock, rfl⟩) hsoc

@[grind ←] theorem drives_clockRead (address : UInt16) : Drives (clockRead address) := by
  intro m _ m' h
  obtain ⟨⟨byte, soc⟩, hsoc, h⟩ := bind_eq_ok.mp h
  cases h
  refine .single (i := ⟨.read address, rfl⟩) ?_
  rw [Soc.cpuStep, Soc.step, hsoc]
  rfl

@[grind ←] theorem drives_clockWrite (address : UInt16) (data : UInt8) :
    Drives (clockWrite address data) := by
  intro m _ m' h
  obtain ⟨soc, hsoc, h⟩ := bind_eq_ok.mp h
  cases h
  exact .single (i := ⟨.write address data, rfl⟩) hsoc

theorem drives_setCpuHalted (halted : Bool) :
    Drives (modifySoc (·.setCpuHalted halted)) :=
  drives_modifySoc (.setCpuHalted halted) rfl fun _ => rfl

theorem drives_clearInterrupt (interrupt : UInt8) :
    Drives (modifySoc (·.clearInterrupt interrupt)) :=
  drives_modifySoc (.clearInterrupt interrupt) rfl fun _ => rfl

@[grind ←] theorem drives_cgbSpeedSwitch : Drives (modifySoc (·.cgbSpeedSwitch)) :=
  drives_modifySoc .speedSwitch rfl fun _ => rfl

/-! ### Operands, fetching and the stack -/

@[grind ←] theorem drives_readR8 (r8Encoded : UInt8) : Drives (readR8 r8Encoded) := by
  unfold readR8
  grind

@[grind ←] theorem drives_writeR8 (r8Encoded val : UInt8) : Drives (writeR8 r8Encoded val) := by
  unfold writeR8
  grind

@[grind ←] theorem drives_readR16 (r16Encoded : UInt8) : Drives (readR16 r16Encoded) := by
  unfold readR16
  grind

@[grind ←] theorem drives_writeR16 (r16Encoded : UInt8) (val : UInt16) :
    Drives (writeR16 r16Encoded val) := by
  unfold writeR16
  grind

@[grind ←] theorem drives_readR16stkMsb (r16Encoded : UInt8) :
    Drives (readR16stkMsb r16Encoded) := by
  unfold readR16stkMsb
  grind

@[grind ←] theorem drives_readR16stkLsb (r16Encoded : UInt8) :
    Drives (readR16stkLsb r16Encoded) := by
  unfold readR16stkLsb
  grind

@[grind ←] theorem drives_writeR16stk (r16Encoded : UInt8) (val : UInt16) :
    Drives (writeR16stk r16Encoded val) := by
  unfold writeR16stk
  grind

@[grind ←] theorem drives_setFlag (flag : UInt8) (set : Bool) : Drives (setFlag flag set) :=
  drives_modifyCpu _

@[grind ←] theorem drives_setFlags (z n h c : Bool) : Drives (setFlags z n h c) :=
  drives_modifyCpu _

@[grind ←] theorem drives_clockWriteAtHl (val : UInt8) : Drives (clockWriteAtHl val) :=
  drives_cpu.bind fun _ => drives_clockWrite _ _

@[grind ←] theorem drives_clockReadAtHl : Drives clockReadAtHl :=
  drives_cpu.bind fun _ => drives_clockRead _

@[grind ←] theorem drives_clockConsumeByteFromPc : Drives clockConsumeByteFromPc :=
  drives_cpu.bind fun _ => (drives_modifyCpu _).bind fun _ => drives_clockRead _

@[grind ←] theorem drives_clockConsumeWordFromPc : Drives clockConsumeWordFromPc :=
  drives_clockConsumeByteFromPc.bind fun _ => drives_clockConsumeByteFromPc.bind fun _ =>
    drives_pure _

@[grind ←] theorem drives_clockFetch : Drives clockFetch :=
  drives_clockConsumeByteFromPc.bind fun _ => drives_modifyCpu _

@[grind ←] theorem drives_clockPushU8 (val : UInt8) : Drives (clockPushU8 val) :=
  drives_cpu.bind fun _ => (drives_modifyCpu _).bind fun _ => drives_clockWrite _ _

@[grind ←] theorem drives_clockPopU8 : Drives clockPopU8 :=
  drives_cpu.bind fun _ => (drives_modifyCpu _).bind fun _ => drives_clockRead _

@[grind ←] theorem drives_clockPopU16 : Drives clockPopU16 :=
  drives_clockPopU8.bind fun _ => drives_clockPopU8.bind fun _ => drives_pure _

/-! ### Handlers -/

@[grind ←] theorem drives_clockConsumeSrc (src : OperandKind) (opcode : UInt8) :
    Drives (clockConsumeSrcR8Imm8Hladdr src opcode) := by
  unfold clockConsumeSrcR8Imm8Hladdr
  grind

@[grind ←] theorem drives_inc8 (v : UInt8) : Drives (inc8 v) := by unfold inc8; grind
@[grind ←] theorem drives_dec8 (v : UInt8) : Drives (dec8 v) := by unfold dec8; grind
@[grind ←] theorem drives_rlc (v : UInt8) : Drives (rlc v) := by unfold rlc; grind
@[grind ←] theorem drives_rrc (v : UInt8) : Drives (rrc v) := by unfold rrc; grind
@[grind ←] theorem drives_rl (v : UInt8) : Drives (rl v) := by unfold rl; grind
@[grind ←] theorem drives_rr (v : UInt8) : Drives (rr v) := by unfold rr; grind
@[grind ←] theorem drives_sla (v : UInt8) : Drives (sla v) := by unfold sla; grind
@[grind ←] theorem drives_sra (v : UInt8) : Drives (sra v) := by unfold sra; grind
@[grind ←] theorem drives_swap (v : UInt8) : Drives (swap v) := by unfold swap; grind
@[grind ←] theorem drives_srl (v : UInt8) : Drives (srl v) := by unfold srl; grind
@[grind ←] theorem drives_addSpE8 (e : UInt8) : Drives (addSpE8 e) := by unfold addSpE8; grind
@[grind ←] theorem drives_addA8 (v c : UInt8) : Drives (addA8 v c) := by unfold addA8; grind
@[grind ←] theorem drives_subA8 (v c : UInt8) : Drives (subA8 v c) := by unfold subA8; grind
@[grind ←] theorem drives_cpA8 (v : UInt8) : Drives (cpA8 v) := by unfold cpA8; grind
@[grind ←] theorem drives_carry : Drives carry := by unfold carry; grind
@[grind ←] theorem drives_jump (addr : UInt16) : Drives (jump addr) := by unfold jump; grind
@[grind ←] theorem drives_call (addr : UInt16) : Drives (call addr) := by unfold call; grind
@[grind ←] theorem drives_ret : Drives ret := by unfold ret; grind

@[grind ←] theorem drives_jumpRelative (e : UInt8) : Drives (jumpRelative e) := by
  unfold jumpRelative
  grind

@[grind ←] theorem drives_logicA8 (op : UInt8 → UInt8 → UInt8) (h : Bool) (v : UInt8) :
    Drives (logicA8 op h v) := by
  unfold logicA8
  grind

@[grind ←] theorem drives_rotateA {rotate : UInt8 → Exec UInt8} (h : ∀ v, Drives (rotate v)) :
    Drives (rotateA rotate) :=
  drives_cpu.bind fun _ => (h _).bind fun _ => (drives_modifyCpu _).bind fun _ => drives_setFlag _ _

@[grind ←] theorem drives_branch (taken : Bool) {go : Exec Unit} (h : Drives go) :
    Drives (branch taken go) :=
  Does.ite (fun _ => h) fun _ => drives_modifyCpu _

@[grind ←] theorem drives_clockReadR8Hladdr (r : UInt8) : Drives (clockReadR8Hladdr r) :=
  Does.ite (fun _ => drives_clockReadAtHl) fun _ => drives_readR8 _

@[grind ←] theorem drives_clockWriteR8Hladdr (r data : UInt8) :
    Drives (clockWriteR8Hladdr r data) :=
  Does.ite (fun _ => drives_clockWriteAtHl _) fun _ => drives_writeR8 _ _

@[grind ←] theorem drives_modifyR8Hladdr {compute : UInt8 → Exec UInt8}
    (h : ∀ v, Drives (compute v)) (opcode : UInt8) : Drives (modifyR8Hladdr compute opcode) :=
  (drives_clockReadR8Hladdr _).bind fun v => (h v).bind fun _ => drives_clockWriteR8Hladdr _ _

theorem drives_opcodeHalt : Drives opcodeHalt := by
  refine drives_cpu.bind fun c => drives_soc.bind fun s => Does.ite (fun _ => ?_) fun _ => ?_
  · exact (drives_modifyCpu _).bind fun _ => drives_setCpuHalted true
  · exact drives_pure _

theorem drives_handler (fn : OpcodeFn) (inst : Instruction) (opcode : UInt8) :
    Drives (fn.call inst opcode) := by
  cases fn with
  | opcodeHalt => exact drives_opcodeHalt
  | _ =>
    simp only [OpcodeFn.call, opcodeNop, opcodeLdR16Imm16, opcodeLdBcaddrA, opcodeIncR16,
      opcodeIncR8, opcodeDecR8, opcodeLdR8Imm8, opcodeRlca, opcodeAddHlR16, opcodeLdABcaddr,
      opcodeDecR16, opcodeRrca, opcodeStop, opcodeLdDeaddrA, opcodeRla, opcodeJrE8,
      opcodeLdADeaddr, opcodeRra, opcodeJrCc, opcodeLdHliaddrA, opcodeDaa, opcodeLdAHliaddr,
      opcodeCpl, opcodeLdHldaddrA, opcodeIncR16addr, opcodeDecR16addr, opcodeHladdrImm8, opcodeScf,
      opcodeLdAHldaddr, opcodeCcf, opcodeLdBB, opcodeLdR8R8, opcodeLdR8Hladdr, opcodeHladdrR8,
      opcodeAddR8Imm8Hladdr, opcodeAdc, opcodeSub, opcodeSbc, opcodeAnd, opcodeXor, opcodeOr,
      opcodeCp, opcodeRetCc, opcodePop, opcodeJpCc, opcodeJpA16, opcodeCallCc, opcodePush,
      opcodeRst, opcodeRet, opcodeCallA16, opcodeReti, opcodeLdhR8addrA, opcodeR8addrA,
      opcodeAddSpE8, opcodeJpHl, opcodeImm16addrA, opcodeImm16addrR16, opcodeLdhAR8addr, opcodeR8C,
      opcodeDi, opcodeLdHlSpi, opcodeLdSpHl, opcodeLdAImm16addr, opcodeEi, opcodeRlc, opcodeRrc,
      opcodeRl, opcodeRr, opcodeSla, opcodeSra, opcodeSwap, opcodeSrl, opcodeBit, opcodeRes,
      opcodeSet, opcodePrefix, opcodeIllegalD3, opcodeIllegalDb, opcodeIllegalDd, opcodeIllegalE3,
      opcodeIllegalE4, opcodeIllegalEb, opcodeIllegalEc, opcodeIllegalEd, opcodeIllegalF4,
      opcodeIllegalFc, opcodeIllegalFd, undocumented, andA8, xorA8, orA8]
    grind

/-! ### Interrupts and the step -/

theorem drives_enterInterrupt (active : Option (UInt8 × UInt16)) :
    Drives (enterInterrupt active) := by
  unfold enterInterrupt
  split
  · exact (drives_modifyCpu _).bind fun _ => drives_clearInterrupt _
  · exact drives_modifyCpu _

theorem drives_handleInterrupt : Drives handleInterrupt :=
  drives_clock.bind fun _ => drives_clock.bind fun _ => drives_cpu.bind fun _ =>
    (drives_check _).bind fun _ => (drives_clockPushU8 _).bind fun _ => drives_soc.bind fun _ =>
    (drives_clockPushU8 _).bind fun _ => (drives_enterInterrupt _).bind fun _ =>
    (drives_modifyCpu _).bind fun _ => drives_clockFetch

theorem drives_checkInterrupts : Drives checkInterrupts := by
  refine drives_soc.bind fun s => Does.ite (fun _ => drives_pure _) fun _ => ?_
  refine (drives_modifyCpu _).bind fun _ => (drives_setCpuHalted false).bind fun _ => ?_
  refine drives_cpu.bind fun c => Does.ite (fun _ => drives_pure _) fun _ => ?_
  exact Does.ite (fun _ => drives_handleInterrupt.bind fun _ => drives_pure _) fun _ =>
    drives_pure _

theorem drives_fetchInstruction : Drives fetchInstruction := by
  refine drives_cpu.bind fun c => Does.ite (fun _ => ?_) fun _ => drives_pure _
  exact drives_clockFetch.bind fun _ => drives_cpu.bind fun _ => drives_pure _

theorem drives_checkCycles (inst : Instruction) (isInterruptCycle : Bool) (elapsed : ℕ) :
    Drives (checkCycles inst isInterruptCycle elapsed) :=
  drives_cpu.bind fun _ => drives_check _

/-- **A CPU step** is a sequence of operations of the system. -/
theorem drives_step : Drives step := by
  refine drives_soc.bind fun _ => drives_checkInterrupts.bind fun _ =>
    (drives_modifyCpu _).bind fun _ => drives_cpu.bind fun _ => Does.ite (fun _ => ?_) fun _ => ?_
  · exact drives_clock.bind fun _ => drives_soc.bind fun _ => (drives_check _).bind fun _ =>
      (drives_check _).bind fun _ => drives_pure _
  · exact drives_fetchInstruction.bind fun _ => (drives_handler _ _ _).bind fun _ =>
      drives_clockFetch.bind fun _ => drives_soc.bind fun _ => (drives_check _).bind fun _ =>
      (drives_checkCycles _ _ _).bind fun _ => (drives_modifyCpu _).bind fun _ => drives_pure _

end Exec

namespace Gameboy

/-- The states of a running emulator: after `boot`, and after any rounds of the main loop. -/
def Reachable (m : Machine) : Prop :=
  Machine.Reachable (fun m => ∃ cartridge config, boot cartridge config = .ok m) round m

variable {m m' : Machine}

/-- **A round of the main loop** is a CPU step, and then the host's events. -/
theorem round_leads {inputs : List Soc.InputEvent} (h : round inputs m = .ok m') :
    ∃ t : Machine, Machine.Leads Soc.cpuStep m.soc t.soc ∧
      m' = { t with soc := (t.soc.processEvents inputs).2 } := by
  obtain ⟨⟨n, t⟩, hstep, h⟩ := bind_eq_ok.mp h
  cases h
  exact ⟨t, Exec.drives_step m n t hstep, rfl⟩

theorem boot_eq_ok {cartridge : Cartridge} {config : Config} (h : boot cartridge config = .ok m) :
    Soc.new cartridge config.frameChan config.maxCycles
      (GbCtx.ofMode (compMode cartridge config)) = .ok m.soc := by
  obtain ⟨m1, hnew, h⟩ := bind_eq_ok.mp h
  obtain ⟨cpu, -, h⟩ := bind_eq_ok.mp h
  cases h
  obtain ⟨soc, hsoc, hnew⟩ := bind_eq_ok.mp hnew
  cases hnew
  exact hsoc

/-- **Refinement.** The system of a running emulator is a reachable system, so everything proved of
those holds of it. -/
theorem Reachable.soc (h : Reachable m) : Soc.Reachable m.soc := by
  refine Machine.Reachable.induction (I := fun m => Soc.Reachable m.soc) ?_
    (fun inputs m m' hm hround => ?_) h
  · rintro m ⟨cartridge, config, hboot⟩
    exact .start ⟨_, _, _, _, boot_eq_ok hboot⟩
  · obtain ⟨t, hleads, rfl⟩ := round_leads hround
    have ht := Machine.Reachable.leads hm (Soc.leads_of_cpuStep hleads)
    exact .step (.processEvents inputs) ht rfl

end Gameboy

end ZenithGb
