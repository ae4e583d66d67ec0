import ZenithGb.Apu.Machine
import ZenithGb.Mbc.Totality
import ZenithGb.Serial.Transfer
import ZenithGb.Soc.Requests
import ZenithGb.Timer.Overflow

/-!
# The system on chip: the components by themselves

The pixel unit, the timer, the mapper, the sound unit and the serial port are each verified as a
machine of its own. This file says which operations of these machines a step of the system amounts
to, and that they are all that ever happens to them: a run of the system is, for each component, a
run of that component. The timer and the serial port are clocked in every M-cycle, the other three
in those that tick; what the CPU writes to their addresses comes after the clock, except that the
timer takes a write instead of it. Only the pixel unit is also written by DMA.

## Main results

* `Soc.parts_of_clockWith` — what an M-cycle does to each component
* `Soc.accessed_of_writeBus` — what a write does to them
* `Soc.components` — every run of the system is a run of each of them
-/

namespace ZenithGb

open Outcome

/-! ### Requests -/

theorem ClockContext.setInterrupt_zero (ctx : ClockContext) : ctx.setInterrupt 0 = ctx := by
  rw [setInterrupt, UInt8.or_zero]

/-- What an operation of the timer requests. -/
def Timer.requested (t : Timer) : UInt8 := if t.timaOverflow then interruptBitTimer else 0

/-- The context an operation is given does not matter to the timer. -/
theorem Timer.perform_eq {op : Timer.Op} (hop : op ≠ .resetDiv) (t : Timer) (ctx : ClockContext) :
    t.perform op ctx = ((t.perform op ⟨0, 0⟩).1, ctx.setInterrupt t.requested) := by
  have hclock : ∀ ctx, t.clock ctx = (t.tick.checkIncrement, ctx.setInterrupt t.requested) := by
    intro ctx
    rw [clock_eq, requested]
    split
    · rfl
    · rw [ClockContext.setInterrupt_zero]
  cases op with
  | resetDiv => exact absurd rfl hop
  | clock => rw [perform, perform, hclock, hclock]
  | clockWriteDiv data | clockWriteTac data =>
    simp only [perform, clockWriteDiv, clockWriteTac, hclock]
  | clockWriteTima data | clockWriteTma data =>
    simp only [perform, clockWriteTima, clockWriteTma, hclock]
    cases t.timaOverflow <;> rfl

/-- What a clock of the serial port requests. -/
def Serial.requested (s : Serial) : UInt8 :=
  if s.regEnable && s.regSelect && s.shiftCounter == 8 then interruptBitSerial else 0

/-- The context a clock is given does not matter to the serial port. -/
theorem Serial.clock_eq (s : Serial) (ctx : ClockContext) :
    s.clock ctx = (fun r => (r.1, ctx.setInterrupt s.requested)) <$> s.clock ⟨0, 0⟩ := by
  by_cases henabled : s.Enabled
  · by_cases h8 : s.shiftCounter = 8
    · rw [clock_finish henabled h8, clock_finish henabled h8, requested, henabled.1, henabled.2, h8]
      rfl
    · have hzero : s.requested = 0 := by
        rw [requested, henabled.1, henabled.2]
        simp [h8]
      rw [clock, clock, if_neg henabled.guard, if_neg h8, if_neg henabled.guard, if_neg h8, hzero,
        ctx.setInterrupt_zero]
      -- The bit that is shifted in, if there is one, is all that is left to do.
      by_cases h0 : s.shiftCounter = 0
      · rw [if_pos h0, if_pos h0, h0]
        cases s.printer.sendByte s.sb with
        | error e => rfl
        | ok p =>
          cases hreply : p.output <;>
            simp only [ok_bind, pure_bind, Printer.take, hreply] <;> rfl
      · rw [if_neg h0, if_neg h0]
        cases hreply : s.incoming with
        | none =>
          simp only [pure_bind, hreply]
          rfl
        | some reply =>
          simp only [pure_bind, hreply]
          cases checkedSub .serialClock 7 s.shiftCounter with
          | error e => rfl
          | ok i => cases checkedAdd 8 .serialClock s.shiftCounter 1 <;> rfl
  · have hzero : s.requested = 0 := by
      rw [requested, if_neg]
      intro h
      simp only [Bool.and_eq_true] at h
      exact henabled h.1
    rw [clock_idle henabled, clock_idle henabled, hzero]
    exact congrArg (fun c => Except.ok (s, c)) ctx.setInterrupt_zero.symm

/-- Registers are at 0xFF00-0xFF7F. -/
theorem HwReg.addr_range (r : HwReg) : 0xFF00 ≤ r.addr ∧ r.addr + r.span ≤ 0xFF80 := by
  cases r <;> decide

namespace Soc

variable {s s' t : Soc}

/-! ### What a step asks of a component -/

/-- The operation of the timer in an M-cycle: a write to one of its registers is one. -/
def timerOp (data : UInt8) : HwReg → Timer.Op
  | .div => .clockWriteDiv data
  | .tac => .clockWriteTac data
  | .tima => .clockWriteTima data
  | .tma => .clockWriteTma data
  | _ => .clock

/-- What a write to a register asks of the sound unit. -/
def apuWrite (address : UInt16) (data : UInt8) : HwReg → List Apu.Op
  | .nr10 => [.write .nr10 data]
  | .nr11 => [.write .nr11 data]
  | .nr12 => [.write .nr12 data]
  | .nr13 => [.write .nr13 data]
  | .nr14 => [.write .nr14 data]
  | .nr21 => [.write .nr21 data]
  | .nr22 => [.write .nr22 data]
  | .nr23 => [.write .nr23 data]
  | .nr24 => [.write .nr24 data]
  | .nr30 => [.write .nr30 data]
  | .nr31 => [.write .nr31 data]
  | .nr32 => [.write .nr32 data]
  | .nr33 => [.write .nr33 data]
  | .nr34 => [.write .nr34 data]
  | .nr41 => [.write .nr41 data]
  | .nr42 => [.write .nr42 data]
  | .nr43 => [.write .nr43 data]
  | .nr44 => [.write .nr44 data]
  | .nr50 => [.write .nr50 data]
  | .nr51 => [.write .nr51 data]
  | .nr52 => [.write .nr52 data]
  | .waveRam => [.writeWaveRam address data]
  | _ => []

/-- What it asks of the serial port. -/
def serialWrite (data : UInt8) : HwReg → List Serial.Op
  | .sb => [.writeSb data]
  | .sc => [.writeSc data]
  | _ => []

/-- What it asks of the pixel unit. -/
def ppuWrite (data : UInt8) : HwReg → List Ppu.Op
  | .lcdc => [.writeReg .lcdc data]
  | .stat => [.writeReg .stat data]
  | .ly => [.writeReg .ly data]
  | .scy => [.writeReg .scy data]
  | .scx => [.writeReg .scx data]
  | .lyc => [.writeReg .lyc data]
  | .bgp => [.writeReg .bgp data]
  | .obp0 => [.writeReg .obp0 data]
  | .obp1 => [.writeReg .obp1 data]
  | .wy => [.writeReg .wy data]
  | .wx => [.writeReg .wx data]
  | .vbk => [.writeReg .vbk data]
  | .bcps => [.writeReg .bcps data]
  | .bcpd => [.writeReg .bcpd data]
  | .ocps => [.writeReg .ocps data]
  | .ocpd => [.writeReg .ocpd data]
  | .opri => [.writeReg .opri data]
  | _ => []

/-- What the register at an address asks for, if there is one. -/
def atReg {κ : Type} (work : HwReg → List κ) (address : ℕ) : List κ :=
  ((HwReg.ofAddr address).map work).getD []

/-- The cartridge takes what is written to its ROM and to its RAM. -/
def mbcWrite (address : ℕ) (data : UInt8) : List Mbc.Op :=
  if address ≤ 0x7FFF ∨ 0xA000 ≤ address ∧ address ≤ 0xBFFF then [.write address data] else []

/-- The pixel unit takes what is written to VRAM, to OAM outside a transfer, and to its
registers. -/
def ppuBusWrite (activeDma : Bool) (address : ℕ) (data : UInt8) : List Ppu.Op :=
  if 0x8000 ≤ address ∧ address ≤ 0x9FFF then [.writeVram address data]
  else if h : 0xFE00 ≤ address ∧ address ≤ 0xFE9F then
    if activeDma then [] else [.writeOam ⟨address - 0xFE00, by omega⟩ data]
  else atReg (ppuWrite data) address

/-- The clock of a component that runs at 4 MHz. -/
def clock4MhzWork {κ : Type} (s : Soc) (op : Op) (clock : κ) : List κ :=
  if op.isCycle && s.ticks then [clock] else []

/-- What the CPU's access asks for after the clock: only a write asks for anything. -/
def accessWork {κ : Type} (work : UInt16 → UInt8 → List κ) : Op → List κ
  | .write address data => work address data
  | .clock | .read _ | .clearInterrupt _ | .setCpuHalted _ | .speedSwitch | .processEvents _ => []

def timerWork (s : Soc) : Op → List Timer.Op
  | .clock | .read _ => [.clock]
  | .write address data => [((HwReg.ofAddr address.toNat).map (timerOp data)).getD .clock]
  | .speedSwitch => if s.cpuSpeedArmed then [.resetDiv] else []
  | .clearInterrupt _ | .setCpuHalted _ | .processEvents _ => []

def mbcWork (s : Soc) (op : Op) : List Mbc.Op :=
  s.clock4MhzWork op .clock ++ accessWork (fun address data => mbcWrite address.toNat data) op

def apuWork (s : Soc) (op : Op) : List Apu.Op :=
  s.clock4MhzWork op .clock ++
    accessWork (fun address data => atReg (apuWrite address data) address.toNat) op

def serialWork : Op → List Serial.Op
  | .clock | .read _ => [.clock]
  | .write address data => .clock :: atReg (serialWrite data) address.toNat
  | .clearInterrupt _ | .setCpuHalted _ | .speedSwitch | .processEvents _ => []

/-- What a step asks of the pixel unit: at most one byte of the OAM transfer in progress, the bytes
of VRAM DMA, the clock, and what the CPU writes. -/
structure PpuWork (s : Soc) (op : Op) (oam vram : List Ppu.Op) : Prop where
  oam : oam.length ≤ 1 ∧ ∀ o ∈ oam, op.isCycle = true ∧
    ∃ active i byte, s.activeDma = some active ∧ active.count = (i : Fin 0xA0) ∧ o = .oamDma i byte
  vram : ∀ o ∈ vram, (op.isCycle && s.ticks) = true ∧ s.hdma.isSome = true ∧
    ∃ dst byte, o = .writeVram dst byte

/-- What follows the DMA of a step. -/
def ppuWork (s : Soc) (op : Op) : List Ppu.Op :=
  s.clock4MhzWork op .clock ++
    accessWork (fun address data => ppuBusWrite s.activeDma.isSome address.toNat data) op

/-! ### DMA -/

/-- OAM DMA asks for at most one byte, and nothing of anybody else. -/
theorem DmaStep.oamWork {s1 : Soc} (h : DmaStep s s1) : ∃ oam : List Ppu.Op, oam.length ≤ 1 ∧
    (∀ o ∈ oam, ∃ active i byte,
      s.activeDma = some active ∧ active.count = (i : Fin 0xA0) ∧ o = .oamDma i byte) ∧
    Machine.exec Ppu.step oam s.ppu = .ok s1.ppu := by
  cases h with
  | idle _ he =>
    subst he
    rw [startDma_frame s]
    exact ⟨[], Nat.zero_le 1, List.forall_mem_nil _, rfl⟩
  | copy active i byte hactive hcount _ he =>
    subst he
    rw [startDma_frame]
    refine ⟨[.oamDma i byte], Nat.le_refl 1, fun o ho => ?_, ?_⟩
    · rw [List.mem_singleton] at ho
      exact ⟨active, i, byte, hactive, hcount, ho⟩
    · rw [Machine.exec_singleton]
      exact Ppu.oamDma_eq s.ppu i byte

theorem copyHdma_work {active : Hdma} {start n : ℕ} (h : copyHdma active start n s = .ok s') :
    ∃ vram : List Ppu.Op, (∀ o ∈ vram, ∃ dst byte, o = .writeVram dst byte) ∧
      Machine.exec Ppu.step vram s.ppu = .ok s'.ppu := by
  refine (foldlM_invariant (E := fun _ => True) (I := fun t => ∃ vram : List Ppu.Op,
    (∀ o ∈ vram, ∃ dst byte, o = .writeVram dst byte) ∧
      Machine.exec Ppu.step vram s.ppu = .ok t.ppu) ⟨[], List.forall_mem_nil _, rfl⟩
    fun offset _ t ht => meets_of_ok fun t' ht' => ?_).of_ok h
  obtain ⟨src, -, ht'⟩ := bind_eq_ok.mp ht'
  obtain ⟨dst, -, ht'⟩ := bind_eq_ok.mp ht'
  obtain ⟨byte, -, ht'⟩ := bind_eq_ok.mp ht'
  cases ht'
  obtain ⟨vram, hvram, hexec⟩ := ht
  refine ⟨vram ++ [.writeVram dst byte], fun o ho => ?_, ?_⟩
  · obtain ho | ho := List.mem_append.mp ho
    · exact hvram o ho
    · exact ⟨dst, byte, List.mem_singleton.mp ho⟩
  · rw [Machine.exec_append, hexec, ok_bind, Machine.exec_singleton]
    rfl

/-- VRAM DMA asks for bytes of VRAM, if there is a transfer. -/
theorem HdmaStep.vramWork (h : HdmaStep s s') : ∃ vram : List Ppu.Op,
    (∀ o ∈ vram, s.hdma.isSome = true ∧ ∃ dst byte, o = .writeVram dst byte) ∧
      Machine.exec Ppu.step vram s.ppu = .ok s'.ppu := by
  have hcopy : ∀ {active : Hdma} {start n : ℕ} {t : Soc}, s.hdma = some active →
      copyHdma active start n s = .ok t → ∃ vram : List Ppu.Op,
        (∀ o ∈ vram, s.hdma.isSome = true ∧ ∃ dst byte, o = .writeVram dst byte) ∧
          Machine.exec Ppu.step vram s.ppu = .ok t.ppu := by
    intro active start n t hactive ht
    obtain ⟨vram, hvram, hexec⟩ := copyHdma_work ht
    exact ⟨vram, fun o ho => ⟨by rw [hactive]; rfl, hvram o ho⟩, hexec⟩
  cases h with
  | idle _ he => subst he; exact ⟨[], List.forall_mem_nil _, rfl⟩
  | wait _ _ _ _ he => subst he; exact ⟨[], List.forall_mem_nil _, rfl⟩
  | block active t hactive _ _ _ ht he =>
    have hwork := hcopy hactive ht
    subst he
    exact hwork
  | whole active t hactive _ ht he =>
    have hwork := hcopy hactive ht
    subst he
    exact hwork

/-- Everything else when a cycle comes to clock the components. -/
theorem Cycle.before {s1 s2 : Soc} (h : Cycle s s1 s2 s') : s2 = { s with
    ppu := s2.ppu, activeDma := s2.activeDma, dmaRequest := none, hdma := s2.hdma } := by
  obtain ⟨hdma, oam, hppu⟩ := (dmaStep_of_clockDma h.dma).frame
  obtain ⟨-, vram, hd, hhdma⟩ := h.hdma_frame
  rw [hhdma, hdma]
  rfl

/-- The DMA of a cycle. -/
theorem Cycle.dmaWork {s1 s2 : Soc} (h : Cycle s s1 s2 s') {op : Op} (hop : op.isCycle = true) :
    ∃ oam vram, PpuWork s op oam vram ∧
      Machine.exec Ppu.step (oam ++ vram) s.ppu = .ok s2.ppu := by
  have hdma := dmaStep_of_clockDma h.dma
  obtain ⟨oam, hlen, hoam, hexec⟩ := hdma.oamWork
  have hhdma := h.hdma
  split at hhdma
  · rename_i htick
    obtain ⟨vram, hvram, hexec'⟩ := (hdmaStep_of_clockHdma hhdma).vramWork
    have hsame : s1.hdma = s.hdma := by rw [hdma.frame.1]
    refine ⟨oam, vram, ⟨⟨hlen, fun o ho => ⟨hop, hoam o ho⟩⟩, fun o ho => ?_⟩, ?_⟩
    · rw [hop, htick, ← hsame]
      exact ⟨rfl, hvram o ho⟩
    · rw [Machine.exec_append, hexec]
      exact hexec'
  · subst hhdma
    refine ⟨oam, [], ⟨⟨hlen, fun o ho => ⟨hop, hoam o ho⟩⟩, List.forall_mem_nil _⟩, ?_⟩
    rw [List.append_nil]
    exact hexec

/-! ### One M-cycle -/

/-- An M-cycle from `s` to `s'`, component by component. `ppu` is the pixel unit when its clock
comes, and `ctx` what has been requested after it. -/
structure Parts (timerClock : Timer → ClockContext → Timer × ClockContext) (s s' : Soc) (ppu : Ppu)
    (ctx : ClockContext) : Prop where
  ppu : if s.ticks then ppu.clock ⟨s.rIf, s.eventBits⟩ = .ok (s'.ppu, ctx)
    else s'.ppu = ppu ∧ ctx = ⟨s.rIf, s.eventBits⟩
  timer : s'.timer = (timerClock s.timer ctx).1
  mbc : if s.ticks then s.mbc.clock = .ok s'.mbc else s'.mbc = s.mbc
  apu : if s.ticks then s.apu.clock = .ok s'.apu else s'.apu = s.apu
  serial : s.serial.clock (timerClock s.timer ctx).2 = .ok (s'.serial, ⟨s'.rIf, s'.eventBits⟩)

/-- **M-cycles.** -/
theorem parts_of_clockWith {timerClock : Timer → ClockContext → Timer × ClockContext}
    (h : s.clockWith timerClock = .ok s') :
    ∃ s1 s2 ctx, Cycle s s1 s2 s' ∧ Parts timerClock s s' s2.ppu ctx := by
  obtain ⟨t1, t2, hcycle⟩ := cycle_of_clockWith h
  obtain ⟨s1, hdma, h⟩ := bind_eq_ok.mp h
  obtain ⟨s2, hhdma, h⟩ := bind_eq_ok.mp h
  obtain ⟨⟨ppu, ctx⟩, hppu, h⟩ := bind_eq_ok.mp h
  obtain ⟨mbc, hmbc, h⟩ := bind_eq_ok.mp h
  obtain ⟨apu, hapu, h⟩ := bind_eq_ok.mp h
  obtain ⟨⟨serial, ctx'⟩, hserial, h⟩ := bind_eq_ok.mp h
  obtain ⟨cycles, -, h⟩ := bind_eq_ok.mp h
  have h1 : s1 = t1 := ok_inj.mp (hdma.symm.trans hcycle.dma)
  have h2 : s2 = t2 := by
    have hhdma' := of_clock4Mhz hhdma
    have hcycle' := hcycle.hdma
    rw [h1] at hhdma'
    split at hhdma'
    · rename_i htick
      rw [if_pos htick] at hcycle'
      exact ok_inj.mp (hhdma'.symm.trans hcycle')
    · rename_i htick
      rw [if_neg htick] at hcycle'
      rw [hhdma', hcycle']
  refine ⟨t1, t2, ctx, hcycle, ?_⟩
  have hbefore := hcycle.before
  rw [← h2] at hbefore ⊢
  have hrIf : s2.rIf = s.rIf := by rw [hbefore]
  have hevents : s2.eventBits = s.eventBits := by rw [hbefore]
  have htimer : s2.timer = s.timer := by rw [hbefore]
  have hmbc' : s2.mbc = s.mbc := by rw [hbefore]
  have hapu' : s2.apu = s.apu := by rw [hbefore]
  have hserial' : s2.serial = s.serial := by rw [hbefore]
  cases h
  refine ⟨?_, ?_, ?_, ?_, ?_⟩
  · have h := of_clock4Mhz hppu
    rw [hrIf, hevents] at h
    split at h
    · rename_i htick
      rw [if_pos htick]
      exact h
    · rename_i htick
      rw [if_neg htick]
      exact Prod.mk.inj h
  · rw [← htimer]
  · rw [← hmbc']
    exact of_clock4Mhz hmbc
  · rw [← hapu']
    exact of_clock4Mhz hapu
  · rw [← hserial', ← htimer]
    exact hserial

/-! ### Writes -/

section

variable {κ : Type} {work : HwReg → List κ} {address : ℕ}

theorem atReg_of_some {r : HwReg} (h : HwReg.ofAddr address = some r) :
    atReg work address = work r := by
  rw [atReg, h]
  rfl

theorem atReg_of_none (h : HwReg.ofAddr address = none) : atReg work address = [] := by
  rw [atReg, h]
  rfl

theorem ofAddr_outside (h : address < 0xFF00 ∨ 0xFF80 ≤ address) :
    HwReg.ofAddr address = none := by
  cases hr : HwReg.ofAddr address with
  | none => rfl
  | some r =>
    have hrange := ofAddr_range hr
    have haddr := r.addr_range
    omega

end

/-- What a write that follows its clock does to the components. -/
structure Accessed (s s' : Soc) (activeDma : Bool) (address : UInt16) (data : UInt8) : Prop where
  timer : s'.timer = s.timer
  mbc : Machine.exec Mbc.step (mbcWrite address.toNat data) s.mbc = .ok s'.mbc
  apu : Machine.exec Apu.step (atReg (apuWrite address data) address.toNat) s.apu = .ok s'.apu
  serial : ∀ log, Machine.exec Serial.step (atReg (serialWrite data) address.toNat)
    (s.serial, log) = .ok (s'.serial, log)
  ppu : Machine.exec Ppu.step (ppuBusWrite activeDma address.toNat data) s.ppu = .ok s'.ppu

/-- A write that reaches no component. -/
theorem Accessed.none {activeDma : Bool} {address : UInt16} {data : UInt8}
    (hmbc : mbcWrite address.toNat data = []) (hreg : HwReg.ofAddr address.toNat = none)
    (hppu : ppuBusWrite activeDma address.toNat data = [])
    (hkept : (s'.timer, s'.mbc, s'.apu, s'.serial, s'.ppu) =
      (s.timer, s.mbc, s.apu, s.serial, s.ppu)) : Accessed s s' activeDma address data := by
  simp only [Prod.mk.injEq] at hkept
  obtain ⟨htimer, hm, ha, hs, hp⟩ := hkept
  refine ⟨htimer, ?_, ?_, fun log => ?_, ?_⟩
  · rw [hmbc, hm]; rfl
  · rw [atReg_of_none hreg, ha]; rfl
  · rw [atReg_of_none hreg, hs]; rfl
  · rw [hppu, hp]; rfl

/-- What a write to a register does to the components. -/
theorem regWritten {address : UInt16} {data : UInt8} {r : HwReg}
    (h : s.writeReg address.toNat data r = .ok s') : s'.timer = s.timer ∧ s'.mbc = s.mbc ∧
      Machine.exec Apu.step (apuWrite address data r) s.apu = .ok s'.apu ∧
      (∀ log, Machine.exec Serial.step (serialWrite data r) (s.serial, log) =
        .ok (s'.serial, log)) ∧
      Machine.exec Ppu.step (ppuWrite data r) s.ppu = .ok s'.ppu := by
  have hapu : ∀ {op : Apu.Op} {apu : Apu}, Apu.step op s.apu = .ok apu →
      Machine.exec Apu.step [op] s.apu = .ok apu := fun h =>
    (Machine.exec_singleton _ _ _).trans h
  cases r with
  | nr10 | nr11 | nr12 | nr13 | nr14 | nr21 | nr22 | nr23 | nr24 | nr30 | nr31 | nr32 | nr33 | nr34
  | nr41 | nr42 | nr43 | nr44 =>
    obtain ⟨apu, hwrite, h⟩ := bind_eq_ok.mp h
    cases h
    exact ⟨rfl, rfl, hapu ((Apu.step_write _ _ _).trans hwrite), fun _ => rfl, rfl⟩
  | waveRam =>
    obtain ⟨apu, hwrite, h⟩ := bind_eq_ok.mp h
    cases h
    exact ⟨rfl, rfl, hapu ((Apu.step_writeWaveRam _ _ _).trans hwrite), fun _ => rfl, rfl⟩
  | hdma5 =>
    cases h
    rw [writeHdma5, whenCgb]
    split <;> exact ⟨rfl, rfl, rfl, fun _ => rfl, rfl⟩
  | svbk | key1 | ff72 | ff73 | ff74 | ff75 =>
    cases h
    rw [whenCgb]
    split <;> exact ⟨rfl, rfl, rfl, fun _ => rfl, rfl⟩
  | _ =>
    cases h
    exact ⟨rfl, rfl, rfl, fun _ => rfl, rfl⟩

/-- **Writes.** -/
theorem accessed_of_writeBus {activeDma : Bool} {address : UInt16} {data : UInt8}
    (h : s.writeBus activeDma address.toNat data = .ok s') :
    Accessed s s' activeDma address data := by
  have hmbc : ∀ a, a > 0x7FFF → a < 0xA000 ∨ 0xBFFF < a → mbcWrite a data = [] :=
    fun a ha ha' => if_neg (by omega)
  have hppu : ∀ a, a < 0x8000 ∨ 0x9FFF < a → a < 0xFE00 ∨ 0xFE9F < a →
      ppuBusWrite activeDma a data = atReg (ppuWrite data) a := fun a ha ha' => by
    rw [ppuBusWrite, if_neg (by omega), dif_neg (by omega)]
  have hnone : ∀ a, a < 0x8000 ∨ 0x9FFF < a → a < 0xFE00 ∨ 0xFE9F < a →
      a < 0xFF00 ∨ 0xFF80 ≤ a → ppuBusWrite activeDma a data = [] := fun a ha ha' hout => by
    rw [hppu a ha ha', atReg_of_none (ofAddr_outside hout)]
  by_cases hoam : 0xFE00 ≤ address.toNat ∧ address.toNat ≤ 0xFE9F
  · -- During a transfer the CPU does not reach OAM.
    have hreg : HwReg.ofAddr address.toNat = none := ofAddr_outside (by omega)
    have hlist : ppuBusWrite activeDma address.toNat data =
        if activeDma then [] else [.writeOam ⟨address.toNat - 0xFE00, by omega⟩ data] := by
      rw [ppuBusWrite, if_neg (by omega), dif_pos hoam]
    rw [writeBus, if_neg (by omega), if_neg (by omega), if_neg (by omega), if_neg (by omega),
      if_pos hoam.2] at h
    cases activeDma with
    | true =>
      cases h
      exact .none (hmbc _ (by omega) (by omega)) hreg hlist rfl
    | false =>
      obtain ⟨ppu, hwrite, h⟩ := bind_eq_ok.mp h
      cases h
      refine ⟨rfl, ?_, ?_, fun log => ?_, ?_⟩
      · rw [hmbc _ (by omega) (by omega)]; rfl
      · rw [atReg_of_none hreg]; rfl
      · rw [atReg_of_none hreg]; rfl
      · rw [hlist, if_neg (by decide), Machine.exec_singleton]
        show s.ppu.writeOam (0xFE00 + (address.toNat - 0xFE00)) data = .ok ppu
        rwa [Nat.add_sub_cancel' hoam.1]
  cases stores_of_writeBus h with
  | mbc mbc ha hwrite =>
    have hreg : HwReg.ofAddr address.toNat = none := ofAddr_outside (by omega)
    refine ⟨rfl, ?_, ?_, fun log => ?_, ?_⟩
    · rw [mbcWrite, if_pos ha, Machine.exec_singleton]
      exact hwrite
    · rw [atReg_of_none hreg]; rfl
    · rw [atReg_of_none hreg]; rfl
    · rw [hnone _ (by omega) (by omega) (by omega)]; rfl
  | vram hlo hhi =>
    have hreg : HwReg.ofAddr address.toNat = none := ofAddr_outside (by omega)
    refine ⟨rfl, ?_, ?_, fun log => ?_, ?_⟩
    · rw [hmbc _ (by omega) (by omega)]; rfl
    · rw [atReg_of_none hreg]; rfl
    · rw [atReg_of_none hreg]; rfl
    · rw [ppuBusWrite, if_pos ⟨hlo, hhi⟩, Machine.exec_singleton]
      rfl
  | oam _ hlo hhi => exact absurd ⟨hlo, hhi⟩ hoam
  | locked hlo hhi =>
    exact .none (hmbc _ (by omega) (by omega)) (ofAddr_outside (by omega))
      (hnone _ (by omega) (by omega) (by omega)) rfl
  | wram index wram hlo hhi =>
    exact .none (hmbc _ (by omega) (by omega)) (ofAddr_outside (by omega))
      (hnone _ (by omega) (by omega) (by omega)) rfl
  | unmapped hlo hhi hunmapped =>
    refine .none (hmbc _ (by omega) (by omega)) hunmapped ?_ rfl
    rw [hppu _ (by omega) (by omega), atReg_of_none hunmapped]
  | hram hram hlo hhi =>
    exact .none (hmbc _ (by omega) (by omega)) (ofAddr_outside (by omega))
      (hnone _ (by omega) (by omega) (by omega)) rfl
  | ie hlo =>
    exact .none (hmbc _ (by omega) (by omega)) (ofAddr_outside (by omega))
      (hnone _ (by omega) (by omega) (by omega)) rfl
  | reg r _ hr hwrite =>
    obtain ⟨htimer, hm, ha, hs, hp⟩ := regWritten hwrite
    have hrange := ofAddr_range hr
    have haddr := r.addr_range
    refine ⟨htimer, ?_, ?_, fun log => ?_, ?_⟩
    · rw [hmbc _ (by omega) (by omega), hm]; rfl
    · rw [atReg_of_some hr]; exact ha
    · rw [atReg_of_some hr]; exact hs log
    · rw [hppu _ (by omega) (by omega), atReg_of_some hr]; exact hp

/-! ### Steps -/

/-- What follows the cycle of an operation. -/
inductive AfterCycle (s t s' : Soc) : Op → Prop
  | clock : s' = t → AfterCycle s t s' .clock
  | read (address : UInt16) : s' = t → AfterCycle s t s' (.read address)
  | write (address : UInt16) (data : UInt8) : Accessed t s' s.activeDma.isSome address data →
      s'.rIf = (if address.toNat = 0xFF0F then data &&& 0x1F else t.rIf) →
      AfterCycle s t s' (.write address data)

/-- **Steps.** A step that takes an M-cycle clocks the timer or writes to it, and then reaches the
other components. -/
theorem cycle_of_step {op : Op} (hop : op.isCycle = true) (h : step op s = .ok s') :
    ∃ top t, top ≠ .resetDiv ∧ s.timerWork op = [top] ∧ s.clockWith (Timer.perform top) = .ok t ∧
      AfterCycle s t s' op := by
  cases op with
  | clock =>
    rw [step, clock_eq_clockWith] at h
    exact ⟨.clock, s', by decide, rfl, h, .clock rfl⟩
  | read address =>
    obtain ⟨⟨byte, t⟩, hr, rfl⟩ := map_eq_ok.mp h
    obtain ⟨t', hclock, hr⟩ := bind_eq_ok.mp hr
    obtain ⟨byte', -, hr⟩ := bind_eq_ok.mp hr
    cases hr
    rw [clock_eq_clockWith] at hclock
    exact ⟨.clock, t, by decide, rfl, hclock, .read address rfl⟩
  | write address data =>
    rw [step, clockWrite] at h
    cases hr : HwReg.ofAddr address.toNat with
    | none =>
      rw [hr] at h
      obtain ⟨t, hclock, hwrite⟩ := bind_eq_ok.mp h
      rw [clock_eq_clockWith] at hclock
      exact ⟨.clock, t, by decide, by rw [timerWork, hr]; rfl, hclock,
        .write address data (accessed_of_writeBus hwrite)
          (interrupts_of_writeBus (Nat.le_of_lt_succ address.toNat_lt) hwrite).1⟩
    | some r =>
      rw [hr] at h
      have hwork : s.timerWork (.write address data) = [timerOp data r] := by
        rw [timerWork, hr]
        rfl
      rw [hwork]
      -- The timer's registers are written in the cycle, and no other component is at them.
      have htimer : ∀ {cb : Timer → UInt8 → ClockContext → Timer × ClockContext},
          timerWriteOf r = some cb → apuWrite address data r = [] → serialWrite data r = [] →
          ppuWrite data r = [] → Accessed s' s' s.activeDma.isSome address data ∧
            s'.rIf = if address.toNat = 0xFF0F then data &&& 0x1F else s'.rIf := by
        intro cb hcb hapu hserial hppu
        have hrange := timerWriteOf_range
          (by rw [hr]; exact hcb : (HwReg.ofAddr address.toNat).bind timerWriteOf = some cb)
        refine ⟨⟨rfl, ?_, ?_, fun log => ?_, ?_⟩, (if_neg (by omega)).symm⟩
        · rw [mbcWrite, if_neg (by omega)]; rfl
        · rw [atReg_of_some hr, hapu]; rfl
        · rw [atReg_of_some hr, hserial]; rfl
        · rw [ppuBusWrite, if_neg (by omega), dif_neg (by omega), atReg_of_some hr, hppu]; rfl
      cases r with
      | div | tac | tima | tma =>
        refine ⟨timerOp data _, s', fun he => ?_, rfl, h, ?_⟩
        · cases he
        · obtain ⟨haccess, hrif⟩ := htimer rfl rfl rfl rfl
          exact .write address data haccess hrif
      | _ =>
        obtain ⟨t, hclock, hwrite⟩ := bind_eq_ok.mp h
        rw [clock_eq_clockWith] at hclock
        exact ⟨.clock, t, by decide, rfl, hclock, .write address data (accessed_of_writeBus hwrite)
          (interrupts_of_writeBus (Nat.le_of_lt_succ address.toNat_lt) hwrite).1⟩
  | clearInterrupt _ | setCpuHalted _ | speedSwitch | processEvents _ => cases hop

/-- A step, component by component. -/
structure Works (s s' : Soc) (op : Op) (oam vram : List Ppu.Op) : Prop where
  dma : PpuWork s op oam vram
  ppu : Machine.exec Ppu.step (oam ++ vram ++ s.ppuWork op) s.ppu = .ok s'.ppu
  timer : Machine.exec Timer.step (s.timerWork op) s.timer = .ok s'.timer
  mbc : Machine.exec Mbc.step (s.mbcWork op) s.mbc = .ok s'.mbc
  apu : Machine.exec Apu.step (s.apuWork op) s.apu = .ok s'.apu
  serial : ∀ log, ∃ log',
    Machine.exec Serial.step (serialWork op) (s.serial, log) = .ok (s'.serial, log')

theorem exec_clock4Mhz {κ α : Type} {cstep : κ → α → Checked α} {clock : κ} {a b : α} {op : Op}
    (hop : op.isCycle = true) (h : if s.ticks then cstep clock a = .ok b else b = a) :
    Machine.exec cstep (s.clock4MhzWork op clock) a = .ok b := by
  rw [clock4MhzWork, hop, Bool.true_and]
  split
  · rename_i htick
    rw [if_pos htick] at h
    rwa [Machine.exec_singleton]
  · rename_i htick
    rw [if_neg htick] at h
    rw [h]
    rfl

/-- What a step that takes no M-cycle does to the components: a speed switch resets DIV. -/
theorem works_aside {op : Op} (hop : op.isCycle = false) (h : step op s = .ok s') :
    Works s s' op [] [] := by
  have hdma : PpuWork s op [] [] :=
    ⟨⟨Nat.zero_le 1, List.forall_mem_nil _⟩, List.forall_mem_nil _⟩
  cases op with
  | clock | read _ | write _ _ => cases hop
  | clearInterrupt interrupt => cases h; exact ⟨hdma, rfl, rfl, rfl, rfl, fun log => ⟨log, rfl⟩⟩
  | setCpuHalted halted => cases h; exact ⟨hdma, rfl, rfl, rfl, rfl, fun log => ⟨log, rfl⟩⟩
  | speedSwitch =>
    cases h
    rw [cgbSpeedSwitch]
    cases harmed : s.cpuSpeedArmed with
    | false =>
      refine ⟨hdma, rfl, ?_, rfl, rfl, fun log => ⟨log, rfl⟩⟩
      rw [timerWork, harmed]
      rfl
    | true =>
      refine ⟨hdma, rfl, ?_, rfl, rfl, fun log => ⟨log, rfl⟩⟩
      rw [timerWork, harmed]
      rfl
  | processEvents inputs =>
    cases h
    rw [processEvents]
    split
    · exact ⟨hdma, rfl, rfl, rfl, rfl, fun log => ⟨log, rfl⟩⟩
    · rw [inputUpdate]
      dsimp only
      split <;> exact ⟨hdma, rfl, rfl, rfl, rfl, fun log => ⟨log, rfl⟩⟩

/-- **Steps of the components.** -/
theorem works_of_step {op : Op} (h : step op s = .ok s') : ∃ oam vram, Works s s' op oam vram := by
  cases hop : op.isCycle with
  | false => exact ⟨[], [], works_aside hop h⟩
  | true =>
    obtain ⟨top, t, htop, htimer, hclock, hafter⟩ := cycle_of_step hop h
    obtain ⟨s1, s2, ctx, hcycle, hparts⟩ := parts_of_clockWith hclock
    obtain ⟨oam, vram, hwork, hdma⟩ := hcycle.dmaWork hop
    -- Each component is clocked from `s` to `t`, and written from `t` to `s'`.
    have hppu : Machine.exec Ppu.step (oam ++ vram ++ s.clock4MhzWork op .clock) s.ppu =
        .ok t.ppu := by
      rw [Machine.exec_append, hdma]
      exact exec_clock4Mhz hop hcycle.ppu
    have hmbc : Machine.exec Mbc.step (s.clock4MhzWork op .clock) s.mbc = .ok t.mbc :=
      exec_clock4Mhz hop hparts.mbc
    have hapu : Machine.exec Apu.step (s.clock4MhzWork op .clock) s.apu = .ok t.apu := by
      refine exec_clock4Mhz hop ?_
      rw [Apu.step_clock]
      exact hparts.apu
    have htick : Timer.step top s.timer = .ok t.timer := by
      rw [hparts.timer, Timer.perform_eq htop]
      rfl
    have hserial : ∀ log, ∃ log',
        Serial.step .clock (s.serial, log) = .ok (t.serial, log') := by
      intro log
      obtain ⟨r, hr, heq⟩ := map_eq_ok.mp ((Serial.clock_eq _ _).symm.trans hparts.serial)
      refine ⟨log ++ [r.2.interrupts], ?_⟩
      rw [← (Prod.mk.inj heq).1]
      show (s.serial.clock ⟨0, 0⟩ >>= _) = _
      rw [hr]
      rfl
    have htimer' : Machine.exec Timer.step (s.timerWork op) s.timer = .ok t.timer := by
      rw [htimer, Machine.exec_singleton]
      exact htick
    refine ⟨oam, vram, ?_⟩
    cases hafter with
    | clock he | read _ he =>
      subst he
      refine ⟨hwork, ?_, htimer', ?_, ?_, fun log => ?_⟩
      · show Machine.exec _ (oam ++ vram ++ (s.clock4MhzWork _ .clock ++ [])) _ = _
        rw [List.append_nil]
        exact hppu
      · show Machine.exec _ (s.clock4MhzWork _ Mbc.Op.clock ++ []) _ = _
        rw [List.append_nil]
        exact hmbc
      · show Machine.exec _ (s.clock4MhzWork _ Apu.Op.clock ++ []) _ = _
        rw [List.append_nil]
        exact hapu
      · obtain ⟨log', hlog⟩ := hserial log
        exact ⟨log', (Machine.exec_singleton _ _ _).trans hlog⟩
    | write address data haccess =>
      refine ⟨hwork, ?_, ?_, ?_, ?_, fun log => ?_⟩
      · rw [ppuWork, ← List.append_assoc, Machine.exec_append, hppu]
        exact haccess.ppu
      · rw [haccess.timer]; exact htimer'
      · rw [mbcWork, Machine.exec_append, hmbc]
        exact haccess.mbc
      · rw [apuWork, Machine.exec_append, hapu]
        exact haccess.apu
      · obtain ⟨log', hlog⟩ := hserial log
        refine ⟨log', ?_⟩
        rw [serialWork, Machine.exec_cons, hlog]
        exact haccess.serial log'

/-! ### Runs -/

/-- A part of the system that its own machine moves. -/
theorem exec_part {κ α : Type} {cstep : κ → α → Checked α} (r : Machine.Run step) (f : Soc → α)
    (work : ℕ → List κ)
    (hstep : ∀ k < r.length,
      Machine.exec cstep (work k) (f (r.state k)) = .ok (f (r.state (k + 1)))) {k : ℕ}
    (hk : k ≤ r.length) :
    Machine.exec cstep ((List.range k).flatMap work) (f (r.state 0)) = .ok (f (r.state k)) := by
  obtain ⟨a, ha, he⟩ := (r.part (R := fun s a => a = f s) (t := f (r.state 0)) rfl work
    (fun j hj a ha => by rw [ha, hstep j hj]; rfl) k hk).exists_ok
  rw [ha, he]

/-- **The components.** Every run of the system is a run of each of its components: what the system
does to them is what the works of its steps say, in order, and nothing else happens to them. -/
theorem components (r : Machine.Run step) : ∃ oam vram : ℕ → List Ppu.Op,
    (∀ k < r.length, PpuWork (r.state k) (r.input k) (oam k) (vram k)) ∧ ∀ k ≤ r.length,
      Machine.exec Ppu.step
          ((List.range k).flatMap fun i => oam i ++ vram i ++ (r.state i).ppuWork (r.input i))
          (r.state 0).ppu = .ok (r.state k).ppu ∧
        Machine.exec Timer.step ((List.range k).flatMap fun i => (r.state i).timerWork (r.input i))
          (r.state 0).timer = .ok (r.state k).timer ∧
        Machine.exec Mbc.step ((List.range k).flatMap fun i => (r.state i).mbcWork (r.input i))
          (r.state 0).mbc = .ok (r.state k).mbc ∧
        Machine.exec Apu.step ((List.range k).flatMap fun i => (r.state i).apuWork (r.input i))
          (r.state 0).apu = .ok (r.state k).apu ∧
        ∃ log, Machine.exec Serial.step ((List.range k).flatMap fun i => serialWork (r.input i))
          ((r.state 0).serial, []) = .ok ((r.state k).serial, log) := by
  have hstep : ∀ k, ∃ oam vram, k < r.length →
      Works (r.state k) (r.state (k + 1)) (r.input k) oam vram := by
    intro k
    by_cases hk : k < r.length
    · obtain ⟨oam, vram, hworks⟩ := works_of_step (r.next k hk)
      exact ⟨oam, vram, fun _ => hworks⟩
    · exact ⟨[], [], fun h => absurd h hk⟩
  choose oam vram hworks using hstep
  refine ⟨oam, vram, fun k hk => (hworks k hk).dma, fun k hk => ⟨?_, ?_, ?_, ?_, ?_⟩⟩
  · exact exec_part r Soc.ppu _ (fun j hj => (hworks j hj).ppu) hk
  · exact exec_part r Soc.timer _ (fun j hj => (hworks j hj).timer) hk
  · exact exec_part r Soc.mbc _ (fun j hj => (hworks j hj).mbc) hk
  · exact exec_part r Soc.apu _ (fun j hj => (hworks j hj).apu) hk
  · have hserial : ∀ j < r.length, ∀ a : Serial × List UInt8, a.1 = (r.state j).serial →
        Total (Machine.exec Serial.step (serialWork (r.input j)) a)
          fun a => a.1 = (r.state (j + 1)).serial := by
      intro j hj a ha
      obtain ⟨log', hlog⟩ := (hworks j hj).serial a.2
      rw [← ha] at hlog
      rw [show a = (a.1, a.2) from rfl, hlog]
      rfl
    obtain ⟨⟨serial, log⟩, hexec, hserial⟩ :=
      (r.part (R := fun s a => a.1 = s.serial) (t := ((r.state 0).serial, [])) rfl
        (fun i => serialWork (r.input i)) hserial k hk).exists_ok
    have hserial : serial = (r.state k).serial := hserial
    exact ⟨log, by rw [hexec, hserial]⟩

end Soc

end ZenithGb
