import ZenithGb.Ppu.Machine
import ZenithGb.Soc.Bus

/-!
# The system on chip: what a step does

The system is a machine driven by the CPU: bus accesses, plain clocks, and the few calls that take
no time. Every M-cycle, whatever it is for, is a `Cycle`: OAM DMA, then VRAM DMA, then the pixel
unit, then the rest. What a write does after its cycle is a `BusWrite`. The two DMA engines are
verified from these, without unfolding the clock or the memory map again.

## Main results

* `Soc.cycle_of_clockWith` — what an M-cycle does
* `Soc.busWrite_of_writeBus` — what a write does
* `Soc.effect_of_step` — what a step does
* `Soc.Reachable.ppu` — the pixel unit of a reachable system is a reachable pixel unit
-/

namespace ZenithGb

open Outcome

namespace Soc

variable {s s' : Soc}

/-! ### One M-cycle -/

/-- Whether the components that run at 4 MHz are clocked in this M-cycle. -/
def ticks (s : Soc) : Bool := !s.cpuSpeed || s.cycles &&& 0x1 == 0

/-- An M-cycle, with what it does to the timer left open. -/
def clockWith (timerClock : Timer → ClockContext → Timer × ClockContext) (s : Soc) :
    Checked Soc := do
  let cycle := s.cycles
  let doubleSpeed := s.cpuSpeed
  let s ← s.clockDma
  let s ← clock4Mhz doubleSpeed cycle clockHdma s
  let ctx : ClockContext := ⟨s.rIf, s.eventBits⟩
  let (ppu, ctx) ← clock4Mhz doubleSpeed cycle (fun c => c.1.clock c.2) (s.ppu, ctx)
  let (timer, ctx) := timerClock s.timer ctx
  let mbc ← clock4Mhz doubleSpeed cycle Mbc.clock s.mbc
  let apu ← clock4Mhz doubleSpeed cycle Apu.clock s.apu
  let (serial, ctx) ← s.serial.clock ctx
  let cycles ← checkedAdd 64 .socClock s.cycles 1
  return { s with
    ppu, timer, mbc, apu, serial, cycles, rIf := ctx.interrupts, eventBits := ctx.events }

theorem clock_eq_clockWith (s : Soc) : s.clock = s.clockWith Timer.clock := rfl

theorem clockTimerWrite_eq_clockWith (s : Soc)
    (clockCb : Timer → UInt8 → ClockContext → Timer × ClockContext) (data : UInt8) :
    s.clockTimerWrite clockCb data = s.clockWith fun timer => clockCb timer data := rfl

theorem of_clock4Mhz {α : Type} {cb : α → Checked α} {a b : α}
    (h : clock4Mhz s.cpuSpeed s.cycles cb a = .ok b) : if s.ticks then cb a = .ok b else b = a := by
  rw [clock4Mhz] at h
  rw [ticks]
  split at h
  · rename_i ht; rwa [if_pos ht]
  · rename_i ht; rw [if_neg ht]; exact (ok_inj.mp h).symm

/-- An M-cycle from `s` to `s'`, with the states after OAM DMA and after VRAM DMA. -/
structure Cycle (s s1 s2 s' : Soc) : Prop where
  dma : s.clockDma = .ok s1
  hdma : if s.ticks then clockHdma s1 = .ok s2 else s2 = s1
  ppu : if s.ticks then Ppu.step .clock s2.ppu = .ok s'.ppu else s'.ppu = s2.ppu
  cycles : s'.cycles = s2.cycles + 1
  rest : s' = { s2 with
    ppu := s'.ppu, timer := s'.timer, mbc := s'.mbc, apu := s'.apu, serial := s'.serial
    cycles := s'.cycles, rIf := s'.rIf, eventBits := s'.eventBits }

theorem cycle_of_clockWith {timerClock : Timer → ClockContext → Timer × ClockContext}
    (h : s.clockWith timerClock = .ok s') : ∃ s1 s2, Cycle s s1 s2 s' := by
  obtain ⟨s1, hdma, h⟩ := bind_eq_ok.mp h
  obtain ⟨s2, hhdma, h⟩ := bind_eq_ok.mp h
  obtain ⟨⟨ppu, ctx⟩, hppu, h⟩ := bind_eq_ok.mp h
  obtain ⟨mbc, -, h⟩ := bind_eq_ok.mp h
  obtain ⟨apu, -, h⟩ := bind_eq_ok.mp h
  obtain ⟨⟨serial, ctx'⟩, -, h⟩ := bind_eq_ok.mp h
  obtain ⟨cycles, hcycles, h⟩ := bind_eq_ok.mp h
  cases h
  refine ⟨s1, s2, hdma, ?_, ?_, (checkedAdd_eq_ok.mp hcycles).2.symm, rfl⟩
  · exact of_clock4Mhz hhdma
  · have h := of_clock4Mhz hppu
    split at h
    · rename_i ht
      rw [if_pos ht]
      exact Ppu.step_of_clock h
    · rename_i ht
      rw [if_neg ht]
      exact congrArg Prod.fst h

/-! ### OAM DMA -/

theorem startDma_of_none (h : s.dmaRequest = none) : s.startDma = s := by
  rw [startDma, h]

theorem startDma_of_some {d : UInt8} (h : s.dmaRequest = some d) :
    s.startDma = { s with
      dmaRequest := none
      activeDma := some { src := (value d 0x0).toNat, count := 0, cycles := 1 } } := by
  rw [startDma, h]

theorem startDma_frame (s : Soc) :
    s.startDma = { s with activeDma := s.startDma.activeDma, dmaRequest := none } := by
  cases h : s.dmaRequest with
  | none => rw [startDma_of_none h, ← h]
  | some d => rw [startDma_of_some h]

/-- The transfer after the byte it is at. -/
def nextTransfer (active : DmaTransfer) : Option DmaTransfer :=
  if active.count + 1 > 0x9F then none
  else some { active with cycles := active.cycles + 1, count := active.count + 1 }

/-- The system after one byte of a transfer. -/
def copyOamByte (s : Soc) (active : DmaTransfer) (i : Fin 0xA0) (byte : UInt8) : Soc :=
  { s with
    ppu := { s.ppu with oam := s.ppu.oam.put i byte }
    activeDma := nextTransfer active }

/-- Clocking OAM DMA copies the next byte of an active transfer, and then takes up a request. -/
inductive DmaStep (s s1 : Soc) : Prop
  | idle : s.activeDma = none → s1 = s.startDma → DmaStep s s1
  | copy (active : DmaTransfer) (i : Fin 0xA0) (byte : UInt8) : s.activeDma = some active →
      active.count = i → s.dmaRead .dmaRead (oamDmaAddress (active.src + i)) = .ok byte →
      s1 = (s.copyOamByte active i byte).startDma → DmaStep s s1

theorem dmaStep_of_clockDma {s1 : Soc} (h : s.clockDma = .ok s1) : DmaStep s s1 := by
  rw [clockDma] at h
  cases hactive : s.activeDma with
  | none =>
    rw [hactive] at h
    exact .idle hactive (ok_inj.mp h).symm
  | some active =>
    rw [hactive] at h
    obtain ⟨s2, hstep, h⟩ := bind_eq_ok.mp h
    obtain ⟨dst, hdst, hstep⟩ := bind_eq_ok.mp hstep
    obtain ⟨-, -, hstep⟩ := bind_eq_ok.mp hstep
    obtain ⟨byte, hbyte, hstep⟩ := bind_eq_ok.mp hstep
    obtain ⟨ppu, hppu, hstep⟩ := bind_eq_ok.mp hstep
    obtain ⟨cycles, hcycles, hstep⟩ := bind_eq_ok.mp hstep
    obtain ⟨count, hcount, hstep⟩ := bind_eq_ok.mp hstep
    obtain ⟨-, rfl⟩ := checkedAdd_eq_ok.mp hdst
    obtain ⟨-, rfl⟩ := checkedAdd_eq_ok.mp hcycles
    obtain ⟨hlt, rfl⟩ := checkedAdd_eq_ok.mp hcount
    obtain ⟨oam, hoam, hppu⟩ := bind_eq_ok.mp hppu
    obtain ⟨hi, rfl⟩ := Mem.set_eq_ok.mp hoam
    cases hppu
    cases hstep
    have hindex : (0xFE00 + active.count) &&& 0xFF = active.count := by
      rw [show (0xFF : ℕ) = 2 ^ 8 - 1 from rfl, Nat.and_two_pow_sub_one_eq_mod]
      omega
    refine .copy active ⟨_, hi⟩ byte hactive hindex.symm ?_ (ok_inj.mp h).symm
    show s.dmaRead .dmaRead (oamDmaAddress (active.src + ((0xFE00 + active.count) &&& 0xFF))) = _
    rwa [hindex]

/-- OAM DMA touches OAM, the transfer and the request. -/
theorem DmaStep.frame {s1 : Soc} (h : DmaStep s s1) :
    s1 = { s with ppu := s1.ppu, activeDma := s1.activeDma, dmaRequest := none } ∧
      ∃ oam, s1.ppu = { s.ppu with oam } := by
  cases h with
  | idle _ he =>
    subst he
    rw [startDma_frame s]
    exact ⟨rfl, _, rfl⟩
  | copy active i byte _ _ _ he =>
    subst he
    rw [startDma_frame]
    exact ⟨rfl, _, rfl⟩

theorem DmaStep.ppu {s1 : Soc} (h : DmaStep s s1) : Machine.Leads Ppu.step s.ppu s1.ppu := by
  cases h with
  | idle _ he =>
    subst he
    rw [startDma_frame s]
    exact .refl _ _
  | copy active i byte _ _ _ he =>
    subst he
    rw [startDma_frame]
    exact .single (i := .oamDma i byte) (Ppu.oamDma_eq s.ppu i byte)

/-! ### VRAM DMA -/

/-- The system with other contents of VRAM. -/
def withVram (s : Soc) (vram : Mem 0x4000 UInt8) : Soc := { s with ppu := { s.ppu with vram } }

/-- What a byte of VRAM DMA writes through: nothing in mode 3. -/
theorem writeVram_eq_withVram (s : Soc) (addr : ℕ) (data : UInt8) :
    ∃ vram, ({ s with ppu := s.ppu.writeVram addr data } : Soc) = s.withVram vram := by
  rw [Ppu.writeVram]
  split
  · exact ⟨s.ppu.vram, rfl⟩
  · exact ⟨_, rfl⟩

/-- Copying touches VRAM. -/
theorem copyHdma_frame {active : Hdma} {start n : ℕ} (h : copyHdma active start n s = .ok s') :
    Machine.Leads Ppu.step s.ppu s'.ppu ∧ ∃ vram, s' = s.withVram vram := by
  refine (foldlM_invariant (E := fun _ => True)
    (I := fun t => Machine.Leads Ppu.step s.ppu t.ppu ∧ ∃ vram, t = s.withVram vram)
    ⟨.refl _ _, s.ppu.vram, rfl⟩ fun offset _ t ht => meets_of_ok fun t' ht' => ?_).of_ok h
  obtain ⟨src, -, ht'⟩ := bind_eq_ok.mp ht'
  obtain ⟨dst, -, ht'⟩ := bind_eq_ok.mp ht'
  obtain ⟨byte, -, ht'⟩ := bind_eq_ok.mp ht'
  cases ht'
  obtain ⟨hleads, vram, rfl⟩ := ht
  obtain ⟨vram', hvram'⟩ := writeVram_eq_withVram (s.withVram vram) dst byte
  exact ⟨.step (.writeVram dst byte) hleads rfl, vram', hvram'⟩

/-- Clocking VRAM DMA: nothing, the next block of an HBlank transfer, or the whole of a general
one. -/
inductive HdmaStep (s s' : Soc) : Prop
  | idle : s.hdma = none → s' = s → HdmaStep s s'
  | wait (active : Hdma) : s.hdma = some active → active.hblankDma = true →
      (s.ppu.hblankCycle && !s.cpuHalted) = false → s' = s → HdmaStep s s'
  | block (active : Hdma) (t : Soc) : s.hdma = some active → active.hblankDma = true →
      (s.ppu.hblankCycle && !s.cpuHalted) = true → active.count ≤ active.initial →
      copyHdma active active.count (min 0x10 (active.initial - active.count)) s = .ok t →
      s' = { t with
        hdma :=
          if active.initial - (active.count + min 0x10 (active.initial - active.count)) = 0
          then none
          else some { active with
            count := active.count + min 0x10 (active.initial - active.count) } } →
      HdmaStep s s'
  | whole (active : Hdma) (t : Soc) : s.hdma = some active → active.hblankDma = false →
      copyHdma active 0 active.initial s = .ok t → s' = { t with hdma := none } → HdmaStep s s'

theorem hdmaStep_of_clockHdma (h : clockHdma s = .ok s') : HdmaStep s s' := by
  rw [clockHdma] at h
  cases hhdma : s.hdma with
  | none =>
    rw [hhdma] at h
    exact .idle hhdma (ok_inj.mp h).symm
  | some active =>
    rw [hhdma] at h
    dsimp only at h
    split at h
    · rename_i hblank
      by_cases hflag : (s.ppu.getHblankCycle && !s.cpuHalted) = true
      · rw [if_pos hflag] at h
        obtain ⟨left, hleft, h⟩ := bind_eq_ok.mp h
        obtain ⟨hle, rfl⟩ := checkedSub_eq_ok.mp hleft
        obtain ⟨count, hcount, h⟩ := bind_eq_ok.mp h
        obtain ⟨-, rfl⟩ := checkedAdd_eq_ok.mp hcount
        obtain ⟨t, ht, h⟩ := bind_eq_ok.mp h
        obtain ⟨left', hleft', h⟩ := bind_eq_ok.mp h
        obtain ⟨-, rfl⟩ := checkedSub_eq_ok.mp hleft'
        exact .block active t hhdma hblank hflag hle ht (pure_eq_ok.mp h).symm
      · rw [if_neg hflag] at h
        exact .wait active hhdma hblank (Bool.not_eq_true _ ▸ hflag) (ok_inj.mp h).symm
    · rename_i hblank
      obtain ⟨t, ht, h⟩ := bind_eq_ok.mp h
      exact .whole active t hhdma (by simpa using hblank) ht (pure_eq_ok.mp h).symm

/-- VRAM DMA touches VRAM and the transfer. -/
theorem HdmaStep.frame (h : HdmaStep s s') :
    Machine.Leads Ppu.step s.ppu s'.ppu ∧
      ∃ vram hdma, s' = { s.withVram vram with hdma } := by
  have hnothing : Machine.Leads Ppu.step s.ppu s.ppu ∧
      ∃ vram hdma, s = { s.withVram vram with hdma } := ⟨.refl _ _, s.ppu.vram, s.hdma, rfl⟩
  cases h with
  | idle _ he => subst he; exact hnothing
  | wait _ _ _ _ he => subst he; exact hnothing
  | block active t _ _ _ _ ht he =>
    obtain ⟨hleads, vram, rfl⟩ := copyHdma_frame ht
    subst he
    exact ⟨hleads, vram, _, rfl⟩
  | whole active t _ _ ht he =>
    obtain ⟨hleads, vram, rfl⟩ := copyHdma_frame ht
    subst he
    exact ⟨hleads, vram, _, rfl⟩

/-! ### What an M-cycle leaves alone -/

section

variable {s1 s2 : Soc}

/-- The VRAM DMA of a cycle leaves everything but VRAM and the transfer alone. -/
theorem Cycle.hdma_frame (h : Cycle s s1 s2 s') :
    Machine.Leads Ppu.step s1.ppu s2.ppu ∧ ∃ vram hdma, s2 = { s1.withVram vram with hdma } := by
  have hhdma := h.hdma
  split at hhdma
  · exact (hdmaStep_of_clockHdma hhdma).frame
  · subst hhdma
    exact ⟨.refl _ _, s2.ppu.vram, s2.hdma, rfl⟩

/-- A cycle moves the pixel unit by operations of its own. -/
theorem Cycle.ppu_leads (h : Cycle s s1 s2 s') : Machine.Leads Ppu.step s.ppu s'.ppu := by
  have hs2 : Machine.Leads Ppu.step s.ppu s2.ppu :=
    (dmaStep_of_clockDma h.dma).ppu.leads h.hdma_frame.1
  have hppu := h.ppu
  split at hppu
  · exact .step .clock hs2 hppu
  · rwa [hppu]

/-- The pixel unit when a cycle comes to clock it: DMA has been at OAM and VRAM. -/
theorem Cycle.ppu_before (h : Cycle s s1 s2 s') (hinv : Ppu.Inv s.ppu) :
    Ppu.Inv s2.ppu ∧ s2.ppu.oam = s1.ppu.oam ∧ ∃ oam vram, s2.ppu = { s.ppu with oam, vram } := by
  obtain ⟨-, oam, hdma⟩ := (dmaStep_of_clockDma h.dma).frame
  obtain ⟨hleads, vram, hd, hhdma⟩ := h.hdma_frame
  refine ⟨?_, by rw [hhdma]; rfl, oam, vram, ?_⟩
  · exact Machine.Reachable.induction (fun _ he => he ▸ hinv)
      (fun _ _ _ hp hs => (Ppu.effect_of_step hp hs).1)
      ((dmaStep_of_clockDma h.dma).ppu.leads hleads)
  · rw [hhdma]
    show { s1.ppu with vram } = _
    rw [hdma]

/-- What a cycle never changes. -/
structure CycleKept (s s' : Soc) : Prop where
  ctx : s'.ctx = s.ctx
  hdmaSrc : s'.hdmaSrc = s.hdmaSrc
  hdmaDst : s'.hdmaDst = s.hdmaDst
  cpuHalted : s'.cpuHalted = s.cpuHalted
  cpuSpeed : s'.cpuSpeed = s.cpuSpeed
  cycles : s'.cycles = s.cycles + 1
  svbk : s'.svbk = s.svbk
  dmaRequest : s'.dmaRequest = none

theorem Cycle.kept (h : Cycle s s1 s2 s') : CycleKept s s' := by
  obtain ⟨hdma, oam, hppu⟩ := (dmaStep_of_clockDma h.dma).frame
  obtain ⟨-, vram, hd, hhdma⟩ := h.hdma_frame
  have hrest := h.rest
  have hcycles := h.cycles
  rw [hrest]
  rw [hhdma, hdma] at hcycles ⊢
  exact ⟨rfl, rfl, rfl, rfl, rfl, hcycles, rfl, rfl⟩

/-- After a cycle the OAM transfer is what OAM DMA made of it. -/
theorem Cycle.activeDma (h : Cycle s s1 s2 s') : s'.activeDma = s1.activeDma := by
  obtain ⟨-, vram, hd, hhdma⟩ := h.hdma_frame
  rw [h.rest, hhdma]
  rfl

/-- After a cycle the VRAM transfer is what VRAM DMA made of it. -/
theorem Cycle.hdma_eq (h : Cycle s s1 s2 s') : s'.hdma = s2.hdma := by
  rw [h.rest]

end

/-! ### Writes -/

/-- A write that concerns neither DMA engine nor the pixel unit. -/
structure PlainWrite (s s' : Soc) : Prop where
  ppu : s'.ppu = s.ppu
  activeDma : s'.activeDma = s.activeDma
  dmaRequest : s'.dmaRequest = s.dmaRequest
  hdma : s'.hdma = s.hdma
  ctx : s'.ctx = s.ctx
  cpuHalted : s'.cpuHalted = s.cpuHalted
  cpuSpeed : s'.cpuSpeed = s.cpuSpeed
  cycles : s'.cycles = s.cycles
  svbk : s.svbk ≤ 7 → s'.svbk ≤ 7

/-- What a write does after its cycle. -/
inductive BusWrite (s s' : Soc) (activeDma : Bool) (address : ℕ) (data : UInt8) : Prop
  | plain : PlainWrite s s' → BusWrite s s' activeDma address data
  | ppuReg (reg : Ppu.Reg) : s' = { s with ppu := s.ppu.writeReg data reg } →
      BusWrite s s' activeDma address data
  | vram : s' = { s with ppu := s.ppu.writeVram address data } →
      BusWrite s s' activeDma address data
  | oam (i : Fin 0xA0) (ppu : Ppu) : activeDma = false →
      Ppu.step (.writeOam i data) s.ppu = .ok ppu → s' = { s with ppu } →
      BusWrite s s' activeDma address data
  | dma : address = 0xFF46 → s' = { s with dmaRequest := some data, dma := data } →
      BusWrite s s' activeDma address data
  | hdma5 : address = 0xFF55 → s' = s.writeHdma5 data → BusWrite s s' activeDma address data

theorem PlainWrite.refl (s : Soc) : PlainWrite s s := ⟨rfl, rfl, rfl, rfl, rfl, rfl, rfl, rfl, id⟩

theorem plainWrite_whenCgb {t : Soc} (h : PlainWrite s t) : PlainWrite s (s.whenCgb t) := by
  rw [whenCgb]
  split
  · exact .refl s
  · exact h

theorem ofAddr_range {address : ℕ} {r : HwReg} (h : HwReg.ofAddr address = some r) :
    r.addr ≤ address ∧ address < r.addr + r.span := by
  have := List.find?_some h
  simpa using this

theorem busWrite_of_writeReg {address : ℕ} {data : UInt8} {r : HwReg} {activeDma : Bool}
    (haddr : HwReg.ofAddr address = some r) (h : s.writeReg address data r = .ok s') :
    BusWrite s s' activeDma address data := by
  have hrange := ofAddr_range haddr
  cases r with
  | dma => cases h; exact .dma (by simp only [HwReg.addr, HwReg.span] at hrange; omega) rfl
  | hdma5 => cases h; exact .hdma5 (by simp only [HwReg.addr, HwReg.span] at hrange; omega) rfl
  | lcdc => cases h; exact .ppuReg .lcdc rfl
  | stat => cases h; exact .ppuReg .stat rfl
  | ly => cases h; exact .ppuReg .ly rfl
  | scy => cases h; exact .ppuReg .scy rfl
  | scx => cases h; exact .ppuReg .scx rfl
  | lyc => cases h; exact .ppuReg .lyc rfl
  | bgp => cases h; exact .ppuReg .bgp rfl
  | obp0 => cases h; exact .ppuReg .obp0 rfl
  | obp1 => cases h; exact .ppuReg .obp1 rfl
  | wy => cases h; exact .ppuReg .wy rfl
  | wx => cases h; exact .ppuReg .wx rfl
  | vbk => cases h; exact .ppuReg .vbk rfl
  | bcps => cases h; exact .ppuReg .bcps rfl
  | bcpd => cases h; exact .ppuReg .bcpd rfl
  | ocps => cases h; exact .ppuReg .ocps rfl
  | ocpd => cases h; exact .ppuReg .ocpd rfl
  | opri => cases h; exact .ppuReg .opri rfl
  | svbk =>
    cases h
    exact .plain (plainWrite_whenCgb ⟨rfl, rfl, rfl, rfl, rfl, rfl, rfl, rfl,
      fun _ => and_mask_le _ _⟩)
  | key1 | ff72 | ff73 | ff74 | ff75 =>
    cases h
    exact .plain (plainWrite_whenCgb ⟨rfl, rfl, rfl, rfl, rfl, rfl, rfl, rfl, id⟩)
  | nr10 | nr11 | nr12 | nr13 | nr14 | nr21 | nr22 | nr23 | nr24 | waveRam | nr30 | nr31 | nr32
  | nr33 | nr34 | nr41 | nr42 | nr43 | nr44 =>
    obtain ⟨apu, -, h⟩ := bind_eq_ok.mp h
    cases h
    exact .plain ⟨rfl, rfl, rfl, rfl, rfl, rfl, rfl, rfl, id⟩
  | p1 | sb | sc | «if» | nr50 | nr51 | nr52 | hdma1 | hdma2 | hdma3 | hdma4 | div | tac | tima
  | tma | ff76 | ff77 =>
    cases h
    exact .plain ⟨rfl, rfl, rfl, rfl, rfl, rfl, rfl, rfl, id⟩

/-- What a write on the bus does, by the address it goes to. -/
inductive Stores (s : Soc) (activeDma : Bool) (address : ℕ) (data : UInt8) : Soc → Prop
  /-- The cartridge takes the byte. -/
  | mbc (mbc : Mbc) : address ≤ 0x7FFF ∨ 0xA000 ≤ address ∧ address ≤ 0xBFFF →
      s.mbc.write address data = .ok mbc → Stores s activeDma address data { s with mbc }
  | vram : 0x8000 ≤ address → address ≤ 0x9FFF →
      Stores s activeDma address data { s with ppu := s.ppu.writeVram address data }
  | wram (index : ℕ) (wram : Mem 0x12000 UInt8) : 0xC000 ≤ address → address ≤ 0xFDFF →
      s.wramIndex .clockWrite address = .ok index →
      s.wram.set (Panic.index .clockWrite) index data = .ok wram →
      Stores s activeDma address data { s with wram }
  | oam (ppu : Ppu) : 0xFE00 ≤ address → address ≤ 0xFE9F → activeDma = false →
      s.ppu.writeOam address data = .ok ppu → Stores s activeDma address data { s with ppu }
  /-- OAM during a transfer, and what follows it. -/
  | locked : 0xFE00 ≤ address → address ≤ 0xFEFF → Stores s activeDma address data s
  | reg (r : HwReg) (s' : Soc) : HwReg.ofAddr address = some r →
      s.writeReg address data r = .ok s' → Stores s activeDma address data s'
  /-- No register is there. -/
  | unmapped : 0xFF00 ≤ address → address ≤ 0xFF7F → HwReg.ofAddr address = none →
      Stores s activeDma address data s
  | hram (hram : Mem 0x7F UInt8) : 0xFF80 ≤ address → address ≤ 0xFFFE →
      s.hram.set (Panic.index .clockWrite) (address - 0xFF80) data = .ok hram →
      Stores s activeDma address data { s with hram }
  | ie : 0xFFFF ≤ address → Stores s activeDma address data { s with ie := data }

theorem stores_of_writeBus {activeDma : Bool} {address : ℕ} {data : UInt8}
    (h : s.writeBus activeDma address data = .ok s') : Stores s activeDma address data s' := by
  rw [writeBus] at h
  split at h
  · obtain ⟨mbc, hmbc, h⟩ := bind_eq_ok.mp h
    cases h
    exact .mbc mbc (by omega) hmbc
  split at h
  · cases h
    exact .vram (by omega) (by omega)
  split at h
  · obtain ⟨mbc, hmbc, h⟩ := bind_eq_ok.mp h
    cases h
    exact .mbc mbc (by omega) hmbc
  split at h
  · obtain ⟨index, hindex, h⟩ := bind_eq_ok.mp h
    obtain ⟨wram, hwram, h⟩ := bind_eq_ok.mp h
    cases h
    exact .wram index wram (by omega) (by omega) hindex hwram
  split at h
  · split at h
    · cases h
      exact .locked (by omega) (by omega)
    · obtain ⟨ppu, hppu, h⟩ := bind_eq_ok.mp h
      cases h
      exact .oam ppu (by omega) (by omega) (Bool.eq_false_iff.mpr ‹_›) hppu
  split at h
  · cases h
    exact .locked (by omega) (by omega)
  split at h
  · split at h
    · exact .reg _ s' ‹_› h
    · cases h
      exact .unmapped (by omega) (by omega) ‹_›
  split at h
  · obtain ⟨hram, hhram, h⟩ := bind_eq_ok.mp h
    cases h
    exact .hram hram (by omega) (by omega) hhram
  · cases h
    exact .ie (by omega)

/-- A write to a register. -/
theorem writeBus_of_reg {r : HwReg} {address : ℕ} (hlo : 0xFF00 ≤ address) (hhi : address ≤ 0xFF7F)
    (hr : HwReg.ofAddr address = some r) (s : Soc) (activeDma : Bool) (data : UInt8) :
    s.writeBus activeDma address data = s.writeReg address data r := by
  rw [writeBus, if_neg (by omega), if_neg (by omega), if_neg (by omega), if_neg (by omega),
    if_neg (by omega), if_neg (by omega), if_pos hhi, hr]

/-- **Writes.** A write does one of the things `BusWrite` lists. -/
theorem busWrite_of_writeBus {activeDma : Bool} {address : ℕ} {data : UInt8}
    (h : s.writeBus activeDma address data = .ok s') : BusWrite s s' activeDma address data := by
  cases stores_of_writeBus h with
  | mbc | wram | hram | ie => exact .plain ⟨rfl, rfl, rfl, rfl, rfl, rfl, rfl, rfl, id⟩
  | vram => exact .vram rfl
  | oam ppu hlo hhi hactive hppu =>
    refine .oam ⟨address - 0xFE00, by omega⟩ ppu hactive ?_ rfl
    show s.ppu.writeOam (0xFE00 + (address - 0xFE00)) data = .ok ppu
    rwa [Nat.add_sub_cancel' hlo]
  | locked | unmapped => exact .plain (.refl s)
  | reg r _ hr hwrite => exact busWrite_of_writeReg hr hwrite

/-! ### Steps -/

/-- What drives the system: the accesses and clocks of the CPU, its calls that take no time, and
the host's events. -/
inductive Op
  | clock
  | read (address : UInt16)
  | write (address : UInt16) (data : UInt8)
  | clearInterrupt (interrupt : UInt8)
  | setCpuHalted (halted : Bool)
  | speedSwitch
  | processEvents (inputs : List InputEvent)

/-- Whether an operation takes an M-cycle. -/
def Op.isCycle : Op → Bool
  | .clock | .read _ | .write .. => true
  | .clearInterrupt _ | .setCpuHalted _ | .speedSwitch | .processEvents _ => false

def step : Op → Soc → Checked Soc
  | .clock, s => s.clock
  | .read address, s => Prod.snd <$> s.clockRead address
  | .write address data, s => s.clockWrite address data
  | .clearInterrupt interrupt, s => .ok (s.clearInterrupt interrupt)
  | .setCpuHalted halted, s => .ok (s.setCpuHalted halted)
  | .speedSwitch, s => .ok s.cgbSpeedSwitch
  | .processEvents inputs, s => .ok (s.processEvents inputs).2

/-- What an operation does after its cycle, when `activeDma` says whether an OAM DMA was active
before it. -/
inductive Access (activeDma : Bool) (s s' : Soc) : Op → Prop
  | clock : s' = s → Access activeDma s s' .clock
  | read (address : UInt16) : s' = s → Access activeDma s s' (.read address)
  | write (address : UInt16) (data : UInt8) : BusWrite s s' activeDma address.toNat data →
      Access activeDma s s' (.write address data)

/-- What a call that takes no time leaves alone. -/
structure Aside (s s' : Soc) : Prop where
  ppu : s'.ppu = s.ppu
  activeDma : s'.activeDma = s.activeDma
  dmaRequest : s'.dmaRequest = s.dmaRequest
  hdma : s'.hdma = s.hdma
  ctx : s'.ctx = s.ctx
  cycles : s'.cycles = s.cycles
  svbk : s'.svbk = s.svbk

/-- What a step did: a cycle and then an access, or something beside the clock. -/
inductive Effect (s s' : Soc) (op : Op) : Prop
  | cycle {s1 s2 s3 : Soc} : op.isCycle = true → Cycle s s1 s2 s3 →
      Access s.activeDma.isSome s3 s' op → Effect s s' op
  | aside : op.isCycle = false → Aside s s' → Effect s s' op

theorem aside_processEvents (s : Soc) (inputs : List InputEvent) :
    Aside s (s.processEvents inputs).2 := by
  rw [processEvents]
  split
  · exact ⟨rfl, rfl, rfl, rfl, rfl, rfl, rfl⟩
  · rw [inputUpdate]
    dsimp only
    split <;> exact ⟨rfl, rfl, rfl, rfl, rfl, rfl, rfl⟩

theorem aside_cgbSpeedSwitch (s : Soc) : Aside s s.cgbSpeedSwitch := by
  rw [cgbSpeedSwitch]
  split <;> exact ⟨rfl, rfl, rfl, rfl, rfl, rfl, rfl⟩

/-- **Steps.** A step that does not panic is a cycle and an access, or lies beside the clock. -/
theorem effect_of_step {op : Op} (h : step op s = .ok s') : Effect s s' op := by
  cases op with
  | clock =>
    rw [step, clock_eq_clockWith] at h
    obtain ⟨s1, s2, hc⟩ := cycle_of_clockWith h
    exact .cycle rfl hc (.clock rfl)
  | read address =>
    rw [step] at h
    obtain ⟨⟨byte, t⟩, hr, rfl⟩ := map_eq_ok.mp h
    obtain ⟨s3, hclock, hr⟩ := bind_eq_ok.mp hr
    obtain ⟨byte', -, hr⟩ := bind_eq_ok.mp hr
    cases hr
    rw [clock_eq_clockWith] at hclock
    obtain ⟨s1, s2, hc⟩ := cycle_of_clockWith hclock
    exact .cycle rfl hc (.read address rfl)
  | write address data =>
    rw [step, clockWrite] at h
    split at h
    · rw [clockTimerWrite_eq_clockWith] at h
      obtain ⟨s1, s2, hc⟩ := cycle_of_clockWith h
      exact .cycle rfl hc (.write address data (.plain (.refl s')))
    · obtain ⟨s3, hclock, hw⟩ := bind_eq_ok.mp h
      rw [clock_eq_clockWith] at hclock
      obtain ⟨s1, s2, hc⟩ := cycle_of_clockWith hclock
      exact .cycle rfl hc (.write address data (busWrite_of_writeBus hw))
  | clearInterrupt interrupt => cases h; exact .aside rfl ⟨rfl, rfl, rfl, rfl, rfl, rfl, rfl⟩
  | setCpuHalted halted => cases h; exact .aside rfl ⟨rfl, rfl, rfl, rfl, rfl, rfl, rfl⟩
  | speedSwitch => cases h; exact .aside rfl (aside_cgbSpeedSwitch s)
  | processEvents inputs => cases h; exact .aside rfl (aside_processEvents s inputs)

theorem BusWrite.cycles {activeDma : Bool} {address : ℕ} {data : UInt8}
    (h : BusWrite s s' activeDma address data) : s'.cycles = s.cycles := by
  cases h with
  | plain hp => exact hp.cycles
  | ppuReg _ he | vram he | dma _ he | oam _ _ _ _ he => subst he; rfl
  | hdma5 _ he =>
    subst he
    rw [writeHdma5, whenCgb]
    split <;> rfl

/-- An operation takes one M-cycle or none. -/
theorem Effect.cycles {op : Op} (h : Effect s s' op) :
    s'.cycles = s.cycles + if op.isCycle then 1 else 0 := by
  cases h with
  | aside hcycle ha => rw [ha.cycles, hcycle]; rfl
  | cycle hcycle hc ha =>
    rw [hcycle, if_pos rfl, ← hc.kept.cycles]
    cases ha with
    | clock he | read _ he => rw [he]
    | write _ _ hw => exact hw.cycles

/-- The bank of work RAM stays a bank. -/
theorem Effect.svbk {op : Op} (h : Effect s s' op) (hsvbk : s.svbk ≤ 7) : s'.svbk ≤ 7 := by
  cases h with
  | aside _ ha => rwa [ha.svbk]
  | @cycle s1 s2 s3 _ hc ha =>
    have h3 : s3.svbk ≤ 7 := by rwa [hc.kept.svbk]
    cases ha with
    | clock he | read _ he => rwa [he]
    | write _ _ hw =>
      cases hw with
      | plain hp => exact hp.svbk h3
      | ppuReg _ he | vram he | dma _ he | oam _ _ _ _ he => subst he; exact h3
      | hdma5 _ he =>
        subst he
        rw [writeHdma5, whenCgb]
        split <;> exact h3

/-! ### The pixel unit of the system -/

theorem BusWrite.ppu_leads {activeDma : Bool} {address : ℕ} {data : UInt8}
    (h : BusWrite s s' activeDma address data) : Machine.Leads Ppu.step s.ppu s'.ppu := by
  cases h with
  | plain hp => rw [hp.ppu]; exact .refl _ _
  | ppuReg reg he => subst he; exact .single (i := .writeReg reg data) rfl
  | vram he => subst he; exact .single (i := .writeVram address data) rfl
  | oam i ppu _ hs he => subst he; exact .single hs
  | dma _ he => subst he; exact .refl _ _
  | hdma5 _ he =>
    subst he
    rw [writeHdma5, whenCgb]
    split <;> exact .refl _ _

/-- The system moves the pixel unit by operations of its own. -/
theorem Effect.ppu_leads {op : Op} (h : Effect s s' op) :
    Machine.Leads Ppu.step s.ppu s'.ppu := by
  cases h with
  | cycle _ hc ha =>
    refine hc.ppu_leads.leads ?_
    cases ha with
    | clock he | read _ he => subst he; exact .refl _ _
    | write _ _ hw => exact hw.ppu_leads
  | aside _ ha => rw [ha.ppu]; exact .refl _ _

/-- The systems that some sequence of operations leads to. -/
def Reachable (s : Soc) : Prop :=
  Machine.Reachable
    (fun s => ∃ cartridge frameChan runForCycles ctx,
      Soc.new cartridge frameChan runForCycles ctx = .ok s) step s

theorem Reachable.along {r : Machine.Run step} (h : Reachable (r.state 0)) {k : ℕ}
    (hk : k ≤ r.length) : Reachable (r.state k) :=
  r.reachable h hk

theorem new_eq_ok {cartridge : Cartridge} {frameChan : FrameChan} {runForCycles : Option ℕ}
    {ctx : GbCtx} (h : Soc.new cartridge frameChan runForCycles ctx = .ok s) :
    s.ppu = .new frameChan ctx ∧ s.activeDma = none ∧ s.dmaRequest = none ∧ s.hdma = none ∧
      s.ctx = ctx ∧ s.svbk = 0 := by
  obtain ⟨mbc, -, h⟩ := bind_eq_ok.mp h
  cases h
  exact ⟨rfl, rfl, rfl, rfl, rfl, rfl⟩

/-- A Game Boy Color just switched on, with an empty cartridge of two banks. -/
def cgbNew : Checked Soc := Soc.new (.blank 0 0 0xE7) .none none (.ofMode .modeCgb)

theorem reachable_cgbNew (h : cgbNew = .ok s) : Reachable s := .start ⟨_, _, _, _, h⟩

/-- **Refinement.** The pixel unit of a reachable system is a reachable pixel unit, so everything
proved of those holds of it. -/
theorem Reachable.ppu (h : Reachable s) : Ppu.Reachable s.ppu := by
  refine Machine.Reachable.induction (I := fun s => Ppu.Reachable s.ppu) ?_
    (fun op s s' hs hstep => ?_) h
  · rintro s ⟨cartridge, frameChan, runForCycles, ctx, hnew⟩
    rw [(new_eq_ok hnew).1]
    exact .start ⟨frameChan, ctx, rfl⟩
  · exact Machine.Reachable.leads hs (effect_of_step hstep).ppu_leads

theorem Reachable.svbk (h : Reachable s) : s.svbk ≤ 7 := by
  refine Machine.Reachable.induction (I := fun s => s.svbk ≤ 7) ?_
    (fun op s s' hs hstep => (effect_of_step hstep).svbk hs) h
  rintro s ⟨cartridge, frameChan, runForCycles, ctx, hnew⟩
  obtain ⟨-, -, -, -, -, hsvbk⟩ := new_eq_ok hnew
  rw [hsvbk]
  decide

end Soc

end ZenithGb
