import ZenithGb.Soc.Machine

/-!
# The system on chip: work RAM and high RAM

Three decoders address work RAM: the CPU's reads, the CPU's writes and the two DMA engines. They
agree on `Soc.wramCell`, and so do the accesses of a run, because only a write of the CPU changes
work RAM or high RAM.

## Main results

* `Soc.readBus_wram`, `Soc.dmaRead_wram`, `Soc.writeBus_wram` — the three decoders
* `Soc.memory_of_step` — what a step does to work RAM and high RAM
-/

namespace ZenithGb

open Outcome

namespace Soc

variable {s s' : Soc}

/-! ### Cells -/

/-- The cell of work RAM an address in 0xC000-0xFDFF selects. Only 0xD000-0xDFFF is banked. -/
def wramCell (svbk : UInt8) (address : ℕ) : Fin 0x12000 :=
  ⟨address % 0x2000 +
    if 0xD000 ≤ address ∧ address ≤ 0xDFFF then svbk.toNat % 8 * 0x2000 else 0, by split <;> omega⟩

/-- The cell of high RAM an address in 0xFF80-0xFFFE selects. -/
def hramCell (address : ℕ) : Fin 0x7F := ⟨(address - 0xFF80) % 0x7F, Nat.mod_lt _ (by decide)⟩

/-- An address of work RAM, or of its echo. -/
def IsWram (address : ℕ) : Prop := 0xC000 ≤ address ∧ address ≤ 0xFDFF

/-- An address of high RAM. -/
def IsHram (address : ℕ) : Prop := 0xFF80 ≤ address ∧ address ≤ 0xFFFE

instance (address : ℕ) : Decidable (IsWram address) := inferInstanceAs (Decidable (_ ∧ _))

instance (address : ℕ) : Decidable (IsHram address) := inferInstanceAs (Decidable (_ ∧ _))

section

variable {address : ℕ}

/-- The banked window of work RAM. -/
def InWindow (address : ℕ) : Prop := 0xD000 ≤ address ∧ address ≤ 0xDFFF

instance (address : ℕ) : Decidable (InWindow address) := inferInstanceAs (Decidable (_ ∧ _))

theorem wramCell_window (svbk : UInt8) (ha : InWindow address) :
    (wramCell svbk address : ℕ) = address % 0x2000 + svbk.toNat % 8 * 0x2000 := by
  rw [wramCell]
  simp only [if_pos (show 0xD000 ≤ address ∧ address ≤ 0xDFFF from ha)]

theorem wramCell_fixed (svbk : UInt8) (ha : ¬ InWindow address) :
    (wramCell svbk address : ℕ) = address % 0x2000 := by
  rw [wramCell]
  simp only [if_neg (show ¬ (0xD000 ≤ address ∧ address ≤ 0xDFFF) from ha), Nat.add_zero]

theorem wramIndex_eq (hsvbk : s.svbk ≤ 7) (ha : IsWram address) (site : Site) :
    s.wramIndex site address = .ok (wramCell s.svbk address) := by
  obtain ⟨hlo, hhi⟩ := ha
  have hbank : s.svbk.toNat ≤ 7 := UInt8.le_iff_toNat_le.mp hsvbk
  rw [wramIndex]
  by_cases hlow : address ≤ 0xCFFF
  · rw [if_pos hlow, wramCell_fixed _ (by unfold InWindow; omega),
      show address - 0xC000 = address % 0x2000 by omega]
  rw [if_neg hlow]
  by_cases hmid : address ≤ 0xDFFF
  · rw [if_pos hmid, checkedMul_of_lt _ (by omega), ok_bind, checkedAdd_of_lt _ (by omega),
      wramCell_window _ ⟨by omega, hmid⟩, Nat.mod_eq_of_lt (show s.svbk.toNat < 8 by omega),
      show address - 0xC000 = address % 0x2000 by omega]
  · rw [if_neg hmid, wramCell_fixed _ (by unfold InWindow; omega),
      show address - 0xE000 = address % 0x2000 by omega]

theorem readBus_wram (hsvbk : s.svbk ≤ 7) (ha : IsWram address) (activeDma : Bool) :
    s.readBus activeDma address = .ok (s.wram.cell (wramCell s.svbk address)) := by
  have hindex := wramIndex_eq hsvbk ha .clockRead
  obtain ⟨hlo, hhi⟩ := ha
  rw [readBus]
  rw [if_neg (by omega), if_neg (by omega), if_neg (by omega), if_pos hhi, hindex, ok_bind,
    Mem.get_of_lt _ _ (wramCell s.svbk address).2]

theorem dmaRead_wram (hsvbk : s.svbk ≤ 7) (ha : IsWram address) (site : Site) :
    s.dmaRead site address = .ok (s.wram.cell (wramCell s.svbk address)) := by
  have hindex := wramIndex_eq hsvbk ha site
  obtain ⟨hlo, hhi⟩ := ha
  rw [dmaRead]
  rw [if_neg (by omega), if_neg (by omega), if_neg (by omega), if_pos hhi, hindex, ok_bind,
    Mem.get_of_lt _ _ (wramCell s.svbk address).2]

theorem writeBus_wram (hsvbk : s.svbk ≤ 7) (ha : IsWram address) (activeDma : Bool)
    (data : UInt8) :
    s.writeBus activeDma address data =
      .ok { s with wram := s.wram.put (wramCell s.svbk address) data } := by
  have hindex := wramIndex_eq hsvbk ha .clockWrite
  obtain ⟨hlo, hhi⟩ := ha
  rw [writeBus]
  rw [if_neg (by omega), if_neg (by omega), if_neg (by omega), if_pos hhi, hindex, ok_bind,
    Mem.set_of_lt _ _ (wramCell s.svbk address).2]
  rfl

theorem readBus_hram (ha : IsHram address) (activeDma : Bool) :
    s.readBus activeDma address = .ok (s.hram.cell (hramCell address)) := by
  obtain ⟨hlo, hhi⟩ := ha
  have hcell : address - 0xFF80 = (hramCell address).1 := by unfold hramCell; dsimp only; omega
  rw [readBus]
  rw [if_neg (by omega), if_neg (by omega), if_neg (by omega), if_neg (by omega),
    if_neg (by omega), if_neg (by omega), if_neg (by omega), if_pos hhi, hcell,
    Mem.get_of_lt _ _ (hramCell address).2]

theorem writeBus_hram (ha : IsHram address) (activeDma : Bool) (data : UInt8) :
    s.writeBus activeDma address data =
      .ok { s with hram := s.hram.put (hramCell address) data } := by
  obtain ⟨hlo, hhi⟩ := ha
  have hcell : address - 0xFF80 = (hramCell address).1 := by unfold hramCell; dsimp only; omega
  rw [writeBus]
  rw [if_neg (by omega), if_neg (by omega), if_neg (by omega), if_neg (by omega),
    if_neg (by omega), if_neg (by omega), if_neg (by omega), if_pos hhi, hcell,
    Mem.set_of_lt _ _ (hramCell address).2]
  rfl

end

/-! ### What keeps them -/

/-- Nothing happened to work RAM, to high RAM and to the bank. -/
structure MemoryKept (s s' : Soc) : Prop where
  wram : s'.wram = s.wram
  hram : s'.hram = s.hram

theorem MemoryKept.refl (s : Soc) : MemoryKept s s := ⟨rfl, rfl⟩

theorem MemoryKept.whenCgb {t : Soc} (h : MemoryKept s t) : MemoryKept s (s.whenCgb t) := by
  rw [Soc.whenCgb]
  split
  · exact .refl s
  · exact h

/-- A cycle touches neither memory. -/
theorem Cycle.memory {s1 s2 : Soc} (h : Cycle s s1 s2 s') : MemoryKept s s' := by
  obtain ⟨hdma, -⟩ := (dmaStep_of_clockDma h.dma).frame
  obtain ⟨-, vram, hd, hhdma⟩ := h.hdma_frame
  rw [h.rest, hhdma, hdma]
  exact ⟨rfl, rfl⟩

/-- The registers are not in memory. -/
theorem memoryKept_writeReg {address : ℕ} {data : UInt8} {r : HwReg}
    (h : s.writeReg address data r = .ok s') : MemoryKept s s' := by
  cases r with
  | nr10 | nr11 | nr12 | nr13 | nr14 | nr21 | nr22 | nr23 | nr24 | waveRam | nr30 | nr31 | nr32
  | nr33 | nr34 | nr41 | nr42 | nr43 | nr44 =>
    obtain ⟨apu, -, h⟩ := bind_eq_ok.mp h
    cases h
    exact ⟨rfl, rfl⟩
  | hdma5 | svbk | key1 | ff72 | ff73 | ff74 | ff75 =>
    cases h
    exact .whenCgb ⟨rfl, rfl⟩
  | _ =>
    cases h
    exact ⟨rfl, rfl⟩

/-- Work RAM after an operation. -/
def wramAfter (s : Soc) : Op → Mem 0x12000 UInt8
  | .write address data =>
    if IsWram address.toNat then s.wram.put (wramCell s.svbk address.toNat) data else s.wram
  | _ => s.wram

/-- High RAM after an operation. -/
def hramAfter (s : Soc) : Op → Mem 0x7F UInt8
  | .write address data =>
    if IsHram address.toNat then s.hram.put (hramCell address.toNat) data else s.hram
  | _ => s.hram

theorem memoryKept_writeBus {activeDma : Bool} {address : ℕ} {data : UInt8}
    (hw : ¬ IsWram address) (hh : ¬ IsHram address)
    (h : s.writeBus activeDma address data = .ok s') : MemoryKept s s' := by
  cases stores_of_writeBus h with
  | mbc | vram | oam | ie => exact ⟨rfl, rfl⟩
  | wram _ _ hlo hhi => exact absurd ⟨hlo, hhi⟩ hw
  | locked | unmapped => exact .refl s
  | reg _ _ _ hwrite => exact memoryKept_writeReg hwrite
  | hram _ hlo hhi => exact absurd ⟨hlo, hhi⟩ hh

/-- The registers that clock the timer in their own way are the timer's. -/
theorem timerWriteOf_range {address : ℕ}
    {cb : Timer → UInt8 → ClockContext → Timer × ClockContext}
    (h : (HwReg.ofAddr address).bind timerWriteOf = some cb) :
    0xFF04 ≤ address ∧ address ≤ 0xFF07 := by
  obtain ⟨r, hr, hcb⟩ := Option.bind_eq_some_iff.mp h
  have hrange := ofAddr_range hr
  cases r with
  | div | tima | tma | tac => simp only [HwReg.addr, HwReg.span] at hrange; omega
  | _ => cases hcb

/-- An access outside the timer's registers is a clock and then the access. -/
theorem clockWrite_eq {address : UInt16} (data : UInt8)
    (ha : address.toNat < 0xFF04 ∨ 0xFF07 < address.toNat) :
    s.clockWrite address data =
      s.clock >>= fun t => t.writeBus s.activeDma.isSome address.toNat data := by
  rw [clockWrite]
  split
  · have := timerWriteOf_range ‹_›
    omega
  · rfl

theorem clock_memory (h : s.clock = .ok s') : MemoryKept s s' ∧ s'.svbk = s.svbk := by
  rw [clock_eq_clockWith] at h
  obtain ⟨s1, s2, hc⟩ := cycle_of_clockWith h
  exact ⟨hc.memory, hc.kept.svbk⟩

/-- A write changes the cell it addresses, if it addresses one. -/
theorem memory_of_clockWrite {address : UInt16} {data : UInt8} (hsvbk : s.svbk ≤ 7)
    (h : s.clockWrite address data = .ok s') :
    s'.wram = s.wramAfter (.write address data) ∧ s'.hram = s.hramAfter (.write address data) := by
  rw [wramAfter, hramAfter]
  by_cases htimer : address.toNat < 0xFF04 ∨ 0xFF07 < address.toNat
  · rw [clockWrite_eq data htimer] at h
    obtain ⟨t, hclock, hw⟩ := bind_eq_ok.mp h
    obtain ⟨⟨hwram, hhram⟩, hbank⟩ := clock_memory hclock
    by_cases ha : IsWram address.toNat
    · rw [writeBus_wram (by rwa [hbank]) ha] at hw
      cases hw
      rw [if_pos ha, if_neg (by unfold IsHram; unfold IsWram at ha; omega)]
      exact ⟨by rw [hwram, hbank], hhram⟩
    rw [if_neg ha]
    by_cases ha' : IsHram address.toNat
    · rw [writeBus_hram ha'] at hw
      cases hw
      rw [if_pos ha']
      exact ⟨hwram, by rw [hhram]⟩
    · obtain ⟨hwram', hhram'⟩ := memoryKept_writeBus ha ha' hw
      rw [if_neg ha']
      exact ⟨hwram'.trans hwram, hhram'.trans hhram⟩
  · rw [if_neg (by unfold IsWram; omega), if_neg (by unfold IsHram; omega)]
    rw [clockWrite] at h
    split at h
    · rw [clockTimerWrite_eq_clockWith] at h
      obtain ⟨s1, s2, hc⟩ := cycle_of_clockWith h
      exact ⟨hc.memory.wram, hc.memory.hram⟩
    · obtain ⟨t, hclock, hw⟩ := bind_eq_ok.mp h
      obtain ⟨⟨hwram, hhram⟩, -⟩ := clock_memory hclock
      obtain ⟨hwram', hhram'⟩ := memoryKept_writeBus (by unfold IsWram; omega)
        (by unfold IsHram; omega) hw
      exact ⟨hwram'.trans hwram, hhram'.trans hhram⟩

/-- **Only writes of the CPU change the memories.** -/
theorem memory_of_step {op : Op} (hsvbk : s.svbk ≤ 7) (h : step op s = .ok s') :
    s'.wram = s.wramAfter op ∧ s'.hram = s.hramAfter op := by
  cases op with
  | clock =>
    obtain ⟨⟨hwram, hhram⟩, -⟩ := clock_memory h
    exact ⟨hwram, hhram⟩
  | read address =>
    obtain ⟨⟨byte, t⟩, hr, rfl⟩ := map_eq_ok.mp h
    obtain ⟨t', hclock, hr⟩ := bind_eq_ok.mp hr
    obtain ⟨byte', -, hr⟩ := bind_eq_ok.mp hr
    cases hr
    obtain ⟨⟨hwram, hhram⟩, -⟩ := clock_memory hclock
    exact ⟨hwram, hhram⟩
  | write address data => exact memory_of_clockWrite hsvbk h
  | clearInterrupt interrupt => cases h; exact ⟨rfl, rfl⟩
  | setCpuHalted halted => cases h; exact ⟨rfl, rfl⟩
  | speedSwitch =>
    cases h
    rw [cgbSpeedSwitch]
    split <;> exact ⟨rfl, rfl⟩
  | processEvents inputs =>
    cases h
    rw [processEvents]
    split
    · exact ⟨rfl, rfl⟩
    · rw [inputUpdate]
      dsimp only
      split <;> exact ⟨rfl, rfl⟩

end Soc

end ZenithGb
