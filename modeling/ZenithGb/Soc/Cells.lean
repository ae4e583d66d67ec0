import ZenithGb.Soc.Memory

/-!
# The system on chip: what a program finds again

A program keeps its data and its code in the cartridge's ROM, in work RAM and in high RAM. Whatever
the components do while they are clocked, nothing there changes but the cell the CPU writes to.

## Main results

* `Soc.keepsBut_of_clockRead`, `Soc.keepsBut_of_clockWrite` — what an access changes
* `Soc.KeepsBut.readBus` — an address that is not written to reads as before
* `Soc.cellOf_injOn` — two addresses of a stack are two cells
-/

namespace ZenithGb

open Outcome

/-! ### Mappers -/

namespace Mbc3

/-- The ROM is the same, and so is the bank that can be switched. -/
structure RomKept (m m' : Mbc3) : Prop where
  rom : m'.rom = m.rom
  romBank : m'.romBank = m.romBank

theorem romKept_rtcIncDays {m m' : Mbc3} (h : rtcIncDays m = .ok m') : RomKept m m' := by
  obtain ⟨dh, -, h⟩ := bind_eq_ok.mp h
  obtain ⟨dl, -, h⟩ := bind_eq_ok.mp h
  obtain ⟨regs, -, h⟩ := bind_eq_ok.mp h
  obtain ⟨regs', -, h⟩ := bind_eq_ok.mp h
  cases h
  exact ⟨rfl, rfl⟩

theorem romKept_rtcIncBelowDays {rtcSelect : ℕ} {carry : Mbc3 → Checked Mbc3}
    (hcarry : ∀ m m', carry m = .ok m' → RomKept m m') (m m' : Mbc3)
    (h : rtcIncBelowDays rtcSelect carry m = .ok m') : RomKept m m' := by
  obtain ⟨reg, -, h⟩ := bind_eq_ok.mp h
  obtain ⟨mask, -, h⟩ := bind_eq_ok.mp h
  obtain ⟨rollover, -, h⟩ := bind_eq_ok.mp h
  split at h
  · obtain ⟨regs, -, h⟩ := bind_eq_ok.mp h
    cases h
    exact ⟨rfl, rfl⟩
  split at h
  · obtain ⟨regs, -, h⟩ := bind_eq_ok.mp h
    obtain ⟨hrom, hbank⟩ := hcarry _ _ h
    exact ⟨hrom, hbank⟩
  · obtain ⟨regs, -, h⟩ := bind_eq_ok.mp h
    cases h
    exact ⟨rfl, rfl⟩

theorem romKept_of_clock {m m' : Mbc3} (h : m.clock = .ok m') : RomKept m m' := by
  rw [clock] at h
  split at h
  · cases h
    exact ⟨rfl, rfl⟩
  obtain ⟨dh, -, h⟩ := bind_eq_ok.mp h
  split at h
  · cases h
    exact ⟨rfl, rfl⟩
  split at h
  · obtain ⟨m1, hinc, h⟩ := bind_eq_ok.mp h
    cases h
    have hkept : RomKept m m1 :=
      romKept_rtcIncBelowDays (romKept_rtcIncBelowDays
        (romKept_rtcIncBelowDays fun _ _ => romKept_rtcIncDays)) m m1 hinc
    exact ⟨hkept.rom, hkept.romBank⟩
  · cases h
    exact ⟨rfl, rfl⟩

end Mbc3

/-- Clocking a mapper moves its clock, and no bank of its ROM. -/
theorem Mbc.rom_of_clock {m m' : Mbc} (h : m.clock = .ok m') {address : ℕ}
    (ha : address ≤ 0x7FFF) : m'.read address = m.read address := by
  cases m with
  | mbc3 m =>
    obtain ⟨m1, hclock, rfl⟩ := map_eq_ok.mp h
    obtain ⟨hrom, hbank⟩ := Mbc3.romKept_of_clock hclock
    show m1.read address = m.read address
    unfold Mbc3.read
    by_cases hlow : address ≤ 0x3FFF
    · rw [if_pos hlow, if_pos hlow, hrom]
    · rw [if_neg hlow, if_neg hlow, if_pos ha, if_pos ha, hrom, hbank]
  | _ =>
    cases h
    rfl

namespace Soc

variable {s s' t : Soc}

/-! ### Cells -/

/-- A byte of work RAM or of high RAM. -/
inductive Cell
  | wram (i : Fin 0x12000)
  | hram (i : Fin 0x7F)
  deriving DecidableEq

/-- The cell an address selects, if it is an address of work RAM or high RAM. -/
def cellOf (svbk : UInt8) (address : ℕ) : Option Cell :=
  if IsWram address then some (.wram (wramCell svbk address))
  else if IsHram address then some (.hram (hramCell address))
  else none

def byteAt (s : Soc) : Cell → UInt8
  | .wram i => s.wram.cell i
  | .hram i => s.hram.cell i

section

variable {svbk : UInt8} {address : ℕ} {c : Cell}

theorem cellOf_eq_some (h : cellOf svbk address = some c) :
    (IsWram address ∧ c = .wram (wramCell svbk address)) ∨
      (IsHram address ∧ c = .hram (hramCell address)) := by
  rw [cellOf] at h
  split at h
  · exact .inl ⟨‹_›, (Option.some.inj h).symm⟩
  split at h
  · exact .inr ⟨‹_›, (Option.some.inj h).symm⟩
  · cases h

/-- An address of the stack area of a program: work RAM, without its echo, or high RAM. -/
def InRam (address : ℕ) : Prop := (0xC000 ≤ address ∧ address ≤ 0xDFFF) ∨ IsHram address

instance (address : ℕ) : Decidable (InRam address) := inferInstanceAs (Decidable (_ ∨ _))

theorem exists_cellOf (svbk : UInt8) (ha : InRam address) : ∃ c, cellOf svbk address = some c := by
  rw [cellOf]
  split
  · exact ⟨_, rfl⟩
  rename_i hw
  refine ⟨.hram (hramCell address), if_pos (ha.resolve_left fun h => hw ?_)⟩
  exact ⟨h.1, h.2.trans (by decide)⟩

/-- Outside the echo, an address is found again from its cell. -/
theorem cellOf_injOn (svbk : UInt8) : Set.InjOn (cellOf svbk) {address | InRam address} := by
  intro a ha b hb heq
  have ha : InRam a := ha
  have hb : InRam b := hb
  obtain ⟨c, hc⟩ := exists_cellOf svbk ha
  rw [InRam] at ha hb
  have hbanks := Nat.mod_lt svbk.toNat (show 8 > 0 by decide)
  rcases cellOf_eq_some hc with ⟨hwa, rfl⟩ | ⟨hha, rfl⟩
  · rcases cellOf_eq_some (heq ▸ hc) with ⟨hwb, hcell⟩ | ⟨hhb, hcell⟩
    · have hcell := congrArg Fin.val (Cell.wram.inj hcell)
      unfold IsWram IsHram at *
      unfold wramCell at hcell
      dsimp only at hcell
      split at hcell <;> split at hcell <;> omega
    · cases hcell
  · rcases cellOf_eq_some (heq ▸ hc) with ⟨hwb, hcell⟩ | ⟨hhb, hcell⟩
    · cases hcell
    · have hcell := congrArg Fin.val (Cell.hram.inj hcell)
      unfold IsHram at *
      unfold hramCell at hcell
      dsimp only at hcell
      omega

theorem readBus_cell (hsvbk : s.svbk ≤ 7) (h : cellOf s.svbk address = some c) (activeDma : Bool) :
    s.readBus activeDma address = .ok (s.byteAt c) := by
  rcases cellOf_eq_some h with ⟨hw, rfl⟩ | ⟨hh, rfl⟩
  · exact readBus_wram hsvbk hw activeDma
  · exact readBus_hram hh activeDma

end

/-! ### What is kept -/

/-- Outside `cells`, nothing a program keeps has changed. -/
structure KeepsBut (cells : Set Cell) (s s' : Soc) : Prop where
  svbk : s'.svbk = s.svbk
  byteAt : ∀ c ∉ cells, s'.byteAt c = s.byteAt c
  rom : ∀ address ≤ 0x7FFF, s'.mbc.read address = s.mbc.read address

namespace KeepsBut

variable {cells cells' : Set Cell}

theorem refl (s : Soc) : KeepsBut cells s s := ⟨rfl, fun _ _ => rfl, fun _ _ => rfl⟩

theorem trans (h : KeepsBut cells s t) (h' : KeepsBut cells t s') : KeepsBut cells s s' :=
  ⟨h'.svbk.trans h.svbk, fun c hc => (h'.byteAt c hc).trans (h.byteAt c hc),
    fun a ha => (h'.rom a ha).trans (h.rom a ha)⟩

theorem mono (h : KeepsBut cells s s') (hsub : cells ⊆ cells') : KeepsBut cells' s s' :=
  ⟨h.svbk, fun c hc => h.byteAt c fun hmem => hc (hsub hmem), h.rom⟩

theorem svbk_le (h : KeepsBut cells s s') (hsvbk : s.svbk ≤ 7) : s'.svbk ≤ 7 := by
  rwa [h.svbk]

end KeepsBut

/-- An address of ROM, or of a cell that is not one of `cells`. -/
def ReadsOutside (cells : Set Cell) (svbk : UInt8) (address : ℕ) : Prop :=
  address ≤ 0x7FFF ∨ ∃ c ∉ cells, cellOf svbk address = some c

/-- **What is kept reads as before**, with an OAM transfer or without. -/
theorem KeepsBut.readBus {cells : Set Cell} {address : ℕ} (h : KeepsBut cells s s')
    (hsvbk : s.svbk ≤ 7) (ha : ReadsOutside cells s.svbk address) (d d' : Bool) :
    s'.readBus d' address = s.readBus d address := by
  rcases ha with hrom | ⟨c, hc, hcell⟩
  · have hread := h.rom address hrom
    unfold Soc.readBus
    rw [if_pos hrom, if_pos hrom, hread]
  · have hcell' : cellOf s'.svbk address = some c := by rwa [h.svbk]
    rw [readBus_cell (h.svbk_le hsvbk) hcell', readBus_cell hsvbk hcell, h.byteAt c hc]

/-! ### Clocks and accesses -/

theorem mbc_of_clockWith {timerClock : Timer → ClockContext → Timer × ClockContext}
    (h : s.clockWith timerClock = .ok s') :
    if s.ticks then s.mbc.clock = .ok s'.mbc else s'.mbc = s.mbc := by
  obtain ⟨s1, hdma, h⟩ := bind_eq_ok.mp h
  obtain ⟨s2, hhdma, h⟩ := bind_eq_ok.mp h
  obtain ⟨⟨ppu, ctx⟩, hppu, h⟩ := bind_eq_ok.mp h
  obtain ⟨mbc, hmbc, h⟩ := bind_eq_ok.mp h
  obtain ⟨apu, -, h⟩ := bind_eq_ok.mp h
  obtain ⟨⟨serial, ctx'⟩, -, h⟩ := bind_eq_ok.mp h
  obtain ⟨cycles, -, h⟩ := bind_eq_ok.mp h
  cases h
  have hmbc1 : s1.mbc = s.mbc := by rw [(dmaStep_of_clockDma hdma).frame.1]
  have hmbc2 : s2.mbc = s1.mbc := by
    have hhdma := of_clock4Mhz hhdma
    split at hhdma
    · obtain ⟨-, vram, hd, hframe⟩ := (hdmaStep_of_clockHdma hhdma).frame
      rw [hframe]
      rfl
    · rw [hhdma]
  rw [← hmbc1, ← hmbc2]
  exact of_clock4Mhz hmbc

theorem keepsBut_of_clockWith {timerClock : Timer → ClockContext → Timer × ClockContext}
    (h : s.clockWith timerClock = .ok s') (cells : Set Cell) : KeepsBut cells s s' := by
  have hmbc := mbc_of_clockWith h
  obtain ⟨s1, s2, hc⟩ := cycle_of_clockWith h
  refine ⟨hc.kept.svbk, fun c _ => ?_, fun address ha => ?_⟩
  · cases c with
    | wram i => exact congrArg (·.cell i) hc.memory.wram
    | hram i => exact congrArg (·.cell i) hc.memory.hram
  · split at hmbc
    · exact Mbc.rom_of_clock hmbc ha
    · rw [hmbc]

theorem keepsBut_of_clock (h : s.clock = .ok s') (cells : Set Cell) : KeepsBut cells s s' := by
  rw [clock_eq_clockWith] at h
  exact keepsBut_of_clockWith h cells

/-- A read keeps everything, and returns what is kept. -/
theorem keepsBut_of_clockRead {address : UInt16} {byte : UInt8}
    (h : s.clockRead address = .ok (byte, s')) (cells : Set Cell) :
    KeepsBut cells s s' ∧ s'.readBus s.activeDma.isSome address.toNat = .ok byte := by
  obtain ⟨t, hclock, h⟩ := bind_eq_ok.mp h
  obtain ⟨byte', hread, h⟩ := bind_eq_ok.mp h
  cases h
  exact ⟨keepsBut_of_clock hclock cells, hread⟩

theorem keepsBut_putWram (s : Soc) (i : Fin 0x12000) (data : UInt8) :
    KeepsBut {.wram i} s { s with wram := s.wram.put i data } ∧
      Soc.byteAt { s with wram := s.wram.put i data } (.wram i) = data := by
  refine ⟨⟨rfl, fun c hc => ?_, fun _ _ => rfl⟩, Mem.put_cell_self s.wram i data⟩
  cases c with
  | wram j => exact Mem.put_cell_of_ne _ (fun he => hc (congrArg Cell.wram he)) _
  | hram j => rfl

theorem keepsBut_putHram (s : Soc) (i : Fin 0x7F) (data : UInt8) :
    KeepsBut {.hram i} s { s with hram := s.hram.put i data } ∧
      Soc.byteAt { s with hram := s.hram.put i data } (.hram i) = data := by
  refine ⟨⟨rfl, fun c hc => ?_, fun _ _ => rfl⟩, Mem.put_cell_self s.hram i data⟩
  cases c with
  | wram j => rfl
  | hram j => exact Mem.put_cell_of_ne _ (fun he => hc (congrArg Cell.hram he)) _

theorem keepsBut_of_writeBus {activeDma : Bool} {address : ℕ} {data : UInt8} {c : Cell}
    (hsvbk : s.svbk ≤ 7) (hcell : cellOf s.svbk address = some c)
    (h : s.writeBus activeDma address data = .ok s') : KeepsBut {c} s s' ∧ s'.byteAt c = data := by
  rcases cellOf_eq_some hcell with ⟨ha, rfl⟩ | ⟨ha, rfl⟩
  · rw [writeBus_wram hsvbk ha] at h
    rw [← ok_inj.mp h]
    exact keepsBut_putWram s _ data
  · rw [writeBus_hram ha] at h
    rw [← ok_inj.mp h]
    exact keepsBut_putHram s _ data

/-- The timer's registers are no cells. -/
theorem outside_timer_of_cellOf {svbk : UInt8} {address : ℕ} {c : Cell}
    (hcell : cellOf svbk address = some c) : address < 0xFF04 ∨ 0xFF07 < address := by
  rcases cellOf_eq_some hcell with ⟨ha, -⟩ | ⟨ha, -⟩
  · exact .inl (Nat.lt_of_le_of_lt ha.2 (by decide))
  · exact .inr (Nat.lt_of_lt_of_le (by decide) ha.1)

/-- A write to a cell changes that cell. -/
theorem keepsBut_of_clockWrite {address : UInt16} {data : UInt8} {c : Cell} (hsvbk : s.svbk ≤ 7)
    (hcell : cellOf s.svbk address.toNat = some c) (h : s.clockWrite address data = .ok s') :
    KeepsBut {c} s s' ∧ s'.byteAt c = data := by
  rw [clockWrite_eq data (outside_timer_of_cellOf hcell)] at h
  obtain ⟨t, hclock, hw⟩ := bind_eq_ok.mp h
  have hkept := keepsBut_of_clock hclock {c}
  rw [← hkept.svbk] at hcell
  obtain ⟨hkept', hbyte⟩ := keepsBut_of_writeBus (hkept.svbk_le hsvbk) hcell hw
  exact ⟨hkept.trans hkept', hbyte⟩

end Soc

end ZenithGb
