import ZenithGb.Mbc.Mbc3Latch

/-!
# MBC3: banking

The mapper as its users know it: a ROM bank, an enable latch, and one selection for the external
window, which is a bank of RAM or a register of the clock. The code wraps the banks when they are
written and keeps the selection in two optional fields; `Mbc3.Refines` relates the two, and every
sequence of operations keeps it.

## Main results

* `Mbc3.Refines.read`, `Mbc3.Refines.write` — one operation refines the reference
* `Mbc3.Refines.window` — the RAM and the clock do not touch each other
* `Mbc3.mbc3_refines_reference` — every sequence, from the loaded cartridge on
-/

namespace ZenithGb

open Outcome

namespace Mbc3

/-! ### The reference -/

/-- What the mapper is wired to: the ROM, the banks of ROM and RAM, and whether there is a clock. -/
structure Board where
  rom : ℕ → UInt8
  romBanks : ℕ
  ramBanks : ℕ
  hasRtc : Bool

/-- What the external window shows. -/
inductive Selection
  | ram (bank : ℕ)
  | rtc (register : Fin 5)

/-- The registers as the last writes left them, and the RAM. -/
structure Reference where
  /-- The last 7-bit value written to 0x2000-0x3FFF, 0 read as 1. -/
  bank : ℕ
  /-- The last selection written to 0x4000-0x5FFF. -/
  selection : Option Selection
  /-- The last value written to 0x0000-0x1FFF had the low nibble 0xA. -/
  enabled : Bool
  ram : ℕ → UInt8

/-- What a value written to 0x4000-0x5FFF selects, if anything. -/
def Board.select (b : Board) (value : ℕ) : Option Selection :=
  if value ≤ 3 then some (.ram value)
  else if h : 8 ≤ value ∧ value ≤ 0xC then
    if b.hasRtc then some (.rtc ⟨value - 8, by omega⟩) else none
  else none

namespace Reference

def new : Reference := ⟨1, none, false, fun _ => 0⟩

/-- The cell of RAM an address in 0xA000-0xBFFF selects in a bank. -/
def ramCell (b : Board) (bank address : ℕ) : ℕ := 0x2000 * (bank % b.ramBanks) + (address - 0xA000)

/-- A read, where `shown` is what the clock shows. -/
def read (b : Board) (t : Reference) (shown : Fin 5 → UInt8) (address : ℕ) : UInt8 :=
  if address ≤ 0x3FFF then b.rom address
  else if address ≤ 0x7FFF then b.rom (0x4000 * (t.bank % b.romBanks) + (address - 0x4000))
  else if t.enabled then
    match t.selection with
    | some (.ram bank) => t.ram (ramCell b bank address)
    | some (.rtc register) => shown register
    | none => 0xFF
  else 0xFF

def write (b : Board) (t : Reference) (address : ℕ) (data : UInt8) : Reference :=
  if address ≤ 0x1FFF then { t with enabled := data.toNat % 16 = 0xA }
  else if address ≤ 0x3FFF then
    { t with bank := if data.toNat % 128 = 0 then 1 else data.toNat % 128 }
  else if address ≤ 0x5FFF then { t with selection := (b.select data.toNat).or t.selection }
  else if 0xA000 ≤ address ∧ address ≤ 0xBFFF ∧ t.enabled = true then
    match t.selection with
    | some (.ram bank) => { t with ram := Function.update t.ram (ramCell b bank address) data }
    | some (.rtc _) | none => t
  else t

/-- The reference after an operation. -/
def step (b : Board) (t : Reference) : Mbc.Op → Reference
  | .write address data => t.write b address data
  | .read _ | .clock => t

end Reference

/-! ### The relation -/

/-- The two fields of the mapper that hold a selection. -/
def Board.fields (b : Board) : Option Selection → Option ℕ × Option ℕ
  | none => (none, none)
  | some (.ram bank) => (some (bank % b.ramBanks), none)
  | some (.rtc register) => (none, some register.val)

/-- What the latch shows of the clock. -/
def shown (m : Mbc3) (i : Fin 5) : UInt8 := (m.rtcLatch.map (·.cell i)).getD 0xFF

/-- The mapper `m` holds what the reference holds. -/
structure Refines (b : Board) (m : Mbc3) (t : Reference) : Prop where
  valid : m.Valid
  rtc : RtcInv m
  romBanks : m.numRomBanks = b.romBanks
  ramBanks : m.numRamBanks = b.ramBanks
  hasRtc : m.hasRtc = b.hasRtc
  rom : ∀ i (h : i < m.rom.size), m.rom.cell ⟨i, h⟩ = b.rom i
  bank : m.romBank = t.bank % b.romBanks
  selection : (m.ramBank, m.rtcSelect) = b.fields t.selection
  enabled : m.ramEnabled = t.enabled
  ram : ∀ i (h : i < m.ram.size), m.ram.cell ⟨i, h⟩ = t.ram i

variable {b : Board} {m m' : Mbc3} {t : Reference}

theorem Refines.ramBank_lt (h : Refines b m t) (bank : ℕ) : bank % b.ramBanks < m.numRamBanks := by
  rw [h.ramBanks]
  exact Nat.mod_lt _ (h.ramBanks ▸ h.valid.oneRamBank)

theorem Refines.ramCell_lt (h : Refines b m t) (bank : ℕ) {address : ℕ} (ha : OnWindow address) :
    Reference.ramCell b bank address < m.ram.size := by
  have hoffset : address - 0xA000 < 0x2000 := by
    obtain ⟨hlow, hhigh⟩ := ha
    omega
  rw [h.valid.ram]
  exact bank_offset_lt (h.ramBank_lt bank) hoffset

/-- A read of the selected bank of RAM. -/
theorem read_ram (henabled : m.ramEnabled = true) {bank : ℕ} (hbank : m.ramBank = some bank)
    (hselect : m.rtcSelect = none) {address : ℕ} (ha : OnWindow address) :
    m.read address = m.ram.get (.index .mbc3Read) (0x2000 * bank + (address - 0xA000)) := by
  have h1 : ¬ address ≤ 0x3FFF := ha.not_le (by decide)
  have h2 : ¬ address ≤ 0x7FFF := ha.not_le (by decide)
  rw [OnWindow] at ha
  rw [Mbc3.read, if_neg h1, if_neg h2, if_pos ha, if_neg (by rw [henabled]; decide), hselect, hbank]

/-- The external window shows what is selected. -/
theorem Refines.read_window (h : Refines b m t) {address : ℕ} (ha : OnWindow address) :
    m.read address = .ok (if t.enabled then
      match t.selection with
      | some (.ram bank) => t.ram (Reference.ramCell b bank address)
      | some (.rtc register) => m.shown register
      | none => 0xFF
    else 0xFF) := by
  have h1 : ¬ address ≤ 0x3FFF := ha.not_le (by decide)
  have h2 : ¬ address ≤ 0x7FFF := ha.not_le (by decide)
  have hsel := h.selection
  have henabled := h.enabled
  cases hen : t.enabled with
  | false =>
    rw [OnWindow] at ha
    rw [Mbc3.read, if_neg h1, if_neg h2, if_pos ha, henabled, hen]
    rfl
  | true =>
    rw [hen] at henabled
    cases hs : t.selection with
    | none =>
      rw [hs] at hsel
      obtain ⟨hbank, hselect⟩ := Prod.mk.inj hsel
      rw [OnWindow] at ha
      rw [Mbc3.read, if_neg h1, if_neg h2, if_pos ha, henabled, hbank, hselect]
      rfl
    | some s =>
      rw [hs] at hsel
      cases s with
      | ram bank =>
        obtain ⟨hbank, hselect⟩ := Prod.mk.inj hsel
        have hlt := h.ramCell_lt bank ha
        unfold Reference.ramCell at hlt ⊢
        rw [read_ram henabled hbank hselect ha, Buf.get_of_lt _ _ hlt, h.ram]
        rfl
      | rtc register =>
        obtain ⟨-, hselect⟩ := Prod.mk.inj hsel
        exact read_register henabled hselect ha

/-- **A read of the mapper is a read of the reference.** -/
theorem Refines.read (h : Refines b m t) {address : ℕ} (ha : Mbc.OnBus address) :
    m.read address = .ok (t.read b m.shown address) := by
  rw [Mbc3.read, Reference.read, ← h.bank]
  refine get_romWindows h.rom h.valid.rom h.valid.twoBanks h.valid.romBank fun h2 => ?_
  have hwindow := h.read_window (ha.resolve_left h2)
  rwa [Mbc3.read, if_neg (by omega), if_neg h2] at hwindow

/-! ### Writes -/

/-- A selection, with the banks of RAM wrapped; other values leave it as it was. -/
theorem Refines.select (h : Refines b m t) {address : ℕ} {data : UInt8} (h2 : ¬ address ≤ 0x3FFF)
    (h3 : address ≤ 0x5FFF) (hw : m.write address data = .ok m') :
    ∃ ramBank rtcSelect, m' = { m with ramBank, rtcSelect } ∧
      (ramBank, rtcSelect) = b.fields ((b.select data.toNat).or t.selection) := by
  have h1 : ¬ address ≤ 0x1FFF := fun h1 => h2 (h1.trans (by decide))
  have hone : 0 < m.numRamBanks := h.valid.oneRamBank
  rw [Mbc3.write, if_neg h1, if_neg h2, if_pos h3] at hw
  rw [Board.select, ← h.hasRtc]
  simp only [UInt8.le_iff_toNat_le] at hw
  split at hw
  · rename_i hram
    have hram : data.toNat ≤ 3 := hram
    rw [checkedRem_of_pos _ hone] at hw
    cases hw
    refine ⟨_, _, rfl, ?_⟩
    rw [if_pos hram, h.ramBanks]
    rfl
  · rename_i hram
    have hram : ¬ data.toNat ≤ 3 := hram
    rw [if_neg hram]
    split at hw
    · rename_i hclock
      have hclock : 8 ≤ data.toNat ∧ data.toNat ≤ 0xC := hclock
      rw [dif_pos hclock]
      split at hw
      · rename_i hrtc
        cases hw
        refine ⟨_, _, rfl, ?_⟩
        rw [if_pos hrtc]
        rfl
      · rename_i hrtc
        cases hw
        refine ⟨_, _, rfl, ?_⟩
        rw [if_neg hrtc]
        exact h.selection
    · rename_i hclock
      have hclock : ¬ (8 ≤ data.toNat ∧ data.toNat ≤ 0xC) := hclock
      cases hw
      refine ⟨_, _, rfl, ?_⟩
      rw [dif_neg hclock]
      exact h.selection

/-- What a write to the external window touches: the RAM, or the selected register of the clock. -/
structure Isolated (t : Reference) (m : Mbc3) (data : UInt8) (m' : Mbc3) : Prop where
  none : t.enabled = false ∨ t.selection = none → m' = m
  ram : t.enabled = true → ∀ bank, t.selection = some (.ram bank) → ∃ ram, m' = { m with ram }
  rtc : t.enabled = true → ∀ register, t.selection = some (.rtc register) →
    m'.rtcRegisters = m.rtcRegisters.put register (data &&& rtcMask register) ∧
      ∃ regs latch left,
        m' = { m with rtcRegisters := regs, rtcLatch := latch, rtcCyclesLeft := left }

/-- A write to the external window, by what is selected. -/
theorem Refines.write_window (h : Refines b m t) {address : ℕ} (data : UInt8)
    (ha : OnWindow address) : m.write address data =
      if t.enabled then
        match t.selection with
        | some (.ram bank) =>
          (fun ram => { m with ram }) <$>
            m.ram.set (.index .mbc3Write) (Reference.ramCell b bank address) data
        | some (.rtc register) => m.writeRtc register data
        | none => .ok m
      else .ok m := by
  have h1 : ¬ address ≤ 0x1FFF := ha.not_le (by decide)
  have h2 : ¬ address ≤ 0x3FFF := ha.not_le (by decide)
  have h3 : ¬ address ≤ 0x5FFF := ha.not_le (by decide)
  have h4 : ¬ address ≤ 0x7FFF := ha.not_le (by decide)
  have hsel := h.selection
  have henabled := h.enabled
  unfold OnWindow at ha
  rw [Mbc3.write, if_neg h1, if_neg h2, if_neg h3, if_neg h4, if_pos ha]
  cases hen : t.enabled with
  | false => rw [henabled, hen]; rfl
  | true =>
    rw [if_pos rfl, if_neg (by rw [henabled, hen]; decide)]
    cases hs : t.selection with
    | none =>
      rw [hs] at hsel
      obtain ⟨hbank, hselect⟩ := Prod.mk.inj hsel
      rw [hbank, hselect]
    | some s =>
      rw [hs] at hsel
      cases s with
      | ram bank =>
        obtain ⟨hbank, hselect⟩ := Prod.mk.inj hsel
        rw [hbank, hselect]
        unfold Reference.ramCell
        dsimp only
        cases m.ram.set (Panic.index .mbc3Write)
          (0x2000 * (bank % b.ramBanks) + (address - 0xA000)) data <;> rfl
      | rtc register =>
        obtain ⟨-, hselect⟩ := Prod.mk.inj hsel
        rw [hselect]

/-- **The RAM and the clock do not touch each other.** -/
theorem Refines.window (h : Refines b m t) {address : ℕ} {data : UInt8} (ha : OnWindow address)
    (hw : m.write address data = .ok m') : Isolated t m data m' := by
  rw [h.write_window data ha] at hw
  constructor
  · intro hoff
    obtain hoff | hoff := hoff
    · rw [hoff] at hw
      exact (ok_inj.mp hw).symm
    · rw [hoff] at hw
      split at hw <;> exact (ok_inj.mp hw).symm
  · intro hen bank hs
    rw [hen, hs] at hw
    obtain ⟨ram, -, rfl⟩ := map_eq_ok.mp hw
    exact ⟨ram, rfl⟩
  · intro hen register hs
    rw [hen, hs] at hw
    obtain ⟨i, hi, left, rfl⟩ := writeRtc_eq_ok hw
    obtain rfl := Fin.ext hi
    exact ⟨rfl, _, _, _, rfl⟩

/-- The write wraps the bank that the reference wraps when it reads. -/
theorem romBank_eq {N : ℕ} (hN : 2 ≤ N) (data : UInt8) :
    (if data &&& 0x7F = 0 then .ok 1 else checkedRem .mbc3Write (data &&& 0x7F).toNat N) =
      Except.ok ((if data.toNat % 128 = 0 then 1 else data.toNat % 128) % N) := by
  have hlow : (data &&& 0x7F).toNat = data.toNat % 128 := toNat_and_low (b := 7) rfl data
  have hzero : data &&& 0x7F = 0 ↔ data.toNat % 128 = 0 := by
    rw [← hlow, ← UInt8.toNat_inj]
    rfl
  by_cases h0 : data.toNat % 128 = 0
  · rw [if_pos (hzero.mpr h0), if_pos h0, Nat.mod_eq_of_lt hN]
  · rw [if_neg (hzero.not.mpr h0), if_neg h0, checkedRem_of_pos _ (by omega), hlow]

/-- A write outside the external window, to the ROM's addresses. -/
theorem Refines.write_rom (h : Refines b m t) {address : ℕ} {data : UInt8}
    (ha : address ≤ 0x7FFF) (hvalid : m'.Valid) (hrtc : RtcInv m')
    (hw : m.write address data = .ok m') : Refines b m' (t.write b address data) := by
  have hwin : ¬ (0xA000 ≤ address ∧ address ≤ 0xBFFF ∧ t.enabled = true) := by omega
  rw [Reference.write]
  by_cases h1 : address ≤ 0x1FFF
  · rw [Mbc3.write, if_pos h1] at hw
    rw [if_pos h1]
    cases hw
    exact { h with valid := hvalid, rtc := hrtc, enabled := enabled_eq data }
  rw [if_neg h1]
  by_cases h2 : address ≤ 0x3FFF
  · have hbank := romBank_eq h.valid.twoBanks data
    rw [Mbc3.write, if_neg h1, if_pos h2] at hw
    rw [if_pos h2]
    dsimp only at hw
    split at hw
    · rename_i hzero
      rw [if_pos hzero, h.romBanks] at hbank
      cases hw
      exact { h with valid := hvalid, rtc := hrtc, bank := ok_inj.mp hbank }
    · rename_i hzero
      rw [if_neg hzero] at hbank
      rw [hbank] at hw
      cases hw
      exact { h with valid := hvalid, rtc := hrtc, bank := by rw [h.romBanks] }
  rw [if_neg h2]
  by_cases h3 : address ≤ 0x5FFF
  · obtain ⟨ramBank, rtcSelect, rfl, hselect⟩ := h.select h2 h3 hw
    rw [if_pos h3]
    exact { h with valid := hvalid, rtc := hrtc, selection := hselect }
  rw [if_neg h3, if_neg hwin]
  rw [Mbc3.write, if_neg h1, if_neg h2, if_neg h3, if_pos ha] at hw
  split at hw
  · cases hw
    exact h
  · dsimp only at hw
    split at hw <;> (cases hw; exact { h with valid := hvalid, rtc := hrtc })

/-- A write to the external window. -/
theorem Refines.write_ram (h : Refines b m t) {address : ℕ} {data : UInt8} (ha : OnWindow address)
    (hvalid : m'.Valid) (hrtc : RtcInv m') (hw : m.write address data = .ok m') :
    Refines b m' (t.write b address data) := by
  have h3 : ¬ address ≤ 0x1FFF ∧ ¬ address ≤ 0x3FFF ∧ ¬ address ≤ 0x5FFF :=
    ⟨ha.not_le (by decide), ha.not_le (by decide), ha.not_le (by decide)⟩
  rw [h.write_window data ha] at hw
  rw [Reference.write, if_neg h3.1, if_neg h3.2.1, if_neg h3.2.2]
  cases hen : t.enabled with
  | false =>
    rw [hen] at hw
    rw [if_neg (by simp)]
    cases hw
    exact h
  | true =>
    rw [hen, if_pos rfl] at hw
    rw [if_pos ⟨ha.1, ha.2, rfl⟩]
    cases hs : t.selection with
    | none =>
      rw [hs] at hw
      cases hw
      exact h
    | some s =>
      rw [hs] at hw
      cases s with
      | ram bank =>
        obtain ⟨ram, hset, rfl⟩ := map_eq_ok.mp hw
        rw [Buf.set_of_lt _ _ (h.ramCell_lt bank ha)] at hset
        cases hset
        refine { h with valid := hvalid, rtc := hrtc, ram := fun i hi => ?_,
                        selection := h.selection.trans (congrArg b.fields hs),
                        enabled := h.enabled.trans hen }
        simp only [Function.update_apply, Fin.mk.injEq]
        exact ite_congr rfl (fun _ => rfl) fun _ => h.ram i hi
      | rtc register =>
        obtain ⟨i, -, left, rfl⟩ := writeRtc_eq_ok hw
        exact { h with valid := hvalid, rtc := hrtc }

/-- **A write of the mapper is a write of the reference.** -/
theorem Refines.write (h : Refines b m t) (address : ℕ) (data : UInt8) :
    Total (m.write address data) fun m' => Refines b m' (t.write b address data) := by
  obtain ⟨m', hw, hvalid⟩ := (h.valid.write address data).exists_ok
  have hrtc : RtcInv m' := by
    obtain hsame | ⟨-, hsets⟩ := write_rtc hw
    · exact hsame.inv h.rtc
    · exact hsets.inv h.rtc
  rw [hw]
  by_cases h4 : address ≤ 0x7FFF
  · exact h.write_rom h4 hvalid hrtc hw
  by_cases hwin : OnWindow address
  · exact h.write_ram hwin hvalid hrtc hw
  · have h3 : ¬ address ≤ 0x1FFF ∧ ¬ address ≤ 0x3FFF ∧ ¬ address ≤ 0x5FFF := by omega
    have hkept : t.write b address data = t := by
      rw [Reference.write, if_neg h3.1, if_neg h3.2.1, if_neg h3.2.2,
        if_neg fun ha => hwin ⟨ha.1, ha.2.1⟩]
    unfold OnWindow at hwin
    rw [Mbc3.write, if_neg h3.1, if_neg h3.2.1, if_neg h3.2.2, if_neg h4, if_neg hwin] at hw
    cases hw
    show Refines b m (t.write b address data)
    rw [hkept]
    exact h

/-- Clocks leave everything but the clock alone. -/
theorem Refines.clock (h : Refines b m t) : Total m.clock fun m' => Refines b m' t := by
  obtain ⟨m', hclock, hrtc⟩ := (total_clock h.rtc).exists_ok
  have hvalid := h.valid.clock.of_ok hclock
  obtain ⟨regs, left, rfl⟩ := clock_eq_ok h.rtc hclock
  rw [hclock]
  exact { h with valid := hvalid, rtc := hrtc }

end Mbc3

/-! ### Loading -/

/-- What an MBC3 cartridge is wired to. -/
def Cartridge.mbc3Board (cart : Cartridge) : Mbc3.Board where
  rom i := if h : i < cart.data.size then cart.data.cell ⟨i, h⟩ else 0
  romBanks := 2 ^ (cart.header.romSize.toNat + 1)
  ramBanks := if cart.header.ramSize = 2 then 1 else if cart.header.ramSize = 3 then 4
    else if cart.header.ramSize = 4 then 16 else 8
  hasRtc := cart.header.cartType = 0x0F ∨ cart.header.cartType = 0x10

/-- An MBC3 cartridge with RAM and without a save file, with as much data as its header says, which
fits into memory. -/
structure Cartridge.IsMbc3 (cart : Cartridge) : Prop where
  cartType : 0x0F ≤ cart.header.cartType.toNat ∧ cart.header.cartType.toNat ≤ 0x13
  ramBanks : ∃ banks, ZenithGb.ramBanks cart.header = .ok banks ∧ 1 ≤ banks.numBanks
  length : cart.data.size = 0x8000 * 2 ^ cart.header.romSize.toNat
  fits : cart.data.size < 2 ^ 64
  noSave : cart.saveFile = none

namespace Mbc3

/-- Loading makes the reference's initial state. -/
theorem refines_of_load {cart : Cartridge} (hc : cart.IsMbc3) :
    Total (new.load cart) fun m => Refines cart.mbc3Board m .new := by
  obtain ⟨banks, hbanks, hone⟩ := hc.ramBanks
  have hlen := hc.length
  have hfits : cart.header.romSize.toNat < 49 := by
    have hlt := hc.fits
    rw [hlen] at hlt
    refine (Nat.pow_lt_pow_iff_right (a := 2) (by decide)).mp ?_
    omega
  have hsize : 0x8000 * 2 ^ cart.header.romSize.toNat =
      0x4000 * 2 ^ (cart.header.romSize.toNat + 1) := by
    rw [pow_succ]
    omega
  have hboard : banks.numBanks = cart.mbc3Board.ramBanks := by
    rw [Cartridge.mbc3Board]
    rcases ramBanks_eq_ok hbanks with ⟨-, rfl⟩ | ⟨h, rfl⟩ | ⟨h, rfl⟩ | ⟨h, rfl⟩ | ⟨h, rfl⟩
    · exact absurd hone (by decide)
    all_goals rw [h]; rfl
  rw [load]
  dsimp only
  rw [romBanks_of_lt hfits, ok_bind, hbanks, ok_bind, assert_of _ hlen.symm, ok_bind]
  rw [Buf.slice, dif_pos hlen.ge, ok_bind, hc.noSave, restoreRam_none, ok_bind]
  refine { valid := ?_, rtc := ?_, romBanks := rfl, ramBanks := hboard, hasRtc := ?_, rom := ?_,
           bank := ?_, selection := rfl, enabled := rfl, ram := fun i hi => rfl }
  · exact ⟨hsize, two_le_romBanks _, two_le_romBanks _, ramBanks_sizeBytes hbanks,
      fun bank hb => absurd hb (Option.not_mem_none bank), hone,
      fun register hr => absurd hr (Option.not_mem_none register)⟩
  · refine ⟨fun i => UInt8.zero_and, ?_, le_rfl⟩
    show 1 ≤ gbClocksPerSecond
    decide
  · rw [Cartridge.mbc3Board, Bool.decide_or]
    rfl
  · intro i hi
    have hdata : i < cart.data.size := hi.trans_le hlen.ge
    show cart.data.cell ⟨i, hdata⟩ = if h : i < cart.data.size then cart.data.cell ⟨i, h⟩ else 0
    rw [dif_pos hdata]
  · exact (Nat.mod_eq_of_lt (two_le_romBanks _)).symm

/-- What may be asked of the mapper: any write, and reads on the bus. -/
def Served : Mbc.Op → Prop
  | .read address => Mbc.OnBus address
  | .write _ _ | .clock => True

/-- **MBC3 refines its reference.** After every sequence of writes, reads and clocks, none of which
fails, a read gives the byte the reference gives, and a write to the external window touches the
RAM or the selected register of the clock, but not both. -/
theorem mbc3_refines_reference {cart : Cartridge} (hc : cart.IsMbc3) {ops : List Mbc.Op}
    (hops : ∀ op ∈ ops, Served op) :
    Total (Mbc.ofCartridge cart >>= Machine.exec Mbc.step ops) fun M => ∃ m, M = .mbc3 m ∧
      let t := ops.foldl (Reference.step cart.mbc3Board) .new
      (∀ address, Mbc.OnBus address →
        m.read address = .ok (t.read cart.mbc3Board m.shown address)) ∧
      ∀ address data, OnWindow address →
        Total (m.write address data) fun m' => Isolated t m data m' := by
  let R : Mbc → Reference → Prop := fun M t => ∃ m, M = .mbc3 m ∧ Refines cart.mbc3Board m t
  have hload : Total (Mbc.ofCartridge cart) fun M => R M .new := by
    obtain ⟨hlow, hhigh⟩ := hc.cartType
    unfold Mbc.ofCartridge
    dsimp only
    rw [if_neg (by omega), if_neg (by omega), if_pos ⟨hlow, hhigh⟩]
    exact meets_map.mpr ((refines_of_load hc).imp fun m hm => ⟨m, rfl, hm⟩)
  refine (Mbc.run_refines (Reference.step cart.mbc3Board) hload ?_ ?_ ?_ hops).imp ?_
  · rintro _ t address hop ⟨m, rfl, hm⟩
    have hread : Mbc.read (.mbc3 m) address = .ok (t.read cart.mbc3Board m.shown address) :=
      hm.read hop
    rw [hread]
    exact ⟨m, rfl, hm⟩
  · rintro _ t address data - ⟨m, rfl, hm⟩
    exact meets_map.mpr ((hm.write address data).imp fun m' hm' => ⟨m', rfl, hm'⟩)
  · rintro _ t - ⟨m, rfl, hm⟩
    exact meets_map.mpr (hm.clock.imp fun m' hm' => ⟨m', rfl, hm'⟩)
  · rintro _ ⟨m, rfl, hm⟩
    refine ⟨m, rfl, fun address ha => hm.read ha, fun address data ha => ?_⟩
    obtain ⟨m', hw, -⟩ := (hm.write address data).exists_ok
    rw [hw]
    exact hm.window ha hw

/-- A cartridge with 8 KiB of RAM, with bank 3 of it asked for and a byte written there. -/
theorem mbc3_refines_reference_blank :
    let cart := Cartridge.blank 0x12 2 0xD3
    let ops : List Mbc.Op := [.write 0x0000 0x0A, .write 0x4000 3, .write 0xA000 0x42]
    cart.IsMbc3 ∧ Total (Mbc.ofCartridge cart >>= Machine.exec Mbc.step ops) fun M =>
      ∃ m, M = .mbc3 m ∧ m.read 0xA000 = .ok 0x42 := by
  intro cart ops
  have hc : cart.IsMbc3 := ⟨by decide, ⟨_, rfl, le_rfl⟩, rfl, by decide, rfl⟩
  have hserved : ∀ op ∈ ops, Served op := by simp [ops, Served]
  refine ⟨hc, (mbc3_refines_reference hc hserved).imp ?_⟩
  · rintro _ ⟨m, rfl, hread, -⟩
    refine ⟨m, rfl, (hread 0xA000 (.inr ⟨by decide, by decide⟩)).trans (congrArg _ ?_)⟩
    exact @Function.update_self ℕ (fun _ => UInt8) _ (Reference.ramCell cart.mbc3Board 3 0xA000)
      0x42 (fun _ => 0)

end Mbc3

end ZenithGb
