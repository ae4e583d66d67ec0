import Mathlib.Data.Nat.Bitwise
import ZenithGb.Mbc.Banking

/-!
# MBC5: banking

The mapper as its users know it: a 9-bit ROM bank register written in two parts, a RAM bank, and an
enable latch. The code keeps only the bank that results, reduced by the number of banks, and takes
the other part out of it again at each write. Nothing is lost because the number of banks is a
power of two: up to 256 of them, the upper part never matters; with 512 nothing is reduced.

## Main results

* `Mbc5.setLow_mod`, `Mbc5.setHigh_mod` — a write to one part of the reduced bank
* `Mbc5.Refines.read`, `Mbc5.Refines.write` — one operation refines the reference
* `Mbc5.mbc5_refines_reference` — so does every sequence, from the loaded cartridge on
-/

namespace ZenithGb

open Outcome

namespace Mbc5

/-! ### The reference -/

/-- What the mapper is wired to: the ROM, and the banks of ROM and RAM. -/
structure Board where
  rom : ℕ → UInt8
  romBanks : ℕ
  ramBanks : ℕ

/-- The registers as the last writes left them, and the RAM. -/
structure Reference where
  /-- The last byte written to 0x2000-0x2FFF. -/
  low : UInt8
  /-- Bit 0 of the last byte written to 0x3000-0x3FFF. -/
  high : Bool
  /-- The low nibble of the last byte written to 0x4000-0x5FFF. -/
  ramBank : ℕ
  /-- The last value written to 0x0000-0x1FFF had the low nibble 0xA. -/
  enabled : Bool
  ram : ℕ → UInt8

namespace Reference

def new : Reference := ⟨1, false, 0, false, fun _ => 0⟩

/-- The 9-bit register. -/
def bank (t : Reference) : ℕ := t.low.toNat + 0x100 * t.high.toNat

/-- The cell of RAM an address in 0xA000-0xBFFF selects. -/
def ramCell (b : Board) (t : Reference) (address : ℕ) : ℕ :=
  0x2000 * (t.ramBank % b.ramBanks) + (address - 0xA000)

def read (b : Board) (t : Reference) (address : ℕ) : UInt8 :=
  if address ≤ 0x3FFF then b.rom address
  else if address ≤ 0x7FFF then b.rom (0x4000 * (t.bank % b.romBanks) + (address - 0x4000))
  else if t.enabled then t.ram (t.ramCell b address)
  else 0xFF

def write (b : Board) (t : Reference) (address : ℕ) (data : UInt8) : Reference :=
  if address ≤ 0x1FFF then { t with enabled := data.toNat % 16 = 0xA }
  else if address ≤ 0x2FFF then { t with low := data }
  else if address ≤ 0x3FFF then { t with high := data.toNat % 2 = 1 }
  else if address ≤ 0x5FFF then { t with ramBank := data.toNat % 16 }
  else if 0xA000 ≤ address ∧ address ≤ 0xBFFF ∧ t.enabled = true then
    { t with ram := Function.update t.ram (t.ramCell b address) data }
  else t

end Reference

/-! ### The two parts of the bank -/

theorem and_page (x : ℕ) : x &&& 0x100 = (x / 0x100 % 2) <<< 8 := by
  have hbit : x &&& 2 ^ 8 = (x.testBit 8).toNat * 2 ^ 8 := Nat.and_two_pow x 8
  rw [Nat.testBit_eq_decide_div_mod_eq] at hbit
  have hnat : (decide (x / 2 ^ 8 % 2 = 1)).toNat = x / 2 ^ 8 % 2 := by
    obtain h | h := Nat.mod_two_eq_zero_or_one (x / 2 ^ 8) <;> rw [h] <;> rfl
  rw [hnat] at hbit
  rw [Nat.shiftLeft_eq]
  exact hbit

/-- A part below the page number and the page number. -/
theorem or_shiftLeft_page {low : ℕ} (hlow : low < 2 ^ 8) (page : ℕ) :
    page <<< 8 ||| low = low + 0x100 * page := by
  rw [← Nat.shiftLeft_add_eq_or_of_lt hlow, Nat.shiftLeft_eq, Nat.mul_comm, Nat.add_comm]

/-- The upper part kept, the lower one replaced. -/
theorem page_or (x : ℕ) (data : UInt8) :
    x &&& 0x100 ||| data.toNat = data.toNat + 0x100 * (x / 0x100 % 2) := by
  rw [and_page, or_shiftLeft_page data.toNat_lt]

/-- The lower part kept, the upper one replaced. -/
theorem or_page (x bit : ℕ) : x &&& 0xFF ||| bit <<< 8 = x % 0x100 + 0x100 * bit := by
  have hlow : x &&& 0xFF = x % 0x100 := Nat.and_two_pow_sub_one_eq_mod x 8
  have hlt : x % 0x100 < 2 ^ 8 := Nat.mod_lt x (by decide)
  rw [hlow, Nat.or_comm, or_shiftLeft_page hlt]

/-- The numbers of banks with which reducing the register loses nothing that matters. -/
def Lossless (n : ℕ) : Prop := n ∣ 0x100 ∨ n = 0x200

theorem lossless_romBanks {r : ℕ} (h : r ≤ 8) : Lossless (2 ^ (r + 1)) := by
  obtain hlt | rfl := Nat.lt_or_eq_of_le h
  · exact .inl (pow_dvd_pow 2 (by omega : r + 1 ≤ 8))
  · exact .inr rfl

section

variable {n : ℕ} (hn : Lossless n) (low : UInt8) (high : Bool)
include hn

/-- Replacing the lower part of the reduced bank. -/
theorem setLow_mod (data : UInt8) :
    (((low.toNat + 0x100 * high.toNat) % n &&& 0x100) ||| data.toNat) % n =
      (data.toNat + 0x100 * high.toNat) % n := by
  rw [page_or]
  obtain hdvd | rfl := hn
  · have hpage : ∀ x, (data.toNat + 0x100 * x) % n = data.toNat % n := by
      intro x
      rw [Nat.add_mod, Nat.mod_eq_zero_of_dvd (hdvd.mul_right x), Nat.add_zero, Nat.mod_mod]
    rw [hpage, hpage]
  · have hlow := low.toNat_lt
    have hhigh := high.toNat_le
    have hreg : (low.toNat + 0x100 * high.toNat) % 0x200 / 0x100 % 2 = high.toNat := by omega
    rw [hreg]

/-- Replacing the upper part of the reduced bank. -/
theorem setHigh_mod (bit : Bool) :
    (((low.toNat + 0x100 * high.toNat) % n &&& 0xFF) ||| bit.toNat <<< 8) % n =
      (low.toNat + 0x100 * bit.toNat) % n := by
  rw [or_page]
  obtain hdvd | rfl := hn
  · have hpage : ∀ y x, (y + 0x100 * x) % n = y % n := by
      intro y x
      rw [Nat.add_mod, Nat.mod_eq_zero_of_dvd (hdvd.mul_right x), Nat.add_zero, Nat.mod_mod]
    rw [hpage, hpage, hpage, Nat.mod_mod_of_dvd _ hdvd, Nat.mod_mod]
  · have hlow := low.toNat_lt
    have hhigh := high.toNat_le
    have hreg : (low.toNat + 0x100 * high.toNat) % 0x200 % 0x100 = low.toNat := by omega
    rw [hreg]

end

/-! ### The relation -/

/-- The mapper `m` holds what the reference holds. -/
structure Refines (b : Board) (m : Mbc5) (t : Reference) : Prop where
  valid : m.Valid
  romBanks : m.numRomBanks = b.romBanks ∧ Lossless b.romBanks
  ramBanks : m.numRamBanks = b.ramBanks
  rom : m.rom.Holds b.rom
  bank : m.romBank = t.bank % b.romBanks
  ramBank : m.ramBank = t.ramBank % b.ramBanks
  enabled : m.ramEnabled = t.enabled
  ram : m.ram.Holds t.ram

variable {b : Board} {m m' : Mbc5} {t : Reference}

/-- **A read of the mapper is a read of the reference.** -/
theorem Refines.read (h : Refines b m t) {address : ℕ} (ha : Mbc.OnBus address) :
    m.read address = .ok (t.read b address) := by
  rw [Mbc5.read, Reference.read, ← h.bank]
  refine get_romWindows h.rom h.valid.rom h.valid.twoBanks h.valid.romBank fun h2 => ?_
  have ha : 0xA000 ≤ address ∧ address ≤ 0xBFFF := ha.resolve_left h2
  rw [if_pos ha, h.enabled]
  cases t.enabled with
  | false => rfl
  | true =>
    rw [if_neg (by decide), if_pos rfl, get_bank h.ram h.valid.ram h.valid.ramBank (by omega),
      h.ramBank]
    rfl

/-! ### Writes -/

theorem Refines.setLow (h : Refines b m t) (data : UInt8) :
    Total (checkedRem .mbc5Write ((m.romBank &&& 0x100) ||| data.toNat) m.numRomBanks) fun bank =>
      bank = { t with low := data }.bank % b.romBanks := by
  obtain ⟨hbanks, hlossless⟩ := h.romBanks
  have htwo := h.valid.twoBanks
  rw [checkedRem_of_pos _ (by omega), hbanks, h.bank]
  exact setLow_mod hlossless t.low t.high data

theorem Refines.setHigh (h : Refines b m t) (data : UInt8) :
    Total (checkedRem .mbc5Write
        ((m.romBank &&& 0xFF) ||| ((data &&& (1 : UInt8)).toNat <<< 8)) m.numRomBanks) fun bank =>
      bank = { t with high := data.toNat % 2 = 1 }.bank % b.romBanks := by
  obtain ⟨hbanks, hlossless⟩ := h.romBanks
  have htwo := h.valid.twoBanks
  have hbit : (data &&& 1).toNat = (decide (data.toNat % 2 = 1)).toNat := by
    have hlow : (data &&& 1).toNat = data.toNat % 2 := toNat_and_low (b := 1) rfl data
    obtain hbit | hbit := Nat.mod_two_eq_zero_or_one data.toNat <;> rw [hlow, hbit] <;> rfl
  rw [checkedRem_of_pos _ (by omega), hbanks, h.bank, hbit]
  exact setHigh_mod hlossless t.low t.high _

/-- A write to the enabled RAM. -/
theorem Refines.setRam (h : Refines b m t) {address : ℕ}
    (ha : 0xA000 ≤ address ∧ address ≤ 0xBFFF) (data : UInt8) :
    Total (m.ram.set (Panic.index .mbc5Write) (0x2000 * m.ramBank + (address - 0xA000)) data)
      fun ram =>
      ram.size = m.ram.size ∧ ram.Holds (Function.update t.ram (t.ramCell b address) data) := by
  obtain ⟨ram, hset, hsize, hram⟩ := h.ram.set (Panic.index .mbc5Write)
    (h.valid.ramIndex_lt ha.2 ha.1) data
  rw [h.ramBank] at hram
  rw [hset]
  exact ⟨hsize, hram⟩

/-- **A write of the mapper is a write of the reference.** -/
theorem Refines.write (h : Refines b m t) (address : ℕ) (data : UInt8) :
    Total (m.write address data) fun m' => Refines b m' (t.write b address data) := by
  have hvalid := h.valid.write address data
  have hone : 0 < m.numRamBanks := Nat.zero_lt_of_lt h.valid.ramBank
  rw [Mbc5.write] at hvalid ⊢
  rw [Reference.write]
  by_cases h1 : address ≤ 0x1FFF
  · rw [if_pos h1] at hvalid ⊢
    rw [if_pos h1]
    exact { h with valid := hvalid, enabled := enabled_eq data }
  rw [if_neg h1] at hvalid ⊢
  rw [if_neg h1]
  by_cases h2 : address ≤ 0x2FFF
  · rw [if_pos h2] at hvalid ⊢
    rw [if_pos h2]
    obtain ⟨bank, hbank, heq⟩ := (h.setLow data).exists_ok
    rw [hbank] at hvalid ⊢
    exact { h with valid := hvalid, bank := heq }
  rw [if_neg h2] at hvalid ⊢
  rw [if_neg h2]
  by_cases h3 : address ≤ 0x3FFF
  · rw [if_pos h3] at hvalid ⊢
    rw [if_pos h3]
    obtain ⟨bank, hbank, heq⟩ := (h.setHigh data).exists_ok
    rw [hbank] at hvalid ⊢
    exact { h with valid := hvalid, bank := heq }
  rw [if_neg h3] at hvalid ⊢
  rw [if_neg h3]
  by_cases h4 : address ≤ 0x5FFF
  · rw [if_pos h4, checkedRem_of_pos _ hone] at hvalid ⊢
    rw [if_pos h4]
    refine { h with valid := hvalid, ramBank := ?_ }
    show (data.toNat &&& 2 ^ 4 - 1) % m.numRamBanks = data.toNat % 16 % b.ramBanks
    rw [Nat.and_two_pow_sub_one_eq_mod, h.ramBanks]
  rw [if_neg h4] at hvalid ⊢
  rw [if_neg h4]
  by_cases ha : 0xA000 ≤ address ∧ address ≤ 0xBFFF
  · rw [if_pos ha, h.enabled] at hvalid ⊢
    cases hen : t.enabled with
    | false =>
      rw [if_pos (by decide), if_neg (fun hall => Bool.false_ne_true hall.2.2)]
      exact h
    | true =>
      rw [hen, if_neg (by decide)] at hvalid
      rw [if_neg (by decide), if_pos ⟨ha.1, ha.2, rfl⟩]
      obtain ⟨ram, hset, -, hram⟩ := (h.setRam ha data).exists_ok
      rw [hset] at hvalid ⊢
      exact { h with valid := hvalid, enabled := rfl, ram := hram }
  · rw [if_neg ha, if_neg fun hall => ha ⟨hall.1, hall.2.1⟩]
    exact h

/-! ### Loading -/

end Mbc5

/-- What an MBC5 cartridge is wired to. -/
def Cartridge.mbc5Board (cart : Cartridge) : Mbc5.Board where
  rom := cart.romByte
  romBanks := 2 ^ (cart.header.romSize.toNat + 1)
  ramBanks := if cart.header.ramSize = 2 then 1 else if cart.header.ramSize = 3 then 4
    else if cart.header.ramSize = 4 then 16 else 8

/-- An MBC5 cartridge of up to 8 MiB with at least one bank of RAM and without a save file. -/
structure Cartridge.IsMbc5 (cart : Cartridge) : Prop where
  cartType : 0x19 ≤ cart.header.cartType.toNat ∧ cart.header.cartType.toNat ≤ 0x1E
  ramBanks : ∃ banks, ZenithGb.ramBanks cart.header = .ok banks ∧ 1 ≤ banks.numBanks
  romSize : cart.header.romSize ≤ 8
  length : cart.data.size = 0x8000 * 2 ^ cart.header.romSize.toNat
  noSave : cart.saveFile = none

namespace Mbc5

/-- Loading makes the reference's initial state. -/
theorem refines_of_load {cart : Cartridge} (hc : cart.IsMbc5) :
    Total (new.load cart) fun m => Refines cart.mbc5Board m .new := by
  obtain ⟨banks, hbanks, hone⟩ := hc.ramBanks
  have hr : cart.header.romSize.toNat ≤ 8 := UInt8.le_iff_toNat_le.mp hc.romSize
  have htwo := two_le_romBanks cart.header.romSize.toNat
  have hlen := hc.length
  have hboard : banks.numBanks = cart.mbc5Board.ramBanks := by
    rw [Cartridge.mbc5Board]
    rcases ramBanks_eq_ok hbanks with ⟨-, rfl⟩ | ⟨h, rfl⟩ | ⟨h, rfl⟩ | ⟨h, rfl⟩ | ⟨h, rfl⟩
    · exact absurd hone (by decide)
    all_goals rw [h]; rfl
  obtain ⟨rom, hslice, hsize⟩ : ∃ rom, cart.data.slice (Panic.index .mbc5Load)
      (0x8000 * 2 ^ cart.header.romSize.toNat) = .ok rom ∧
      rom.size = 0x8000 * 2 ^ cart.header.romSize.toNat :=
    ⟨_, dif_pos hlen.ge, rfl⟩
  rw [load]
  dsimp only
  rw [romBanks_of_lt (by omega), ok_bind, hbanks, ok_bind, assert_of _ hlen.symm, ok_bind,
    hslice, ok_bind, hc.noSave, restoreRam_none, ok_bind]
  refine { valid := ⟨?_, htwo, htwo, ramBanks_sizeBytes hbanks, hone⟩,
           romBanks := ⟨rfl, lossless_romBanks hr⟩, ramBanks := hboard,
           rom := cart.holds_romByte.slice hslice, bank := (Nat.mod_eq_of_lt htwo).symm,
           ramBank := (Nat.zero_mod _).symm, enabled := rfl, ram := Buf.holds_fill _ _ }
  show rom.size = 0x4000 * 2 ^ (cart.header.romSize.toNat + 1)
  rw [hsize, pow_succ]
  omega

/-- **MBC5 refines its reference.** After every sequence of writes, reads and clocks, none of which
fails, a read gives the byte the reference gives. -/
theorem mbc5_refines_reference {cart : Cartridge} (hc : cart.IsMbc5) {ops : List Mbc.Op}
    (hops : ∀ address, .read address ∈ ops → Mbc.OnBus address) :
    Total (Mbc.ofCartridge cart >>= Machine.exec Mbc.step ops) fun M =>
      ∀ address, Mbc.OnBus address → M.read address =
        .ok ((ops.foldl (Mbc.Op.applyTo (Reference.write cart.mbc5Board)) .new).read
          cart.mbc5Board address) := by
  let R : Mbc → Reference → Prop := fun M t => ∃ m, M = .mbc5 m ∧ Refines cart.mbc5Board m t
  have hload : Total (Mbc.ofCartridge cart) fun M => R M .new := by
    obtain ⟨hlow, hhigh⟩ := hc.cartType
    unfold Mbc.ofCartridge
    dsimp only
    rw [if_neg (by omega), if_neg (by omega), if_neg (by omega), if_pos ⟨hlow, hhigh⟩]
    exact meets_map.mpr ((refines_of_load hc).imp fun m hm => ⟨m, rfl, hm⟩)
  refine (Mbc.run_refines (P := fun op => ∀ address, op = .read address → Mbc.OnBus address)
    (Mbc.Op.applyTo (Reference.write cart.mbc5Board)) hload ?_ ?_ ?_
    fun op hop address heq => hops address (heq ▸ hop)).imp ?_
  · rintro _ t address ha ⟨m, rfl, hm⟩
    exact (hm.valid.read (ha address rfl)).imp fun _ _ => ⟨m, rfl, hm⟩
  · rintro _ t address data - ⟨m, rfl, hm⟩
    exact meets_map.mpr ((hm.write address data).imp fun m' hm' => ⟨m', rfl, hm'⟩)
  · rintro _ t - ⟨m, rfl, hm⟩
    exact ⟨m, rfl, hm⟩
  · rintro _ ⟨m, rfl, hm⟩ address ha
    exact hm.read ha

/-- A cartridge of two ROM banks, with bank 0x101 asked for and a byte written to its RAM. -/
theorem mbc5_refines_reference_blank :
    let cart := Cartridge.blank 0x1A 2 0xCB
    let ops : List Mbc.Op :=
      [.write 0x3000 1, .write 0x2000 1, .write 0x0000 0x0A, .write 0xA000 0x42]
    cart.IsMbc5 ∧ Total (Mbc.ofCartridge cart >>= Machine.exec Mbc.step ops) fun M =>
      M.read 0xA000 = .ok 0x42 ∧ M.read 0x4000 = .ok (cart.romByte 0x4000) := by
  intro cart ops
  have hc : cart.IsMbc5 := ⟨by decide, ⟨_, rfl, le_rfl⟩, by decide, rfl, rfl⟩
  have hops : ∀ address, .read address ∈ ops → Mbc.OnBus address := by simp [ops]
  refine ⟨hc, (mbc5_refines_reference hc hops).imp fun M hread => ⟨?_, ?_⟩⟩
  · refine (hread 0xA000 (.inr ⟨by decide, by decide⟩)).trans (congrArg _ ?_)
    exact @Function.update_self ℕ (fun _ => UInt8) _ 0 0x42 (fun _ => 0)
  · have hbank : 0x101 % cart.mbc5Board.romBanks = 1 := by decide
    refine (hread 0x4000 (.inl (by decide))).trans (congrArg _ ?_)
    show cart.romByte (0x4000 * (0x101 % cart.mbc5Board.romBanks) + (0x4000 - 0x4000)) = _
    rw [hbank]

end Mbc5

end ZenithGb
