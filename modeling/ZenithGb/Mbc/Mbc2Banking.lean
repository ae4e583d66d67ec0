import Mathlib.Data.Nat.Bitwise
import ZenithGb.Mbc.Banking

/-!
# MBC2: banking and the nibble RAM

The mapper as its users know it: a 4-bit ROM bank, an enable latch, and 512 half-bytes. Both
registers live at 0x0000-0x3FFF and bit 8 of the address tells them apart; the RAM repeats every
512 bytes through the external window, and the upper half of what it shows is set. In the
reference the RAM holds the bytes that were written, and its address is reduced modulo 512 by
both operations; the code masks the byte twice, once when it is written and once when it is read.

## Main results

* `Mbc2.Refines.read`, `Mbc2.Refines.write` — one operation refines the reference
* `Mbc2.mbc2_refines_reference` — so does every sequence, from the loaded cartridge on
-/

namespace ZenithGb

open Outcome

namespace Mbc2

/-! ### The reference -/

/-- What the mapper is wired to: the ROM and its number of banks. -/
structure Board where
  rom : ℕ → UInt8
  romBanks : ℕ

/-- The registers as the last writes left them, and the RAM. -/
structure Reference where
  /-- The low nibble of the last byte written with bit 8 of the address set, 0 read as 1. -/
  bank : ℕ
  /-- The last byte written with bit 8 of the address clear had the low nibble 0xA. -/
  enabled : Bool
  /-- The byte last written, while enabled, to an address of each residue modulo 512. -/
  ram : ℕ → UInt8

/-- Whether an address below 0x4000 is one of the bank register. -/
def IsBankRegister (address : ℕ) : Prop := address / 0x100 % 2 = 1

instance (address : ℕ) : Decidable (IsBankRegister address) :=
  inferInstanceAs (Decidable (_ = _))

namespace Reference

def new : Reference := ⟨1, false, fun _ => 0⟩

def read (b : Board) (t : Reference) (address : ℕ) : UInt8 :=
  if address ≤ 0x3FFF then b.rom address
  else if address ≤ 0x7FFF then b.rom (0x4000 * (t.bank % b.romBanks) + (address - 0x4000))
  else if t.enabled then UInt8.ofNat (0xF0 + (t.ram (address % 0x200)).toNat % 16)
  else 0xFF

def write (t : Reference) (address : ℕ) (data : UInt8) : Reference :=
  if address ≤ 0x3FFF then
    if IsBankRegister address then
      { t with bank := if data.toNat % 16 = 0 then 1 else data.toNat % 16 }
    else { t with enabled := data.toNat % 16 = 0xA }
  else if 0xA000 ≤ address ∧ address ≤ 0xBFFF ∧ t.enabled = true then
    { t with ram := Function.update t.ram (address % 0x200) data }
  else t

end Reference

/-! ### Addresses and nibbles -/

/-- Bit 8 of the address selects the register. -/
theorem and_bit8_eq_zero (address : ℕ) :
    address &&& (1 <<< 8) = 0 ↔ ¬ IsBankRegister address := by
  have hbit : address &&& 2 ^ 8 = (address.testBit 8).toNat * 2 ^ 8 := Nat.and_two_pow address 8
  rw [show 1 <<< 8 = 2 ^ 8 from rfl, hbit, Nat.testBit_eq_decide_div_mod_eq, IsBankRegister,
    show 0x100 = 2 ^ 8 from rfl]
  by_cases h : address / 2 ^ 8 % 2 = 1
  · rw [h]
    decide
  · rw [decide_eq_false h]
    exact iff_of_true (Nat.zero_mul _) h

theorem toNat_nibble (data : UInt8) : (data &&& 0xF).toNat = data.toNat % 16 :=
  toNat_and_low (b := 4) rfl data

/-- What the RAM shows of a nibble it holds. -/
theorem shown_nibble (data : UInt8) :
    (data &&& 0xF &&& 0xF) ||| 0xF0 = UInt8.ofNat (0xF0 + data.toNat % 16) := by
  have hlt : data.toNat % 16 < 2 ^ 4 := Nat.mod_lt _ (by decide)
  have hmod : (0xF0 + data.toNat % 16) % 2 ^ 8 = 0xF0 + data.toNat % 16 :=
    Nat.mod_eq_of_lt (by omega)
  rw [UInt8.and_assoc, UInt8.and_self, ← UInt8.toNat_inj, UInt8.toNat_or, toNat_nibble,
    UInt8.toNat_ofNat', hmod, Nat.or_comm]
  exact (Nat.shiftLeft_add_eq_or_of_lt hlt 0xF).symm

/-- The write wraps the bank that the reference wraps when it reads. -/
theorem romBank_eq {N : ℕ} (hN : 2 ≤ N) (data : UInt8) :
    (if (data &&& 0xF).toNat = 0 then .ok 1 else checkedRem .mbc2Write (data &&& 0xF).toNat N) =
      Except.ok ((if data.toNat % 16 = 0 then 1 else data.toNat % 16) % N) := by
  rw [toNat_nibble]
  by_cases h0 : data.toNat % 16 = 0
  · rw [if_pos h0, if_pos h0, Nat.mod_eq_of_lt hN]
  · rw [if_neg h0, if_neg h0, checkedRem_of_pos _ (by omega)]

/-! ### The relation -/

/-- The mapper `m` holds what the reference holds, of the RAM the lower halves. -/
structure Refines (b : Board) (m : Mbc2) (t : Reference) : Prop where
  valid : m.Valid
  romBanks : m.numRomBanks = b.romBanks
  rom : m.rom.Holds b.rom
  bank : m.romBank = t.bank % b.romBanks
  enabled : m.ramEnabled = t.enabled
  ram : m.ram.Holds fun i => t.ram i &&& 0xF

variable {b : Board} {m m' : Mbc2} {t : Reference}

/-- **A read of the mapper is a read of the reference.** -/
theorem Refines.read (h : Refines b m t) {address : ℕ} (ha : Mbc.OnBus address) :
    m.read address = .ok (t.read b address) := by
  rw [Mbc2.read, Reference.read, ← h.bank]
  refine get_romWindows h.rom h.valid.rom h.valid.twoBanks h.valid.romBank fun h2 => ?_
  have ha : 0xA000 ≤ address ∧ address ≤ 0xBFFF := ha.resolve_left h2
  rw [if_pos ha, h.enabled]
  cases t.enabled with
  | false => rfl
  | true =>
    have hcell : address &&& 0x1FF = address % 0x200 := Nat.and_two_pow_sub_one_eq_mod address 9
    rw [if_neg (by decide), if_pos rfl, h.ram.get _ (h.valid.ramIndex_lt address), ok_bind, hcell]
    exact congrArg Except.ok (shown_nibble _)

/-! ### Writes -/

/-- A write to one of the two registers. -/
theorem Refines.write_register (h : Refines b m t) {address : ℕ} {data : UInt8}
    (ha : address ≤ 0x3FFF) (hvalid : m'.Valid) (hw : m.write address data = .ok m') :
    Refines b m' (t.write address data) := by
  rw [Mbc2.write, if_pos ha] at hw
  rw [Reference.write, if_pos ha]
  by_cases hreg : IsBankRegister address
  · have hbank := romBank_eq h.valid.twoBanks data
    rw [if_neg (mt (and_bit8_eq_zero address).mp (not_not_intro hreg))] at hw
    rw [if_pos hreg]
    dsimp only at hw
    split at hw
    · rename_i hzero
      rw [if_pos hzero, h.romBanks] at hbank
      cases hw
      exact { h with valid := hvalid, bank := ok_inj.mp hbank }
    · rename_i hzero
      rw [if_neg hzero] at hbank
      rw [hbank] at hw
      cases hw
      exact { h with valid := hvalid, bank := by rw [h.romBanks] }
  · rw [if_pos ((and_bit8_eq_zero address).mpr hreg)] at hw
    rw [if_neg hreg]
    cases hw
    exact { h with valid := hvalid, enabled := enabled_eq data }

/-- The nibble of a byte written to the RAM. -/
theorem holds_update_nibble {ram : Buf UInt8} {f : ℕ → UInt8} {i : ℕ} {data : UInt8}
    (h : ram.Holds (Function.update (fun i => f i &&& 0xF) i (data &&& 0xF))) :
    ram.Holds fun j => Function.update f i data j &&& 0xF := by
  intro j hj
  rw [h j hj]
  dsimp only
  rw [Function.update_apply, Function.update_apply]
  split <;> rfl

/-- A write to the external window. -/
theorem Refines.write_ram (h : Refines b m t) {address : ℕ} {data : UInt8}
    (ha : ¬ address ≤ 0x3FFF) (hwin : 0xA000 ≤ address ∧ address ≤ 0xBFFF) (hvalid : m'.Valid)
    (hw : m.write address data = .ok m') : Refines b m' (t.write address data) := by
  have hcell : address &&& 0x1FF = address % 0x200 := Nat.and_two_pow_sub_one_eq_mod address 9
  rw [Mbc2.write, if_neg ha, if_pos hwin, h.enabled] at hw
  rw [Reference.write, if_neg ha]
  cases hen : t.enabled with
  | false =>
    rw [hen, if_pos (by decide)] at hw
    rw [if_neg fun hall => Bool.false_ne_true hall.2.2]
    cases hw
    exact h
  | true =>
    obtain ⟨ram, hset, -, hram⟩ :=
      h.ram.set (Panic.index .mbc2Write) (h.valid.ramIndex_lt address) (data &&& 0xF)
    rw [hen, if_neg (by decide), hset, ok_bind] at hw
    rw [if_pos ⟨hwin.1, hwin.2, rfl⟩, ← hcell]
    cases hw
    exact { h with valid := hvalid, enabled := rfl, ram := holds_update_nibble hram }

/-- **A write of the mapper is a write of the reference.** -/
theorem Refines.write (h : Refines b m t) (address : ℕ) (data : UInt8) :
    Total (m.write address data) fun m' => Refines b m' (t.write address data) := by
  obtain ⟨m', hw, hvalid⟩ := (h.valid.write address data).exists_ok
  rw [hw]
  by_cases ha : address ≤ 0x3FFF
  · exact h.write_register ha hvalid hw
  by_cases hwin : 0xA000 ≤ address ∧ address ≤ 0xBFFF
  · exact h.write_ram ha hwin hvalid hw
  · rw [Mbc2.write, if_neg ha, if_neg hwin] at hw
    rw [Reference.write, if_neg ha, if_neg fun hall => hwin ⟨hall.1, hall.2.1⟩]
    cases hw
    exact h

/-! ### Loading -/

end Mbc2

/-- What an MBC2 cartridge is wired to. -/
def Cartridge.mbc2Board (cart : Cartridge) : Mbc2.Board where
  rom := cart.romByte
  romBanks := 2 ^ (cart.header.romSize.toNat + 1)

/-- An MBC2 cartridge of up to 256 KiB without a save file. -/
structure Cartridge.IsMbc2 (cart : Cartridge) : Prop where
  cartType : 0x5 ≤ cart.header.cartType.toNat ∧ cart.header.cartType.toNat ≤ 0x6
  romSize : cart.header.romSize ≤ 3
  length : cart.data.size = 0x8000 * 2 ^ cart.header.romSize.toNat
  noSave : cart.saveFile = none

namespace Mbc2

/-- Loading makes the reference's initial state. -/
theorem refines_of_load {cart : Cartridge} (hc : cart.IsMbc2) :
    Total (new.load cart) fun m => Refines cart.mbc2Board m .new := by
  have hr : cart.header.romSize.toNat ≤ 3 := UInt8.le_iff_toNat_le.mp hc.romSize
  have htwo := two_le_romBanks cart.header.romSize.toNat
  have hlen := hc.length
  obtain ⟨rom, hslice, hsize⟩ : ∃ rom, cart.data.slice (Panic.index .mbc2Load)
      (0x8000 * 2 ^ cart.header.romSize.toNat) = .ok rom ∧
      rom.size = 0x8000 * 2 ^ cart.header.romSize.toNat :=
    ⟨_, dif_pos hlen.ge, rfl⟩
  rw [load]
  dsimp only
  rw [romBanks_of_lt (by omega), ok_bind, assert_of _ hlen, ok_bind, hslice, ok_bind, hc.noSave,
    restoreRam_none, ok_bind]
  refine { valid := ⟨?_, htwo, htwo, rfl⟩, romBanks := rfl, rom := cart.holds_romByte.slice hslice,
           bank := (Nat.mod_eq_of_lt htwo).symm, enabled := rfl,
           ram := fun _ _ => UInt8.zero_and.symm }
  show rom.size = 0x4000 * 2 ^ (cart.header.romSize.toNat + 1)
  rw [hsize, pow_succ]
  omega

/-- **MBC2 refines its reference.** After every sequence of writes, reads and clocks, none of which
fails, a read gives the byte the reference gives. -/
theorem mbc2_refines_reference {cart : Cartridge} (hc : cart.IsMbc2) {ops : List Mbc.Op}
    (hops : ∀ address, .read address ∈ ops → Mbc.OnBus address) :
    Total (Mbc.ofCartridge cart >>= Machine.exec Mbc.step ops) fun M =>
      ∀ address, Mbc.OnBus address → M.read address =
        .ok ((ops.foldl (Mbc.Op.applyTo Reference.write) .new).read cart.mbc2Board address) := by
  let R : Mbc → Reference → Prop := fun M t => ∃ m, M = .mbc2 m ∧ Refines cart.mbc2Board m t
  have hload : Total (Mbc.ofCartridge cart) fun M => R M .new := by
    obtain ⟨hlow, hhigh⟩ := hc.cartType
    unfold Mbc.ofCartridge
    dsimp only
    rw [if_neg (by omega), if_pos ⟨hlow, hhigh⟩]
    exact meets_map.mpr ((refines_of_load hc).imp fun m hm => ⟨m, rfl, hm⟩)
  refine (Mbc.run_refines (P := fun op => ∀ address, op = .read address → Mbc.OnBus address)
    (Mbc.Op.applyTo Reference.write) hload ?_ ?_ ?_
    fun op hop address heq => hops address (heq ▸ hop)).imp ?_
  · rintro _ t address ha ⟨m, rfl, hm⟩
    exact (hm.valid.read (ha address rfl)).imp fun _ _ => ⟨m, rfl, hm⟩
  · rintro _ t address data - ⟨m, rfl, hm⟩
    exact meets_map.mpr ((hm.write address data).imp fun m' hm' => ⟨m', rfl, hm'⟩)
  · rintro _ t - ⟨m, rfl, hm⟩
    exact ⟨m, rfl, hm⟩
  · rintro _ ⟨m, rfl, hm⟩ address ha
    exact hm.read ha

/-- A byte written to one mirror of the RAM, read through another. -/
theorem mbc2_refines_reference_blank :
    let cart := Cartridge.blank 0x5 0 0xE2
    let ops : List Mbc.Op := [.write 0x0000 0x0A, .write 0xA000 0x42]
    cart.IsMbc2 ∧ Total (Mbc.ofCartridge cart >>= Machine.exec Mbc.step ops) fun M =>
      M.read 0xB200 = .ok 0xF2 := by
  intro cart ops
  have hc : cart.IsMbc2 := ⟨by decide, by decide, rfl, rfl⟩
  have hops : ∀ address, .read address ∈ ops → Mbc.OnBus address := by simp [ops]
  refine ⟨hc, (mbc2_refines_reference hc hops).imp fun M hread => ?_⟩
  exact (hread 0xB200 (.inr ⟨by decide, by decide⟩)).trans (congrArg _ (by decide))

end Mbc2

end ZenithGb
