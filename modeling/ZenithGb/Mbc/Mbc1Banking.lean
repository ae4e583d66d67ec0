import ZenithGb.Mbc.Banking

/-!
# MBC1: banking

The mapper as its users know it: two bank registers, a mode, an enable latch, and one formula for
the bank each window shows. The code computes the bank in a separate branch for each ROM size and
masks the first register when it is written; `Mbc1.Refines` relates the two, and every sequence of
bus operations keeps it.

## Main results

* `Mbc1.Refines.read`, `Mbc1.Refines.write` — one operation refines the reference
* `Mbc1.mbc1_refines_reference` — so does every sequence, from the loaded cartridge on
-/

namespace ZenithGb

open Outcome

namespace Mbc1

/-! ### The reference -/

/-- What the mapper is wired to: the ROM and its number of banks, and the size of the RAM. -/
structure Board where
  rom : ℕ → UInt8
  romBanks : ℕ
  ramSize : ℕ

/-- The registers as the last writes left them, and the RAM. -/
structure Reference where
  /-- The last 5-bit value written to 0x2000-0x3FFF, 0 read as 1. -/
  b1 : ℕ
  /-- The last 2-bit value written to 0x4000-0x5FFF. -/
  b2 : ℕ
  /-- The last bit written to 0x6000-0x7FFF. -/
  mode : Bool
  /-- The last value written to 0x0000-0x1FFF had the low nibble 0xA. -/
  enabled : Bool
  ram : ℕ → UInt8

namespace Reference

def new : Reference := ⟨1, 0, false, false, fun _ => 0⟩

/-- The bank of RAM: the second register selects it in mode 1 if there are four. -/
def ramBank (b : Board) (t : Reference) : ℕ := if t.mode ∧ b.ramSize = 0x8000 then t.b2 else 0

/-- The cell of RAM an address in 0xA000-0xBFFF selects. -/
def ramCell (b : Board) (t : Reference) (address : ℕ) : ℕ :=
  0x2000 * t.ramBank b + (address - 0xA000)

def read (b : Board) (t : Reference) (address : ℕ) : UInt8 :=
  if address ≤ 0x3FFF then
    b.rom (0x4000 * (if t.mode then t.b2 * 32 % b.romBanks else 0) + address)
  else if address ≤ 0x7FFF then
    b.rom (0x4000 * ((t.b2 * 32 + t.b1) % b.romBanks) + (address - 0x4000))
  else if b.ramSize = 0 ∨ t.enabled = false then 0xFF
  else t.ram (t.ramCell b address)

def write (b : Board) (t : Reference) (address : ℕ) (data : UInt8) : Reference :=
  if address ≤ 0x1FFF then { t with enabled := data.toNat % 16 = 0xA }
  else if address ≤ 0x3FFF then
    { t with b1 := if data.toNat % 32 = 0 then 1 else data.toNat % 32 }
  else if address ≤ 0x5FFF then { t with b2 := data.toNat % 4 }
  else if address ≤ 0x7FFF then { t with mode := data.toNat % 2 = 1 }
  else if b.ramSize = 0 ∨ t.enabled = false then t
  else { t with ram := Function.update t.ram (t.ramCell b address) data }

/-- The reference after an operation of the bus. -/
def step (b : Board) (t : Reference) : Mbc.Op → Reference
  | .write address data => t.write b address data
  | .read _ | .clock => t

end Reference

/-! ### The relation -/

/-- The mapper `m` holds what the reference holds. -/
structure Refines (b : Board) (m : Mbc1) (t : Reference) : Prop where
  size : ∃ r ≤ 6, b.romBanks = 2 ^ (r + 1) ∧ m.rom.size = 0x8000 * 2 ^ r ∧
    m.romMask.toNat = 2 ^ min (r + 1) 5 - 1 ∧ m.romBank.toNat = t.b1 % 2 ^ min (r + 1) 5
  rom : ∀ i (h : i < m.rom.size), m.rom.cell ⟨i, h⟩ = b.rom i
  b1 : t.b1 < 32
  b2 : m.ramBank.toNat = t.b2 ∧ t.b2 < 4
  mode : m.modeFlag = t.mode
  ramSize : m.ram.size = b.ramSize ∧ (b.ramSize = 0 ∨ b.ramSize = 0x2000 ∨ b.ramSize = 0x8000)
  enabled : m.ramEnabled = (t.enabled && b.ramSize != 0)
  ram : ∀ i (h : i < m.ram.size), m.ram.cell ⟨i, h⟩ = t.ram i

variable {b : Board} {m : Mbc1} {t : Reference}

/-- The branches for the ROM sizes compute one formula. -/
theorem bank_table : ∀ (r : Fin 7) (b1 : Fin 32) (b2 : Fin 4),
    (if 0x8000 * 2 ^ r.val = bytes1Mib then b1.val ||| (b2.val &&& 1) <<< 5
      else if 0x8000 * 2 ^ r.val = bytes2Mib then b1.val ||| (b2.val &&& 3) <<< 5
      else b1.val % 2 ^ min (r.val + 1) 5) = (b2.val * 32 + b1.val) % 2 ^ (r.val + 1) := by
  decide +kernel

theorem zero_bank_table : ∀ (r : Fin 7) (b2 : Fin 4),
    (if 0x8000 * 2 ^ r.val = bytes1Mib then (b2.val &&& 1) <<< 5
      else if 0x8000 * 2 ^ r.val = bytes2Mib then (b2.val &&& 3) <<< 5 else 0) =
      b2.val * 32 % 2 ^ (r.val + 1) := by
  decide +kernel

/-- The mask keeps the bits of the first register that select a bank. -/
theorem Refines.romBank_and_romMask (h : Refines b m t) :
    (m.romBank &&& m.romMask).toNat = m.romBank.toNat := by
  obtain ⟨r, -, -, -, hmask, hbank⟩ := h.size
  rw [UInt8.toNat_and, hmask, hbank, Nat.and_two_pow_sub_one_eq_mod, Nat.mod_mod]

theorem Refines.highBankNumber (h : Refines b m t) :
    m.highBankNumber = (t.b2 * 32 + t.b1) % b.romBanks := by
  obtain ⟨r, hr, hbanks, hsize, -, hbank⟩ := h.size
  obtain ⟨hram, hb2⟩ := h.b2
  have hb1 := h.b1
  rw [hbanks, ← bank_table ⟨r, by omega⟩ ⟨t.b1, hb1⟩ ⟨t.b2, hb2⟩]
  rw [Mbc1.highBankNumber, hsize, h.romBank_and_romMask, hram, hbank]
  -- the two sizes that use the second register have at least 32 banks
  have h5 : 0x8000 * 2 ^ r = bytes1Mib ∨ 0x8000 * 2 ^ r = bytes2Mib →
      t.b1 % 2 ^ min (r + 1) 5 = t.b1 := by
    intro hlarge
    refine Nat.mod_eq_of_lt ?_
    interval_cases r <;> simp [bytes1Mib, bytes2Mib] at hlarge ⊢ <;> omega
  exact ite_congr rfl (fun h1 => by rw [h5 (.inl h1)]) fun _ =>
    ite_congr rfl (fun h2 => by rw [h5 (.inr h2)]) fun _ => rfl

theorem Refines.zeroBankNumber (h : Refines b m t) :
    m.zeroBankNumber = t.b2 * 32 % b.romBanks := by
  obtain ⟨r, hr, hbanks, hsize, -, -⟩ := h.size
  obtain ⟨hram, hb2⟩ := h.b2
  rw [hbanks, ← zero_bank_table ⟨r, by omega⟩ ⟨t.b2, hb2⟩]
  rw [Mbc1.zeroBankNumber, hsize, hram]

/-- An offset into a bank of the ROM shows the reference's byte. -/
theorem Refines.romGet (h : Refines b m t) {n o : ℕ} (ho : o < 0x4000) :
    m.rom.get (Panic.index .mbc1Read) (0x4000 * (n % b.romBanks) + o) =
      .ok (b.rom (0x4000 * (n % b.romBanks) + o)) := by
  obtain ⟨r, hr, hbanks, hsize, -, -⟩ := h.size
  have hbank : n % b.romBanks < b.romBanks := Nat.mod_lt _ (by rw [hbanks]; positivity)
  have hlt : 0x4000 * (n % b.romBanks) + o < m.rom.size :=
    calc 0x4000 * (n % b.romBanks) + o < 0x4000 * b.romBanks := bank_offset_lt hbank ho
      _ = m.rom.size := by rw [hsize, hbanks, pow_succ]; omega
  rw [Buf.get_of_lt _ _ hlt, h.rom]

/-- The enabled RAM is addressed as in the reference. -/
theorem Refines.ramAddress (h : Refines b m t) (hsize : b.ramSize ≠ 0) {address : ℕ}
    (ha : 0xA000 ≤ address ∧ address ≤ 0xBFFF) :
    m.ramAddress address = .ok (t.ramCell b address) ∧ t.ramCell b address < m.ram.size := by
  obtain ⟨hram, hb2⟩ := h.b2
  obtain ⟨hms, hcases⟩ := h.ramSize
  have hmode := h.mode
  unfold Mbc1.ramAddress Reference.ramCell Reference.ramBank
  rw [hms, hmode]
  rcases hcases with h0 | h8 | h32
  · exact absurd h0 hsize
  · rw [h8, if_pos (show 0x2000 = bytes8Kib from rfl), if_neg (by omega)]
    refine ⟨congrArg _ ?_, by omega⟩
    rw [Nat.mod_eq_of_lt (by omega)]
    omega
  · rw [h32, if_neg (show ¬ 0x8000 = bytes8Kib by decide),
      if_pos (show 0x8000 = bytes32Kib from rfl)]
    cases t.mode with
    | false => exact ⟨by simp, by simp; omega⟩
    | true =>
      rw [if_pos rfl, if_pos ⟨rfl, rfl⟩, hram, checkedMul_of_lt _ (by omega), ok_bind,
        checkedAdd_of_lt _ (by omega)]
      exact ⟨rfl, by omega⟩

/-- **A read of the mapper is a read of the reference.** -/
theorem Refines.read (h : Refines b m t) {address : ℕ} (ha : Mbc.OnBus address) :
    m.read address = .ok (t.read b address) := by
  have hpos : 0 % b.romBanks = 0 := Nat.zero_mod _
  rw [Mbc1.read, Reference.read]
  by_cases h1 : address ≤ 0x3FFF
  · rw [if_pos h1, if_pos h1, h.mode]
    cases t.mode with
    | true =>
      rw [if_pos rfl, if_pos rfl, h.zeroBankNumber]
      exact h.romGet (by omega)
    | false =>
      have hget := h.romGet (n := 0) (o := address) (by omega)
      rw [hpos, Nat.mul_zero, Nat.zero_add] at hget
      simpa using hget
  rw [if_neg h1, if_neg h1]
  by_cases h2 : address ≤ 0x7FFF
  · rw [if_pos h2, if_pos h2, h.highBankNumber]
    exact h.romGet (by omega)
  have ha : 0xA000 ≤ address ∧ address ≤ 0xBFFF := ha.resolve_left h2
  rw [if_neg h2, if_neg h2, if_pos ha, h.enabled]
  by_cases hoff : b.ramSize = 0 ∨ t.enabled = false
  · rw [if_pos hoff, if_pos]
    rcases hoff with h0 | h0 <;> simp [h0]
  · obtain ⟨hsize, hen⟩ := not_or.mp hoff
    obtain ⟨hcell, hlt⟩ := h.ramAddress hsize ha
    rw [if_neg hoff, if_neg (by simp [hsize, hen]), hcell, ok_bind, Buf.get_of_lt _ _ hlt, h.ram]

/-! ### Writes -/

theorem Refines.setEnabled (h : Refines b m t) (data : UInt8) (hram : b.ramSize ≠ 0) :
    Refines b { m with ramEnabled := data &&& 0xF == 0xA }
      { t with enabled := data.toNat % 16 = 0xA } := by
  refine { h with enabled := ?_ }
  simp [enabled_eq, hram]

theorem Refines.setEnabled_none (h : Refines b m t) (data : UInt8) (hram : b.ramSize = 0) :
    Refines b m { t with enabled := data.toNat % 16 = 0xA } := by
  have hoff := h.enabled
  refine { h with enabled := ?_ }
  simp only [hram, bne_self_eq_false, Bool.and_false] at hoff ⊢
  exact hoff

/-- The write masks the bank that the reference masks when it reads. -/
theorem Refines.setRomBank (h : Refines b m t) (data : UInt8) :
    Refines b { m with romBank := if data &&& 0x1F = 0 then 1 else data &&& 0x1F &&& m.romMask }
      { t with b1 := if data.toNat % 32 = 0 then 1 else data.toNat % 32 } := by
  obtain ⟨r, hr, hbanks, hsize, hmask, -⟩ := h.size
  have hlow : (data &&& 0x1F).toNat = data.toNat % 32 := toNat_and_low (b := 5) rfl data
  have hzero : data &&& 0x1F = 0 ↔ data.toNat % 32 = 0 := by
    rw [← hlow, ← UInt8.toNat_inj]
    rfl
  refine { h with size := ⟨r, hr, hbanks, hsize, hmask, ?_⟩, b1 := ?_ }
  · dsimp only
    by_cases h0 : data.toNat % 32 = 0
    · rw [if_pos h0, if_pos (hzero.mpr h0)]
      have : 2 ≤ 2 ^ min (r + 1) 5 := by
        calc 2 = 2 ^ 1 := rfl
          _ ≤ 2 ^ min (r + 1) 5 := Nat.pow_le_pow_right (by decide) (by omega)
      exact (Nat.mod_eq_of_lt this).symm
    · rw [if_neg h0, if_neg (hzero.not.mpr h0), UInt8.toNat_and, hlow, hmask,
        Nat.and_two_pow_sub_one_eq_mod]
  · dsimp only
    split <;> omega

theorem Refines.setRamBank (h : Refines b m t) (data : UInt8) :
    Refines b { m with ramBank := data &&& 0x3 } { t with b2 := data.toNat % 4 } :=
  { h with b2 := ⟨toNat_and_low (b := 2) rfl data, Nat.mod_lt _ (by decide)⟩ }

theorem Refines.setMode (h : Refines b m t) (data : UInt8) :
    Refines b { m with modeFlag := data &&& 0x1 != 0 } { t with mode := data.toNat % 2 = 1 } := by
  refine { h with mode := ?_ }
  have hlow : (data &&& 0x1).toNat = data.toNat % 2 := toNat_and_low (b := 1) rfl data
  rw [Bool.eq_iff_iff, bne_iff_ne, decide_eq_true_iff, ne_eq, ← UInt8.toNat_inj, hlow]
  exact Nat.mod_two_ne_zero

/-- **A write of the mapper is a write of the reference.** -/
theorem Refines.write (h : Refines b m t) {address : ℕ} (ha : Mbc.OnBus address) (data : UInt8) :
    Total (m.write address data) fun m' => Refines b m' (t.write b address data) := by
  obtain ⟨hms, -⟩ := h.ramSize
  rw [Mbc1.write, Reference.write]
  by_cases h1 : address ≤ 0x1FFF
  · rw [if_pos h1, if_pos h1, hms]
    by_cases hram : b.ramSize = 0
    · rw [if_pos hram]
      exact h.setEnabled_none data hram
    · rw [if_neg hram]
      exact h.setEnabled data hram
  rw [if_neg h1, if_neg h1]
  by_cases h2 : address ≤ 0x3FFF
  · rw [if_pos h2, if_pos h2]
    exact h.setRomBank data
  rw [if_neg h2, if_neg h2]
  by_cases h3 : address ≤ 0x5FFF
  · rw [if_pos h3, if_pos h3]
    exact h.setRamBank data
  rw [if_neg h3, if_neg h3]
  by_cases h4 : address ≤ 0x7FFF
  · rw [if_pos h4, if_pos h4]
    exact h.setMode data
  have ha : 0xA000 ≤ address ∧ address ≤ 0xBFFF := ha.resolve_left h4
  rw [if_neg h4, if_neg h4, if_pos ha, h.enabled]
  by_cases hoff : b.ramSize = 0 ∨ t.enabled = false
  · rw [if_pos hoff, if_pos]
    · exact h
    · rcases hoff with h0 | h0 <;> simp [h0]
  · obtain ⟨hsize, hen⟩ := not_or.mp hoff
    obtain ⟨hcell, hlt⟩ := h.ramAddress hsize ha
    rw [if_neg hoff, if_neg (by simp [hsize, hen]), hcell, ok_bind, Buf.set_of_lt _ _ hlt, ok_bind]
    refine { h with enabled := rfl, ram := fun i hi => ?_ }
    simp only [Function.update_apply, Fin.mk.injEq]
    exact ite_congr rfl (fun _ => rfl) fun _ => h.ram i hi

/-! ### Loading -/

end Mbc1

/-- What an MBC1 cartridge is wired to. -/
def Cartridge.board (cart : Cartridge) : Mbc1.Board where
  rom i := if h : i < cart.data.size then cart.data.cell ⟨i, h⟩ else 0
  romBanks := 2 ^ (cart.header.romSize.toNat + 1)
  ramSize := if cart.header.cartType = 1 ∨ cart.header.ramSize ≤ 1 then 0
    else if cart.header.ramSize = 2 then 0x2000 else 0x8000

/-- An MBC1 cartridge of up to 2 MiB with no RAM, 8 KiB or 32 KiB, and no save file. The type 1 is
that of a cartridge without RAM. -/
structure Cartridge.IsMbc1 (cart : Cartridge) : Prop where
  cartType : cart.header.cartType = 1 ∧ cart.header.ramSize = 0 ∨
    (cart.header.cartType = 2 ∨ cart.header.cartType = 3) ∧ cart.header.ramSize ≤ 3
  romSize : cart.header.romSize ≤ 6
  length : cart.data.size = 0x8000 <<< cart.header.romSize.toNat
  noSave : cart.saveFile = none

namespace Mbc1

/-- The size of the RAM by the header's size code. -/
theorem ramBanks_of_le {hdr : CartridgeHeader} (h : hdr.ramSize ≤ 3) :
    ∃ n, ramBanks hdr = .ok ⟨n, if hdr.ramSize ≤ 1 then 0 else
      if hdr.ramSize = 2 then 0x2000 else 0x8000⟩ := by
  have hle : hdr.ramSize.toNat ≤ 3 := UInt8.le_iff_toNat_le.mp h
  rw [ramBanks]
  simp only [UInt8.le_iff_toNat_le, ← UInt8.toNat_inj]
  generalize hdr.ramSize.toNat = r at hle
  interval_cases r <;> exact ⟨_, rfl⟩

/-- The RAM the cartridge has, cleared. -/
theorem loadRam_of_isMbc1 {cart : Cartridge} (hc : cart.IsMbc1) :
    Total (new.loadRam cart.header) fun ram =>
      ram.size = cart.board.ramSize ∧ ∀ i (h : i < ram.size), ram.cell ⟨i, h⟩ = 0 := by
  rw [loadRam, Cartridge.board]
  rcases hc.cartType with ⟨htype, hsize⟩ | ⟨htype, hsize⟩
  · rw [htype, hsize]
    exact ⟨rfl, fun i h => absurd h (Nat.not_lt_zero i)⟩
  · have hne : cart.header.cartType ≠ 1 := by rcases htype with h | h <;> rw [h] <;> decide
    obtain ⟨n, hbanks⟩ := ramBanks_of_le hsize
    rw [if_pos htype, hbanks]
    refine ⟨?_, fun _ _ => rfl⟩
    simp only [Buf.fill_size, hne, false_or]

/-- The mask of a ROM of up to 2 MiB keeps as many bits as the first register needs. -/
theorem romMask_of_le {r : ℕ} (h : r ≤ 6) :
    (UInt8.ofNat (0xFF >>> max (7 - r) 3)).toNat = 2 ^ min (r + 1) 5 - 1 := by
  interval_cases r <;> rfl

/-- Loading makes the reference's initial state. -/
theorem refines_of_load {cart : Cartridge} (hc : cart.IsMbc1) :
    Total (new.load cart) fun m => Refines cart.board m .new := by
  have hr : cart.header.romSize.toNat ≤ 6 := UInt8.le_iff_toNat_le.mp hc.romSize
  have hlen : 0x8000 * 2 ^ cart.header.romSize.toNat = cart.data.size := by
    rw [hc.length, Nat.shiftLeft_eq]
  rw [load]
  dsimp only
  rw [romBanks_of_lt (by omega), ok_bind, assert_of _ hlen, ok_bind,
    checkedSub_of_le _ (by omega), ok_bind]
  rw [Buf.slice, dif_pos hlen.le, ok_bind]
  refine (loadRam_of_isMbc1 hc).bind fun ram hram => ?_
  rw [hc.noSave, restoreRam_none, ok_bind]
  refine { size := ⟨_, hr, rfl, rfl, romMask_of_le hr, ?_⟩, rom := fun i hi => ?_, b1 := by decide,
           b2 := ⟨rfl, by decide⟩, mode := rfl, ramSize := ⟨hram.1, ?_⟩, enabled := rfl,
           ram := hram.2 }
  · have : 1 < 2 ^ min (cart.header.romSize.toNat + 1) 5 := Nat.one_lt_two_pow (by omega)
    exact (Nat.mod_eq_of_lt this).symm
  · have hdata : i < cart.data.size := hi.trans_le hlen.le
    show cart.data.cell ⟨i, hdata⟩ = if h : i < cart.data.size then cart.data.cell ⟨i, h⟩ else 0
    rw [dif_pos hdata]
  · rw [Cartridge.board]
    dsimp only
    split_ifs <;> simp

/-- **MBC1 refines its reference.** After every sequence of operations of the bus, none of which
fails, a read gives the byte the reference gives. -/
theorem mbc1_refines_reference {cart : Cartridge} (hc : cart.IsMbc1) {ops : List Mbc.Op}
    (hops : ∀ op ∈ ops, op.OnBus) :
    Total (Mbc.ofCartridge cart >>= Machine.exec Mbc.step ops) fun m =>
      ∀ address, Mbc.OnBus address → m.read address =
        .ok ((ops.foldl (Reference.step cart.board) .new).read cart.board address) := by
  have htype : 1 ≤ cart.header.cartType.toNat ∧ cart.header.cartType.toNat ≤ 3 := by
    rcases hc.cartType with ⟨h, -⟩ | ⟨h | h, -⟩ <;> rw [h] <;> decide
  let R : Mbc → Reference → Prop := fun M t => ∃ m, M = .mbc1 m ∧ Refines cart.board m t
  have hload : Total (Mbc.ofCartridge cart) fun M => R M .new := by
    unfold Mbc.ofCartridge
    dsimp only
    rw [if_pos htype]
    exact meets_map.mpr ((refines_of_load hc).imp fun m hm => ⟨m, rfl, hm⟩)
  refine (Mbc.run_refines (Reference.step cart.board) hload ?_ ?_ ?_ hops).imp ?_
  · rintro _ t address hop ⟨m, rfl, hm⟩
    have hread : Mbc.read (.mbc1 m) address = .ok (t.read cart.board address) := hm.read hop
    rw [hread]
    exact ⟨m, rfl, hm⟩
  · rintro _ t address data hop ⟨m, rfl, hm⟩
    exact meets_map.mpr ((hm.write hop data).imp fun m' hm' => ⟨m', rfl, hm'⟩)
  · rintro _ t - ⟨m, rfl, hm⟩
    exact ⟨m, rfl, hm⟩
  · rintro _ ⟨m, rfl, hm⟩ address ha
    exact hm.read ha

/-- 32 KiB of RAM, and a byte in its third bank, which mode 1 selects with the second register. -/
theorem mbc1_refines_reference_ram :
    (Cartridge.blank 3 3 0xE1).IsMbc1 ∧ ∃ m,
      (Mbc.ofCartridge (Cartridge.blank 3 3 0xE1) >>= Machine.exec Mbc.step
        [.write 0x0000 0x0A, .write 0x4000 2, .write 0x6000 1, .write 0xA123 0x55,
          .write 0x4000 0, .write 0xA123 0x66, .write 0x4000 2]) = .ok m ∧
      m.read 0xA123 = .ok 0x55 := by
  have hc : (Cartridge.blank 3 3 0xE1).IsMbc1 :=
    ⟨.inr ⟨.inr rfl, by decide⟩, by decide, rfl, rfl⟩
  have hops : ∀ op ∈ ([.write 0x0000 0x0A, .write 0x4000 2, .write 0x6000 1, .write 0xA123 0x55,
      .write 0x4000 0, .write 0xA123 0x66, .write 0x4000 2] : List Mbc.Op), op.OnBus := by
    simp [Mbc.Op.OnBus, Mbc.OnBus]
  obtain ⟨m, hm, hread⟩ := (mbc1_refines_reference hc hops).exists_ok
  refine ⟨hc, m, hm, (hread 0xA123 (.inr ⟨by decide, by decide⟩)).trans ?_⟩
  decide +kernel

end Mbc1

end ZenithGb
