import ZenithGb.Mbc.Build
import ZenithGb.Mbc.Totality

/-!
# Save files and the RAM geometry

A battery-backed cartridge gets its RAM from the save file, whatever its length. `read_save`
compares the length with that of the RAM it replaces, but in a `debug_assert!`, so a release build
takes a file of any length, and the bank arithmetic of the mapper trusts it.

`Mbc1.InRange` and the invariants of the other mappers say when no operation of a loaded mapper can
panic, in either build; the length of the RAM is part of them.

## Main results

* `romBanksIn_eq_ok` — the ROM's banks and its length, where arithmetic may have wrapped
* `Mbc1.InRange.neverPanics` — when an MBC1 never panics, whatever its mask and its ROM
* `Mbc.save_geometry_iff` — a save file leaves a mapper within bounds iff it has the RAM's length
-/

namespace ZenithGb

open Outcome

/-! ### Banks of ROM -/

/-- The power of two of the ROM's length, once shift amounts are reduced. -/
def CartridgeHeader.romShift (hdr : CartridgeHeader) : ℕ := hdr.romSize.toNat % 64

theorem romShift_of_romBanks {hdr : CartridgeHeader} {banks : Banks}
    (h : romBanks hdr = .ok banks) : hdr.romSize.toNat = hdr.romShift ∧ hdr.romShift ≤ 48 := by
  obtain ⟨n, -, h⟩ := bind_eq_ok.mp h
  obtain ⟨k, -, h⟩ := bind_eq_ok.mp h
  obtain ⟨i, hi, h⟩ := bind_eq_ok.mp h
  obtain ⟨j, hj, -⟩ := bind_eq_ok.mp h
  have hlt := (checkedMul_eq_ok.mp hj).1
  rw [checkedShl64] at hi
  split at hi <;> cases hi
  have hpow : 2 ^ (15 + hdr.romSize.toNat) < 2 ^ 64 := by
    rw [pow_add]
    exact hlt
  have := (Nat.pow_lt_pow_iff_right (by decide)).mp hpow
  rw [CartridgeHeader.romShift]
  omega

/-- The ROM's banks in either build. From a shift of 49 on, the length of the ROM wraps to zero. -/
theorem romBanksIn_eq_ok {b : Build} {hdr : CartridgeHeader} {banks : Banks}
    (h : romBanksIn b hdr = .ok banks) :
    (hdr.romShift ≤ 48 →
      banks.numBanks = 2 ^ (hdr.romShift + 1) ∧ banks.sizeBytes = 0x4000 * banks.numBanks) ∧
    (48 < hdr.romShift → banks.sizeBytes = 0) := by
  cases b with
  | debug =>
    rw [romBanksIn_debug] at h
    obtain ⟨hshift, hle⟩ := romShift_of_romBanks h
    have hbanks := romBanks_eq_ok h
    rw [hshift] at hbanks
    exact ⟨fun _ => hbanks, fun hlt => absurd hle (by omega)⟩
  | release =>
    have hsize := hdr.romSize.toNat_lt
    cases h
    have hlength : 32 * bytes1Kib * 2 ^ (hdr.romSize.toNat % 64) = 2 ^ (15 + hdr.romShift) := by
      rw [pow_add]
      rfl
    have hbanks : hdr.romShift ≤ 48 → (hdr.romSize.toNat + 1) % 2 ^ 8 % 64 = hdr.romShift + 1 := by
      rw [CartridgeHeader.romShift]
      omega
    constructor
    · intro hle
      have hlt : 2 ^ (15 + hdr.romShift) < 2 ^ 64 := Nat.pow_lt_pow_right (by decide) (by omega)
      rw [hlength, Nat.mod_eq_of_lt hlt, hbanks hle]
      refine ⟨rfl, ?_⟩
      show 2 ^ (15 + hdr.romShift) = 2 ^ 14 * 2 ^ (hdr.romShift + 1)
      rw [← pow_add]
      congr 1
      omega
    · intro hlt
      show 32 * bytes1Kib * 2 ^ (hdr.romSize.toNat % 64) % 2 ^ 64 = 0
      rw [hlength]
      exact Nat.mod_eq_zero_of_dvd (pow_dvd_pow 2 (by omega))

/-! ### MBC1 -/

namespace Mbc1

/-- An MBC1 whose ROM has `2 ^ (q + 1)` banks and whose mask, however it came about, selects
existing ones. -/
structure InRange (q : ℕ) (m : Mbc1) : Prop where
  rom : m.rom.size = 0x8000 * 2 ^ q
  mask : ∀ x : UInt8, x.toNat < 32 → (x &&& m.romMask).toNat < 2 * 2 ^ q
  romBank : m.romBank.toNat < 32
  romBank_lt : m.romBank.toNat < 2 * 2 ^ q
  ramBank : m.ramBank ≤ 3
  ram : m.ram.size = 0 ∧ m.ramEnabled = false ∨ m.ram.size = bytes8Kib ∨ m.ram.size = bytes32Kib

variable {m : Mbc1} {q : ℕ}

/-- The bits of the RAM bank on top of a ROM bank number. -/
theorem shift_and_le (bank k : ℕ) : (bank &&& k) <<< 5 ≤ k <<< 5 := by
  rw [Nat.shiftLeft_eq, Nat.shiftLeft_eq]
  exact Nat.mul_le_mul_right _ Nat.and_le_right

/-- A ROM of a given length has one number of banks. -/
theorem InRange.pow_eq (h : m.InRange q) {k : ℕ} (hsize : m.rom.size = 0x8000 * k) : 2 ^ q = k := by
  have := h.rom
  omega

theorem InRange.highBank_lt (h : m.InRange q) : m.highBankNumber < 2 * 2 ^ q := by
  have hlow : (m.romBank &&& m.romMask).toNat < 32 := by
    rw [UInt8.toNat_and]
    exact Nat.lt_of_le_of_lt Nat.and_le_left h.romBank
  rw [highBankNumber]
  split
  · rename_i hsize
    rw [h.pow_eq (k := 32) hsize]
    have h1 := shift_and_le m.ramBank.toNat 1
    exact Nat.or_lt_two_pow (n := 6) (by omega) (by omega)
  split
  · rename_i hsize
    rw [h.pow_eq (k := 64) hsize]
    have h3 := shift_and_le m.ramBank.toNat 3
    exact Nat.or_lt_two_pow (n := 7) (by omega) (by omega)
  · exact h.romBank_lt

theorem InRange.zeroBank_lt (h : m.InRange q) : m.zeroBankNumber < 2 * 2 ^ q := by
  rw [zeroBankNumber]
  split
  · rename_i hsize
    rw [h.pow_eq (k := 32) hsize]
    have h1 := shift_and_le m.ramBank.toNat 1
    omega
  split
  · rename_i hsize
    rw [h.pow_eq (k := 64) hsize]
    have h3 := shift_and_le m.ramBank.toNat 3
    omega
  · exact Nat.mul_pos (by decide) (Nat.two_pow_pos q)

theorem InRange.romIndex_lt (h : m.InRange q) {bank o : ℕ} (hbank : bank < 2 * 2 ^ q)
    (ho : o < 0x4000) : 0x4000 * bank + o < m.rom.size := by
  have hlt := bank_offset_lt hbank ho
  have hsize := h.rom
  omega

theorem InRange.ramAddress (h : m.InRange q) (hon : m.ramEnabled) {address : ℕ}
    (ha : 0xA000 ≤ address ∧ address ≤ 0xBFFF) :
    Total (m.ramAddress address) fun i => i < m.ram.size := by
  refine ramAddress_lt h.ramBank (h.ram.resolve_left fun hoff => ?_) ha
  rw [hoff.2] at hon
  cases hon

theorem InRange.read (h : m.InRange q) {address : ℕ} (ha : Mbc.OnBus address) :
    Total (m.read address) fun _ => True := by
  have hbank : 0 < 2 * 2 ^ q := Nat.mul_pos (by decide) (Nat.two_pow_pos q)
  have hrom : address < 0x4000 → 0x4000 * 0 + address < m.rom.size := h.romIndex_lt hbank
  rw [Mbc1.read]
  refine .ite (fun h0 => ?_) fun h0 => .ite (fun h1 => ?_) fun h1 => ?_
  · refine .ite (fun _ => ?_) fun _ => ?_
    · exact (Buf.meets_get (h.romIndex_lt h.zeroBank_lt (by omega)) _).imp fun _ _ => trivial
    · exact (Buf.meets_get (by omega) _).imp fun _ _ => trivial
  · exact (Buf.meets_get (h.romIndex_lt h.highBank_lt (by omega)) _).imp fun _ _ => trivial
  · have hwindow : 0xA000 ≤ address ∧ address ≤ 0xBFFF := ha.resolve_left h1
    rw [if_pos hwindow]
    refine .ite (fun _ => trivial) fun hon => ?_
    refine (h.ramAddress (by simpa using hon) hwindow).bind fun i hi => ?_
    exact (Buf.meets_get hi _).imp fun _ _ => trivial

theorem InRange.write (h : m.InRange q) (address : ℕ) (data : UInt8) :
    Total (m.write address data) (InRange q) := by
  have hbank : (data &&& 0x1F).toNat < 32 := Nat.lt_succ_of_le (toNat_and_le data 0x1F)
  have hpos := Nat.two_pow_pos q
  rw [Mbc1.write]
  refine .ite (fun _ => ?_) fun _ => .ite (fun _ => ?_) fun _ => .ite (fun _ => ?_) fun _ =>
    .ite (fun _ => ?_) fun _ => .ite (fun ha => ?_) fun _ => ?_
  · refine .ite (fun _ => h) fun hram => { h with ram := ?_ }
    exact .inr (h.ram.resolve_left fun h0 => hram h0.1)
  · refine { h with romBank := ?_, romBank_lt := ?_ }
    · show (if _ then (1 : UInt8) else _ &&& m.romMask).toNat < 32
      split
      · decide
      · rw [UInt8.toNat_and]
        exact Nat.lt_of_le_of_lt Nat.and_le_left hbank
    · show (if _ then (1 : UInt8) else _ &&& m.romMask).toNat < 2 * 2 ^ q
      split
      · show 1 < 2 * 2 ^ q
        omega
      · exact h.mask _ hbank
  · exact { h with ramBank := and_mask_le data 0x3 }
  · exact { h with }
  · refine .ite (fun _ => h) fun hon => ?_
    refine (h.ramAddress (by simpa using hon) ha).bind fun i hi => ?_
    refine (Buf.meets_set hi _ _).bind fun ram hsize => ?_
    exact { h with ram := by simpa only [hsize] using h.ram }
  · exact h

/-- **An MBC1 in range never panics.** -/
theorem InRange.neverPanics (h : m.InRange q) : (Mbc.mbc1 m).NeverPanics := by
  intro ops hops
  have hstep : ∀ op M, Mbc.Op.OnBus op → (∃ m, M = Mbc.mbc1 m ∧ m.InRange q) →
      Total (Mbc.step op M) fun M' => ∃ m, M' = Mbc.mbc1 m ∧ m.InRange q := by
    rintro op M hop ⟨m, rfl, h⟩
    cases op with
    | read address => exact (h.read hop).bind fun _ _ => ⟨m, rfl, h⟩
    | write address data =>
      exact meets_map.mpr ((h.write address data).imp fun m' h' => ⟨m', rfl, h'⟩)
    | clock => exact ⟨m, rfl, h⟩
  obtain ⟨M', hM', -⟩ := (Machine.exec_meets hstep ops (.mbc1 m) hops ⟨m, rfl, h⟩).exists_ok
  exact ⟨M', hM'⟩

/-- The mask lets through no bank the ROM does not have, in either build. -/
theorem romMask_eq {b : Build} {hdr : CartridgeHeader} {shift mask : ℕ}
    (hshift : b.sub 8 .mbc1Load 7 hdr.romSize.toNat = .ok shift)
    (hmask : b.shr 8 .mbc1Load 0xFF (max shift 3) = .ok mask) (hq : hdr.romShift < 4) :
    mask = 0xFF >>> (7 - hdr.romShift) := by
  have hsize := hdr.romSize.toNat_lt
  rw [CartridgeHeader.romShift] at hq ⊢
  cases b with
  | debug =>
    obtain ⟨hle, rfl⟩ := checkedSub_eq_ok.mp hshift
    have hlt : max (7 - hdr.romSize.toNat) 3 < 8 := by omega
    rw [← ok_inj.mp ((checkedShr_of_lt _ hlt).symm.trans hmask)]
    congr 1
    omega
  | release =>
    cases hshift
    cases hmask
    congr 1
    omega

theorem and_romMask_lt {q mask : ℕ} (hmask : q < 4 → mask = 0xFF >>> (7 - q)) {x : UInt8}
    (hx : x.toNat < 32) : (x &&& UInt8.ofNat mask).toNat < 2 * 2 ^ q := by
  rw [UInt8.toNat_and]
  by_cases hq : q < 4
  · refine Nat.lt_of_le_of_lt Nat.and_le_right ?_
    rw [hmask hq]
    interval_cases q <;> decide
  · have hpow : 2 ^ 4 ≤ 2 ^ q := Nat.pow_le_pow_right (by decide) (by omega)
    exact Nat.lt_of_le_of_lt Nat.and_le_left (by omega)

end Mbc1

/-! ### Loading with a save file -/

/-- The cartridge types with a battery. -/
def CartridgeHeader.HasBattery (hdr : CartridgeHeader) : Prop :=
  hdr.cartType ∈ ([0x3, 0x6, 0x10, 0x13, 0x1B, 0x1E] : List UInt8)

instance (hdr : CartridgeHeader) : Decidable hdr.HasBattery :=
  inferInstanceAs (Decidable (hdr.cartType ∈ _))

/-- The length of the RAM that the header asks for; MBC2 has its own. -/
def CartridgeHeader.ramLength (hdr : CartridgeHeader) : ℕ :=
  if hdr.cartType = 0x6 then 0x200
  else
    match hdr.ramSize.toNat with
    | 2 => 0x2000
    | 3 => 0x8000
    | 4 => 0x20000
    | 5 => 0x10000
    | _ => 0

theorem ramLength_of_ramBanks {hdr : CartridgeHeader} {banks : Banks} (hmbc2 : hdr.cartType ≠ 0x6)
    (h : ramBanks hdr = .ok banks) :
    hdr.ramLength = banks.sizeBytes ∧ banks.sizeBytes = 0x2000 * banks.numBanks := by
  refine ⟨?_, ramBanks_sizeBytes h⟩
  rw [CartridgeHeader.ramLength, if_neg hmbc2]
  rcases ramBanks_eq_ok h with ⟨hr, rfl⟩ | ⟨hr, rfl⟩ | ⟨hr, rfl⟩ | ⟨hr, rfl⟩ | ⟨hr, rfl⟩
  · have hr := UInt8.le_iff_toNat_le.mp hr
    split <;> first | rfl | (rename_i heq; rw [heq] at hr; exact absurd hr (by decide))
  all_goals rw [hr]; rfl

/-- With a battery and a save file, the RAM is the file. -/
theorem restoreRamIn_eq_ok {b : Build} {battery : Bool} (hbattery : battery = true)
    {file mbcRam ram : Buf UInt8} (h : restoreRamIn b battery (some file) mbcRam = .ok ram) :
    ram = file := by
  rw [hbattery] at h
  obtain ⟨-, -, h⟩ := bind_eq_ok.mp h
  exact (pure_eq_ok.mp h).symm

section

variable {b : Build} {cart : Cartridge} {file : Buf UInt8} (hfile : cart.saveFile = some file)
include hfile

theorem Mbc1.loadIn_eq_ok {m : Mbc1} (hcart : cart.header.cartType = 0x3)
    (h : Mbc1.new.loadIn b cart = .ok m) :
    ∃ banks, romBanksIn b cart.header = .ok banks ∧ m.rom.size = banks.sizeBytes ∧ m.ram = file ∧
      (∃ rbanks, ramBanks cart.header = .ok rbanks) ∧
      (∀ x : UInt8, x.toNat < 32 → (x &&& m.romMask).toNat < 2 * 2 ^ cart.header.romShift) ∧
      m = { Mbc1.new with rom := m.rom, ram := m.ram, romMask := m.romMask } := by
  obtain ⟨banks, hbanks, h⟩ := bind_eq_ok.mp h
  obtain ⟨-, -, h⟩ := bind_eq_ok.mp h
  obtain ⟨shift, hshift, h⟩ := bind_eq_ok.mp h
  obtain ⟨mask, hmask, h⟩ := bind_eq_ok.mp h
  obtain ⟨rom, hrom, h⟩ := bind_eq_ok.mp h
  obtain ⟨ram, hram, h⟩ := bind_eq_ok.mp h
  obtain ⟨ram', hram', h⟩ := bind_eq_ok.mp h
  rw [hfile] at hram'
  obtain rfl := restoreRamIn_eq_ok (decide_eq_true hcart) hram'
  cases h
  rw [loadRam, if_pos (.inr hcart)] at hram
  obtain ⟨rbanks, hrbanks, -⟩ := bind_eq_ok.mp hram
  exact ⟨banks, hbanks, Buf.size_of_slice hrom, rfl, ⟨rbanks, hrbanks⟩,
    fun x hx => and_romMask_lt (romMask_eq hshift hmask) hx, rfl⟩

theorem Mbc2.loadIn_eq_ok {m : Mbc2} (hcart : cart.header.cartType = 0x6)
    (h : Mbc2.new.loadIn b cart = .ok m) :
    ∃ banks, romBanksIn b cart.header = .ok banks ∧ m.rom.size = banks.sizeBytes ∧ m.ram = file ∧
      m.romBank = 1 ∧ m.numRomBanks = banks.numBanks := by
  obtain ⟨banks, hbanks, h⟩ := bind_eq_ok.mp h
  obtain ⟨-, -, h⟩ := bind_eq_ok.mp h
  obtain ⟨rom, hrom, h⟩ := bind_eq_ok.mp h
  obtain ⟨ram, hram, h⟩ := bind_eq_ok.mp h
  rw [hfile] at hram
  obtain rfl := restoreRamIn_eq_ok (decide_eq_true hcart) hram
  cases h
  refine ⟨banks, hbanks, ?_, rfl, rfl, rfl⟩
  rw [loadRom] at hrom
  split at hrom <;> cases hrom
  rfl

theorem Mbc3.loadIn_eq_ok {m : Mbc3}
    (hcart : cart.header.cartType = 0x10 ∨ cart.header.cartType = 0x13)
    (h : Mbc3.new.loadIn b cart = .ok m) :
    ∃ banks rbanks, romBanksIn b cart.header = .ok banks ∧ ramBanks cart.header = .ok rbanks ∧
      m.rom.size = banks.sizeBytes ∧ m.ram = file ∧ m.numRomBanks = banks.numBanks ∧
      m.numRamBanks = rbanks.numBanks ∧ m.romBank = 1 ∧ m.ramBank = none ∧ m.rtcSelect = none := by
  obtain ⟨banks, hbanks, h⟩ := bind_eq_ok.mp h
  obtain ⟨rbanks, hrbanks, h⟩ := bind_eq_ok.mp h
  obtain ⟨-, -, h⟩ := bind_eq_ok.mp h
  obtain ⟨rom, hrom, h⟩ := bind_eq_ok.mp h
  obtain ⟨ram, hram, h⟩ := bind_eq_ok.mp h
  rw [hfile] at hram
  obtain rfl := restoreRamIn_eq_ok (decide_eq_true hcart) hram
  cases h
  exact ⟨banks, rbanks, hbanks, hrbanks, Buf.size_of_slice hrom, rfl, rfl, rfl, rfl, rfl, rfl⟩

theorem Mbc5.loadIn_eq_ok {m : Mbc5}
    (hcart : cart.header.cartType = 0x1B ∨ cart.header.cartType = 0x1E)
    (h : Mbc5.new.loadIn b cart = .ok m) :
    ∃ banks rbanks, romBanksIn b cart.header = .ok banks ∧ ramBanks cart.header = .ok rbanks ∧
      m.rom.size = banks.sizeBytes ∧ m.ram = file ∧ m.numRomBanks = banks.numBanks ∧
      m.numRamBanks = rbanks.numBanks ∧ m.romBank = 1 ∧ m.ramBank = 0 := by
  obtain ⟨banks, hbanks, h⟩ := bind_eq_ok.mp h
  obtain ⟨rbanks, hrbanks, h⟩ := bind_eq_ok.mp h
  obtain ⟨-, -, h⟩ := bind_eq_ok.mp h
  obtain ⟨rom, hrom, h⟩ := bind_eq_ok.mp h
  obtain ⟨ram, hram, h⟩ := bind_eq_ok.mp h
  rw [hfile] at hram
  obtain rfl := restoreRamIn_eq_ok (decide_eq_true hcart) hram
  cases h
  exact ⟨banks, rbanks, hbanks, hrbanks, Buf.size_of_slice hrom, rfl, rfl, rfl, rfl, rfl⟩

end

namespace Mbc

/-- The RAM of a mapper. -/
def ram : Mbc → Buf UInt8
  | .romOnly _ => .empty
  | .mbc1 m => m.ram
  | .mbc2 m => m.ram
  | .mbc3 m => m.ram
  | .mbc5 m => m.ram

/-- A mapper without ROM panics at the first byte. -/
theorem not_neverPanics_of_read {M : Mbc} {e : Panic} (h : M.read 0 = .error e) :
    ¬ M.NeverPanics := by
  refine not_neverPanics [.read 0] (by simp [Op.OnBus, OnBus]) (e := e) ?_
  rw [Machine.exec_cons, step, h]
  rfl

/-- What decides, for a mapper whose RAM is the save file. -/
theorem save_geometry_of {M : Mbc} {file : Buf UInt8} {L q : ℕ} {S : Prop} (hram : M.ram = file)
    (hok : file.size = L → S → q ≤ 48 → M.NeverPanics)
    (hunsupported : file.size = L → ¬ S → ¬ M.NeverPanics) (hrom : 48 < q → ¬ M.NeverPanics) :
    M.ram.size = L ∧ M.NeverPanics ↔ file.size = L ∧ S ∧ q ≤ 48 := by
  rw [hram]
  constructor
  · rintro ⟨hsize, hnever⟩
    exact ⟨hsize, by_contra fun hS => hunsupported hsize hS hnever,
      Nat.le_of_not_lt fun hq => hrom hq hnever⟩
  · rintro ⟨hsize, hS, hq⟩
    exact ⟨hsize, hok hsize hS hq⟩

section

variable {b : Build} {cart : Cartridge} {file : Buf UInt8} (hfile : cart.saveFile = some file)
include hfile

theorem save_geometry_mbc1 {m : Mbc1} (hcart : cart.header.cartType = 0x3)
    (h : Mbc1.new.loadIn b cart = .ok m) :
    (mbc1 m).ram.size = cart.header.ramLength ∧ (mbc1 m).NeverPanics ↔
      file.size = cart.header.ramLength ∧
        (cart.header.ramSize ≠ 4 ∧ cart.header.ramSize ≠ 5) ∧ cart.header.romShift ≤ 48 := by
  obtain ⟨banks, hbanks, hromsize, hram, ⟨rbanks, hrbanks⟩, hmask, hm⟩ :=
    Mbc1.loadIn_eq_ok hfile hcart h
  obtain ⟨hfits, hwraps⟩ := romBanksIn_eq_ok hbanks
  have hlength := (ramLength_of_ramBanks (by rw [hcart]; decide) hrbanks).1
  refine save_geometry_of hram (fun hsize hS hq => ?_) (fun hsize hS => ?_) fun hq => ?_
  · refine Mbc1.InRange.neverPanics (q := cart.header.romShift) ⟨?_, hmask, ?_, ?_, ?_, ?_⟩
    · rw [hromsize, (hfits hq).2, (hfits hq).1, pow_succ]
      omega
    · rw [hm]
      show (1 : UInt8).toNat < 32
      decide
    · rw [hm]
      have := Nat.two_pow_pos cart.header.romShift
      show 1 < _
      omega
    · rw [hm]
      show (0 : UInt8) ≤ 3
      decide
    · rw [hram, hsize, hlength]
      rcases ramBanks_eq_ok hrbanks with ⟨-, rfl⟩ | ⟨-, rfl⟩ | ⟨-, rfl⟩ | ⟨h4, -⟩ | ⟨h5, -⟩
      · exact .inl ⟨rfl, by rw [hm]; rfl⟩
      · exact .inr (.inl rfl)
      · exact .inr (.inr rfl)
      · exact absurd h4 hS.1
      · exact absurd h5 hS.2
  · refine not_neverPanics_mbc1 ?_
    rw [hram, hsize, hlength]
    exact ramBanks_large (by tauto) hrbanks
  · refine not_neverPanics_of_read (e := .index .mbc1Read) ?_
    have hempty : m.rom.size ≤ 0 := by rw [hromsize, hwraps hq]
    rw [hm] at hempty ⊢
    exact Buf.get_of_le _ _ hempty

theorem save_geometry_mbc2 {m : Mbc2} (hcart : cart.header.cartType = 0x6)
    (h : Mbc2.new.loadIn b cart = .ok m) :
    (mbc2 m).ram.size = cart.header.ramLength ∧ (mbc2 m).NeverPanics ↔
      file.size = cart.header.ramLength ∧ True ∧ cart.header.romShift ≤ 48 := by
  obtain ⟨banks, hbanks, hromsize, hram, hromBank, hnum⟩ := Mbc2.loadIn_eq_ok hfile hcart h
  obtain ⟨hfits, hwraps⟩ := romBanksIn_eq_ok hbanks
  have hlength : cart.header.ramLength = 0x200 := if_pos hcart
  refine save_geometry_of hram (fun hsize _ hq => ?_) (fun _ hS => absurd trivial hS) fun hq => ?_
  · have htwo : 2 ≤ m.numRomBanks := by rw [hnum, (hfits hq).1]; exact two_le_romBanks _
    refine Valid.neverPanics (m := .mbc2 m) ⟨?_, by omega, htwo, ?_⟩
    · rw [hromsize, (hfits hq).2, hnum]
    · rw [hram, hsize, hlength]
  · refine not_neverPanics_of_read (e := .index .mbc2Read) ?_
    exact Buf.get_of_le _ _ (by rw [hromsize, hwraps hq])

theorem save_geometry_mbc3 {m : Mbc3}
    (hcart : cart.header.cartType = 0x10 ∨ cart.header.cartType = 0x13)
    (h : Mbc3.new.loadIn b cart = .ok m) :
    (mbc3 m).ram.size = cart.header.ramLength ∧ (mbc3 m).NeverPanics ↔
      file.size = cart.header.ramLength ∧ 2 ≤ cart.header.ramSize ∧
        cart.header.romShift ≤ 48 := by
  obtain ⟨banks, rbanks, hbanks, hrbanks, hromsize, hram, hnum, hrnum, hromBank, hramBank, hrtc⟩ :=
    Mbc3.loadIn_eq_ok hfile hcart h
  obtain ⟨hfits, hwraps⟩ := romBanksIn_eq_ok hbanks
  have hlength := ramLength_of_ramBanks
    (by rcases hcart with hcart | hcart <;> rw [hcart] <;> decide) hrbanks
  have hpos := ramBanks_pos_iff hrbanks
  refine save_geometry_of hram (fun hsize hS hq => ?_) (fun _ hS => ?_) fun hq => ?_
  · have htwo : 2 ≤ m.numRomBanks := by rw [hnum, (hfits hq).1]; exact two_le_romBanks _
    refine Valid.neverPanics (m := .mbc3 m) ⟨?_, by omega, htwo, ?_, ?_, ?_, ?_⟩
    · rw [hromsize, (hfits hq).2, hnum]
    · rw [hram, hsize, hlength.1, hlength.2, hrnum]
    · rw [hramBank]
      exact nofun
    · rw [hrnum]
      exact hpos.mpr hS
    · rw [hrtc]
      exact nofun
  · exact not_neverPanics_mbc3 (hrnum.trans (Nat.eq_zero_of_not_pos (hpos.not.mpr hS)))
  · refine not_neverPanics_of_read (e := .index .mbc3Read) ?_
    exact Buf.get_of_le _ _ (by rw [hromsize, hwraps hq])

theorem save_geometry_mbc5 {m : Mbc5}
    (hcart : cart.header.cartType = 0x1B ∨ cart.header.cartType = 0x1E)
    (h : Mbc5.new.loadIn b cart = .ok m) :
    (mbc5 m).ram.size = cart.header.ramLength ∧ (mbc5 m).NeverPanics ↔
      file.size = cart.header.ramLength ∧ 2 ≤ cart.header.ramSize ∧
        cart.header.romShift ≤ 48 := by
  obtain ⟨banks, rbanks, hbanks, hrbanks, hromsize, hram, hnum, hrnum, hromBank, hramBank⟩ :=
    Mbc5.loadIn_eq_ok hfile hcart h
  obtain ⟨hfits, hwraps⟩ := romBanksIn_eq_ok hbanks
  have hlength := ramLength_of_ramBanks
    (by rcases hcart with hcart | hcart <;> rw [hcart] <;> decide) hrbanks
  have hpos := ramBanks_pos_iff hrbanks
  refine save_geometry_of hram (fun hsize hS hq => ?_) (fun _ hS => ?_) fun hq => ?_
  · have htwo : 2 ≤ m.numRomBanks := by rw [hnum, (hfits hq).1]; exact two_le_romBanks _
    refine Valid.neverPanics (m := .mbc5 m) ⟨?_, by omega, htwo, ?_, ?_⟩
    · rw [hromsize, (hfits hq).2, hnum]
    · rw [hram, hsize, hlength.1, hlength.2, hrnum]
    · rw [hramBank, hrnum]
      exact hpos.mpr hS
  · exact not_neverPanics_mbc5 (hrnum.trans (Nat.eq_zero_of_not_pos (hpos.not.mpr hS)))
  · refine not_neverPanics_of_read (e := .index .mbc5Read) ?_
    exact Buf.get_of_le _ _ (by rw [hromsize, hwraps hq])

end

theorem ofCartridgeIn_mbc3 (b : Build) {cart : Cartridge}
    (hcart : cart.header.cartType = 0x10 ∨ cart.header.cartType = 0x13) :
    ofCartridgeIn b cart = mbc3 <$> Mbc3.new.loadIn b cart := by
  rcases hcart with hcart | hcart <;>
  · rw [ofCartridgeIn, hcart]
    rfl

theorem ofCartridgeIn_mbc5 (b : Build) {cart : Cartridge}
    (hcart : cart.header.cartType = 0x1B ∨ cart.header.cartType = 0x1E) :
    ofCartridgeIn b cart = mbc5 <$> Mbc5.new.loadIn b cart := by
  rcases hcart with hcart | hcart <;>
  · rw [ofCartridgeIn, hcart]
    rfl

theorem supportsRam_mbc3_mbc5 {hdr : CartridgeHeader}
    (hcart : (hdr.cartType = 0x10 ∨ hdr.cartType = 0x13) ∨
      hdr.cartType = 0x1B ∨ hdr.cartType = 0x1E) : hdr.SupportsRam ↔ 2 ≤ hdr.ramSize := by
  rcases hcart with (hcart | hcart) | hcart | hcart <;> simp [CartridgeHeader.SupportsRam, hcart]

/-- **When a save file leaves a mapper within bounds.** Of a battery-backed cartridge with a save
file that loads, in either build, the RAM has the length the header asks for and no sequence of
operations panics exactly when the file has that length, the header asks for RAM the mapper can
address, and the length of its ROM did not wrap. The debug build is the one modelled everywhere
else. -/
theorem save_geometry_iff {b : Build} {cart : Cartridge} {file : Buf UInt8} {M : Mbc}
    (hbattery : cart.header.HasBattery) (hfile : cart.saveFile = some file)
    (hload : ofCartridgeIn b cart = .ok M) :
    (M.ram.size = cart.header.ramLength ∧ M.NeverPanics ↔
      file.size = cart.header.ramLength ∧ cart.header.SupportsRam ∧
        cart.header.romShift ≤ 48) ∧
    (b = .debug → ofCartridge cart = .ok M) := by
  refine ⟨?_, fun hb => by rw [← ofCartridgeIn_debug, ← hb, hload]⟩
  simp only [CartridgeHeader.HasBattery, List.mem_cons, List.not_mem_nil, or_false] at hbattery
  obtain hcart | hcart | hcart | hcart : cart.header.cartType = 0x3 ∨ cart.header.cartType = 0x6 ∨
      (cart.header.cartType = 0x10 ∨ cart.header.cartType = 0x13) ∨
      (cart.header.cartType = 0x1B ∨ cart.header.cartType = 0x1E) := by
    tauto
  · rw [ofCartridgeIn, hcart] at hload
    obtain ⟨m, hm, rfl⟩ := map_eq_ok.mp hload
    rw [save_geometry_mbc1 hfile hcart hm]
    simp [CartridgeHeader.SupportsRam, hcart]
  · rw [ofCartridgeIn, hcart] at hload
    obtain ⟨m, hm, rfl⟩ := map_eq_ok.mp hload
    rw [save_geometry_mbc2 hfile hcart hm]
    simp [CartridgeHeader.SupportsRam, hcart]
  · rw [ofCartridgeIn_mbc3 b hcart] at hload
    obtain ⟨m, hm, rfl⟩ := map_eq_ok.mp hload
    rw [save_geometry_mbc3 hfile hcart hm, supportsRam_mbc3_mbc5 (.inl hcart)]
  · rw [ofCartridgeIn_mbc5 b hcart] at hload
    obtain ⟨m, hm, rfl⟩ := map_eq_ok.mp hload
    rw [save_geometry_mbc5 hfile hcart hm, supportsRam_mbc3_mbc5 (.inr hcart)]

/-- An MBC5 with a battery and 8 KiB of RAM, next to an empty save file. -/
def emptySave : Cartridge := { Cartridge.blank 0x1B 2 0xCA with saveFile := some .empty }

/-- The same, next to a save file of the right length. -/
def fullSave : Cartridge :=
  { Cartridge.blank 0x1B 2 0xCA with saveFile := some (.fill 0x2000 0) }

/-- With a save file of the right length, a release build loads the cartridge within bounds. -/
theorem save_geometry_fullSave :
    ∃ M, ofCartridgeIn .release fullSave = .ok M ∧ M.ram.size = fullSave.header.ramLength ∧
      M.NeverPanics := by
  obtain ⟨M, hM⟩ := exists_of_isOk (x := ofCartridgeIn .release fullSave) (by decide +kernel)
  refine ⟨M, hM, (save_geometry_iff (by decide) rfl hM).1.mpr ⟨rfl, ?_, by decide⟩⟩
  exact (supportsRam_mbc3_mbc5 (.inr (.inl rfl))).mpr (by decide)

/-- **An empty save file empties the RAM.** A release build takes the file as it is, and reading the
RAM once it is enabled panics. -/
theorem save_corrupts_geometry :
    emptySave.header.HasBattery ∧ CartridgeHeader.new emptySave.data = .ok emptySave.header ∧
      ∃ M, ofCartridgeIn .release emptySave = .ok M ∧ M.ram.size ≠ emptySave.header.ramLength ∧
        Machine.exec step [.write 0 0x0A, .read 0xA000] M = .error (.index .mbc5Read) := by
  refine ⟨by decide, rfl, _, rfl, ?_, rfl⟩
  show 0 ≠ emptySave.header.ramLength
  decide

end Mbc

end ZenithGb
