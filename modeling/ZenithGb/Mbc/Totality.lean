import Mathlib.Tactic.IntervalCases
import ZenithGb.Lib.Run
import ZenithGb.Mbc

/-!
# Which mappers never panic

For each mapper there is a `Valid` predicate saying that its bank registers select existing banks.
Loading establishes it when the header asks for RAM the mapper can address, every operation keeps
it, and under it no operation panics. When the header asks for other RAM, or for no mapper at all,
a short sequence of operations panics; so the header alone decides.

## Main results

* `Mbc1.Valid`, `Mbc2.Valid`, `Mbc3.Valid`, `Mbc5.Valid` — the invariants
* `Mbc.valid_ofCartridge`, `Mbc.meets_step` — they are established and kept
* `Mbc.total_iff_supportsRam` — a loaded mapper never panics iff its header is a supported one
-/

namespace ZenithGb

open Outcome

/-! ### Banks -/

/-- An offset into bank `b` of `n` banks of `w` cells is in range. -/
theorem bank_offset_lt {w n b o : ℕ} (hb : b < n) (ho : o < w) : w * b + o < w * n :=
  calc w * b + o < w * b + w := by omega
    _ = w * (b + 1) := by rw [Nat.mul_succ]
    _ ≤ w * n := Nat.mul_le_mul_left w hb

/-- A read through the two ROM windows, the upper one into a bank that there is. -/
theorem romWindows_total {rom : Buf UInt8} {banks bank address : ℕ} {e : Panic}
    {rest : Checked UInt8} (hrom : rom.size = 0x4000 * banks) (htwo : 2 ≤ banks)
    (hbank : bank < banks) (hrest : ¬ address ≤ 0x7FFF → Total rest fun _ => True) :
    Total (if address ≤ 0x3FFF then rom.get e address
      else if address ≤ 0x7FFF then rom.get e (0x4000 * bank + (address - 0x4000))
      else rest) fun _ => True := by
  refine .ite (fun h0 => ?_) fun h0 => .ite (fun h1 => ?_) hrest
  · exact (Buf.meets_get (by omega) _).imp fun _ _ => trivial
  · refine (Buf.meets_get ?_ _).imp fun _ _ => trivial
    rw [hrom]
    exact bank_offset_lt hbank (by omega)

theorem romBanks_eq_ok {hdr : CartridgeHeader} {b : Banks} (h : romBanks hdr = .ok b) :
    b.numBanks = 2 ^ (hdr.romSize.toNat + 1) ∧ b.sizeBytes = 0x4000 * b.numBanks := by
  obtain ⟨n, hn, h⟩ := bind_eq_ok.mp h
  obtain ⟨k, hk, h⟩ := bind_eq_ok.mp h
  obtain ⟨i, hi, h⟩ := bind_eq_ok.mp h
  obtain ⟨j, hj, h⟩ := bind_eq_ok.mp h
  cases h
  obtain ⟨-, rfl⟩ := checkedAdd_eq_ok.mp hn
  obtain ⟨-, rfl⟩ := checkedMul_eq_ok.mp hj
  rw [checkedShl64] at hk hi
  split at hk <;> cases hk
  split at hi <;> cases hi
  exact ⟨rfl, by simp only [bytes1Kib, pow_succ]; omega⟩

theorem two_le_romBanks (r : ℕ) : 2 ≤ 2 ^ (r + 1) := by
  rw [pow_succ]
  have := Nat.one_le_two_pow (n := r)
  omega

/-- The size codes of `ram_banks`. -/
theorem ramBanks_eq_ok {hdr : CartridgeHeader} {b : Banks} (h : ramBanks hdr = .ok b) :
    hdr.ramSize ≤ 1 ∧ b = ⟨0, 0⟩ ∨ hdr.ramSize = 2 ∧ b = ⟨1, 0x2000⟩ ∨
      hdr.ramSize = 3 ∧ b = ⟨4, 0x8000⟩ ∨ hdr.ramSize = 4 ∧ b = ⟨16, 0x20000⟩ ∨
      hdr.ramSize = 5 ∧ b = ⟨8, 0x10000⟩ := by
  simp only [UInt8.le_iff_toNat_le, ← UInt8.toNat_inj]
  rw [ramBanks] at h
  split at h <;> cases h <;> rename_i heq <;> simp [heq, bytes1Kib]

theorem ramBanks_large {hdr : CartridgeHeader} {b : Banks}
    (hram : hdr.ramSize = 4 ∨ hdr.ramSize = 5) (h : ramBanks hdr = .ok b) :
    b.sizeBytes = 0x20000 ∨ b.sizeBytes = 0x10000 := by
  rw [ramBanks] at h
  rcases hram with hr | hr <;> rw [hr] at h <;> cases h
  · exact .inl rfl
  · exact .inr rfl

theorem ramBanks_sizeBytes {hdr : CartridgeHeader} {b : Banks} (h : ramBanks hdr = .ok b) :
    b.sizeBytes = 0x2000 * b.numBanks := by
  rcases ramBanks_eq_ok h with ⟨-, rfl⟩ | ⟨-, rfl⟩ | ⟨-, rfl⟩ | ⟨-, rfl⟩ | ⟨-, rfl⟩ <;> rfl

theorem ramBanks_pos_iff {hdr : CartridgeHeader} {b : Banks} (h : ramBanks hdr = .ok b) :
    0 < b.numBanks ↔ 2 ≤ hdr.ramSize := by
  rcases ramBanks_eq_ok h with ⟨hr, rfl⟩ | ⟨hr, rfl⟩ | ⟨hr, rfl⟩ | ⟨hr, rfl⟩ | ⟨hr, rfl⟩
  · exact iff_of_false (by decide) (by simpa [UInt8.lt_iff_toNat_lt] using Nat.lt_succ_of_le hr)
  all_goals exact iff_of_true (by decide) (by rw [hr]; decide)

/-! ### MBC1 -/

namespace Mbc1

/-- The ROM has `2 ^ (r + 1)` banks, the mask fits them, and the RAM is one the mapper can
address, if it is enabled at all. -/
structure Valid (m : Mbc1) : Prop where
  rom : ∃ r ≤ 7, m.rom.size = 0x8000 * 2 ^ r ∧ m.romMask = UInt8.ofNat (0xFF >>> max (7 - r) 3)
  romBank : m.romBank ≤ m.romMask
  ramBank : m.ramBank ≤ 3
  ram : m.ram.size = 0 ∧ m.ramEnabled = false ∨ m.ram.size = bytes8Kib ∨ m.ram.size = bytes32Kib

variable {m : Mbc1}

theorem Valid.highBank_lt (h : m.Valid) {o : ℕ} (ho : o < 0x4000) :
    0x4000 * m.highBankNumber + o < m.rom.size := by
  obtain ⟨r, hr, hsize, hmask⟩ := h.rom
  have hbank : m.romBank.toNat ≤ (UInt8.ofNat (0xFF >>> max (7 - r) 3)).toNat := by
    rw [← hmask]; exact UInt8.le_iff_toNat_le.mp h.romBank
  have hlow : (m.romBank &&& m.romMask).toNat ≤ m.romMask.toNat := toNat_and_le m.romBank m.romMask
  suffices hlt : m.highBankNumber < 2 * 2 ^ r by
    have := bank_offset_lt hlt ho
    omega
  have h5 : ∀ k, (m.ramBank.toNat &&& k) <<< 5 ≤ k <<< 5 := fun k => by
    rw [Nat.shiftLeft_eq, Nat.shiftLeft_eq]; exact Nat.mul_le_mul_right _ Nat.and_le_right
  rw [highBankNumber]
  rw [hmask] at hlow ⊢
  interval_cases r
  all_goals simp [hsize, bytes1Mib, bytes2Mib] at hbank hlow ⊢
  all_goals first
    | omega
    | exact Nat.or_lt_two_pow (n := 6) (by omega) (by have := h5 1; omega)
    | exact Nat.or_lt_two_pow (n := 7) (by omega) (by have := h5 3; omega)

theorem Valid.zeroBank_lt (h : m.Valid) {o : ℕ} (ho : o < 0x4000) :
    0x4000 * m.zeroBankNumber + o < m.rom.size := by
  obtain ⟨r, hr, hsize, -⟩ := h.rom
  suffices hlt : m.zeroBankNumber < 2 * 2 ^ r by
    have := bank_offset_lt hlt ho
    omega
  have h5 : ∀ k, (m.ramBank.toNat &&& k) <<< 5 ≤ k <<< 5 := fun k => by
    rw [Nat.shiftLeft_eq, Nat.shiftLeft_eq]; exact Nat.mul_le_mul_right _ Nat.and_le_right
  rw [zeroBankNumber]
  interval_cases r
  all_goals simp [hsize, bytes1Mib, bytes2Mib]
  · have := h5 1; omega
  · have := h5 3; omega

theorem Valid.romSize_le (h : m.Valid) : 0x8000 ≤ m.rom.size := by
  obtain ⟨r, -, hsize, -⟩ := h.rom
  have := Nat.one_le_two_pow (n := r)
  omega

/-- RAM of the two sizes the mapper knows is indexed in range. -/
theorem ramAddress_lt (hbank : m.ramBank ≤ 3)
    (hram : m.ram.size = bytes8Kib ∨ m.ram.size = bytes32Kib) {address : ℕ}
    (ha : 0xA000 ≤ address ∧ address ≤ 0xBFFF) :
    Total (m.ramAddress address) fun i => i < m.ram.size := by
  have hb : m.ramBank.toNat ≤ 3 := UInt8.le_iff_toNat_le.mp hbank
  have h32 : bytes32Kib ≠ bytes8Kib := by decide
  rw [Mbc1.ramAddress]
  rcases hram with hsize | hsize
  · rw [hsize, if_pos rfl]
    exact Nat.mod_lt _ (by decide)
  · rw [hsize, if_neg h32, if_pos rfl]
    refine .ite (fun _ => ?_) fun _ => ?_
    · rw [checkedMul_of_lt _ (by omega), ok_bind, checkedAdd_of_lt _ (by omega)]
      show _ < 32 * 1024
      omega
    · show _ < 32 * 1024
      omega

theorem Valid.ramAddress (h : m.Valid) (hon : m.ramEnabled) {address : ℕ}
    (ha : 0xA000 ≤ address ∧ address ≤ 0xBFFF) :
    Total (m.ramAddress address) fun i => i < m.ram.size := by
  refine ramAddress_lt h.ramBank (h.ram.resolve_left fun hoff => ?_) ha
  rw [hoff.2] at hon
  cases hon

theorem Valid.read (h : m.Valid) {address : ℕ}
    (ha : address ≤ 0x7FFF ∨ 0xA000 ≤ address ∧ address ≤ 0xBFFF) :
    Total (m.read address) fun _ => True := by
  have hrom := h.romSize_le
  rw [Mbc1.read]
  refine .ite (fun h0 => ?_) fun h0 => .ite (fun h1 => ?_) fun h1 => ?_
  · refine .ite (fun _ => ?_) fun _ => ?_
    · exact (Buf.meets_get (h.zeroBank_lt (by omega)) _).imp fun _ _ => trivial
    · exact (Buf.meets_get (by omega) _).imp fun _ _ => trivial
  · exact (Buf.meets_get (h.highBank_lt (by omega)) _).imp fun _ _ => trivial
  · rw [if_pos (by omega)]
    refine .ite (fun _ => trivial) fun hon => ?_
    refine (h.ramAddress (by simpa using hon) (by omega)).bind fun i hi => ?_
    exact (Buf.meets_get hi _).imp fun _ _ => trivial

theorem Valid.write (h : m.Valid) (address : ℕ) (data : UInt8) :
    Total (m.write address data) Valid := by
  rw [Mbc1.write]
  refine .ite (fun _ => ?_) fun _ => .ite (fun _ => ?_) fun _ => .ite (fun _ => ?_) fun _ =>
    .ite (fun _ => ?_) fun _ => .ite (fun ha => ?_) fun _ => ?_
  · refine .ite (fun _ => h) fun hram => ⟨h.rom, h.romBank, h.ramBank, ?_⟩
    rcases h.ram with ⟨h0, -⟩ | h1
    · exact absurd h0 hram
    · exact .inr h1
  · refine ⟨h.rom, ?_, h.ramBank, h.ram⟩
    obtain ⟨r, hr, -, hmask⟩ := h.rom
    show (if _ then 1 else _ &&& m.romMask) ≤ m.romMask
    split
    · rw [hmask]
      interval_cases r <;> decide
    · exact and_mask_le _ m.romMask
  · exact ⟨h.rom, h.romBank, and_mask_le data 0x3, h.ram⟩
  · exact ⟨h.rom, h.romBank, h.ramBank, h.ram⟩
  · refine .ite (fun _ => h) fun hon => ?_
    refine (h.ramAddress (by simpa using hon) ha).bind fun i hi => ?_
    refine (Buf.meets_set hi _ _).bind fun ram hsize => ?_
    exact ⟨h.rom, h.romBank, h.ramBank, by simpa only [hsize] using h.ram⟩
  · exact h

/-- What loading without a save file leaves behind. -/
theorem load_eq_ok {cart : Cartridge} (hsave : cart.saveFile = none) (h : new.load cart = .ok m) :
    ∃ rom ram, new.loadRam cart.header = .ok ram ∧ cart.header.romSize.toNat ≤ 7 ∧
      rom.size = 0x8000 * 2 ^ cart.header.romSize.toNat ∧
      m = { new with
        rom, ram, romMask := UInt8.ofNat (0xFF >>> max (7 - cart.header.romSize.toNat) 3) } := by
  obtain ⟨banks, hbanks, h⟩ := bind_eq_ok.mp h
  obtain ⟨-, -, h⟩ := bind_eq_ok.mp h
  obtain ⟨shift, hshift, h⟩ := bind_eq_ok.mp h
  obtain ⟨rom, hrom, h⟩ := bind_eq_ok.mp h
  obtain ⟨ram, hram, h⟩ := bind_eq_ok.mp h
  rw [hsave, restoreRam_none] at h
  cases h
  obtain ⟨hnum, hsize⟩ := romBanks_eq_ok hbanks
  obtain ⟨hle, rfl⟩ := checkedSub_eq_ok.mp hshift
  refine ⟨rom, ram, hram, hle, ?_, rfl⟩
  rw [Buf.size_of_slice hrom, hsize, hnum, pow_succ]
  omega

/-- Loading gives a valid mapper unless the cartridge has RAM the mapper cannot address. -/
theorem valid_of_load {cart : Cartridge} (hsave : cart.saveFile = none)
    (hram : cart.header.ramSize ≠ 4 ∧ cart.header.ramSize ≠ 5) (h : new.load cart = .ok m) :
    m.Valid := by
  obtain ⟨rom, ram, hload, hle, hsize, rfl⟩ := load_eq_ok hsave h
  refine ⟨⟨_, hle, hsize, rfl⟩, ?_, ?_, ?_⟩
  · show 1 ≤ UInt8.ofNat _
    generalize cart.header.romSize.toNat = r at hle
    interval_cases r <;> decide
  · show (0 : UInt8) ≤ 3
    decide
  · rw [loadRam] at hload
    split at hload
    · obtain ⟨banks, hbanks, hload⟩ := bind_eq_ok.mp hload
      cases hload
      rcases ramBanks_eq_ok hbanks with ⟨-, rfl⟩ | ⟨-, rfl⟩ | ⟨-, rfl⟩ | ⟨h4, -⟩ | ⟨h5, -⟩
      · exact .inl ⟨rfl, rfl⟩
      · exact .inr (.inl rfl)
      · exact .inr (.inr rfl)
      · exact absurd h4 hram.1
      · exact absurd h5 hram.2
    · split at hload <;> cases hload
      exact .inl ⟨rfl, rfl⟩

/-- RAM of another size, enabled, panics when it is read. -/
theorem read_of_ram_large (hsize : m.ram.size = 0x20000 ∨ m.ram.size = 0x10000) :
    (m.write 0 0x0A >>= fun m => m.read 0xA000) = .error (.unreachable .mbc1RamAddress) := by
  have hmask : (10 : UInt8) &&& 15 = 10 := rfl
  rcases hsize with hsize | hsize <;>
    simp [write, read, Mbc1.ramAddress, hsize, hmask, bytes8Kib, bytes32Kib]

theorem ram_large_of_load {cart : Cartridge} (hsave : cart.saveFile = none)
    (hram : cart.header.ramSize = 4 ∨ cart.header.ramSize = 5) (h : new.load cart = .ok m) :
    m.ram.size = 0x20000 ∨ m.ram.size = 0x10000 := by
  obtain ⟨rom, ram, hload, -, -, rfl⟩ := load_eq_ok hsave h
  rw [loadRam] at hload
  split at hload
  · obtain ⟨banks, hbanks, hload⟩ := bind_eq_ok.mp hload
    cases hload
    exact ramBanks_large hram hbanks
  · split at hload <;> cases hload
    rename_i hzero
    rcases hram with hr' | hr' <;> exact absurd hr' (by rw [not_not.mp hzero]; decide)

end Mbc1

/-! ### MBC2 -/

namespace Mbc2

structure Valid (m : Mbc2) : Prop where
  rom : m.rom.size = 0x4000 * m.numRomBanks
  romBank : m.romBank < m.numRomBanks
  twoBanks : 2 ≤ m.numRomBanks
  ram : m.ram.size = 0x200

variable {m : Mbc2}

/-- The RAM repeats through the whole window. -/
theorem Valid.ramIndex_lt (h : m.Valid) (address : ℕ) : address &&& 0x1FF < m.ram.size := by
  rw [h.ram]
  exact Nat.lt_succ_of_le Nat.and_le_right

theorem Valid.read (h : m.Valid) {address : ℕ}
    (ha : address ≤ 0x7FFF ∨ 0xA000 ≤ address ∧ address ≤ 0xBFFF) :
    Total (m.read address) fun _ => True := by
  rw [Mbc2.read]
  refine romWindows_total h.rom h.twoBanks h.romBank fun h1 => ?_
  rw [if_pos (by omega)]
  refine .ite (fun _ => trivial) fun _ => ?_
  exact (Buf.meets_get (h.ramIndex_lt address) _).bind fun _ _ => trivial

theorem Valid.write (h : m.Valid) (address : ℕ) (data : UInt8) :
    Total (m.write address data) Valid := by
  have htwo := h.twoBanks
  rw [Mbc2.write]
  refine .ite (fun _ => .ite (fun _ => ?_) fun _ => .ite (fun _ => ?_) fun _ => ?_) fun _ =>
    .ite (fun _ => .ite (fun _ => h) fun _ => ?_) fun _ => h
  · exact ⟨h.rom, h.romBank, h.twoBanks, h.ram⟩
  · exact ⟨h.rom, htwo, h.twoBanks, h.ram⟩
  · rw [checkedRem_of_pos _ (by omega)]
    exact ⟨h.rom, Nat.mod_lt _ (by omega), h.twoBanks, h.ram⟩
  · refine (Buf.meets_set (h.ramIndex_lt address) _ _).bind fun ram hsize => ?_
    exact ⟨h.rom, h.romBank, h.twoBanks, hsize.trans h.ram⟩

theorem valid_of_load {cart : Cartridge} (hsave : cart.saveFile = none)
    (h : new.load cart = .ok m) : m.Valid := by
  obtain ⟨banks, hbanks, h⟩ := bind_eq_ok.mp h
  obtain ⟨-, -, h⟩ := bind_eq_ok.mp h
  obtain ⟨rom, hrom, h⟩ := bind_eq_ok.mp h
  simp only [hsave, restoreRam_none, ok_bind, pure_eq_ok] at h
  subst h
  obtain ⟨hnum, hsize⟩ := romBanks_eq_ok hbanks
  have htwo : 2 ≤ banks.numBanks := hnum ▸ two_le_romBanks _
  exact ⟨(Buf.size_of_slice hrom).trans hsize, htwo, htwo, rfl⟩

end Mbc2

/-! ### MBC3 -/

namespace Mbc3

structure Valid (m : Mbc3) : Prop where
  rom : m.rom.size = 0x4000 * m.numRomBanks
  romBank : m.romBank < m.numRomBanks
  twoBanks : 2 ≤ m.numRomBanks
  ram : m.ram.size = 0x2000 * m.numRamBanks
  ramBank : ∀ b ∈ m.ramBank, b < m.numRamBanks
  oneRamBank : 0 < m.numRamBanks
  rtcSelect : ∀ r ∈ m.rtcSelect, r < 5

variable {m : Mbc3}

theorem Valid.read (h : m.Valid) {address : ℕ}
    (ha : address ≤ 0x7FFF ∨ 0xA000 ≤ address ∧ address ≤ 0xBFFF) :
    Total (m.read address) fun _ => True := by
  rw [Mbc3.read]
  refine romWindows_total h.rom h.twoBanks h.romBank fun h1 => ?_
  rw [if_pos (by omega)]
  refine .ite (fun _ => trivial) fun _ => ?_
  cases hr : m.rtcSelect with
  | some r =>
    cases m.rtcLatch with
    | some latch => exact (Mem.meets_get (h.rtcSelect r hr) _).imp fun _ _ => trivial
    | none => trivial
  | none =>
    cases hb : m.ramBank with
    | some b =>
      refine (Buf.meets_get ?_ _).imp fun _ _ => trivial
      rw [h.ram]
      exact bank_offset_lt (h.ramBank b hb) (by omega)
    | none => trivial

theorem rtcRegisterMask_total {r : ℕ} (hr : r < 5) : Total (rtcRegisterMask r) fun _ => True := by
  interval_cases r <;> exact trivial

/-- Nothing the clock works on is mentioned by the invariant. -/
theorem Valid.withRtc (h : m.Valid) (regs : Mem 5 UInt8) (latch : Option (Mem 5 UInt8)) (c : ℕ) :
    Valid { m with rtcRegisters := regs, rtcLatch := latch, rtcCyclesLeft := c } :=
  ⟨h.rom, h.romBank, h.twoBanks, h.ram, h.ramBank, h.oneRamBank, h.rtcSelect⟩

theorem Valid.withRam (h : m.Valid) {ram : Buf UInt8} (hram : ram.size = 0x2000 * m.numRamBanks) :
    Valid { m with ram } :=
  ⟨h.rom, h.romBank, h.twoBanks, hram, h.ramBank, h.oneRamBank, h.rtcSelect⟩

theorem Valid.writeRtc (h : m.Valid) {r : ℕ} (hr : r < 5) (data : UInt8) :
    Total (m.writeRtc r data) Valid := by
  rw [Mbc3.writeRtc]
  refine (rtcRegisterMask_total hr).bind fun mask _ => ?_
  refine (Mem.meets_set hr _ _).bind fun regs _ => ?_
  cases hl : m.rtcLatch with
  | none => exact h.withRtc regs none _
  | some latch => exact (Mem.meets_set hr _ _).bind fun latch' _ => h.withRtc regs (some latch') _

theorem Valid.write (h : m.Valid) (address : ℕ) (data : UInt8) :
    Total (m.write address data) Valid := by
  have htwo := h.twoBanks
  have hone := h.oneRamBank
  rw [Mbc3.write]
  refine .ite (fun _ => ?_) fun _ => .ite (fun _ => .ite (fun _ => ?_) fun _ => ?_) fun _ =>
    .ite (fun _ => .ite (fun _ => ?_) fun _ => .ite (fun hd => .ite (fun _ => ?_) fun _ => h)
      fun _ => h) fun _ => .ite (fun _ => .ite (fun _ => h) fun _ => ?_) fun _ =>
    .ite (fun ha => .ite (fun _ => h) fun _ => ?_) fun _ => h
  · exact ⟨h.rom, h.romBank, h.twoBanks, h.ram, h.ramBank, h.oneRamBank, h.rtcSelect⟩
  · exact ⟨h.rom, htwo, h.twoBanks, h.ram, h.ramBank, h.oneRamBank, h.rtcSelect⟩
  · rw [checkedRem_of_pos _ (by omega)]
    exact ⟨h.rom, Nat.mod_lt _ (by omega), h.twoBanks, h.ram, h.ramBank, h.oneRamBank,
      h.rtcSelect⟩
  · rw [checkedRem_of_pos _ hone]
    exact ⟨h.rom, h.romBank, h.twoBanks, h.ram, fun b hb => by cases hb; exact Nat.mod_lt _ hone,
      h.oneRamBank, fun _ hr => nomatch hr⟩
  · have hd' := UInt8.le_iff_toNat_le.mp hd.2
    have h12 : (0x0C : UInt8).toNat = 12 := rfl
    exact ⟨h.rom, h.romBank, h.twoBanks, h.ram, fun _ hb => (nomatch hb), h.oneRamBank,
      fun r hr => by cases hr; omega⟩
  · refine meets_ok.mpr ?_
    split
    all_goals
      exact ⟨h.rom, h.romBank, h.twoBanks, h.ram, h.ramBank, h.oneRamBank, h.rtcSelect⟩
  · cases hr : m.rtcSelect with
    | some r => exact h.writeRtc (h.rtcSelect r hr) data
    | none =>
      cases hb : m.ramBank with
      | some b =>
        have hi : 0x2000 * b + (address - 0xA000) < m.ram.size := by
          rw [h.ram]
          exact bank_offset_lt (h.ramBank b hb) (by omega)
        refine (Buf.meets_set hi _ _).bind fun ram hsize => ?_
        simpa only [hr, hb, meets_pure] using h.withRam (hsize.trans h.ram)
      | none => exact h

/-! The clock only writes its registers. -/

theorem Valid.rtcIncDays (h : m.Valid) : Total m.rtcIncDays Valid := by
  rw [Mbc3.rtcIncDays]
  refine (Mem.meets_get (by decide) _).bind fun dh _ => ?_
  refine (Mem.meets_get (by decide) _).bind fun dl _ => ?_
  refine (Mem.meets_set (by decide) _ _).bind fun regs _ => ?_
  exact (Mem.meets_set (by decide) _ _).bind fun regs _ => h.withRtc regs m.rtcLatch _

theorem Valid.rtcIncBelowDays (h : m.Valid) {r : ℕ} (hr : r < 3) {carry : Mbc3 → Checked Mbc3}
    (hcarry : ∀ m, m.Valid → Total (carry m) Valid) : Total (m.rtcIncBelowDays r carry) Valid := by
  have hmask := rtcRegisterMask_total (show r < 5 by omega)
  have hroll : Total (rtcRollover r) fun _ => True := by
    interval_cases r <;> exact trivial
  rw [Mbc3.rtcIncBelowDays]
  refine (Mem.meets_get (by omega) _).bind fun reg _ => ?_
  refine hmask.bind fun mask _ => hroll.bind fun rollover _ => ?_
  refine .ite (fun _ => ?_) fun _ => .ite (fun _ => ?_) fun _ => ?_
  · exact (Mem.meets_set (by omega) _ _).bind fun regs _ => h.withRtc regs m.rtcLatch _
  · exact (Mem.meets_set (by omega) _ _).bind fun regs _ =>
      hcarry _ (h.withRtc regs m.rtcLatch _)
  · exact (Mem.meets_set (by omega) _ _).bind fun regs _ => h.withRtc regs m.rtcLatch _

theorem Valid.rtcInc (h : m.Valid) : Total (m.rtcInc rtcS) Valid :=
  h.rtcIncBelowDays (by decide) fun _ h => h.rtcIncBelowDays (by decide) fun _ h =>
    h.rtcIncBelowDays (by decide) fun _ h => h.rtcIncDays

theorem Valid.clock (h : m.Valid) : Total m.clock Valid := by
  rw [Mbc3.clock]
  refine .ite (fun _ => h) fun _ => ?_
  refine (Mem.meets_get (by decide) _).bind fun dh _ => ?_
  refine .ite (fun _ => h) fun _ => .ite (fun _ => ?_) fun _ => ?_
  · exact h.rtcInc.bind fun m h => h.withRtc m.rtcRegisters m.rtcLatch _
  · exact h.withRtc m.rtcRegisters m.rtcLatch _

/-- What loading without a save file leaves behind. -/
theorem load_eq_ok {cart : Cartridge} (hsave : cart.saveFile = none) (h : new.load cart = .ok m) :
    ∃ banks rom, ramBanks cart.header = .ok banks ∧
      rom.size = 0x4000 * 2 ^ (cart.header.romSize.toNat + 1) ∧
      m = { new with
        rom, ram := .fill banks.sizeBytes 0, numRamBanks := banks.numBanks
        numRomBanks := 2 ^ (cart.header.romSize.toNat + 1)
        hasRtc := cart.header.cartType == 0x0F || cart.header.cartType == 0x10 } := by
  obtain ⟨banks, hbanks, h⟩ := bind_eq_ok.mp h
  obtain ⟨rbanks, hrbanks, h⟩ := bind_eq_ok.mp h
  obtain ⟨-, -, h⟩ := bind_eq_ok.mp h
  obtain ⟨rom, hrom, h⟩ := bind_eq_ok.mp h
  simp only [hsave, restoreRam_none, ok_bind, pure_eq_ok] at h
  obtain ⟨hnum, hsize⟩ := romBanks_eq_ok hbanks
  exact ⟨rbanks, rom, hrbanks, by rw [Buf.size_of_slice hrom, hsize, hnum], by rw [← h, hnum]⟩

/-- Loading gives a valid mapper if the cartridge has RAM. -/
theorem valid_of_load {cart : Cartridge} (hsave : cart.saveFile = none)
    (hram : 2 ≤ cart.header.ramSize) (h : new.load cart = .ok m) : m.Valid := by
  obtain ⟨banks, rom, hbanks, hsize, rfl⟩ := load_eq_ok hsave h
  exact ⟨hsize, two_le_romBanks _, two_le_romBanks _, ramBanks_sizeBytes hbanks,
    fun _ hb => (nomatch hb), (ramBanks_pos_iff hbanks).mpr hram, fun _ hr => (nomatch hr)⟩

/-- Without RAM banks, selecting one is a remainder by zero. -/
theorem write_of_no_ramBanks (hzero : m.numRamBanks = 0) :
    m.write 0x4000 0 = .error (.remByZero .mbc3Write) := by
  simp [write, checkedRem, hzero]

theorem no_ramBanks_of_load {cart : Cartridge} (hsave : cart.saveFile = none)
    (hram : ¬ 2 ≤ cart.header.ramSize) (h : new.load cart = .ok m) : m.numRamBanks = 0 := by
  obtain ⟨banks, rom, hbanks, hsize, rfl⟩ := load_eq_ok hsave h
  exact Nat.eq_zero_of_not_pos ((ramBanks_pos_iff hbanks).not.mpr hram)

end Mbc3

/-! ### MBC5 -/

namespace Mbc5

structure Valid (m : Mbc5) : Prop where
  rom : m.rom.size = 0x4000 * m.numRomBanks
  romBank : m.romBank < m.numRomBanks
  twoBanks : 2 ≤ m.numRomBanks
  ram : m.ram.size = 0x2000 * m.numRamBanks
  ramBank : m.ramBank < m.numRamBanks

variable {m : Mbc5}

theorem Valid.ramIndex_lt (h : m.Valid) {address : ℕ} (ha : address ≤ 0xBFFF)
    (ha' : 0xA000 ≤ address) : 0x2000 * m.ramBank + (address - 0xA000) < m.ram.size := by
  rw [h.ram]
  exact bank_offset_lt h.ramBank (by omega)

theorem Valid.read (h : m.Valid) {address : ℕ}
    (ha : address ≤ 0x7FFF ∨ 0xA000 ≤ address ∧ address ≤ 0xBFFF) :
    Total (m.read address) fun _ => True := by
  rw [Mbc5.read]
  refine romWindows_total h.rom h.twoBanks h.romBank fun h1 => ?_
  rw [if_pos (by omega)]
  refine .ite (fun _ => trivial) fun _ => ?_
  exact (Buf.meets_get (h.ramIndex_lt (by omega) (by omega)) _).imp fun _ _ => trivial

theorem Valid.write (h : m.Valid) (address : ℕ) (data : UInt8) :
    Total (m.write address data) Valid := by
  have htwo := h.twoBanks
  have hone : 0 < m.numRamBanks := Nat.zero_lt_of_lt h.ramBank
  rw [Mbc5.write]
  refine .ite (fun _ => ?_) fun _ => .ite (fun _ => ?_) fun _ => .ite (fun _ => ?_) fun _ =>
    .ite (fun _ => ?_) fun _ => .ite (fun ha => .ite (fun _ => h) fun _ => ?_) fun _ => h
  · exact ⟨h.rom, h.romBank, h.twoBanks, h.ram, h.ramBank⟩
  · rw [checkedRem_of_pos _ (by omega)]
    exact ⟨h.rom, Nat.mod_lt _ (by omega), h.twoBanks, h.ram, h.ramBank⟩
  · rw [checkedRem_of_pos _ (by omega)]
    exact ⟨h.rom, Nat.mod_lt _ (by omega), h.twoBanks, h.ram, h.ramBank⟩
  · rw [checkedRem_of_pos _ hone]
    exact ⟨h.rom, h.romBank, h.twoBanks, h.ram, Nat.mod_lt _ hone⟩
  · refine (Buf.meets_set (h.ramIndex_lt ha.2 ha.1) _ _).bind fun ram hsize => ?_
    exact ⟨h.rom, h.romBank, h.twoBanks, hsize.trans h.ram, h.ramBank⟩

/-- What loading without a save file leaves behind. -/
theorem load_eq_ok {cart : Cartridge} (hsave : cart.saveFile = none) (h : new.load cart = .ok m) :
    ∃ banks rom, ramBanks cart.header = .ok banks ∧
      rom.size = 0x4000 * 2 ^ (cart.header.romSize.toNat + 1) ∧
      m = { new with
        rom, ram := .fill banks.sizeBytes 0, numRamBanks := banks.numBanks
        numRomBanks := 2 ^ (cart.header.romSize.toNat + 1) } := by
  obtain ⟨banks, hbanks, h⟩ := bind_eq_ok.mp h
  obtain ⟨rbanks, hrbanks, h⟩ := bind_eq_ok.mp h
  obtain ⟨-, -, h⟩ := bind_eq_ok.mp h
  obtain ⟨rom, hrom, h⟩ := bind_eq_ok.mp h
  simp only [hsave, restoreRam_none, ok_bind, pure_eq_ok] at h
  obtain ⟨hnum, hsize⟩ := romBanks_eq_ok hbanks
  exact ⟨rbanks, rom, hrbanks, by rw [Buf.size_of_slice hrom, hsize, hnum], by rw [← h, hnum]⟩

/-- Loading gives a valid mapper if the cartridge has RAM. -/
theorem valid_of_load {cart : Cartridge} (hsave : cart.saveFile = none)
    (hram : 2 ≤ cart.header.ramSize) (h : new.load cart = .ok m) : m.Valid := by
  obtain ⟨banks, rom, hbanks, hsize, rfl⟩ := load_eq_ok hsave h
  have htwo : 2 ≤ 2 ^ (cart.header.romSize.toNat + 1) := two_le_romBanks _
  exact ⟨hsize, htwo, htwo, ramBanks_sizeBytes hbanks, (ramBanks_pos_iff hbanks).mpr hram⟩

/-- Without RAM banks, selecting one is a remainder by zero. -/
theorem write_of_no_ramBanks (hzero : m.numRamBanks = 0) :
    m.write 0x4000 0 = .error (.remByZero .mbc5Write) := by
  simp [write, checkedRem, hzero]

theorem no_ramBanks_of_load {cart : Cartridge} (hsave : cart.saveFile = none)
    (hram : ¬ 2 ≤ cart.header.ramSize) (h : new.load cart = .ok m) : m.numRamBanks = 0 := by
  obtain ⟨banks, rom, hbanks, hsize, rfl⟩ := load_eq_ok hsave h
  exact Nat.eq_zero_of_not_pos ((ramBanks_pos_iff hbanks).not.mpr hram)

end Mbc5

/-! ### Every mapper -/

namespace MbcRomOnly

/-- There is nothing behind the external RAM window. -/
theorem read_ram_of_load {m : MbcRomOnly} {cart : Cartridge} (h : new.load cart = .ok m) :
    m.read 0xA000 = .error (.index .romOnlyRead) := by
  obtain ⟨rom, hrom, h⟩ := bind_eq_ok.mp h
  cases h
  exact Buf.get_of_le _ _ (by rw [Buf.size_of_slice hrom]; decide)

end MbcRomOnly

namespace Mbc

/-- The addresses the bus forwards to the mapper. -/
def OnBus (address : ℕ) : Prop := address ≤ 0x7FFF ∨ 0xA000 ≤ address ∧ address ≤ 0xBFFF

/-- What the bus asks of a mapper. -/
inductive Op
  | read (address : ℕ)
  | write (address : ℕ) (data : UInt8)
  | clock

def Op.OnBus : Op → Prop
  | .read address | .write address _ => Mbc.OnBus address
  | .clock => True

/-- Perform one operation; a read leaves the mapper as it is. -/
def step : Op → Mbc → Checked Mbc
  | .read address, m => do
    let _ ← m.read address
    return m
  | .write address data, m => m.write address data
  | .clock, m => m.clock

/-- No sequence of operations at the addresses of the bus panics. -/
def NeverPanics (m : Mbc) : Prop :=
  ∀ ops : List Op, (∀ op ∈ ops, op.OnBus) → ∃ m', Machine.exec step ops m = .ok m'

/-- The bank registers select existing banks. A mapper without external RAM has no such state. -/
def Valid : Mbc → Prop
  | .romOnly _ => False
  | .mbc1 m => m.Valid
  | .mbc2 m => m.Valid
  | .mbc3 m => m.Valid
  | .mbc5 m => m.Valid

/-- One operation on a valid mapper returns, and the mapper stays valid. -/
theorem meets_step (op : Op) (m : Mbc) (hop : op.OnBus) (h : m.Valid) :
    Total (step op m) Valid := by
  cases op with
  | read address =>
    cases m with
    | romOnly m => exact h.elim
    | mbc1 m => exact (Mbc1.Valid.read h hop).bind fun _ _ => h
    | mbc2 m => exact (Mbc2.Valid.read h hop).bind fun _ _ => h
    | mbc3 m => exact (Mbc3.Valid.read h hop).bind fun _ _ => h
    | mbc5 m => exact (Mbc5.Valid.read h hop).bind fun _ _ => h
  | write address data =>
    cases m with
    | romOnly m => exact h.elim
    | mbc1 m => exact meets_map.mpr (Mbc1.Valid.write h address data)
    | mbc2 m => exact meets_map.mpr (Mbc2.Valid.write h address data)
    | mbc3 m => exact meets_map.mpr (Mbc3.Valid.write h address data)
    | mbc5 m => exact meets_map.mpr (Mbc5.Valid.write h address data)
  | clock =>
    cases m with
    | romOnly m => exact h.elim
    | mbc1 m => exact h
    | mbc2 m => exact h
    | mbc3 m => exact meets_map.mpr (Mbc3.Valid.clock h)
    | mbc5 m => exact h

theorem Valid.neverPanics {m : Mbc} (h : m.Valid) : m.NeverPanics := fun ops hops =>
  let ⟨m', hm', _⟩ := (Machine.exec_meets meets_step ops m hops h).exists_ok
  ⟨m', hm'⟩

theorem not_neverPanics {m : Mbc} (ops : List Op) (hops : ∀ op ∈ ops, op.OnBus) {e : Panic}
    (h : Machine.exec step ops m = .error e) : ¬ m.NeverPanics := fun hall => by
  obtain ⟨m', hm'⟩ := hall ops hops
  rw [h] at hm'
  cases hm'

end Mbc

/-- The RAM the header asks for is RAM its mapper can address: MBC1 none, 8 or 32 KiB, MBC3 and
MBC5 at least one bank, MBC2 its own. A cartridge without a mapper never qualifies. -/
def CartridgeHeader.SupportsRam (hdr : CartridgeHeader) : Prop :=
  let t := hdr.cartType.toNat
  (0x1 ≤ t ∧ t ≤ 0x3 ∧ hdr.ramSize ≠ 4 ∧ hdr.ramSize ≠ 5) ∨ (0x5 ≤ t ∧ t ≤ 0x6) ∨
    ((0x0F ≤ t ∧ t ≤ 0x13 ∨ 0x19 ≤ t ∧ t ≤ 0x1E) ∧ 2 ≤ hdr.ramSize)

/-- A cartridge that loads without a save file into the mapper `m`. -/
structure Cartridge.LoadsAs (cart : Cartridge) (m : Mbc) : Prop where
  header : CartridgeHeader.new cart.data = .ok cart.header
  length : ∃ banks, romBanks cart.header = .ok banks ∧ cart.data.size = banks.sizeBytes
  noSave : cart.saveFile = none
  load : Mbc.ofCartridge cart = .ok m

namespace Mbc

/-! #### Each mapper -/

theorem not_neverPanics_mbc1 {m : Mbc1} (hsize : m.ram.size = 0x20000 ∨ m.ram.size = 0x10000) :
    ¬ (mbc1 m).NeverPanics := by
  have hfail := Mbc1.read_of_ram_large hsize
  refine not_neverPanics [.write 0 0x0A, .read 0xA000] ?_ (e := .unreachable .mbc1RamAddress) ?_
  · simp [Op.OnBus, OnBus]
  · rw [Machine.exec_cons, step, write]
    cases hw : m.write 0 0x0A with
    | error e => rw [hw] at hfail; cases hfail; rfl
    | ok m' =>
      rw [hw, ok_bind] at hfail
      show (step (.read 0xA000) (mbc1 m') >>= _) = _
      rw [step, read, hfail]
      rfl

theorem not_neverPanics_mbc3 {m : Mbc3} (hzero : m.numRamBanks = 0) :
    ¬ (mbc3 m).NeverPanics := by
  refine not_neverPanics [.write 0x4000 0] ?_ (e := .remByZero .mbc3Write) ?_
  · simp [Op.OnBus, OnBus]
  · rw [Machine.exec_cons, step, write, Mbc3.write_of_no_ramBanks hzero]
    rfl

theorem not_neverPanics_mbc5 {m : Mbc5} (hzero : m.numRamBanks = 0) :
    ¬ (mbc5 m).NeverPanics := by
  refine not_neverPanics [.write 0x4000 0] ?_ (e := .remByZero .mbc5Write) ?_
  · simp [Op.OnBus, OnBus]
  · rw [Machine.exec_cons, step, write, Mbc5.write_of_no_ramBanks hzero]
    rfl

section

variable {cart : Cartridge} (hsave : cart.saveFile = none)
include hsave

theorem neverPanics_mbc1 {m : Mbc1} (hload : Mbc1.new.load cart = .ok m) :
    (mbc1 m).NeverPanics ↔ cart.header.ramSize ≠ 4 ∧ cart.header.ramSize ≠ 5 := by
  refine ⟨fun hall => not_or.mp fun hram => ?_, fun hram => ?_⟩
  · exact not_neverPanics_mbc1 (Mbc1.ram_large_of_load hsave hram hload) hall
  · exact Valid.neverPanics (m := .mbc1 m) (Mbc1.valid_of_load hsave hram hload)

theorem neverPanics_mbc3 {m : Mbc3} (hload : Mbc3.new.load cart = .ok m) :
    (mbc3 m).NeverPanics ↔ 2 ≤ cart.header.ramSize := by
  refine ⟨fun hall => by_contra fun hram => ?_, fun hram => ?_⟩
  · exact not_neverPanics_mbc3 (Mbc3.no_ramBanks_of_load hsave hram hload) hall
  · exact Valid.neverPanics (m := .mbc3 m) (Mbc3.valid_of_load hsave hram hload)

theorem neverPanics_mbc5 {m : Mbc5} (hload : Mbc5.new.load cart = .ok m) :
    (mbc5 m).NeverPanics ↔ 2 ≤ cart.header.ramSize := by
  refine ⟨fun hall => by_contra fun hram => ?_, fun hram => ?_⟩
  · exact not_neverPanics_mbc5 (Mbc5.no_ramBanks_of_load hsave hram hload) hall
  · exact Valid.neverPanics (m := .mbc5 m) (Mbc5.valid_of_load hsave hram hload)

end

/-- **The header decides.** A loaded mapper never panics exactly when the RAM its header asks for
is RAM the mapper can address. -/
theorem neverPanics_iff_supportsRam {cart : Cartridge} {m : Mbc} (h : cart.LoadsAs m) :
    m.NeverPanics ↔ cart.header.SupportsRam := by
  have hload := h.load
  rw [Mbc.ofCartridge] at hload
  unfold CartridgeHeader.SupportsRam
  dsimp only at hload ⊢
  split at hload
  · obtain ⟨m, hm, rfl⟩ := map_eq_ok.mp hload
    rw [neverPanics_mbc1 h.noSave hm]
    refine ⟨fun hr => .inl ⟨by omega, by omega, hr⟩, ?_⟩
    rintro (hr | hr | hr)
    · exact hr.2.2
    all_goals omega
  split at hload
  · obtain ⟨m, hm, rfl⟩ := map_eq_ok.mp hload
    exact iff_of_true (Valid.neverPanics (m := .mbc2 m) (Mbc2.valid_of_load h.noSave hm)) (by omega)
  split at hload
  · obtain ⟨m, hm, rfl⟩ := map_eq_ok.mp hload
    rw [neverPanics_mbc3 h.noSave hm]
    refine ⟨fun hr => .inr (.inr ⟨by omega, hr⟩), ?_⟩
    rintro (hr | hr | hr)
    · omega
    · omega
    · exact hr.2
  split at hload
  · obtain ⟨m, hm, rfl⟩ := map_eq_ok.mp hload
    rw [neverPanics_mbc5 h.noSave hm]
    refine ⟨fun hr => .inr (.inr ⟨by omega, hr⟩), ?_⟩
    rintro (hr | hr | hr)
    · omega
    · omega
    · exact hr.2
  · obtain ⟨m, hm, rfl⟩ := map_eq_ok.mp hload
    refine iff_of_false (not_neverPanics [.read 0xA000] ?_ (e := .index .romOnlyRead) ?_) (by omega)
    · simp [Op.OnBus, OnBus]
    · rw [Machine.exec_cons, step, read, MbcRomOnly.read_ram_of_load hm]
      rfl

/-- An MBC1 cartridge without RAM: the criterion applies to it, and it never panics. -/
theorem neverPanics_blank_mbc1 :
    ∃ m, (Cartridge.blank 1 0 0xE6).LoadsAs m ∧ m.NeverPanics := by
  have hload : (Cartridge.blank 1 0 0xE6).LoadsAs _ := ⟨rfl, ⟨_, rfl, rfl⟩, rfl, rfl⟩
  exact ⟨_, hload, (neverPanics_iff_supportsRam hload).mpr (.inl (by decide))⟩

/-- A cartridge without a mapper loads, and reading its external RAM window panics. -/
theorem romOnly_panics :
    ∃ m, (Cartridge.blank 0 0 0xE7).LoadsAs m ∧ OnBus 0xA000 ∧
      Machine.exec step [.read 0xA000] m = .error (.index .romOnlyRead) ∧ ¬ m.NeverPanics := by
  have hload : (Cartridge.blank 0 0 0xE7).LoadsAs _ := ⟨rfl, ⟨_, rfl, rfl⟩, rfl, rfl⟩
  refine ⟨_, hload, .inr (by decide), rfl, not_neverPanics [.read 0xA000] ?_ rfl⟩
  simp [Op.OnBus, OnBus]

end Mbc

end ZenithGb
