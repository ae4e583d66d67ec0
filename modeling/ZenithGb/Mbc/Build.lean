import ZenithGb.Mbc

/-!
# Loading a cartridge in either build

The model is the build with overflow checks and debug assertions. The README also builds for
release, where arithmetic wraps, shift amounts are taken modulo the width, and a `debug_assert!` is
not there. What a mapper does once it is loaded has no arithmetic that could overflow, so the two
builds differ in loading alone; here loading is written for both. Allocation is taken to succeed.

## Main results

* `Mbc.ofCartridgeIn_debug` — loading in a debug build is loading
-/

namespace ZenithGb

open Outcome

/-- How the emulator was compiled. -/
inductive Build
  | debug | release
  deriving DecidableEq, Repr

namespace Build

variable (b : Build)

/-- `x + y` in an unsigned type of `w` bits. -/
def add (w : ℕ) (site : Site) (x y : ℕ) : Checked ℕ :=
  match b with
  | debug => checkedAdd w site x y
  | release => .ok ((x + y) % 2 ^ w)

/-- `x - y` in an unsigned type of `w` bits. -/
def sub (w : ℕ) (site : Site) (x y : ℕ) : Checked ℕ :=
  match b with
  | debug => checkedSub site x y
  | release => .ok ((x + 2 ^ w - y) % 2 ^ w)

/-- `x * y` in an unsigned type of `w` bits. -/
def mul (w : ℕ) (site : Site) (x y : ℕ) : Checked ℕ :=
  match b with
  | debug => checkedMul w site x y
  | release => .ok (x * y % 2 ^ w)

/-- `1 << n` in a 64-bit type. -/
def shl64 (site : Site) (n : ℕ) : Checked ℕ :=
  match b with
  | debug => checkedShl64 site n
  | release => .ok (2 ^ (n % 64))

/-- `x >> n` in an unsigned type of `w` bits. -/
def shr (w : ℕ) (site : Site) (x n : ℕ) : Checked ℕ :=
  match b with
  | debug => checkedShr w site x n
  | release => .ok (x >>> (n % w))

/-- `debug_assert!`. -/
def debugAssert (site : Site) (c : Prop) [Decidable c] : Checked Unit :=
  match b with
  | debug => assert site c
  | release => .ok ()

end Build

/-! ### Bank counts and the save file -/

/-- `rom_banks`. -/
def romBanksIn (b : Build) (hdr : CartridgeHeader) : Checked Banks := do
  let numBanks ← b.shl64 .romBanks (← b.add 8 .romBanks hdr.romSize.toNat 1)
  let sizeBytes ← b.mul 64 .romBanks (32 * bytes1Kib) (← b.shl64 .romBanks hdr.romSize.toNat)
  return { numBanks, sizeBytes }

/-- `read_save`. -/
def readSaveIn (b : Build) (saveFile : Option (Buf UInt8)) (mbcRam : Buf UInt8) :
    Checked (Buf UInt8) :=
  match saveFile with
  | some data => do
    b.debugAssert .readSave (data.size = mbcRam.size)
    return data
  | none => return mbcRam

def restoreRamIn (b : Build) (battery : Bool) (saveFile : Option (Buf UInt8))
    (mbcRam : Buf UInt8) : Checked (Buf UInt8) :=
  if battery then readSaveIn b saveFile mbcRam else .ok mbcRam

theorem romBanksIn_debug (hdr : CartridgeHeader) : romBanksIn .debug hdr = romBanks hdr := rfl

/-! ### The mappers -/

namespace Mbc1

def loadIn (b : Build) (m : Mbc1) (cartridge : Cartridge) : Checked Mbc1 := do
  let hdr := cartridge.header
  let banks ← romBanksIn b hdr
  b.debugAssert .mbc1Load (banks.sizeBytes = cartridge.data.size)
  let shift ← b.sub 8 .mbc1Load 7 hdr.romSize.toNat
  let romMask ← b.shr 8 .mbc1Load 0xFF (max shift 3)
  let rom ← cartridge.data.slice (.index .mbc1Load) banks.sizeBytes
  let ram ← m.loadRam hdr
  let ram ← restoreRamIn b (hdr.cartType = 3) cartridge.saveFile ram
  return { m with rom, ram, romMask := UInt8.ofNat romMask }

theorem loadIn_debug (m : Mbc1) (cartridge : Cartridge) :
    m.loadIn .debug cartridge = m.load cartridge := by
  refine congrArg (romBanks cartridge.header >>= ·) (funext fun banks => ?_)
  refine congrArg (_ >>= ·) (funext fun _ => ?_)
  show (checkedSub .mbc1Load 7 cartridge.header.romSize.toNat >>= _) = _
  cases hshift : checkedSub .mbc1Load 7 cartridge.header.romSize.toNat with
  | error e => rfl
  | ok shift =>
    obtain ⟨-, rfl⟩ := checkedSub_eq_ok.mp hshift
    rw [ok_bind, ok_bind]
    show (checkedShr 8 .mbc1Load 0xFF _ >>= _) = _
    rw [checkedShr_of_lt _ (by omega), ok_bind]
    rfl

end Mbc1

namespace Mbc2

/-- The ROM is as long as the header says; the file must not be longer. -/
def loadRom (cartridge : Cartridge) (sizeBytes : ℕ) : Checked (Buf UInt8) :=
  if cartridge.data.size ≤ sizeBytes then
    .ok ⟨sizeBytes, fun i =>
      if h : i < cartridge.data.size then cartridge.data.cell ⟨i, h⟩ else 0⟩
  else .error (.index .mbc2Load)

def loadIn (b : Build) (m : Mbc2) (cartridge : Cartridge) : Checked Mbc2 := do
  let hdr := cartridge.header
  let banks ← romBanksIn b hdr
  b.debugAssert .mbc2Load (cartridge.data.size = banks.sizeBytes)
  let rom ← loadRom cartridge banks.sizeBytes
  let ram := Buf.fill 0x200 0
  let ram ← restoreRamIn b (hdr.cartType = 6) cartridge.saveFile ram
  return { m with rom, ram, numRomBanks := banks.numBanks }

/-- A ROM file of the header's length is taken as it is. -/
theorem loadRom_eq_slice (cartridge : Cartridge) :
    loadRom cartridge cartridge.data.size =
      cartridge.data.slice (.index .mbc2Load) cartridge.data.size := by
  rw [loadRom, Buf.slice, if_pos (Nat.le_refl _), dif_pos (Nat.le_refl _)]
  congr 2
  funext i
  exact dif_pos i.isLt

theorem loadIn_debug (m : Mbc2) (cartridge : Cartridge) :
    m.loadIn .debug cartridge = m.load cartridge := by
  refine congrArg (romBanks cartridge.header >>= ·) (funext fun banks => ?_)
  show (assert .mbc2Load _ >>= _) = (assert .mbc2Load _ >>= _)
  by_cases hsize : cartridge.data.size = banks.sizeBytes
  · rw [assert_of _ hsize, ok_bind, ok_bind, ← hsize, loadRom_eq_slice]
    rfl
  · rw [assert, if_neg hsize]
    rfl

end Mbc2

namespace Mbc3

def loadIn (b : Build) (m : Mbc3) (cartridge : Cartridge) : Checked Mbc3 := do
  let hdr := cartridge.header
  let banks ← romBanksIn b hdr
  let ramBanks ← ramBanks hdr
  b.debugAssert .mbc3Load (banks.sizeBytes = cartridge.data.size)
  let rom ← cartridge.data.slice (.index .mbc3Load) banks.sizeBytes
  let ram := Buf.fill ramBanks.sizeBytes 0
  let hasRtc := hdr.cartType == 0x0F || hdr.cartType == 0x10
  let ram ← restoreRamIn b (hdr.cartType = 0x10 ∨ hdr.cartType = 0x13) cartridge.saveFile ram
  return { m with
    rom, ram, hasRtc, numRomBanks := banks.numBanks, numRamBanks := ramBanks.numBanks }

theorem loadIn_debug (m : Mbc3) (cartridge : Cartridge) :
    m.loadIn .debug cartridge = m.load cartridge := rfl

end Mbc3

namespace Mbc5

def loadIn (b : Build) (m : Mbc5) (cartridge : Cartridge) : Checked Mbc5 := do
  let hdr := cartridge.header
  let banks ← romBanksIn b hdr
  let ramBanks ← ramBanks hdr
  b.debugAssert .mbc5Load (banks.sizeBytes = cartridge.data.size)
  let rom ← cartridge.data.slice (.index .mbc5Load) banks.sizeBytes
  let ram := Buf.fill ramBanks.sizeBytes 0
  let ram ← restoreRamIn b (hdr.cartType = 0x1B ∨ hdr.cartType = 0x1E) cartridge.saveFile ram
  return { m with rom, ram, numRomBanks := banks.numBanks, numRamBanks := ramBanks.numBanks }

theorem loadIn_debug (m : Mbc5) (cartridge : Cartridge) :
    m.loadIn .debug cartridge = m.load cartridge := rfl

end Mbc5

/-- `SOC::load`. -/
def Mbc.ofCartridgeIn (b : Build) (cartridge : Cartridge) : Checked Mbc :=
  let t := cartridge.header.cartType.toNat
  if 0x1 ≤ t ∧ t ≤ 0x3 then .mbc1 <$> Mbc1.new.loadIn b cartridge
  else if 0x5 ≤ t ∧ t ≤ 0x6 then .mbc2 <$> Mbc2.new.loadIn b cartridge
  else if 0x0F ≤ t ∧ t ≤ 0x13 then .mbc3 <$> Mbc3.new.loadIn b cartridge
  else if 0x19 ≤ t ∧ t ≤ 0x1E then .mbc5 <$> Mbc5.new.loadIn b cartridge
  else .romOnly <$> MbcRomOnly.new.load cartridge

/-- **Loading in a debug build is loading.** -/
theorem Mbc.ofCartridgeIn_debug (cartridge : Cartridge) :
    Mbc.ofCartridgeIn .debug cartridge = Mbc.ofCartridge cartridge := by
  rw [ofCartridgeIn, ofCartridge, Mbc1.loadIn_debug, Mbc2.loadIn_debug, Mbc3.loadIn_debug,
    Mbc5.loadIn_debug]

end ZenithGb
