import ZenithGb.Cartridge

/-!
# MBC1

`mbc1.rs`.
-/

namespace ZenithGb

structure Mbc1 where
  rom : Buf UInt8
  ram : Buf UInt8
  romMask : UInt8
  /-- 5-bit rom bank number -/
  romBank : UInt8
  /-- 2-bit ram bank number -/
  ramBank : UInt8
  modeFlag : Bool
  ramEnabled : Bool

namespace Mbc1

def bytes8Kib : ℕ := 8 * 1024
def bytes32Kib : ℕ := 32 * 1024
def bytes1Mib : ℕ := 1024 * 1024
def bytes2Mib : ℕ := 2 * bytes1Mib

def new : Mbc1 :=
  { rom := .empty, ram := .empty, romMask := 0, romBank := 1, ramBank := 0, modeFlag := false,
    ramEnabled := false }

def ramAddress (m : Mbc1) (address : ℕ) : Checked ℕ :=
  let ramSize := m.ram.size
  if ramSize = bytes8Kib then .ok ((address - 0xA000) % ramSize)
  else if ramSize = bytes32Kib then
    if m.modeFlag then do
      let bank ← checkedMul 16 .mbc1RamAddress 0x2000 m.ramBank.toNat
      checkedAdd 16 .mbc1RamAddress bank (address - 0xA000)
    else .ok (address - 0xA000)
  else .error (.unreachable .mbc1RamAddress)

/-- The RAM the header asks for; a cartridge type without RAM must not ask for any. -/
def loadRam (m : Mbc1) (hdr : CartridgeHeader) : Checked (Buf UInt8) :=
  if hdr.cartType = 2 ∨ hdr.cartType = 3 then do
    let ramBanks ← ramBanks hdr
    return .fill ramBanks.sizeBytes 0
  else if hdr.ramSize ≠ 0 then .error (.unreachable .mbc1Load)
  else .ok m.ram

def load (m : Mbc1) (cartridge : Cartridge) : Checked Mbc1 := do
  let hdr := cartridge.header
  let banks ← romBanks hdr
  assert .mbc1Load (banks.sizeBytes = cartridge.data.size)
  let shift ← checkedSub .mbc1Load 7 hdr.romSize.toNat
  let romMask := UInt8.ofNat (0xFF >>> max shift 3)
  let rom ← cartridge.data.slice (.index .mbc1Load) banks.sizeBytes
  let ram ← m.loadRam hdr
  let ram ← restoreRam (hdr.cartType = 3) cartridge.saveFile ram
  return { m with rom, ram, romMask }

/-- The bank number of `rom_bank` for sizes up to 512 KiB, and with bits of `ram_bank` on top for
the two larger sizes. -/
def highBankNumber (m : Mbc1) : ℕ :=
  if m.rom.size = bytes1Mib then
    (m.romBank &&& m.romMask).toNat ||| ((m.ramBank.toNat &&& 0x1) <<< 5)
  else if m.rom.size = bytes2Mib then
    (m.romBank &&& m.romMask).toNat ||| ((m.ramBank.toNat &&& 0x3) <<< 5)
  else m.romBank.toNat

/-- The bank shown in the lower window when the mode flag is set. -/
def zeroBankNumber (m : Mbc1) : ℕ :=
  if m.rom.size = bytes1Mib then (m.ramBank.toNat &&& 0x1) <<< 5
  else if m.rom.size = bytes2Mib then (m.ramBank.toNat &&& 0x3) <<< 5
  else 0

def read (m : Mbc1) (address : ℕ) : Checked UInt8 :=
  if address ≤ 0x3FFF then
    if m.modeFlag then m.rom.get (.index .mbc1Read) (0x4000 * m.zeroBankNumber + address)
    else m.rom.get (.index .mbc1Read) address
  else if address ≤ 0x7FFF then
    m.rom.get (.index .mbc1Read) (0x4000 * m.highBankNumber + (address - 0x4000))
  else if 0xA000 ≤ address ∧ address ≤ 0xBFFF then
    if !m.ramEnabled then .ok 0xFF
    else do
      let ramAddr ← m.ramAddress address
      m.ram.get (.index .mbc1Read) ramAddr
  else .error (.unreachable .mbc1Read)

def write (m : Mbc1) (address : ℕ) (data : UInt8) : Checked Mbc1 :=
  if address ≤ 0x1FFF then
    if m.ram.size = 0 then .ok m else .ok { m with ramEnabled := data &&& 0xF == 0xA }
  else if address ≤ 0x3FFF then
    let bankNum := data &&& 0x1F
    .ok { m with romBank := if bankNum = 0 then 1 else bankNum &&& m.romMask }
  else if address ≤ 0x5FFF then .ok { m with ramBank := data &&& 0x3 }
  else if address ≤ 0x7FFF then .ok { m with modeFlag := data &&& 0x1 != 0 }
  else if 0xA000 ≤ address ∧ address ≤ 0xBFFF then
    if !m.ramEnabled then .ok m
    else do
      let ramAddr ← m.ramAddress address
      let ram ← m.ram.set (.index .mbc1Write) ramAddr data
      return { m with ram }
  else .ok m

def clock (m : Mbc1) : Checked Mbc1 := return m

end Mbc1

end ZenithGb
