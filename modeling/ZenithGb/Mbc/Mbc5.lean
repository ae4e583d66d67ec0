import ZenithGb.Cartridge

/-!
# MBC5

`mbc5.rs`.
-/

namespace ZenithGb

structure Mbc5 where
  rom : Buf UInt8
  ram : Buf UInt8
  /-- 9-bit rom bank number -/
  romBank : ℕ
  /-- 4-bit ram bank number -/
  ramBank : ℕ
  ramEnabled : Bool
  numRomBanks : ℕ
  numRamBanks : ℕ

namespace Mbc5

def new : Mbc5 :=
  { rom := .empty, ram := .empty, romBank := 1, ramBank := 0, ramEnabled := false,
    numRomBanks := 1, numRamBanks := 1 }

def load (m : Mbc5) (cartridge : Cartridge) : Checked Mbc5 := do
  let hdr := cartridge.header
  let banks ← romBanks hdr
  let ramBanks ← ramBanks hdr
  assert .mbc5Load (banks.sizeBytes = cartridge.data.size)
  let rom ← cartridge.data.slice (.index .mbc5Load) banks.sizeBytes
  let ram := Buf.fill ramBanks.sizeBytes 0
  let ram ← restoreRam (hdr.cartType = 0x1B ∨ hdr.cartType = 0x1E) cartridge.saveFile ram
  return { m with rom, ram, numRomBanks := banks.numBanks, numRamBanks := ramBanks.numBanks }

def read (m : Mbc5) (address : ℕ) : Checked UInt8 :=
  if address ≤ 0x3FFF then m.rom.get (.index .mbc5Read) address
  else if address ≤ 0x7FFF then
    m.rom.get (.index .mbc5Read) (0x4000 * m.romBank + (address - 0x4000))
  else if 0xA000 ≤ address ∧ address ≤ 0xBFFF then
    if !m.ramEnabled then .ok 0xFF
    else m.ram.get (.index .mbc5Read) (0x2000 * m.ramBank + (address - 0xA000))
  else .error (.unreachable .mbc5Read)

def write (m : Mbc5) (address : ℕ) (data : UInt8) : Checked Mbc5 :=
  if address ≤ 0x1FFF then .ok { m with ramEnabled := data &&& 0xF == 0xA }
  else if address ≤ 0x2FFF then do
    let romBank ← checkedRem .mbc5Write ((m.romBank &&& 0x100) ||| data.toNat) m.numRomBanks
    return { m with romBank }
  else if address ≤ 0x3FFF then do
    let romBank ← checkedRem .mbc5Write
      ((m.romBank &&& 0xFF) ||| ((data &&& (1 : UInt8)).toNat <<< 8)) m.numRomBanks
    return { m with romBank }
  else if address ≤ 0x5FFF then do
    let ramBank ← checkedRem .mbc5Write (data.toNat &&& 0xF) m.numRamBanks
    return { m with ramBank }
  else if 0xA000 ≤ address ∧ address ≤ 0xBFFF then
    if !m.ramEnabled then .ok m
    else do
      let ram ← m.ram.set (.index .mbc5Write) (0x2000 * m.ramBank + (address - 0xA000)) data
      return { m with ram }
  else .ok m

def clock (m : Mbc5) : Checked Mbc5 := return m

end Mbc5

end ZenithGb
