import ZenithGb.Cartridge

/-!
# MBC2

`mbc2.rs`.
-/

namespace ZenithGb

structure Mbc2 where
  rom : Buf UInt8
  ram : Buf UInt8
  /-- 4-bit rom bank number -/
  romBank : ℕ
  numRomBanks : ℕ
  ramEnabled : Bool

namespace Mbc2

def new : Mbc2 :=
  { rom := .empty, ram := .empty, romBank := 1, numRomBanks := 1, ramEnabled := false }

def load (m : Mbc2) (cartridge : Cartridge) : Checked Mbc2 := do
  let hdr := cartridge.header
  let banks ← romBanks hdr
  assert .mbc2Load (cartridge.data.size = banks.sizeBytes)
  let rom ← cartridge.data.slice (.index .mbc2Load) banks.sizeBytes
  let ram := Buf.fill 0x200 0
  let ram ← restoreRam (hdr.cartType = 6) cartridge.saveFile ram
  return { m with rom, ram, numRomBanks := banks.numBanks }

def read (m : Mbc2) (address : ℕ) : Checked UInt8 :=
  if address ≤ 0x3FFF then m.rom.get (.index .mbc2Read) address
  else if address ≤ 0x7FFF then
    m.rom.get (.index .mbc2Read) (0x4000 * m.romBank + (address - 0x4000))
  else if 0xA000 ≤ address ∧ address ≤ 0xBFFF then
    if !m.ramEnabled then .ok 0xFF
    else do
      let byte ← m.ram.get (.index .mbc2Read) (address &&& 0x1FF)
      return (byte &&& 0xF) ||| 0xF0
  else .error (.unreachable .mbc2Read)

def write (m : Mbc2) (address : ℕ) (data : UInt8) : Checked Mbc2 :=
  if address ≤ 0x3FFF then
    if address &&& (1 <<< 8) = 0 then .ok { m with ramEnabled := data &&& 0xF == 0xA }
    else
      let selectBank := (data &&& (0xF : UInt8)).toNat
      if selectBank = 0 then .ok { m with romBank := 1 }
      else do
        let romBank ← checkedRem .mbc2Write selectBank m.numRomBanks
        return { m with romBank }
  else if 0xA000 ≤ address ∧ address ≤ 0xBFFF then
    if !m.ramEnabled then .ok m
    else do
      -- Only lower 4 bits are written to RAM on MBC2
      let ram ← m.ram.set (.index .mbc2Write) (address &&& 0x1FF) (data &&& 0xF)
      return { m with ram }
  else .ok m

def clock (m : Mbc2) : Checked Mbc2 := return m

end Mbc2

end ZenithGb
