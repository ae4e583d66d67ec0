import ZenithGb.Cartridge

/-!
# Cartridges without a mapper

`MbcRomOnly` of `mbc.rs`: 32 KiB of ROM and nothing else.
-/

namespace ZenithGb

structure MbcRomOnly where
  rom : Buf UInt8

namespace MbcRomOnly

def new : MbcRomOnly := ⟨.fill 0x8000 0⟩

def load (_m : MbcRomOnly) (cartridge : Cartridge) : Checked MbcRomOnly := do
  let rom ← cartridge.data.slice (.index .romOnlyLoad) 0x8000
  return ⟨rom⟩

def read (m : MbcRomOnly) (address : ℕ) : Checked UInt8 := m.rom.get (.index .romOnlyRead) address

def write (m : MbcRomOnly) (_address : ℕ) (_data : UInt8) : Checked MbcRomOnly := return m

def clock (m : MbcRomOnly) : Checked MbcRomOnly := return m

end MbcRomOnly

end ZenithGb
