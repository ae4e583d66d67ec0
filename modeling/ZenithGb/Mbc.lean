import ZenithGb.Mbc.RomOnly
import ZenithGb.Mbc.Mbc1
import ZenithGb.Mbc.Mbc2
import ZenithGb.Mbc.Mbc3
import ZenithGb.Mbc.Mbc5

/-!
# The mapper of a cartridge

The source keeps a `Box<dyn MBC>`; here a mapper is one of the five implementations, and the
trait's functions dispatch on it. `Mbc.ofCartridge` is `SOC::load`.
-/

namespace ZenithGb

inductive Mbc
  | romOnly (m : MbcRomOnly)
  | mbc1 (m : Mbc1)
  | mbc2 (m : Mbc2)
  | mbc3 (m : Mbc3)
  | mbc5 (m : Mbc5)

namespace Mbc

def read : Mbc → ℕ → Checked UInt8
  | .romOnly m, a => m.read a
  | .mbc1 m, a => m.read a
  | .mbc2 m, a => m.read a
  | .mbc3 m, a => m.read a
  | .mbc5 m, a => m.read a

def write : Mbc → ℕ → UInt8 → Checked Mbc
  | .romOnly m, a, d => .romOnly <$> m.write a d
  | .mbc1 m, a, d => .mbc1 <$> m.write a d
  | .mbc2 m, a, d => .mbc2 <$> m.write a d
  | .mbc3 m, a, d => .mbc3 <$> m.write a d
  | .mbc5 m, a, d => .mbc5 <$> m.write a d

def clock : Mbc → Checked Mbc
  | .romOnly m => .romOnly <$> m.clock
  | .mbc1 m => .mbc1 <$> m.clock
  | .mbc2 m => .mbc2 <$> m.clock
  | .mbc3 m => .mbc3 <$> m.clock
  | .mbc5 m => .mbc5 <$> m.clock

/-- `SOC::load`: the mapper the cartridge type asks for, loaded from the cartridge. -/
def ofCartridge (cartridge : Cartridge) : Checked Mbc :=
  let t := cartridge.header.cartType.toNat
  if 0x1 ≤ t ∧ t ≤ 0x3 then .mbc1 <$> Mbc1.new.load cartridge
  else if 0x5 ≤ t ∧ t ≤ 0x6 then .mbc2 <$> Mbc2.new.load cartridge
  else if 0x0F ≤ t ∧ t ≤ 0x13 then .mbc3 <$> Mbc3.new.load cartridge
  else if 0x19 ≤ t ∧ t ≤ 0x1E then .mbc5 <$> Mbc5.new.load cartridge
  else .romOnly <$> MbcRomOnly.new.load cartridge

end Mbc

end ZenithGb
