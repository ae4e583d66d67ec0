import ZenithGb.Cpu.Step

/-!
# The emulator

`gameboy.rs`: building the machine for a cartridge, booting it, and one round of its main loop.
-/

namespace ZenithGb

namespace Gameboy

/-- What the host configures. -/
structure Config where
  frameChan : FrameChan
  maxCycles : Option ℕ
  compMode : Option CompatibilityMode

/-- The compatibility mode: the configured one, or the one the cartridge asks for. -/
def compMode (cartridge : Cartridge) (config : Config) : CompatibilityMode :=
  config.compMode.getD (if cartridge.header.isCgb then .modeCgb else .modeCgbDmg)

/-- `Gameboy::new`. -/
def new (cartridge : Cartridge) (config : Config) : Checked Machine := do
  let ctx := GbCtx.ofMode (compMode cartridge config)
  let soc ← Soc.new cartridge config.frameChan config.maxCycles ctx
  return { cpu := .new, soc }

/-- `Gameboy::new` followed by `boot`. -/
def boot (cartridge : Cartridge) (config : Config) : Checked Machine := do
  let m ← new cartridge config
  let cpu ← m.cpu.init cartridge (compMode cartridge config)
  return { m with cpu }

/-- One round of the loop in `run`: a CPU step, then the host events. -/
def round (inputs : List Soc.InputEvent) (m : Machine) : Checked Machine := do
  let (_, m) ← Exec.step m
  return { m with soc := (m.soc.processEvents inputs).2 }

end Gameboy

end ZenithGb
