import ZenithGb.Apu.Apu
import ZenithGb.Mbc
import ZenithGb.Ppu.Clock
import ZenithGb.Serial.Serial
import ZenithGb.Timer

/-!
# The system on chip: state and registers

`soc.rs` as far as its data goes, and the register addresses of `hw_reg.rs`. The channels to the
host, saving and the wall clock are not modelled; what the host sends in is an argument of
`processEvents`.
-/

namespace ZenithGb

/-- The hardware registers the bus decodes. Wave RAM counts as one of them. -/
inductive HwReg
  | p1 | sb | sc | div | tima | tma | tac | if
  | nr10 | nr11 | nr12 | nr13 | nr14 | nr21 | nr22 | nr23 | nr24
  | nr30 | nr31 | nr32 | nr33 | nr34 | nr41 | nr42 | nr43 | nr44 | nr50 | nr51 | nr52
  | waveRam
  | lcdc | stat | ly | scy | scx | lyc | dma | bgp | obp0 | obp1 | wy | wx
  | key1 | vbk | hdma1 | hdma2 | hdma3 | hdma4 | hdma5
  | bcps | bcpd | ocps | ocpd | opri | svbk
  | ff72 | ff73 | ff74 | ff75 | ff76 | ff77
  deriving DecidableEq, Repr

namespace HwReg

/-- The address of a register; of wave RAM, the first one. -/
def addr : HwReg → ℕ
  | p1 => 0xFF00 | sb => 0xFF01 | sc => 0xFF02 | div => 0xFF04 | tima => 0xFF05
  | tma => 0xFF06 | tac => 0xFF07 | .if => 0xFF0F
  | nr10 => 0xFF10 | nr11 => 0xFF11 | nr12 => 0xFF12 | nr13 => 0xFF13 | nr14 => 0xFF14
  | nr21 => 0xFF16 | nr22 => 0xFF17 | nr23 => 0xFF18 | nr24 => 0xFF19
  | nr30 => 0xFF1A | nr31 => 0xFF1B | nr32 => 0xFF1C | nr33 => 0xFF1D | nr34 => 0xFF1E
  | nr41 => 0xFF20 | nr42 => 0xFF21 | nr43 => 0xFF22 | nr44 => 0xFF23
  | nr50 => 0xFF24 | nr51 => 0xFF25 | nr52 => 0xFF26
  | waveRam => 0xFF30
  | lcdc => 0xFF40 | stat => 0xFF41 | ly => 0xFF44 | scy => 0xFF42 | scx => 0xFF43
  | lyc => 0xFF45 | dma => 0xFF46 | bgp => 0xFF47 | obp0 => 0xFF48 | obp1 => 0xFF49
  | wy => 0xFF4A | wx => 0xFF4B
  | key1 => 0xFF4D | vbk => 0xFF4F
  | hdma1 => 0xFF51 | hdma2 => 0xFF52 | hdma3 => 0xFF53 | hdma4 => 0xFF54 | hdma5 => 0xFF55
  | bcps => 0xFF68 | bcpd => 0xFF69 | ocps => 0xFF6A | ocpd => 0xFF6B | opri => 0xFF7C
  | svbk => 0xFF70
  | ff72 => 0xFF72 | ff73 => 0xFF73 | ff74 => 0xFF74 | ff75 => 0xFF75 | ff76 => 0xFF76
  | ff77 => 0xFF77

/-- How many addresses a register answers to. -/
def span : HwReg → ℕ
  | waveRam => 16
  | _ => 1

def all : List HwReg :=
  [p1, sb, sc, div, tima, tma, tac, .if, nr10, nr11, nr12, nr13, nr14, nr21, nr22, nr23, nr24,
    nr30, nr31, nr32, nr33, nr34, nr41, nr42, nr43, nr44, nr50, nr51, nr52, waveRam, lcdc, stat,
    ly, scy, scx, lyc, dma, bgp, obp0, obp1, wy, wx, key1, vbk, hdma1, hdma2, hdma3, hdma4, hdma5,
    bcps, bcpd, ocps, ocpd, opri, svbk, ff72, ff73, ff74, ff75, ff76, ff77]

/-- The register at an address, if there is one. -/
def ofAddr (address : ℕ) : Option HwReg :=
  all.find? fun r => r.addr ≤ address ∧ address < r.addr + r.span

end HwReg

/-- An OAM DMA in progress. -/
structure DmaTransfer where
  src : ℕ
  count : ℕ
  /-- 160 + 1 -/
  cycles : ℕ
  deriving DecidableEq, Repr

/-- A VRAM DMA in progress. -/
structure Hdma where
  src : ℕ
  dst : ℕ
  initial : ℕ
  count : ℕ
  hblankDma : Bool
  deriving DecidableEq, Repr

structure Soc where
  cycles : ℕ
  apu : Apu
  timer : Timer
  ppu : Ppu
  serial : Serial
  /-- C000-CFFF, and D000-DFFF with the CGB banks 1-7 (svbk) -/
  wram : Mem 0x12000 UInt8
  hram : Mem 0x7F UInt8
  svbk : UInt8
  p1SelectButtons : Bool
  p1SelectDpad : Bool
  rIf : UInt8
  ie : UInt8
  dma : UInt8
  mbc : Mbc
  dmaRequest : Option UInt8
  activeDma : Option DmaTransfer
  buttons : GbButton → Bool
  eventBits : UInt8
  runForCycles : Option ℕ
  ctx : GbCtx
  hdmaSrc : UInt16
  hdmaDst : UInt16
  hdma : Option Hdma
  hwrFf72 : UInt8
  hwrFf73 : UInt8
  hwrFf74 : UInt8
  hwrFf75 : UInt8
  cpuHalted : Bool
  cpuSpeed : Bool
  cpuSpeedArmed : Bool

namespace Soc

/-- `SOC::new`, which loads the cartridge into the mapper its type asks for. -/
def new (cartridge : Cartridge) (frameChan : FrameChan) (runForCycles : Option ℕ) (ctx : GbCtx) :
    Checked Soc := do
  let mbc ← Mbc.ofCartridge cartridge
  return {
    ctx, runForCycles, mbc, cycles := 0, wram := .fill 0x12000 0, hram := .fill 0x7F 0
    svbk := 0, activeDma := none, dmaRequest := none, buttons := fun _ => false, eventBits := 0
    p1SelectButtons := ctx.compMode ≠ .modeDmg, p1SelectDpad := ctx.compMode ≠ .modeDmg
    rIf := 0x1, ie := 0x0, dma := 0xFF
    apu := .new ctx, ppu := .new frameChan ctx, timer := .new, serial := .new
    hdmaDst := 0, hdmaSrc := 0, hdma := none
    hwrFf72 := 0, hwrFf73 := 0, hwrFf74 := 0xFF, hwrFf75 := 0
    cpuHalted := false, cpuSpeed := false, cpuSpeedArmed := false }

/-! ### Interrupts, halting and speed -/

def setInterrupt (s : Soc) (interrupt : UInt8) : Soc := { s with rIf := s.rIf ||| interrupt }

def clearInterrupt (s : Soc) (interrupt : UInt8) : Soc := { s with rIf := s.rIf &&& ~~~interrupt }

def activeInterrupts (s : Soc) : UInt8 := s.ie &&& s.rIf

def setCpuHalted (s : Soc) (halted : Bool) : Soc := { s with cpuHalted := halted }

def cgbSpeedSwitch (s : Soc) : Soc :=
  if !s.cpuSpeedArmed then s
  else { s with timer := s.timer.resetDiv, cpuSpeedArmed := false, cpuSpeed := !s.cpuSpeed }

/-! ### Host events -/

/-- A button event of the host. -/
structure InputEvent where
  down : Bool
  button : GbButton
  deriving DecidableEq, Repr

/-- Apply the pending button events; a button going down requests the joypad interrupt. -/
def inputUpdate (s : Soc) (inputs : List InputEvent) : Soc :=
  let (buttons, interrupt) := inputs.foldl (fun (acc : (GbButton → Bool) × Bool) input =>
    let wasDown := acc.1 input.button
    (Function.update acc.1 input.button input.down, acc.2 || (!wasDown && input.down)))
    (s.buttons, false)
  let s := { s with buttons }
  if interrupt then s.setInterrupt interruptBitJoypad else s

/-- `process_events`, with the button events that are pending; it says whether to stop. -/
def processEvents (s : Soc) (inputs : List InputEvent) : Bool × Soc :=
  if s.eventBits &&& socEventVSync = 0 then (false, { s with eventBits := 0 })
  else
    let exit := s.eventBits &&& socEventsVSyncAndExit != 0 ||
      s.runForCycles.any fun maxCycles => s.cycles > maxCycles
    (exit, { s.inputUpdate inputs with eventBits := 0 })

end Soc

end ZenithGb
