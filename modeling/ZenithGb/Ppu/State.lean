import Mathlib.Data.Nat.Notation
import ZenithGb.Lib.Store
import ZenithGb.Panic
import ZenithGb.Util

/-!
# The pixel unit: state and registers

`ppu.rs` without its drawing and without its mode machine. The four fields the drawing functions
write are a structure of their own, `Screen`, so that a drawing function cannot touch the rest.
The frame channel to the host is kept only as what `vsync` finds out about it.
-/

namespace ZenithGb

inductive PpuMode
  | hBlank | vBlank | oamScan | draw
  deriving DecidableEq, Repr

/-- `mode as u8`. -/
def PpuMode.toByte : PpuMode → UInt8
  | .hBlank => 0
  | .vBlank => 1
  | .oamScan => 2
  | .draw => 3

structure Sprite where
  y : UInt8
  /-- x can be 0 and object is not drawn -/
  x : UInt8
  tile : UInt8
  attr : UInt8
  deriving DecidableEq, Repr

abbrev FrameBuffer := Mem 144 (Mem 160 UInt16)

/-- The host's end of the frame channel. -/
inductive FrameChan
  | none | connected | disconnected
  deriving DecidableEq, Repr

/-- What the drawing functions write. -/
structure Screen where
  windowLineCounter : ℕ
  fetcherX : ℕ
  bgScanlineMask : Mem 160 UInt8
  rt : FrameBuffer

structure Ppu where
  cyclesMode : ℕ
  cyclesFrame : ℕ
  ctx : GbCtx
  drawLength : ℕ
  statInterrupt : Bool
  vram : Mem 0x4000 UInt8
  oam : Mem 0xA0 UInt8
  spriteBuffer : List Sprite
  /-- WY = LY has been true at some point during current frame (checked at the start of Mode 2) -/
  drawWindow : Bool
  screen : Screen
  frameChan : FrameChan
  lcdcEnable : Bool
  lcdcWndTilemap : Bool
  lcdcWndEnable : Bool
  lcdcBgWndTiles : Bool
  lcdcBgTilemap : Bool
  lcdcObjSize : Bool
  lcdcObjEnable : Bool
  lcdcBit0 : Bool
  statLycSelect : Bool
  statMode2Select : Bool
  statMode1Select : Bool
  statMode0Select : Bool
  statLycEqLy : Bool
  statMode : PpuMode
  ly : ℕ
  lyc : UInt8
  scy : UInt8
  scx : UInt8
  wx : UInt8
  wy : UInt8
  bgp : UInt8
  obp0 : UInt8
  obp1 : UInt8
  cgbBgPalettes : Mem 0x40 UInt8
  cgbObPalettes : Mem 0x40 UInt8
  vbk : Bool
  opri : Bool
  bcps : UInt8
  ocps : UInt8
  /-- Used for HDMA HBlank transfer -/
  hblankCycle : Bool
  checkInterrupt : Bool

namespace Ppu

def cyclesPerOamScan : ℕ := 20
def cyclesPerDraw : ℕ := 43
def cyclesPerVblankLine : ℕ := 114

def new (frameChan : FrameChan) (ctx : GbCtx) : Ppu :=
  { ctx, frameChan, drawWindow := false
    screen :=
      { bgScanlineMask := .fill 160 0, windowLineCounter := 0, fetcherX := 0
        rt := .fill 144 (.fill 160 0) }
    cyclesMode := cyclesPerOamScan, cyclesFrame := 0, drawLength := 0, statInterrupt := false
    vbk := false, vram := .fill 0x4000 0, oam := .fill 0xA0 0, spriteBuffer := []
    lcdcEnable := true, lcdcWndTilemap := false, lcdcWndEnable := false, lcdcBgWndTiles := true
    lcdcBgTilemap := false, lcdcObjSize := false, lcdcObjEnable := false, lcdcBit0 := true
    statLycSelect := false, statMode2Select := false, statMode1Select := false
    statMode0Select := false, statLycEqLy := true, statMode := .oamScan
    ly := 0, lyc := 0, scy := 0, scx := 0, wx := 0, wy := 0, bgp := 0xFC, obp0 := 0xFF
    obp1 := 0xFF, opri := !ctx.cgb, cgbBgPalettes := .fill 0x40 0xFF
    cgbObPalettes := .fill 0x40 0xFF, bcps := 0x88, ocps := 0x90, hblankCycle := false
    checkInterrupt := false }

def getHblankCycle (p : Ppu) : Bool := p.hblankCycle

def reset (p : Ppu) : Ppu :=
  { p with
    ly := 0, spriteBuffer := [], cyclesFrame := 0, cyclesMode := cyclesPerOamScan
    drawLength := 0
    -- Reset mode bits to 0 to signal that its safe to write to vram/oam
    statMode := .hBlank }

/-- `vsync`: whether the host has gone away. -/
def vsync (p : Ppu) : Bool := p.frameChan = .disconnected

def updateLycEqLy (p : Ppu) : Ppu := { p with statLycEqLy := UInt8.ofNat p.ly == p.lyc }

/-! ### VRAM and OAM -/

/-- The index of a VRAM address in a bank; it is in range whatever the address. -/
def vramAddr (bank1 : Bool) (addr : ℕ) : Fin 0x4000 :=
  ⟨(addr &&& 0x1FFF) + (if bank1 then 0x2000 else 0), by
    have h : addr &&& 0x1FFF ≤ 0x1FFF := Nat.and_le_right
    split <;> omega⟩

def readVramBanked (p : Ppu) (bank1 : Bool) (addr : ℕ) : UInt8 := p.vram.cell (vramAddr bank1 addr)

def readOam (p : Ppu) (addr : ℕ) : Checked UInt8 :=
  match p.statMode with
  | .oamScan | .draw => .ok 0xFF
  | _ => p.oam.get (.index .ppuBus) (addr &&& 0xFF)

def oamDma (p : Ppu) (addr : ℕ) (data : UInt8) : Checked Ppu := do
  let oam ← p.oam.set (.index .ppuBus) (addr &&& 0xFF) data
  return { p with oam }

def writeOam (p : Ppu) (addr : ℕ) (data : UInt8) : Checked Ppu :=
  match p.statMode with
  | .oamScan | .draw => .ok p
  | _ => p.oamDma addr data

def readVram (p : Ppu) (addr : ℕ) : UInt8 :=
  match p.statMode with
  | .draw => 0xFF
  | _ => p.readVramBanked p.vbk (addr &&& 0x1FFF)

def writeVram (p : Ppu) (addr : ℕ) (data : UInt8) : Ppu :=
  match p.statMode with
  | .draw => p
  | _ => { p with vram := p.vram.put (vramAddr p.vbk addr) data }

/-! ### Registers -/

/-- Eight Booleans as a byte, most significant first. -/
def byteOfBits (b7 b6 b5 b4 b3 b2 b1 b0 : Bool) : UInt8 :=
  ((bit b7) <<< (7 : UInt8)) ||| ((bit b6) <<< (6 : UInt8)) ||| ((bit b5) <<< (5 : UInt8)) |||
    ((bit b4) <<< (4 : UInt8)) ||| ((bit b3) <<< (3 : UInt8)) ||| ((bit b2) <<< (2 : UInt8)) |||
    ((bit b1) <<< (1 : UInt8)) ||| bit b0

def readLcdc (p : Ppu) : UInt8 :=
  byteOfBits p.lcdcEnable p.lcdcWndTilemap p.lcdcWndEnable p.lcdcBgWndTiles p.lcdcBgTilemap
    p.lcdcObjSize p.lcdcObjEnable p.lcdcBit0

/-- What switching the LCD on or off does besides setting the enable bit. -/
def lcdSwitch (p : Ppu) (enableNext : Bool) : Ppu :=
  if p.lcdcEnable && !enableNext then { p.reset with checkInterrupt := true }
  else if !p.lcdcEnable && enableNext then { p.updateLycEqLy with checkInterrupt := true }
  else p

def writeLcdc (p : Ppu) (data : UInt8) : Ppu :=
  let enableNext := data &&& 0x80 != 0
  { p.lcdSwitch enableNext with
    lcdcEnable := enableNext
    lcdcWndTilemap := data &&& 0x40 != 0
    lcdcWndEnable := data &&& 0x20 != 0
    lcdcBgWndTiles := data &&& 0x10 != 0
    lcdcBgTilemap := data &&& 0x8 != 0
    lcdcObjSize := data &&& 0x4 != 0
    lcdcObjEnable := data &&& 0x2 != 0
    lcdcBit0 := data &&& 0x1 != 0 }

def readStat (p : Ppu) : UInt8 :=
  byteOfBits false p.statLycSelect p.statMode2Select p.statMode1Select p.statMode0Select
    p.statLycEqLy false false ||| p.statMode.toByte ||| 0x80

def writeStat (p : Ppu) (data : UInt8) : Ppu :=
  { p with
    statLycSelect := data &&& 0x40 != 0
    statMode2Select := data &&& 0x20 != 0
    statMode1Select := data &&& 0x10 != 0
    statMode0Select := data &&& 0x8 != 0
    checkInterrupt := true }

def readLy (p : Ppu) : UInt8 := UInt8.ofNat p.ly

def writeLy (p : Ppu) (_data : UInt8) : Ppu := p

def readLyc (p : Ppu) : UInt8 := p.lyc

def writeLyc (p : Ppu) (data : UInt8) : Ppu :=
  let p := { p with lyc := data }
  if p.lcdcEnable then { p.updateLycEqLy with checkInterrupt := true } else p

def readVbk (p : Ppu) : UInt8 :=
  if p.ctx.compMode ≠ .modeDmg then bit p.vbk ||| (0xFE : UInt8) else 0xFF

def writeVbk (p : Ppu) (data : UInt8) : Ppu :=
  if p.ctx.cgb then { p with vbk := data &&& 0x1 != 0 } else p

/-- The cell of palette memory an index register selects; it is in range whatever its value. -/
def paletteAddr (index : UInt8) : Fin 0x40 :=
  ⟨index.toNat &&& 0x3F, Nat.lt_succ_of_le Nat.and_le_right⟩

/-- The index register after a write to the palette memory: bit 7 asks for auto-increment. -/
def nextPaletteIndex (index : UInt8) : UInt8 :=
  if index &&& 0x80 != 0 then (index &&& (0x80 : UInt8)) ||| ((index &&& 0x3F) + 1) &&& 0x3F
  else index

def readBcps (p : Ppu) : UInt8 :=
  if p.ctx.compMode = .modeDmg then 0xFF else p.bcps ||| 0x40

def writeBcps (p : Ppu) (data : UInt8) : Ppu :=
  if !p.ctx.cgb then p else { p with bcps := data &&& 0xBF }

def readBcpd (p : Ppu) : UInt8 :=
  if !p.ctx.cgb then 0xFF
  else if p.statMode = .draw then 0xFF
  else p.cgbBgPalettes.cell (paletteAddr p.bcps)

def writeBcpd (p : Ppu) (data : UInt8) : Ppu :=
  if !p.ctx.cgb then p
  else if p.statMode = .draw then p
  else { p with
    cgbBgPalettes := p.cgbBgPalettes.put (paletteAddr p.bcps) data
    bcps := nextPaletteIndex p.bcps }

def readOcps (p : Ppu) : UInt8 :=
  if p.ctx.compMode = .modeDmg then 0xFF else p.ocps ||| 0x40

def writeOcps (p : Ppu) (data : UInt8) : Ppu :=
  if !p.ctx.cgb then p else { p with ocps := data &&& 0xBF }

/-- Unlike `readBcpd` this asks for the compatibility mode, not for CGB features. -/
def readOcpd (p : Ppu) : UInt8 :=
  if p.ctx.compMode = .modeDmg then 0xFF
  else if p.statMode = .draw then 0xFF
  else p.cgbObPalettes.cell (paletteAddr p.ocps)

def writeOcpd (p : Ppu) (data : UInt8) : Ppu :=
  if !p.ctx.cgb then p
  else if p.statMode = .draw then p
  else { p with
    cgbObPalettes := p.cgbObPalettes.put (paletteAddr p.ocps) data
    ocps := nextPaletteIndex p.ocps }

def readOpri (p : Ppu) : UInt8 := if !p.ctx.cgb then 0xFF else bit p.opri ||| (0xFE : UInt8)

def writeOpri (p : Ppu) (data : UInt8) : Ppu :=
  if !p.ctx.cgb then p else { p with opri := data &&& 0x1 != 0 }

def readScy (p : Ppu) : UInt8 := p.scy
def writeScy (p : Ppu) (data : UInt8) : Ppu := { p with scy := data }
def readScx (p : Ppu) : UInt8 := p.scx
def writeScx (p : Ppu) (data : UInt8) : Ppu := { p with scx := data }
def readWy (p : Ppu) : UInt8 := p.wy
def writeWy (p : Ppu) (data : UInt8) : Ppu := { p with wy := data }
def readWx (p : Ppu) : UInt8 := p.wx
def writeWx (p : Ppu) (data : UInt8) : Ppu := { p with wx := data }
def readBgp (p : Ppu) : UInt8 := p.bgp
def writeBgp (p : Ppu) (data : UInt8) : Ppu := { p with bgp := data }
def readObp0 (p : Ppu) : UInt8 := p.obp0
def writeObp0 (p : Ppu) (data : UInt8) : Ppu := { p with obp0 := data }
def readObp1 (p : Ppu) : UInt8 := p.obp1
def writeObp1 (p : Ppu) (data : UInt8) : Ppu := { p with obp1 := data }

end Ppu

end ZenithGb
