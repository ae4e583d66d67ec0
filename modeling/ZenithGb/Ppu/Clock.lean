import ZenithGb.Ppu.Draw

/-!
# The pixel unit: the mode machine

`PPU::clock`, `update_mode` and the STAT interrupt.
-/

namespace ZenithGb

namespace Ppu

/-- Whether any selected STAT source is active. -/
def statLine (p : Ppu) : Bool :=
  p.statLycSelect && p.statLycEqLy || p.statMode2Select && p.statMode == .oamScan ||
    p.statMode1Select && p.statMode == .vBlank || p.statMode0Select && p.statMode == .hBlank

/-- Request the LCD interrupt on a low to high transition of the STAT line. -/
def handleStatInterrupt (p : Ppu) (ctx : ClockContext) : Ppu × ClockContext :=
  ({ p with statInterrupt := p.statLine, checkInterrupt := false },
    if !p.statInterrupt && p.statLine then ctx.setInterrupt interruptBitLcd else ctx)

/-- The STAT interrupt in a clock that does not change the mode. -/
def checkStatInterrupt (p : Ppu) (ctx : ClockContext) : Ppu × ClockContext :=
  if p.checkInterrupt then p.handleStatInterrupt ctx else (p, ctx)

/-- End of the object scan: draw the line. -/
def leaveOamScan (p : Ppu) : Checked Ppu := do
  let p := if p.wy == UInt8.ofNat p.ly then { p with drawWindow := true } else p
  let (len, p) ← p.modeDraw
  return { p with cyclesMode := len, drawLength := len, statMode := .draw }

/-- End of mode 3. -/
def leaveDraw (p : Ppu) : Checked Ppu := do
  let cyclesMode ← checkedSub .ppuUpdateMode 94 p.drawLength
  return { p with screen.fetcherX := 0, cyclesMode, statMode := .hBlank }

/-- Entering VBlank: hand the frame to the host and forget the window. -/
def enterVblank (p : Ppu) (ctx : ClockContext) : Ppu × ClockContext :=
  let ctx := if p.vsync then ctx.setEvents socEventsVSyncAndExit else ctx
  let ctx := (ctx.setInterrupt interruptBitVblank).setEvents socEventVSync
  ({ p with
    drawWindow := false, screen.windowLineCounter := 0, cyclesMode := cyclesPerVblankLine
    statMode := .vBlank }, ctx)

/-- Entering the object scan of the line `ly`. -/
def enterOamScan (p : Ppu) : Checked Ppu := do
  let p ← p.modeOamScan
  return { p with cyclesMode := cyclesPerOamScan, statMode := .oamScan }

/-- End of HBlank: the next line, or VBlank after the last one. -/
def leaveHblank (p : Ppu) (ctx : ClockContext) : Checked (Ppu × ClockContext) := do
  let ly ← checkedAdd 8 .ppuUpdateMode p.ly 1
  let p := { p with hblankCycle := true, ly }.updateLycEqLy
  if p.ly ≥ 144 then return p.enterVblank ctx
  else return (← p.enterOamScan, ctx)

/-- End of a line of VBlank. -/
def leaveVblankLine (p : Ppu) : Checked Ppu := do
  let ly ← checkedAdd 8 .ppuUpdateMode p.ly 1
  let p := { p with ly }
  let p ←
    if p.ly ≥ 154 then ({ p with ly := 0 } : Ppu).enterOamScan
    else pure { p with cyclesMode := cyclesPerVblankLine }
  return p.updateLycEqLy

/-- The `match` of `update_mode`. -/
def changeMode (p : Ppu) (ctx : ClockContext) : Checked (Ppu × ClockContext) :=
  match p.statMode with
  | .oamScan => do return (← p.leaveOamScan, ctx)
  | .draw => do return (← p.leaveDraw, ctx)
  | .hBlank => p.leaveHblank ctx
  | .vBlank => do return (← p.leaveVblankLine, ctx)

def updateMode (p : Ppu) (ctx : ClockContext) : Checked (Ppu × ClockContext) := do
  let (p, ctx) ← p.changeMode ctx
  return ({ p with cyclesFrame := 0 }, ctx)

/-- One clock of the pixel unit. -/
def clock (p : Ppu) (ctx : ClockContext) : Checked (Ppu × ClockContext) :=
  let p := { p with hblankCycle := false }
  if !p.lcdcEnable then .ok (p.checkStatInterrupt ctx)
  else do
    assert .ppuClock (p.ly ≤ 153)
    let cyclesFrame ← checkedAdd 32 .ppuClock p.cyclesFrame 1
    let cyclesMode ← checkedSub .ppuClock p.cyclesMode 1
    let p := { p with cyclesFrame, cyclesMode }
    if p.cyclesMode > 0 then return p.checkStatInterrupt ctx
    else
      let (p, ctx) ← p.updateMode ctx
      let (p, ctx) := p.handleStatInterrupt ctx
      assert .ppuClock (p.cyclesMode ≠ 0)
      assert .ppuClock (p.cyclesFrame = 0)
      return (p, ctx)

end Ppu

end ZenithGb
