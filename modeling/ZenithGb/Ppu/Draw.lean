import Mathlib.Data.Fin.VecNotation
import Mathlib.Data.Int.Notation
import Mathlib.Data.List.Sort
import ZenithGb.Ppu.State

/-!
# The pixel unit: object scan, drawing and mode 3

`mode_oam_scan`, the three drawing functions and `calc_mode3_len`. Drawing a line reads the whole
unit and writes a `Screen`. The loops that have no bound of their own take a number of iterations
and panic when it is used up.
-/

namespace ZenithGb

namespace Ppu

/-! ### Object scan -/

def objHeight (p : Ppu) : ℕ := if p.lcdcObjSize then 16 else 8

/-- Whether an object at `yCoord` covers the current line. -/
def objOnLine (p : Ppu) (yCoord : ℕ) : Checked Bool := do
  let line ← checkedAdd 8 .ppuOamScan p.ly 16
  if line ≥ yCoord then
    let bottom ← checkedAdd 8 .ppuOamScan yCoord p.objHeight
    return line < bottom
  else return false

/-- Read one OAM entry. -/
def readSprite (p : Ppu) (oamCursor : ℕ) : Checked Sprite := do
  let objAddr := oamCursor * 4
  let x ← p.oam.get (.index .ppuOamScan) (objAddr + 1)
  let y ← p.oam.get (.index .ppuOamScan) objAddr
  let tile ← p.oam.get (.index .ppuOamScan) (objAddr + 2)
  let attr ← p.oam.get (.index .ppuOamScan) (objAddr + 3)
  return { y, x, tile, attr }

/-- Collect the objects on the line in OAM order, stopping at the tenth. -/
def scanOam (p : Ppu) : List ℕ → List Sprite → Checked (List Sprite)
  | [], buffer => .ok buffer
  | oamCursor :: cursors, buffer => do
    let sprite ← p.readSprite oamCursor
    if ← p.objOnLine sprite.y.toNat then
      let buffer := buffer ++ [sprite]
      if buffer.length ≥ 10 then return buffer else p.scanOam cursors buffer
    else p.scanOam cursors buffer

/-- The order in which the buffer is drawn: later entries are drawn over earlier ones. -/
def sortSprites (opri : Bool) (buffer : List Sprite) : List Sprite :=
  -- stable, by descending x
  if opri then buffer.reverse.insertionSort fun a b => b.x ≤ a.x else buffer.reverse

def modeOamScan (p : Ppu) : Checked Ppu := do
  let buffer ← p.scanOam (List.range 40) []
  return { p with spriteBuffer := sortSprites p.opri buffer }

/-! ### Colours -/

def getCgbColor (palettes : Mem 0x40 UInt8) (palette pixelColor : UInt8) : Checked UInt16 := do
  let paletteIndex := palette.toNat * 4 * 2 + pixelColor.toNat * 2
  let high ← palettes.get (.index .ppuDraw) (paletteIndex + 1)
  let low ← palettes.get (.index .ppuDraw) paletteIndex
  return value high low

/-- `(c as f64 / INTENSITY) as u16`, with an intensity of 8.22580. -/
def dmgIntensity (c : ℕ) : UInt16 := UInt16.ofNat (c * 100000 / 822580)

/-- A colour in five bits a component. -/
def dmgShade (red green blue : ℕ) : UInt16 :=
  dmgIntensity red ||| (dmgIntensity green <<< 5) ||| (dmgIntensity blue <<< 10)

/-- `DMG_PALETTE`: four shades of green. -/
def dmgPalette : Fin 4 → UInt16 :=
  ![dmgShade 0x88 0xA0 0x48, dmgShade 0x48 0x68 0x30, dmgShade 0x28 0x40 0x20,
    dmgShade 0x18 0x28 0x08]

example : List.ofFn dmgPalette = [8816, 5512, 3300, 130] := by decide

def getDmgColor (dmgColor : UInt8) : UInt16 :=
  dmgPalette ⟨dmgColor.toNat &&& 0x3, Nat.lt_succ_of_le Nat.and_le_right⟩

/-- The shade `palette` gives to `color`. -/
def paletteColor (palette color : UInt8) : Checked UInt16 := do
  let shade ← checkedShrU8 .ppuDraw palette (color * 2).toNat
  return getDmgColor (shade &&& 0x3)

/-- Pixel `bitIdx` of a tile row, from its two planes. -/
def tilePixel (tileLsb tileMsb : UInt8) (bitIdx : ℕ) : UInt8 :=
  let hb : UInt8 := (tileMsb >>> UInt8.ofNat bitIdx) &&& (0x1 : UInt8)
  let lb : UInt8 := (tileLsb >>> UInt8.ofNat bitIdx) &&& (0x1 : UInt8)
  lb ||| (hb <<< (1 : UInt8))

/-! ### Background and window

`draw_background` and `draw_window` share everything but the map they fetch from, the pixel they
start at and the number of pixels of the first tile they skip.
-/

def addrTilemap9800 : ℕ := 0x1800
def addrTilemap9C00 : ℕ := 0x1C00

/-- The index of the next tile in its 32 by 32 map. -/
def currentTileIndex (p : Ppu) (isWindow : Bool) (s : Screen) : Checked ℕ :=
  if isWindow then do
    let row ← checkedMul 16 .windowRow 32 (s.windowLineCounter / 8)
    let index ← checkedAdd 16 .ppuFetch s.fetcherX row
    return index &&& 0x3FF
  else
    let xCoord := (p.scx.toNat / 8 + s.fetcherX) % 0x10000 &&& 0x1F
    let yCoord := UInt8.ofNat p.ly + p.scy
    .ok ((xCoord + 32 * (yCoord.toNat / 8)) &&& 0x3FF)

/-- Fetch a tile's attributes and number, and advance the fetcher. -/
def fetchBgTileNumber (p : Ppu) (isWindow : Bool) (s : Screen) :
    Checked ((UInt8 × UInt8) × Screen) := do
  let index ← p.currentTileIndex isWindow s
  let fetcherX ← checkedAdd 16 .ppuFetch s.fetcherX 1
  let tilemapBit := if isWindow then p.lcdcWndTilemap else p.lcdcBgTilemap
  let tilemapAddr := if tilemapBit then addrTilemap9C00 else addrTilemap9800
  let addr := tilemapAddr + index
  return ((p.readVramBanked true addr, p.readVramBanked false addr), { s with fetcherX })

/-- `tile_number as i8`. -/
def signedTile (tileNumber : UInt8) : ℤ :=
  if tileNumber < 128 then tileNumber.toNat else (tileNumber.toNat : ℤ) - 256

/-- Fetch the two planes of the current row of a tile. -/
def fetchBgTileTuple (p : Ppu) (tileAttr tileNumber : UInt8) (isWindow : Bool) (s : Screen) :
    UInt8 × UInt8 :=
  let yBase : UInt16 :=
    if isWindow then UInt16.ofNat s.windowLineCounter
    else (UInt8.ofNat p.ly + p.scy).toUInt16
  let yWithFlip : UInt16 := if p.ctx.cgb && tileAttr &&& 0x40 != 0 then 8 - yBase - 1 else yBase
  let lineOffset := (yWithFlip &&& (0x7 : UInt16)).toNat * 2
  let bank1 := p.ctx.cgb && tileAttr &&& 0x8 != 0
  let tileBase :=
    if p.lcdcBgWndTiles then tileNumber.toNat * 16 + lineOffset
    else (0x1000 + (signedTile tileNumber * 16 + lineOffset)).toNat
  (p.readVramBanked bank1 tileBase, p.readVramBanked bank1 (tileBase + 1))

/-- Write one cell of the current line of the frame buffer. -/
def plot (p : Ppu) (s : Screen) (x : ℕ) (color : UInt16) : Checked Screen := do
  let line ← s.rt.get (.index .ppuDraw) p.ly
  let line ← line.set (.index .ppuDraw) x color
  let rt ← s.rt.set (.index .ppuDraw) p.ly line
  return { s with rt }

/-- Draw one pixel of a background or window tile at `x`. -/
def drawTilePixel (p : Ppu) (cgbAttrs tileLsb tileMsb : UInt8) (bitIdx x : ℕ) (s : Screen) :
    Checked Screen := do
  let bitIndexXflip := if p.ctx.cgb && cgbAttrs &&& 0x20 != 0 then 7 - bitIdx else bitIdx
  let pixel := tilePixel tileLsb tileMsb bitIndexXflip
  let prio : UInt8 := if p.ctx.cgb && cgbAttrs &&& 0x80 != 0 then 0x80 else 0
  let bgScanlineMask ←
    s.bgScanlineMask.set (.index .ppuDraw) x ((pixel &&& (0x3 : UInt8)) ||| prio)
  let s := { s with bgScanlineMask }
  if p.ctx.cgb then
    let color ← getCgbColor p.cgbBgPalettes (cgbAttrs &&& 0x7) pixel
    p.plot s x color
  else p.plot s x (← paletteColor p.bgp pixel)

/-- The inner loop over the pixels of a tile; the Boolean is the `break` out of both loops. -/
def drawTilePixels (p : Ppu) (cgbAttrs tileLsb tileMsb : UInt8) :
    List ℕ → ℕ → Screen → Checked (Bool × ℕ × Screen)
  | [], x, s => .ok (false, x, s)
  | bitIdx :: bits, x, s => do
    let s ← p.drawTilePixel cgbAttrs tileLsb tileMsb bitIdx x s
    let x := x + 1
    if x = 160 then return (true, x, s)
    else p.drawTilePixels cgbAttrs tileLsb tileMsb bits x s

/-- The outer loop over the tiles of a line, for at most `fuel` tiles. `bits` are the pixels of
the next tile that are drawn, from left to right. -/
def drawTiles (p : Ppu) (isWindow : Bool) : ℕ → List ℕ → ℕ → Screen → Checked Screen
  | 0, _, _, _ => .error (.diverges .ppuDraw)
  | fuel + 1, bits, x, s => do
    let ((cgbAttrs, tile), s) ← p.fetchBgTileNumber isWindow s
    let (tileLsb, tileMsb) := p.fetchBgTileTuple cgbAttrs tile isWindow s
    assert .ppuDraw (x < 160)
    let (done, x, s) ← p.drawTilePixels cgbAttrs tileLsb tileMsb bits x s
    if done then return s
    else p.drawTiles isWindow fuel (List.range 8).reverse x s

/-- More tiles than a line can have. -/
def lineFuel : ℕ := 32

/-- The background of a DMG whose background is switched off. -/
def drawBlankLine (p : Ppu) (s : Screen) : Checked Screen :=
  (List.range 160).foldlM (fun s x => do
    let bgScanlineMask ← Mem.set (.index .ppuDraw) s.bgScanlineMask x 0
    p.plot { s with bgScanlineMask } x (getDmgColor 0)) s

def drawBackground (p : Ppu) (s : Screen) : Checked Screen :=
  let s := { s with fetcherX := 0 }
  if !p.ctx.cgb && !p.lcdcBit0 then p.drawBlankLine s
  else do
    let skipPixels := (p.scx &&& (0x7 : UInt8)).toNat
    let scxMax := 8 - skipPixels
    assert .ppuDraw (p.ly < 144)
    p.drawTiles false lineFuel (List.range scxMax).reverse 0 s

/-- Draw the window, and report the column it starts at if it is on the line. -/
def drawWindowLine (p : Ppu) (s : Screen) : Checked (Option UInt8 × Screen) :=
  let s := { s with fetcherX := 0 }
  if !p.lcdcWndEnable then .ok (none, s)
  else if !p.drawWindow then .ok (none, s)
  else if !p.ctx.cgb && !p.lcdcBit0 then .ok (none, s)
  else
    let wxSub7 := p.wx.toNat - 7
    let skipPixels := 7 - min p.wx.toNat 7
    if wxSub7 ≥ 160 then .ok (none, s)
    else do
      assert .ppuDraw (p.ly < 144)
      let s ← p.drawTiles true lineFuel (List.range' skipPixels (8 - skipPixels)).reverse wxSub7 s
      let windowLineCounter ← checkedAdd 16 .ppuDraw s.windowLineCounter 1
      return (some (UInt8.ofNat wxSub7), { s with windowLineCounter })

/-! ### Sprites -/

/-- Fetch the two planes of the row of a sprite that is on the current line. -/
def fetchSpriteTileTuple (p : Ppu) (sprite : Sprite) : UInt8 × UInt8 :=
  let ly := UInt8.ofNat p.ly
  let objSizeMask : UInt8 := if p.lcdcObjSize then 0xF else 0x7
  -- Bit 0 is ignored for 8x16 sprites
  let objTileMask : UInt8 := if p.lcdcObjSize then 0xFE else 0xFF
  let yWithFlip : UInt8 :=
    if sprite.attr &&& 0x40 = 0 then ly - sprite.y
    else (objSizeMask + 1) - (ly - sprite.y) - 1
  let lineOffset := ((yWithFlip &&& objSizeMask) * 2).toNat
  let tileBase := (sprite.tile &&& objTileMask).toNat * 16 + lineOffset
  let bank1 := p.ctx.cgb && sprite.attr &&& 0x8 != 0
  (p.readVramBanked bank1 tileBase, p.readVramBanked bank1 (tileBase + 1))

/-- The colour a sprite puts at `x`, or nothing where it is transparent or hidden. -/
def spritePixel (p : Ppu) (sprite : Sprite) (bitIdx : ℕ) (mask : UInt8) :
    Checked (Option UInt16) := do
  let cgbBgWndPrioMasterDisable := p.ctx.cgb && !p.lcdcBit0
  let objPriorityBgClr0 := mask &&& 0x3 == 0
  if !cgbBgWndPrioMasterDisable && mask &&& 0x80 != 0 && !objPriorityBgClr0 then return none
  else
    let (tileLsb, tileMsb) := p.fetchSpriteTileTuple sprite
    let bitIdxFlip := if sprite.attr &&& 0x20 != 0 then 7 - bitIdx else bitIdx
    let spriteColor := tilePixel tileLsb tileMsb bitIdxFlip
    if spriteColor = 0 then
      -- Color 0 is transparent for sprites
      return none
    else if !cgbBgWndPrioMasterDisable && sprite.attr &&& 0x80 != 0 && !objPriorityBgClr0 then
      -- the background pixel is drawn over what lower priority sprites left there
      if !p.ctx.cgb then return some (← paletteColor p.bgp (mask &&& 0x7))
      else return none
    else if p.ctx.cgb then
      let color ← getCgbColor p.cgbObPalettes (sprite.attr &&& 0x7) spriteColor
      return some color
    else
      let spritePalette := if sprite.attr &&& 0x10 = 0 then p.obp0 else p.obp1
      return some (← paletteColor spritePalette spriteColor)

/-- Draw one column of a sprite. -/
def drawSpriteColumn (p : Ppu) (sprite : Sprite) (s : Screen) (bitIdx : ℕ) : Checked Screen :=
  let x : ℤ := (sprite.x.toNat : ℤ) - 8 + (7 - bitIdx)
  if x ≥ 160 ∨ x < 0 then .ok s
  else do
    let mask ← s.bgScanlineMask.get (.index .ppuDraw) x.toNat
    match ← p.spritePixel sprite bitIdx mask with
    | some color => p.plot s x.toNat color
    | none => return s

def drawSprites (p : Ppu) (s : Screen) : Checked Screen :=
  if !p.lcdcObjEnable then .ok s
  else p.spriteBuffer.foldlM
    (fun s sprite => (List.range 8).foldlM (p.drawSpriteColumn sprite) s) s

/-! ### The length of mode 3 -/

/-- `1 << i` in 16 bits. -/
def spriteBitOf (i : ℕ) : Checked ℕ :=
  if i < 16 then .ok (1 <<< i) else .error (.overflow .ppuMode3)

/-- The first sprite from position `i` on that is not in the mask and starts before `x + 8`. -/
def findSprite (spriteMask x : ℕ) : List Sprite → ℕ → Checked (Option ℕ)
  | [], _ => .ok none
  | sp :: rest, i => do
    let spriteBit ← spriteBitOf i
    if spriteMask &&& spriteBit = 0 ∧ sp.x.toNat < x + 8 then return some spriteBit
    else findSprite spriteMask x rest (i + 1)

/-- The variables of the loop in `calc_mode3_len`. -/
structure FetchState where
  spritePenalty : ℕ
  bgFifoCount : ℕ
  didSpriteFetch : Bool
  x : ℕ
  spriteMask : ℕ
  deriving DecidableEq, Repr

/-- One iteration: fetch a sprite, or move on by a pixel. -/
def fetchIteration (sprites : List Sprite) (f : FetchState) : Checked FetchState := do
  match ← findSprite f.spriteMask f.x sprites 0 with
  | some spriteBit =>
    let spritePenalty ← checkedAdd 16 .ppuMode3 f.spritePenalty 6
    return { f with
      spriteMask := f.spriteMask ||| spriteBit, spritePenalty, didSpriteFetch := true }
  | none =>
    let f ←
      if f.didSpriteFetch then do
        let spritePenalty ← checkedAdd 16 .ppuMode3 f.spritePenalty (6 - f.bgFifoCount)
        pure { f with didSpriteFetch := false, spritePenalty }
      else pure f
    return { f with bgFifoCount := 8 - (f.x &&& 0x7), x := f.x + 1 }

/-- The loop of `calc_mode3_len`, for at most `fuel` iterations. -/
def fetchLoop (sprites : List Sprite) : ℕ → FetchState → Checked FetchState
  | fuel, f =>
    if f.x < 160 then
      match fuel with
      | 0 => .error (.diverges .ppuMode3)
      | fuel + 1 => do fetchLoop sprites fuel (← fetchIteration sprites f)
    else .ok f

def fetchStart : FetchState :=
  { spritePenalty := 0, bgFifoCount := 8, didSpriteFetch := false, x := 0, spriteMask := 0 }

def spritePenalty (p : Ppu) : Checked ℕ :=
  if !p.lcdcObjEnable then .ok 0
  else do
    let f ← fetchLoop p.spriteBuffer.reverse (160 + p.spriteBuffer.length) fetchStart
    return f.spritePenalty

def calcMode3Len (p : Ppu) (windowPos : Option UInt8) : Checked ℕ := do
  let scxPenalty := (p.scx &&& (0x7 : UInt8)).toNat
  let windowPenalty := if windowPos.isSome then 6 else 0
  let spritePenalty ← p.spritePenalty
  let mode3Penalties ← checkedAdd 16 .ppuMode3 (scxPenalty + windowPenalty) spritePenalty
  checkedAdd 16 .ppuMode3 cyclesPerDraw (mode3Penalties / 4)

/-- Draw the line and compute how long mode 3 takes. -/
def modeDraw (p : Ppu) : Checked (ℕ × Ppu) := do
  let screen ← p.drawBackground p.screen
  let (windowPos, screen) ← p.drawWindowLine screen
  let screen ← p.drawSprites screen
  let p := { p with screen }
  return (← p.calcMode3Len windowPos, p)

end Ppu

end ZenithGb
