import Mathlib.Data.Nat.Bitwise
import ZenithGb.Ppu.DrawSafe

/-!
# One pixel of a tile map

The 256 by 256 map the background scrolls over, and the window's, as functions of a column and a
row. The drawing loops fetch a tile at a time and keep their place in counters; here each pixel is
computed on its own, in arithmetic, and one pixel of a fetched tile is related to it.

## Main definitions

* `Ppu.tileIndex`, `Ppu.cgbColor`, `Ppu.dmgColor` — the colour index of a pixel, and its colour
* `Ppu.mapPixel` — the pixel at a column and a row of a map

## Main results

* `Ppu.fetchBgTileNumber_eq`, `Ppu.fetchBgTileTuple_eq` — what is fetched for a tile
* `Ppu.drawTilePixel_eq` — what drawing a pixel of it leaves on the screen
-/

namespace ZenithGb

open Outcome

/-! ### Bits -/

/-- A bit of a byte, shifted to the end. -/
theorem shiftRight_and_one (v : UInt8) {i : ℕ} (hi : i < 8) :
    (v >>> UInt8.ofNat i) &&& 1 = bit (v.toNat.testBit i) := by
  have hshift : (UInt8.ofNat i).toNat = i := UInt8.toNat_ofNat_of_lt' (Nat.lt_trans hi (by decide))
  rw [← UInt8.toNat_inj, toNat_bit, toNat_shiftRight_and_one v (by omega), hshift,
    Nat.testBit_eq_decide_div_mod_eq]
  obtain h | h := Nat.mod_two_eq_zero_or_one (v.toNat / 2 ^ i) <;> rw [h] <;> rfl

/-- A bit of a byte, picked by a mask. -/
theorem and_bne_zero (v : UInt8) {m : UInt8} {i : ℕ} (hm : m.toNat = 2 ^ i) :
    (v &&& m != 0) = v.toNat.testBit i := by
  rw [Bool.eq_iff_iff, bne_iff_ne, ne_eq, ← UInt8.toNat_inj, UInt8.toNat_and, hm, Nat.and_two_pow]
  cases v.toNat.testBit i <;> simp

namespace Ppu

/-! ### Colours -/

/-- The colour index of the pixel in a column of a tile row, counted from the left. -/
def tileIndex (lsb msb : UInt8) (column : ℕ) : ℕ :=
  (lsb.toNat.testBit (7 - column)).toNat + 2 * (msb.toNat.testBit (7 - column)).toNat

theorem tileIndex_lt (lsb msb : UInt8) (column : ℕ) : tileIndex lsb msb column < 4 := by
  have hlsb := Bool.toNat_le (lsb.toNat.testBit (7 - column))
  have hmsb := Bool.toNat_le (msb.toNat.testBit (7 - column))
  rw [tileIndex]
  omega

/-- A colour of a palette of four, two bytes each. -/
def cgbColor (palettes : Mem 0x40 UInt8) (palette index : ℕ) : UInt16 :=
  value (palettes.cell (Fin.ofNat 0x40 (8 * palette + 2 * index + 1)))
    (palettes.cell (Fin.ofNat 0x40 (8 * palette + 2 * index)))

/-- The shade a palette of four, two bits each, gives to a colour index. -/
def dmgColor (palette : UInt8) (index : ℕ) : UInt16 :=
  dmgPalette (Fin.ofNat 4 (palette.toNat >>> (2 * index)))

theorem toNat_tilePixel (lsb msb : UInt8) {bitIdx : ℕ} (hbit : bitIdx < 8) :
    (tilePixel lsb msb bitIdx).toNat = tileIndex lsb msb (7 - bitIdx) := by
  unfold tilePixel
  dsimp only
  rw [shiftRight_and_one lsb hbit, shiftRight_and_one msb hbit, tileIndex,
    Nat.sub_sub_self (Nat.le_of_lt_succ hbit)]
  cases lsb.toNat.testBit bitIdx <;> cases msb.toNat.testBit bitIdx <;> rfl

theorem getCgbColor_eq {palettes : Mem 0x40 UInt8} {palette pixel : UInt8}
    (hpalette : palette.toNat < 8) (hpixel : pixel.toNat < 4) :
    getCgbColor palettes palette pixel = .ok (cgbColor palettes palette.toNat pixel.toNat) := by
  have hindex : palette.toNat * 4 * 2 + pixel.toNat * 2 = 8 * palette.toNat + 2 * pixel.toNat := by
    omega
  unfold getCgbColor
  dsimp only
  rw [Mem.get_of_lt _ _ (by omega), ok_bind, Mem.get_of_lt _ _ (by omega), ok_bind]
  refine congrArg Except.ok (congrArg₂ value (congrArg _ ?_) (congrArg _ ?_)) <;>
    refine Fin.ext ?_ <;> simp only [hindex, Fin.val_ofNat] <;> omega

theorem paletteColor_eq {palette color : UInt8} (hcolor : color.toNat < 4) :
    paletteColor palette color = .ok (dmgColor palette color.toNat) := by
  have hshift : (color * 2).toNat = 2 * color.toNat := by
    rw [UInt8.toNat_mul, show (2 : UInt8).toNat = 2 from rfl]
    omega
  rw [paletteColor, checkedShrU8_of_lt _ (by omega), hshift, ok_bind]
  refine congrArg Except.ok (congrArg dmgPalette (Fin.ext ?_))
  show ((palette >>> UInt8.ofNat (2 * color.toNat)) &&& 3).toNat &&& 3 = _ % 4
  rw [UInt8.toNat_and, UInt8.toNat_shiftRight,
    UInt8.toNat_ofNat_of_lt' (show 2 * color.toNat < 256 by omega),
    Nat.mod_eq_of_lt (by omega : 2 * color.toNat < 8)]
  show _ &&& (2 ^ 2 - 1) &&& (2 ^ 2 - 1) = _
  rw [Nat.and_two_pow_sub_one_eq_mod, Nat.and_two_pow_sub_one_eq_mod, Nat.mod_mod]

/-! ### The map -/

/-- A pixel of a line before the objects are drawn: its colour index, whether it asks for priority
over them, and its colour. -/
structure MapPixel where
  index : ℕ
  priority : Bool
  color : UInt16
  deriving DecidableEq, Repr

/-- How the mask of the line shows it. -/
def MapPixel.mask (px : MapPixel) : ℕ := px.index + if px.priority then 0x80 else 0

/-- The entry of a map for the tile at a column and a row of pixels. -/
def mapEntry (tilemapBit : Bool) (column row : ℕ) : ℕ :=
  (if tilemapBit then 0x1C00 else 0x1800) + (32 * (row / 8 % 32) + column / 8 % 32)

/-- The attributes of an entry. A DMG has none. -/
def mapAttr (p : Ppu) (entry : ℕ) : ℕ :=
  if p.ctx.cgb then (p.readVramBanked true entry).toNat else 0

/-- Where the tile of an entry has the planes of a row of pixels. -/
def tileRow (p : Ppu) (entry row : ℕ) : ℕ :=
  let number := p.readVramBanked false entry
  let line := if (p.mapAttr entry).testBit 6 then 7 - row % 8 else row % 8
  (if p.lcdcBgWndTiles then 16 * number.toNat else (0x1000 + 16 * signedTile number).toNat) +
    2 * line

/-- The pixel in a column of a row of a tile. -/
def rowPixel (p : Ppu) (attr : ℕ) (lsb msb : UInt8) (column : ℕ) : MapPixel :=
  let index := tileIndex lsb msb (if attr.testBit 5 then 7 - column else column)
  { index
    priority := attr.testBit 7
    color := if p.ctx.cgb then cgbColor p.cgbBgPalettes (attr % 8) index else dmgColor p.bgp index }

/-- The pixel at a column and a row of a map. Both wrap around at 256. -/
def mapPixel (p : Ppu) (tilemapBit : Bool) (column row : ℕ) : MapPixel :=
  let entry := mapEntry tilemapBit column row
  let attr := p.mapAttr entry
  let bank := attr.testBit 3
  p.rowPixel attr (p.readVramBanked bank (p.tileRow entry row))
    (p.readVramBanked bank (p.tileRow entry row + 1)) (column % 8)

variable {p : Ppu} {s : Screen} {isWindow : Bool}

/-- A flag of an attribute byte, which a DMG does not have. -/
theorem attrFlag_eq (cgb : Bool) (attr m : UInt8) {i : ℕ} (hm : m.toNat = 2 ^ i) :
    (cgb && attr &&& m != 0) = (if cgb then attr.toNat else 0).testBit i := by
  rw [and_bne_zero attr hm]
  cases cgb <;> simp

theorem rowPixel_index_lt (attr : ℕ) (lsb msb : UInt8) (column : ℕ) :
    (p.rowPixel attr lsb msb column).index < 4 :=
  tileIndex_lt _ _ _

theorem mapPixel_wrap (tilemapBit : Bool) (column row : ℕ) :
    p.mapPixel tilemapBit (column % 256) (row % 256) = p.mapPixel tilemapBit column row := by
  have hentry : mapEntry tilemapBit (column % 256) (row % 256) =
      mapEntry tilemapBit column row := by
    rw [mapEntry, mapEntry]
    omega
  have hrow : ∀ entry, p.tileRow entry (row % 256) = p.tileRow entry row := fun entry => by
    rw [tileRow, tileRow, Nat.mod_mod_of_dvd row (by decide : 8 ∣ 256)]
  unfold mapPixel
  dsimp only
  rw [hentry, hrow, Nat.mod_mod_of_dvd column (by decide : 8 ∣ 256)]

/-- On a DMG a pixel has no priority, and its colour is that of its index. -/
theorem mapPixel_of_dmg (hcgb : p.ctx.cgb = false) (tilemapBit : Bool) (column row : ℕ) :
    (p.mapPixel tilemapBit column row).priority = false ∧
      (p.mapPixel tilemapBit column row).color =
        dmgColor p.bgp (p.mapPixel tilemapBit column row).index := by
  simp [mapPixel, rowPixel, mapAttr, hcgb]

/-! ### Fetching -/

/-- The bit that selects the map. -/
def tilemapBit (p : Ppu) (isWindow : Bool) : Bool :=
  if isWindow then p.lcdcWndTilemap else p.lcdcBgTilemap

/-- The row of the map the line shows. -/
def mapRow (p : Ppu) (isWindow : Bool) (s : Screen) : ℕ :=
  if isWindow then s.windowLineCounter else p.ly + p.scy.toNat

/-- The tile of that row the fetcher is at. -/
def mapTile (p : Ppu) (isWindow : Bool) (s : Screen) : ℕ :=
  (if isWindow then 0 else p.scx.toNat / 8) + s.fetcherX

theorem currentTileIndex_eq (hrow : isWindow = true → s.windowLineCounter < 0x4000)
    (hx : s.fetcherX < 32) :
    p.currentTileIndex isWindow s =
      .ok (32 * (p.mapRow isWindow s / 8 % 32) + p.mapTile isWindow s % 32) := by
  have hand : ∀ n : ℕ, n &&& 0x3FF = n % 0x400 := fun n => Nat.and_two_pow_sub_one_eq_mod n 10
  rw [currentTileIndex, mapRow, mapTile]
  cases isWindow with
  | true =>
    have hlt := hrow rfl
    simp only [if_true]
    rw [checkedMul_of_lt _ (by omega), ok_bind, checkedAdd_of_lt _ (by omega), ok_bind]
    refine congrArg Except.ok ?_
    rw [hand]
    omega
  | false =>
    have hscx := p.scx.toNat_lt
    have hscy := p.scy.toNat_lt
    have hy : (UInt8.ofNat p.ly + p.scy).toNat = (p.ly + p.scy.toNat) % 256 := by
      rw [UInt8.toNat_add, UInt8.toNat_ofNat']
      omega
    simp only [Bool.false_eq_true, if_false]
    refine congrArg Except.ok ?_
    rw [hand, hy, Nat.and_two_pow_sub_one_eq_mod _ 5]
    omega

/-- **Fetching the number of a tile.** -/
theorem fetchBgTileNumber_eq (hrow : isWindow = true → s.windowLineCounter < 0x4000)
    (hx : s.fetcherX < 32) :
    p.fetchBgTileNumber isWindow s =
      let entry := mapEntry (p.tilemapBit isWindow) (8 * p.mapTile isWindow s) (p.mapRow isWindow s)
      .ok ((p.readVramBanked true entry, p.readVramBanked false entry),
        { s with fetcherX := s.fetcherX + 1 }) := by
  rw [fetchBgTileNumber, currentTileIndex_eq hrow hx, ok_bind, checkedAdd_of_lt _ (by omega),
    ok_bind]
  dsimp only [mapEntry]
  rw [Nat.mul_div_cancel_left _ (by decide)]
  rfl

/-- Three bits of a row counter, from the bottom of the tile if it is flipped. -/
theorem toNat_line (y : UInt16) (flip : Bool) :
    ((if flip then 8 - y - 1 else y) &&& (0x7 : UInt16)).toNat =
      if flip then 7 - y.toNat % 8 else y.toNat % 8 := by
  have hy := y.toNat_lt
  have hand : ∀ v : UInt16, (v &&& (0x7 : UInt16)).toNat = v.toNat % 8 := fun v => by
    rw [UInt16.toNat_and]
    exact Nat.and_two_pow_sub_one_eq_mod v.toNat 3
  rw [hand]
  cases flip with
  | false => rfl
  | true =>
    simp only [if_true]
    rw [UInt16.toNat_sub, UInt16.toNat_sub, show (8 : UInt16).toNat = 8 from rfl,
      show (1 : UInt16).toNat = 1 from rfl]
    omega

/-- **Fetching the planes of its row.** -/
theorem fetchBgTileTuple_eq (entry : ℕ) :
    p.fetchBgTileTuple (p.readVramBanked true entry) (p.readVramBanked false entry) isWindow s =
      (p.readVramBanked ((p.mapAttr entry).testBit 3) (p.tileRow entry (p.mapRow isWindow s)),
        p.readVramBanked ((p.mapAttr entry).testBit 3)
          (p.tileRow entry (p.mapRow isWindow s) + 1)) := by
  generalize hattr : p.readVramBanked true entry = attr
  generalize hnumber : p.readVramBanked false entry = number
  have hflag : ∀ (m : UInt8) (i : ℕ), m.toNat = 2 ^ i →
      (p.ctx.cgb && attr &&& m != 0) = (p.mapAttr entry).testBit i := fun m i hm => by
    rw [attrFlag_eq _ _ _ hm, mapAttr, hattr]
  have hrow : (if isWindow then UInt16.ofNat s.windowLineCounter
      else (UInt8.ofNat p.ly + p.scy).toUInt16).toNat % 8 = p.mapRow isWindow s % 8 := by
    rw [mapRow]
    split
    · rw [UInt16.toNat_ofNat']
      omega
    · rw [UInt8.toNat_toUInt16, UInt8.toNat_add, UInt8.toNat_ofNat']
      omega
  unfold fetchBgTileTuple
  dsimp only
  rw [hflag 0x40 6 rfl, hflag 0x8 3 rfl, toNat_line, hrow]
  have hbase : (if p.lcdcBgWndTiles then number.toNat * 16 +
        (if (p.mapAttr entry).testBit 6 then 7 - p.mapRow isWindow s % 8
          else p.mapRow isWindow s % 8) * 2
      else (0x1000 + (signedTile number * 16 +
        (((if (p.mapAttr entry).testBit 6 then 7 - p.mapRow isWindow s % 8
          else p.mapRow isWindow s % 8) * 2 : ℕ) : ℤ))).toNat) =
      p.tileRow entry (p.mapRow isWindow s) := by
    have hsigned : -256 ≤ signedTile number := by
      rw [signedTile]
      split <;> omega
    unfold tileRow
    dsimp only
    rw [hnumber]
    split <;> omega
  rw [hbase]

/-! ### Drawing -/

/-- The screen with a cell of the current line overwritten. -/
def putPixel (p : Ppu) (hly : p.ly < 144) (x : Fin 160) (color : UInt16) (s : Screen) : Screen :=
  { s with rt := s.rt.put ⟨p.ly, hly⟩ ((s.rt.cell ⟨p.ly, hly⟩).put x color) }

theorem plot_eq (hly : p.ly < 144) {x : ℕ} (hx : x < 160) (s : Screen) (color : UInt16) :
    p.plot s x color = .ok (p.putPixel hly ⟨x, hx⟩ color s) := by
  rw [plot, Mem.get_of_lt _ _ hly, ok_bind, Mem.set_of_lt _ _ hx, ok_bind, Mem.set_of_lt _ _ hly,
    ok_bind]
  rfl

/-- A colour index below the priority bit. -/
theorem toNat_mask (pixel : UInt8) (hpixel : pixel.toNat < 4) (prio : Bool) :
    ((pixel &&& (0x3 : UInt8)) ||| if prio then 0x80 else 0).toNat =
      pixel.toNat + if prio then 0x80 else 0 := by
  have key : ∀ v : UInt8, v.toNat < 4 → ∀ b : Bool,
      ((v &&& (0x3 : UInt8)) ||| if b then 0x80 else 0).toNat =
        v.toNat + if b then 0x80 else 0 :=
    forall_uint8 (by decide +kernel)
  exact key pixel hpixel prio

/-- **Drawing a pixel** of a tile shows the pixel in its column. -/
theorem drawTilePixel_eq (hly : p.ly < 144) {x bitIdx : ℕ} (hx : x < 160) (hbit : bitIdx < 8)
    (cgbAttrs lsb msb : UInt8) (s : Screen) :
    let px := p.rowPixel (if p.ctx.cgb then cgbAttrs.toNat else 0) lsb msb (7 - bitIdx)
    ∃ v : UInt8, v.toNat = px.mask ∧ p.drawTilePixel cgbAttrs lsb msb bitIdx x s =
      .ok (p.putPixel hly ⟨x, hx⟩ px.color
        { s with bgScanlineMask := s.bgScanlineMask.put ⟨x, hx⟩ v }) := by
  have hflag := fun (m : UInt8) (i : ℕ) (hm : m.toNat = 2 ^ i) =>
    attrFlag_eq p.ctx.cgb cgbAttrs m hm
  generalize hattr : (if p.ctx.cgb then cgbAttrs.toNat else 0) = attr at hflag
  intro px
  have hbits : (if attr.testBit 5 then 7 - bitIdx else bitIdx) < 8 := by split <;> omega
  have hpixel : (tilePixel lsb msb (if attr.testBit 5 then 7 - bitIdx else bitIdx)).toNat =
      px.index := by
    rw [toNat_tilePixel lsb msb hbits]
    refine congrArg (tileIndex lsb msb) ?_
    split <;> rfl
  unfold drawTilePixel
  dsimp only
  rw [hflag 0x20 5 rfl, hflag 0x80 7 rfl, Mem.set_of_lt _ _ hx, ok_bind]
  generalize tilePixel lsb msb (if attr.testBit 5 then 7 - bitIdx else bitIdx) = pixel at hpixel
  have hlt : pixel.toNat < 4 := hpixel ▸ rowPixel_index_lt attr lsb msb (7 - bitIdx)
  refine ⟨_, (toNat_mask pixel hlt (attr.testBit 7)).trans (by rw [hpixel]; rfl), ?_⟩
  cases hcgb : p.ctx.cgb with
  | true =>
    have hpalette : (cgbAttrs &&& 7).toNat = attr % 8 := by
      rw [← hattr, hcgb]
      exact toNat_and_low (b := 3) rfl cgbAttrs
    rw [if_pos rfl, getCgbColor_eq (by omega) hlt, ok_bind, plot_eq hly hx, hpalette, hpixel]
    simp [px, rowPixel, hcgb]
  | false =>
    rw [if_neg Bool.false_ne_true, paletteColor_eq hlt, ok_bind, plot_eq hly hx, hpixel]
    simp [px, rowPixel, hcgb]

end Ppu

end ZenithGb
