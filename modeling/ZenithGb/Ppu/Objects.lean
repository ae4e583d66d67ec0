import ZenithGb.Lib.Painter
import ZenithGb.Ppu.Scanline

/-!
# Objects over the background

`mode_oam_scan` selects the objects of a line and puts them in the order in which `draw_sprites`
draws them, from the back to the front. So a column shows the frontmost object that has a colour
there, unless that object is hidden by the background.

An object that is hidden by its own attribute still hides those behind it. On a DMG the background
pixel is drawn again in its place; on a CGB nothing is drawn, and the object behind it shows.

## Main definitions

* `Ppu.selected`, `Ppu.top` — the objects of a line, and the one with the highest priority
* `Ppu.spriteIndex`, `Ppu.spriteColor` — the colour index of an object in a column, and its colour
* `Ppu.hides`, `Ppu.composed` — when an object is hidden, and what a column is to show

## Main results

* `Ppu.modeOamScan_eq` — what is selected
* `Ppu.drawSprites_paints` — drawing the objects is painting them
* `Ppu.composed_dmg_iff`, `Ppu.composed_cgb_iff` — when every column shows what it is to show
-/

namespace ZenithGb

open Outcome

namespace Ppu

variable {p : Ppu} {sp : Sprite}

/-! ### Selection -/

/-- An entry of OAM. -/
def oamEntry (p : Ppu) (i : ℕ) : Sprite :=
  let byte (k : ℕ) := p.oam.cell (Fin.ofNat 0xA0 (4 * i + k))
  { y := byte 0, x := byte 1, tile := byte 2, attr := byte 3 }

/-- The object covers the current line. -/
def onLine (p : Ppu) (sp : Sprite) : Bool :=
  decide (sp.y.toNat ≤ p.ly + 16 ∧ p.ly + 16 < sp.y.toNat + p.objHeight)

/-- The first ten entries that do. -/
def selected (p : Ppu) : List Sprite := (((List.range 40).map p.oamEntry).filter p.onLine).take 10

theorem readSprite_eq {i : ℕ} (hi : i < 40) : p.readSprite i = .ok (p.oamEntry i) := by
  have hget : ∀ k < 4, p.oam.get (Panic.index .ppuOamScan) (i * 4 + k) =
      .ok (p.oam.cell (Fin.ofNat 0xA0 (4 * i + k))) := fun k hk => by
    rw [Mem.get_of_lt _ _ (by omega)]
    refine congrArg Except.ok (congrArg p.oam.cell (Fin.ext ?_))
    show i * 4 + k = (4 * i + k) % 0xA0
    omega
  have hfirst : p.oam.get (Panic.index .ppuOamScan) (i * 4) = _ := hget 0 (by decide)
  rw [readSprite, hget 1 (by decide), ok_bind, hfirst, ok_bind, hget 2 (by decide), ok_bind,
    hget 3 (by decide), ok_bind]
  rfl

theorem objHeight_le : p.objHeight ≤ 16 := by
  rw [objHeight]
  split <;> decide

theorem objOnLine_eq (hly : p.ly < 144) (sp : Sprite) :
    p.objOnLine sp.y.toNat = .ok (p.onLine sp) := by
  have hheight := objHeight_le (p := p)
  rw [objOnLine, checkedAdd_of_lt _ (by omega), ok_bind, onLine]
  split
  · rename_i hy
    rw [checkedAdd_of_lt _ (by omega), ok_bind]
    refine congrArg Except.ok ?_
    simp only [hy, true_and]
  · rename_i hy
    refine congrArg Except.ok (decide_eq_false ?_).symm
    exact fun h => hy h.1

/-- The scan collects what is on the line until it has ten. The induction is on the cursors left. -/
theorem scanOam_eq (hly : p.ly < 144) : ∀ (cursors : List ℕ) (buffer : List Sprite),
    (∀ i ∈ cursors, i < 40) → buffer.length < 10 → p.scanOam cursors buffer =
      .ok (buffer ++ ((cursors.map p.oamEntry).filter p.onLine).take (10 - buffer.length)) := by
  intro cursors
  induction cursors with
  | nil =>
    intro buffer _ _
    rw [scanOam, List.map_nil, List.filter_nil, List.take_nil, List.append_nil]
  | cons i cursors ih =>
    intro buffer hcursors hbuffer
    have hrest : ∀ j ∈ cursors, j < 40 := fun j hj => hcursors j (List.mem_cons_of_mem i hj)
    rw [scanOam, readSprite_eq (hcursors i (List.mem_cons_self ..)), ok_bind, objOnLine_eq hly,
      ok_bind, List.map_cons]
    cases honline : p.onLine (p.oamEntry i) with
    | false =>
      rw [if_neg Bool.false_ne_true, List.filter_cons_of_neg (by rw [honline]; decide)]
      exact ih buffer hrest hbuffer
    | true =>
      obtain ⟨left, hleft⟩ : ∃ left, 10 - buffer.length = left + 1 := ⟨9 - buffer.length, by omega⟩
      have hlen : (buffer ++ [p.oamEntry i]).length = buffer.length + 1 := List.length_append
      rw [if_pos rfl, List.filter_cons_of_pos honline, hleft, List.take_succ_cons]
      dsimp only
      by_cases hfull : (buffer ++ [p.oamEntry i]).length ≥ 10
      · rw [if_pos hfull, show left = 0 by omega, List.take_zero]
        rfl
      · rw [if_neg hfull, ih _ hrest (by omega), hlen,
          show 10 - (buffer.length + 1) = left by omega, List.append_assoc]
        rfl

/-- **The object scan.** -/
theorem modeOamScan_eq (hly : p.ly < 144) :
    p.modeOamScan = .ok { p with spriteBuffer := sortSprites p.opri p.selected } := by
  rw [modeOamScan, scanOam_eq hly _ [] (fun i hi => List.mem_range.mp hi) (by decide), ok_bind]
  rfl

/-- The object with the highest priority: the first, or with `opri` the first of those that lie
furthest to the left. -/
def top (opri : Bool) (objects : List Sprite) : Option Sprite :=
  if opri then objects.argmin fun sp => sp.x.toNat else objects.head?

/-- The frontmost of the objects that satisfy `P` is the one with the highest priority. -/
theorem find?_reverse_sortSprites (opri : Bool) (objects : List Sprite) (P : Sprite → Bool) :
    (sortSprites opri objects).reverse.find? P = top opri (objects.filter P) := by
  rw [sortSprites, top]
  split
  · exact Painter.find?_reverse_insertionSort (fun sp : Sprite => sp.x.toNat)
      (fun a b => UInt8.le_iff_toNat_le) P objects
  · rw [List.reverse_reverse, List.head?_filter]

theorem mem_sortSprites {opri : Bool} {objects : List Sprite} :
    sp ∈ sortSprites opri objects ↔ sp ∈ objects := by
  rw [sortSprites]
  split
  · rw [List.mem_insertionSort, List.mem_reverse]
  · rw [List.mem_reverse]

theorem onLine_of_mem_selected (h : sp ∈ p.selected) : p.onLine sp = true :=
  (List.mem_filter.mp (List.mem_of_mem_take h)).2

/-! ### The pixels of an object -/

/-- Where the tile of an object has the planes of the current line. Bit 0 of the tile is ignored for
objects of height 16. -/
def spriteRow (p : Ppu) (sp : Sprite) : ℕ :=
  let row := p.ly + 16 - sp.y.toNat
  let line := if sp.attr.toNat.testBit 6 then p.objHeight - 1 - row else row
  let tile := if p.lcdcObjSize then sp.tile.toNat / 2 * 2 else sp.tile.toNat
  16 * tile + 2 * line

/-- The colour index of an object in a column of the screen. It is 0, which is transparent, where
the object is not. -/
def spriteIndex (p : Ppu) (sp : Sprite) (x : ℕ) : ℕ :=
  if sp.x.toNat ≤ x + 8 ∧ x < sp.x.toNat then
    let bank := p.ctx.cgb && sp.attr.toNat.testBit 3
    let column := x + 8 - sp.x.toNat
    tileIndex (p.readVramBanked bank (p.spriteRow sp)) (p.readVramBanked bank (p.spriteRow sp + 1))
      (if sp.attr.toNat.testBit 5 then 7 - column else column)
  else 0

/-- The colour an object gives to a colour index. -/
def spriteColor (p : Ppu) (sp : Sprite) (index : ℕ) : UInt16 :=
  if p.ctx.cgb then cgbColor p.cgbObPalettes (sp.attr.toNat % 8) index
  else dmgColor (if sp.attr.toNat.testBit 4 then p.obp1 else p.obp0) index

/-- Twice the row of a tile of 8 or 16 rows that is `d` rows from the top, or from the bottom. -/
theorem toNat_spriteLine (d : UInt8) (flip tall : Bool) :
    (((if flip then (if tall then 0xF else 0x7) + 1 - d - 1 else d) &&&
      (if tall then 0xF else 0x7)) * 2).toNat =
      2 * (if flip then (if tall then 16 else 8) - 1 - d.toNat % (if tall then 16 else 8)
        else d.toNat % (if tall then 16 else 8)) := by
  have key : ∀ d : UInt8, ∀ flip tall : Bool,
      (((if flip then (if tall then 0xF else 0x7) + 1 - d - 1 else d) &&&
        (if tall then 0xF else 0x7)) * 2).toNat =
        2 * (if flip then (if tall then 16 else 8) - 1 - d.toNat % (if tall then 16 else 8)
          else d.toNat % (if tall then 16 else 8)) :=
    forall_uint8 (by decide +kernel)
  exact key d flip tall

theorem spriteIndex_lt (sp : Sprite) (x : ℕ) : p.spriteIndex sp x < 4 := by
  rw [spriteIndex]
  split
  · exact tileIndex_lt _ _ _
  · decide

theorem toNat_spriteTile (tile : UInt8) (tall : Bool) :
    (tile &&& if tall then 0xFE else 0xFF).toNat =
      if tall then tile.toNat / 2 * 2 else tile.toNat := by
  have key : ∀ tile : UInt8, ∀ tall : Bool, (tile &&& if tall then 0xFE else 0xFF).toNat =
      if tall then tile.toNat / 2 * 2 else tile.toNat :=
    forall_uint8 (by decide +kernel)
  exact key tile tall

/-- **Fetching the row of an object** that is on the line. -/
theorem fetchSpriteTileTuple_eq (hline : p.onLine sp = true) :
    p.fetchSpriteTileTuple sp =
      (p.readVramBanked (p.ctx.cgb && sp.attr.toNat.testBit 3) (p.spriteRow sp),
        p.readVramBanked (p.ctx.cgb && sp.attr.toNat.testBit 3) (p.spriteRow sp + 1)) := by
  obtain ⟨hlo, hhi⟩ := of_decide_eq_true hline
  have hy := sp.y.toNat_lt
  have hrow : (UInt8.ofNat p.ly - sp.y).toNat % p.objHeight = p.ly + 16 - sp.y.toNat := by
    rw [UInt8.toNat_sub, UInt8.toNat_ofNat']
    rw [objHeight] at hhi ⊢
    split <;> rename_i h <;> simp only [h] at hhi <;> simp at hhi <;> omega
  have hflip : (sp.attr &&& 0x40 = 0) ↔ ¬ sp.attr.toNat.testBit 6 = true := by
    rw [← and_bne_zero sp.attr (m := 0x40) rfl, bne_iff_ne, not_not]
  have hbase : (sp.tile &&& if p.lcdcObjSize then 0xFE else 0xFF).toNat * 16 +
      (((if sp.attr &&& 0x40 = 0 then UInt8.ofNat p.ly - sp.y
        else (if p.lcdcObjSize then 0xF else 0x7) + 1 - (UInt8.ofNat p.ly - sp.y) - 1) &&&
          if p.lcdcObjSize then 0xF else 0x7) * 2).toNat = p.spriteRow sp := by
    have hline := toNat_spriteLine (UInt8.ofNat p.ly - sp.y) (sp.attr.toNat.testBit 6) p.lcdcObjSize
    rw [← objHeight, hrow] at hline
    simp only [hflip, ite_not]
    rw [hline, toNat_spriteTile, spriteRow]
    omega
  have hbank : (sp.attr &&& 0x8 != 0) = sp.attr.toNat.testBit 3 := and_bne_zero sp.attr rfl
  unfold fetchSpriteTileTuple
  dsimp only
  rw [hbase, hbank]

/-- The background hides the object: the switch over all priorities is on, the background has a
colour, and it or the object asks for it. On a DMG the background cannot ask. -/
def hides (p : Ppu) (bg : MapPixel) (sp : Sprite) : Bool :=
  p.lcdcBit0 && bg.index != 0 && (p.ctx.cgb && bg.priority || sp.attr.toNat.testBit 7)

/-- What `draw_sprites` puts in a column for an object: nothing where the object is transparent and,
on a CGB, where it is hidden. On a DMG the background is drawn again there. -/
def cover (p : Ppu) (bg : MapPixel) (x : ℕ) (sp : Sprite) : Option UInt16 :=
  if p.spriteIndex sp x = 0 then none
  else if p.hides bg sp then if p.ctx.cgb then none else some bg.color
  else some (p.spriteColor sp (p.spriteIndex sp x))

/-- What the pixel unit has drawn in a column before the objects. A DMG background has no priority,
and its colour is that of its index, which is 0 where the background is off. -/
structure Beneath (p : Ppu) (bg : MapPixel) : Prop where
  index : bg.index < 4
  dmg : p.ctx.cgb = false → bg.priority = false ∧ (p.lcdcBit0 = false → bg.index = 0) ∧
    (bg.index ≠ 0 → bg.color = dmgColor p.bgp bg.index)

/-- The parts of the mask. -/
theorem mask_parts {mask : UInt8} {bg : MapPixel} (hmask : mask.toNat = bg.mask)
    (hindex : bg.index < 4) :
    (mask &&& 0x3 == 0) = (bg.index == 0) ∧ (mask &&& 0x80 != 0) = bg.priority ∧
      (mask &&& 0x7).toNat = bg.index := by
  have key : ∀ v : UInt8, ∀ index : Fin 4, ∀ priority : Bool,
      v.toNat = index + (if priority then 0x80 else 0) →
      (v &&& 0x3 == 0) = (index.1 == 0) ∧ (v &&& 0x80 != 0) = priority ∧
        (v &&& 0x7).toNat = index :=
    forall_uint8 (by decide +kernel)
  exact key mask ⟨bg.index, hindex⟩ bg.priority hmask

/-- The pixel of the fetched row that lies over a column. -/
theorem toNat_spriteTilePixel (hline : p.onLine sp = true) {bitIdx x : ℕ} (hbit : bitIdx < 8)
    (hx : x + 1 + bitIdx = sp.x.toNat) :
    (tilePixel (p.fetchSpriteTileTuple sp).1 (p.fetchSpriteTileTuple sp).2
      (if sp.attr &&& 0x20 != 0 then 7 - bitIdx else bitIdx)).toNat = p.spriteIndex sp x := by
  have hflip : (sp.attr &&& 0x20 != 0) = sp.attr.toNat.testBit 5 := and_bne_zero sp.attr rfl
  have hcovers : sp.x.toNat ≤ x + 8 ∧ x < sp.x.toNat := by omega
  rw [fetchSpriteTileTuple_eq hline, hflip, toNat_tilePixel _ _ (by split <;> omega), spriteIndex,
    if_pos hcovers]
  refine congrArg (tileIndex _ _) ?_
  split <;> omega

theorem paletteColor_sprite (hcgb : p.ctx.cgb = false) (sp : Sprite) {pixel : UInt8}
    (hpixel : pixel.toNat < 4) :
    paletteColor (if sp.attr &&& 0x10 = 0 then p.obp0 else p.obp1) pixel =
      .ok (p.spriteColor sp pixel.toNat) := by
  have hobp : (sp.attr &&& 0x10 = 0) ↔ ¬ sp.attr.toNat.testBit 4 = true := by
    rw [← and_bne_zero sp.attr (m := 0x10) rfl, bne_iff_ne, not_not]
  simp only [hobp, ite_not]
  rw [paletteColor_eq hpixel, spriteColor, hcgb]
  rfl

theorem getCgbColor_sprite (hcgb : p.ctx.cgb = true) (sp : Sprite) {pixel : UInt8}
    (hpixel : pixel.toNat < 4) :
    getCgbColor p.cgbObPalettes (sp.attr &&& 0x7) pixel = .ok (p.spriteColor sp pixel.toNat) := by
  have hpalette : (sp.attr &&& 0x7).toNat = sp.attr.toNat % 8 := toNat_and_low (b := 3) rfl sp.attr
  rw [getCgbColor_eq (by omega) hpixel, hpalette, spriteColor, hcgb]
  rfl

/-- **One pixel of an object.** -/
theorem spritePixel_eq (hline : p.onLine sp = true) {bitIdx x : ℕ} (hbit : bitIdx < 8)
    (hx : x + 1 + bitIdx = sp.x.toNat) {mask : UInt8} {bg : MapPixel} (hbg : p.Beneath bg)
    (hmask : mask.toNat = bg.mask) : p.spritePixel sp bitIdx mask = .ok (p.cover bg x sp) := by
  obtain ⟨hzero, hprio, hcolor⟩ := mask_parts hmask hbg.index
  have hbehind : (sp.attr &&& 0x80 != 0) = sp.attr.toNat.testBit 7 := and_bne_zero sp.attr rfl
  have hsprite := toNat_spriteTilePixel hline hbit hx
  unfold spritePixel
  dsimp only
  rw [hbehind, hzero, hprio]
  generalize tilePixel (p.fetchSpriteTileTuple sp).1 (p.fetchSpriteTileTuple sp).2
    (if sp.attr &&& 0x20 != 0 then 7 - bitIdx else bitIdx) = pixel at hsprite ⊢
  have htransparent : pixel = 0 ↔ p.spriteIndex sp x = 0 := by
    rw [← hsprite, ← UInt8.toNat_inj]
    rfl
  have hlt : pixel.toNat < 4 := hsprite ▸ spriteIndex_lt sp x
  simp only [htransparent]
  rw [cover, hides]
  cases hcgb : p.ctx.cgb with
  | false =>
    obtain ⟨hpriority, hoff, hshade⟩ := hbg.dmg hcgb
    have hback : bg.index ≠ 0 → paletteColor p.bgp (mask &&& 0x7) = .ok bg.color := fun hne => by
      rw [paletteColor_eq (by rw [hcolor]; exact hbg.index), hcolor, hshade hne]
    rw [paletteColor_sprite hcgb sp hlt, hsprite, hpriority]
    by_cases h0 : p.spriteIndex sp x = 0
    · simp only [h0, if_true]
      cases bg.index == 0 <;> rfl
    · simp only [h0, if_false]
      by_cases hne : bg.index = 0
      · simp only [hne, bne_self_eq_false, BEq.rfl, Bool.and_false, Bool.false_and]
        cases p.lcdcBit0 <;> cases sp.attr.toNat.testBit 7 <;> rfl
      · have hon : p.lcdcBit0 = true := by
          rw [← Bool.not_eq_false]
          exact fun h => hne (hoff h)
        rw [hback hne, hon, bne_iff_ne.mpr hne, beq_false_of_ne hne]
        cases sp.attr.toNat.testBit 7 <;> rfl
  | true =>
    rw [getCgbColor_sprite hcgb sp hlt, hsprite, bne]
    by_cases h0 : p.spriteIndex sp x = 0
    · simp only [h0, if_true, ite_self]
      rfl
    · simp only [h0, if_false]
      cases p.lcdcBit0 <;> cases bg.priority <;> cases sp.attr.toNat.testBit 7 <;>
        cases bg.index == 0 <;> rfl

/-! ### Drawing -/

/-- A cell of the current line. -/
def pixel (p : Ppu) (s : Screen) (x : Fin 160) : UInt16 :=
  (s.rt.cell (Fin.ofNat 144 p.ly)).cell x

/-- The current line of `s` has the given colours, over the mask of `b`. -/
structure Recoloured (p : Ppu) (b s : Screen) (color : Fin 160 → UInt16) : Prop where
  mask : s.bgScanlineMask = b.bgScanlineMask
  line : ∀ x, p.pixel s x = color x

variable {b s : Screen} {bg : Fin 160 → MapPixel} {color : Fin 160 → UInt16}

/-- A column of an object, which lies over one column of the screen or beside it. -/
theorem drawSpriteColumn_recolours (hly : p.ly < 144) (hline : p.onLine sp = true) {bitIdx : ℕ}
    (hbit : bitIdx < 8) (hbg : ∀ x, p.Beneath (bg x))
    (hmask : ∀ x, (b.bgScanlineMask.cell x).toNat = (bg x).mask) (hs : p.Recoloured b s color) :
    Total (p.drawSpriteColumn sp s bitIdx) fun s' => p.Recoloured b s' fun x =>
      if x.1 + 1 + bitIdx = sp.x.toNat then (p.cover (bg x) x sp).getD (color x) else color x := by
  rw [drawSpriteColumn]
  split
  · rename_i hout
    refine ⟨hs.mask, fun x => ?_⟩
    rw [if_neg (by omega)]
    exact hs.line x
  · rename_i hin
    obtain ⟨x, hx⟩ : ∃ x : ℕ, ((sp.x.toNat : ℤ) - 8 + (7 - bitIdx)).toNat = x := ⟨_, rfl⟩
    have hx160 : x < 160 := by omega
    rw [hx, Mem.get_of_lt _ _ hx160, ok_bind,
      spritePixel_eq hline hbit (show x + 1 + bitIdx = sp.x.toNat by omega) (hbg ⟨x, hx160⟩)
        (by rw [hs.mask]; exact hmask ⟨x, hx160⟩), ok_bind]
    have hcolumn : ∀ x' : Fin 160, x'.1 + 1 + bitIdx = sp.x.toNat ↔ x' = ⟨x, hx160⟩ := fun x' => by
      rw [Fin.ext_iff]
      show _ ↔ x'.1 = x
      omega
    simp only [hcolumn]
    cases hcover : p.cover (bg ⟨x, hx160⟩) x sp with
    | none =>
      refine ⟨hs.mask, fun x' => ?_⟩
      split
      · rename_i he
        rw [he, hcover]
        exact hs.line _
      · exact hs.line x'
    | some c =>
      dsimp only
      rw [plot_eq hly hx160]
      refine ⟨hs.mask, fun x' => ?_⟩
      rw [pixel, putPixel_cell, Fin.val_ofNat, Nat.mod_eq_of_lt hly]
      simp only [true_and]
      split
      · rename_i he
        rw [he, hcover]
        rfl
      · exact hs.line x'

/-- An object that does not reach a column does not cover it. -/
theorem cover_of_beside {bg : MapPixel} {x : ℕ} (h : ∀ bitIdx < 8, x + 1 + bitIdx ≠ sp.x.toNat) :
    p.cover bg x sp = none := by
  have hbeside : ¬ (sp.x.toNat ≤ x + 8 ∧ x < sp.x.toNat) := fun hin =>
    h (sp.x.toNat - (x + 1)) (by omega) (by omega)
  rw [cover, spriteIndex, if_neg hbeside, if_pos rfl]

/-- **One object.** Its columns lie over different columns of the screen. -/
theorem drawSprite_recolours (hly : p.ly < 144) (hline : p.onLine sp = true)
    (hbg : ∀ x, p.Beneath (bg x)) (hmask : ∀ x, (b.bgScanlineMask.cell x).toNat = (bg x).mask)
    (hs : p.Recoloured b s color) :
    Total ((List.range 8).foldlM (p.drawSpriteColumn sp) s) fun s' =>
      p.Recoloured b s' fun x => (p.cover (bg x) x sp).getD (color x) := by
  refine (foldlM_meets (fun done s' => p.Recoloured b s' fun x =>
      if ∃ bitIdx ∈ done, x.1 + 1 + bitIdx = sp.x.toNat then (p.cover (bg x) x sp).getD (color x)
      else color x) (List.range 8) [] s ?_ fun done bitIdx rest s' hsplit hs' => ?_).imp
    fun s' hs' => ⟨hs'.mask, fun x => ?_⟩
  · simpa using hs
  · have hbit : bitIdx < 8 := by
      have hmem : bitIdx ∈ List.range 8 := by
        rw [← List.nil_append (List.range 8), ← hsplit]
        simp
      exact List.mem_range.mp hmem
    refine (drawSpriteColumn_recolours hly hline hbit hbg hmask hs').imp fun s'' hs'' =>
      ⟨hs''.mask, fun x => ?_⟩
    rw [hs''.line x]
    by_cases hx : x.1 + 1 + bitIdx = sp.x.toNat
    · have hlast : ∃ i ∈ done ++ [bitIdx], x.1 + 1 + i = sp.x.toNat :=
        ⟨bitIdx, List.mem_append_right done (List.mem_singleton.mpr rfl), hx⟩
      rw [if_pos hx, if_pos hlast]
      split
      · cases p.cover (bg x) x sp <;> rfl
      · rfl
    · have hsame : (∃ i ∈ done ++ [bitIdx], x.1 + 1 + i = sp.x.toNat) ↔
          ∃ i ∈ done, x.1 + 1 + i = sp.x.toNat := by
        simp [or_and_right, exists_or, hx]
      rw [if_neg hx]
      simp only [hsame]
  · rw [hs'.line x, List.nil_append]
    split
    · rfl
    · rename_i hbeside
      rw [cover_of_beside fun bitIdx hbit hx => hbeside ⟨bitIdx, List.mem_range.mpr hbit, hx⟩]
      rfl

/-- **Drawing the objects** is painting them in the order of the buffer. -/
theorem drawSprites_paints (hly : p.ly < 144) (hobj : p.lcdcObjEnable = true)
    (hline : ∀ sp ∈ p.spriteBuffer, p.onLine sp = true) (hbg : ∀ x, p.Beneath (bg x))
    (hb : ∀ x, Shows p b x (bg x)) :
    Total (p.drawSprites b) fun s => ∀ x : Fin 160,
      p.pixel s x = Painter.paint (p.cover (bg x) x) p.spriteBuffer (bg x).color := by
  rw [drawSprites, hobj]
  refine (foldlM_meets (fun done s => p.Recoloured b s fun x =>
      Painter.paint (p.cover (bg x) x) done (bg x).color) p.spriteBuffer [] b ?_
    fun done sp rest s hsplit hs => ?_).imp fun s hs => hs.line
  · refine ⟨rfl, fun x => ?_⟩
    rw [Painter.paint_nil]
    exact (hb x).color _ (Nat.mod_eq_of_lt hly)
  · have hmem : sp ∈ p.spriteBuffer := by
      rw [← List.nil_append p.spriteBuffer, ← hsplit]
      simp
    simp only [Painter.paint_append_singleton]
    exact drawSprite_recolours hly (hline sp hmem) hbg (fun x => (hb x).mask) hs

/-! ### What lies beneath -/

/-- What `draw_background` leaves in a column. -/
def backgroundPixel (p : Ppu) (x : ℕ) : MapPixel :=
  if p.ctx.cgb || p.lcdcBit0 then
    p.mapPixel p.lcdcBgTilemap (x + p.scx.toNat) (p.ly + p.scy.toNat)
  else { index := 0, priority := false, color := getDmgColor 0 }

/-- What `draw_background` and then `draw_window` leave in a column. -/
def beneath (p : Ppu) (x : ℕ) : MapPixel :=
  if p.windowOn && decide (p.wx.toNat - 7 ≤ x) then
    p.mapPixel p.lcdcWndTilemap (p.windowColumn x) p.screen.windowLineCounter
  else p.backgroundPixel x

theorem beneath_mapPixel (tilemapBit : Bool) (column row : ℕ)
    (hon : (p.ctx.cgb || p.lcdcBit0) = true) :
    p.Beneath (p.mapPixel tilemapBit column row) where
  index := rowPixel_index_lt ..
  dmg hcgb := by
    obtain ⟨hpriority, hcolor⟩ := mapPixel_of_dmg hcgb tilemapBit column row
    refine ⟨hpriority, fun hoff => ?_, fun _ => hcolor⟩
    rw [hcgb, hoff] at hon
    cases hon

theorem beneath_beneath (x : ℕ) : p.Beneath (p.beneath x) := by
  rw [beneath]
  split
  · rename_i hin
    rw [windowOn] at hin
    simp only [Bool.and_eq_true] at hin
    exact beneath_mapPixel _ _ _ hin.1.1.2
  · rw [backgroundPixel]
    split
    · rename_i hon
      exact beneath_mapPixel _ _ _ hon
    · exact ⟨by decide, fun _ => ⟨rfl, fun _ => rfl, fun h => absurd rfl h⟩⟩

/-- A DMG with its background off has a blank line. -/
theorem drawBlankLine_painted (hly : p.ly < 144) (s : Screen) :
    Total (p.drawBlankLine s)
      (Painted p (fun _ => { index := 0, priority := false, color := getDmgColor 0 }) 0 160 s) := by
  generalize hf : (fun _ : ℕ => MapPixel.mk 0 false (getDmgColor 0)) = f
  refine foldlM_meets (fun done s' => Painted p f 0 done.length s s') (List.range 160) [] s
    (painted_refl p f 0 s) fun done x rest s' hsplit hs' => ?_
  have hget : (List.range 160)[done.length]? = some x := by
    rw [← List.nil_append (List.range 160), ← hsplit, List.getElem?_append_right (Nat.le_refl _),
      Nat.sub_self, List.getElem?_cons_zero]
  obtain ⟨hlt, hx⟩ := List.getElem?_eq_some_iff.mp hget
  rw [List.getElem_range] at hx
  rw [List.length_range] at hlt
  subst hx
  have hblank : f done.length = ⟨0, false, getDmgColor 0⟩ := by rw [← hf]
  have hcell := putPixel_painted (f := f) hly hlt (v := 0) (by rw [hblank]; rfl) s'
  rw [hblank] at hcell
  rw [Mem.set_of_lt _ _ hlt, ok_bind, plot_eq hly hlt]
  show Painted p f 0 (done ++ [done.length]).length s _
  rw [List.length_append]
  exact hs'.trans hcell (Nat.zero_le _) (Nat.le_succ _)

theorem drawBackground_shown (hly : p.ly < 144) (s : Screen) :
    Total (p.drawBackground s) fun s' => s'.windowLineCounter = s.windowLineCounter ∧
      ∀ x : Fin 160, Shows p s' x (p.backgroundPixel x) := by
  by_cases hon : (p.ctx.cgb || p.lcdcBit0) = true
  · refine (drawBackground_painted hly (Bool.or_eq_true_iff.mp hon) s).imp fun s' h =>
      ⟨h.windowLineCounter, fun x => ?_⟩
    rw [backgroundPixel, if_pos hon]
    exact h.shows x (Nat.zero_le _) x.2
  · have hoff : (!p.ctx.cgb && !p.lcdcBit0) = true := by
      rw [← Bool.not_or, Bool.eq_false_iff.mpr hon]
      rfl
    rw [drawBackground]
    dsimp only
    rw [if_pos hoff]
    refine (drawBlankLine_painted hly _).imp fun s' h => ⟨h.windowLineCounter, fun x => ?_⟩
    rw [backgroundPixel, if_neg hon]
    exact h.shows x (Nat.zero_le _) x.2

theorem drawWindowLine_shown (hly : p.ly < 144) {s : Screen}
    (hcounter : s.windowLineCounter = p.screen.windowLineCounter)
    (hsafe : p.windowOn = true → p.screen.windowLineCounter < 0x4000)
    (hs : ∀ x : Fin 160, Shows p s x (p.backgroundPixel x)) :
    Total (p.drawWindowLine s) fun r => ∀ x : Fin 160, Shows p r.2 x (p.beneath x) := by
  by_cases hon : p.windowOn = true
  · refine (drawWindowLine_painted hly hon (hcounter ▸ hsafe hon)).imp fun r hr x => ?_
    obtain ⟨s1, hpaint, hr⟩ := hr
    rw [hr, beneath, hon, Bool.true_and]
    by_cases hx : p.wx.toNat - 7 ≤ x
    · rw [decide_eq_true hx, if_pos rfl, ← hcounter]
      have hshows := hpaint.shows x hx x.2
      exact ⟨hshows.mask, hshows.color⟩
    · rw [decide_eq_false hx, if_neg Bool.false_ne_true]
      refine ⟨?_, fun y hy => ?_⟩
      · show (s1.bgScanlineMask.cell x).toNat = _
        rw [hpaint.mask x fun hin => hx hin.1]
        exact (hs x).mask
      · show (s1.rt.cell y).cell x = _
        rw [hpaint.rt y x fun hin => hx hin.2.1]
        exact (hs x).color y hy
  · rw [drawWindowLine_eq hly, if_neg hon]
    intro x
    rw [beneath, Bool.eq_false_iff.mpr hon, Bool.false_and, if_neg Bool.false_ne_true]
    exact ⟨(hs x).mask, (hs x).color⟩

/-! ### The line -/

/-- `mode_oam_scan` and then the drawing functions, with no register changed in between: the screen
before the objects, and after. -/
def scanAndDraw (p : Ppu) : Checked (Screen × Screen) := do
  let p ← p.modeOamScan
  let beneath ← p.drawBackground p.screen
  let (_, beneath) ← p.drawWindowLine beneath
  return (beneath, ← p.drawSprites beneath)

/-- **A line.** It is painted from the background and the selected objects. -/
theorem scanAndDraw_paints (hly : p.ly < 144) (hobj : p.lcdcObjEnable = true)
    (hsafe : p.windowOn = true → p.screen.windowLineCounter < 0x4000) :
    Total p.scanAndDraw fun r => ∀ x : Fin 160, Shows p r.1 x (p.beneath x) ∧
      p.pixel r.2 x = Painter.paint (p.cover (p.beneath x) x) (sortSprites p.opri p.selected)
        (p.beneath x).color := by
  rw [scanAndDraw, modeOamScan_eq hly, ok_bind]
  generalize hscanned : ({ p with spriteBuffer := sortSprites p.opri p.selected } : Ppu) = scanned
  have hlyS : scanned.ly < 144 := by rw [← hscanned]; exact hly
  refine (drawBackground_shown hlyS scanned.screen).bind fun s1 h1 => ?_
  refine (drawWindowLine_shown hlyS h1.1 (by rw [← hscanned]; exact hsafe) h1.2).bind fun r h2 => ?_
  obtain ⟨pos, b⟩ := r
  refine (drawSprites_paints hlyS (by rw [← hscanned]; exact hobj)
    (fun sp hsp => ?_) (fun x => beneath_beneath x.1) h2).bind fun s h3 => ?_
  · rw [← hscanned] at hsp ⊢
    exact onLine_of_mem_selected (mem_sortSprites.mp hsp)
  · subst hscanned
    exact fun x => ⟨⟨(h2 x).mask, (h2 x).color⟩, h3 x⟩

/-- With the window on the line and its line counter too large there is no line. -/
theorem scanAndDraw_overflow (hly : p.ly < 144) (hon : p.windowOn = true)
    (hcounter : ¬ p.screen.windowLineCounter < 0x4000) (r : Screen × Screen) :
    p.scanAndDraw ≠ .ok r := by
  intro hr
  rw [scanAndDraw, modeOamScan_eq hly, ok_bind] at hr
  generalize hscanned : ({ p with spriteBuffer := sortSprites p.opri p.selected } : Ppu) = scanned
    at hr
  have hlyS : scanned.ly < 144 := by rw [← hscanned]; exact hly
  have honS : scanned.windowOn = true := by rw [← hscanned]; exact hon
  obtain ⟨s1, hs1, hkept, -⟩ := (drawBackground_shown hlyS scanned.screen).exists_ok
  have hover : ¬ ({ s1 with fetcherX := 0 } : Screen).windowLineCounter < 0x4000 := by
    show ¬ s1.windowLineCounter < 0x4000
    rw [hkept, ← hscanned]
    exact hcounter
  rw [hs1, ok_bind, drawWindowLine_eq hlyS, if_pos honS, lineFuel, drawTiles_overflow _ _ _ hover]
    at hr
  cases hr

/-! ### Priority -/

/-- The selected objects that have a colour in a column. -/
def visibleAt (p : Ppu) (x : ℕ) : List Sprite :=
  p.selected.filter fun sp => p.spriteIndex sp x != 0

/-- What a column is to show over the background pixel: the colour of the visible object with the
highest priority, unless there is none or it is hidden. -/
def composed (p : Ppu) (bg : MapPixel) (x : ℕ) : UInt16 :=
  match top p.opri (p.visibleAt x) with
  | none => bg.color
  | some sp => if p.hides bg sp then bg.color else p.spriteColor sp (p.spriteIndex sp x)

/-- If the visible object with the highest priority is hidden, no other object changes the colour of
the column: of those that are not hidden there is none, or the first has that colour. -/
def Suppresses (p : Ppu) (bg : MapPixel) (x : ℕ) : Prop :=
  ∀ sp ∈ top p.opri (p.visibleAt x), p.hides bg sp = true →
    ∀ sp' ∈ top p.opri ((p.visibleAt x).filter fun sp => !p.hides bg sp),
      p.spriteColor sp' (p.spriteIndex sp' x) = bg.color

instance (p : Ppu) (bg : MapPixel) (x : ℕ) : Decidable (p.Suppresses bg x) :=
  inferInstanceAs (Decidable (∀ sp ∈ top p.opri (p.visibleAt x), p.hides bg sp = true →
    ∀ sp' ∈ top p.opri ((p.visibleAt x).filter fun sp => !p.hides bg sp),
      p.spriteColor sp' (p.spriteIndex sp' x) = bg.color))

/-- On a DMG hidden objects are opaque. -/
theorem paint_cover_dmg (hcgb : p.ctx.cgb = false) (bg : MapPixel) (x : ℕ) :
    Painter.paint (p.cover bg x) (sortSprites p.opri p.selected) bg.color = p.composed bg x := by
  have hcover : ∀ sp ∈ sortSprites p.opri p.selected, p.cover bg x sp =
      if p.spriteIndex sp x != 0 then
        some (if p.hides bg sp then bg.color else p.spriteColor sp (p.spriteIndex sp x))
      else none := fun sp _ => by
    rw [cover, hcgb]
    by_cases h0 : p.spriteIndex sp x = 0
    · simp [h0]
    · rw [if_neg h0, if_pos (bne_iff_ne.mpr h0)]
      cases p.hides bg sp <;> rfl
  rw [Painter.paint_eq_find? hcover, find?_reverse_sortSprites, composed, visibleAt]
  cases top p.opri (p.selected.filter fun sp => p.spriteIndex sp x != 0) <;> rfl

/-- On a CGB they are transparent. -/
theorem paint_cover_cgb (hcgb : p.ctx.cgb = true) (bg : MapPixel) (x : ℕ) :
    Painter.paint (p.cover bg x) (sortSprites p.opri p.selected) bg.color =
      ((top p.opri ((p.visibleAt x).filter fun sp => !p.hides bg sp)).map fun sp =>
        p.spriteColor sp (p.spriteIndex sp x)).getD bg.color := by
  have hcover : ∀ sp ∈ sortSprites p.opri p.selected, p.cover bg x sp =
      if !p.hides bg sp && p.spriteIndex sp x != 0 then
        some (p.spriteColor sp (p.spriteIndex sp x))
      else none := fun sp _ => by
    rw [cover, hcgb]
    by_cases h0 : p.spriteIndex sp x = 0
    · simp [h0]
    · rw [if_neg h0, bne_iff_ne.mpr h0]
      cases p.hides bg sp <;> rfl
  rw [Painter.paint_eq_find? hcover, find?_reverse_sortSprites, visibleAt, List.filter_filter]

/-- So a column of a CGB shows what it is to show exactly when the first visible object suppresses
the others. -/
theorem paint_cover_cgb_eq_iff (hcgb : p.ctx.cgb = true) (bg : MapPixel) (x : ℕ) :
    Painter.paint (p.cover bg x) (sortSprites p.opri p.selected) bg.color = p.composed bg x ↔
      p.Suppresses bg x := by
  rw [paint_cover_cgb hcgb, composed, Suppresses]
  cases hfirst : top p.opri (p.visibleAt x) with
  | none =>
    have hnone : top p.opri ((p.visibleAt x).filter fun sp => !p.hides bg sp) = none := by
      rw [visibleAt, ← find?_reverse_sortSprites, List.find?_eq_none] at hfirst
      rw [visibleAt, List.filter_filter, ← find?_reverse_sortSprites, List.find?_eq_none]
      exact fun sp hsp hand => hfirst sp hsp (Bool.and_eq_true_iff.mp hand).2
    rw [hnone]
    simp
  | some sp =>
    cases hhidden : p.hides bg sp with
    | false =>
      have hsame : top p.opri ((p.visibleAt x).filter fun sp => !p.hides bg sp) = some sp := by
        rw [visibleAt, ← find?_reverse_sortSprites] at hfirst
        rw [visibleAt, List.filter_filter, ← find?_reverse_sortSprites]
        exact Painter.find?_and_of_find? hfirst (by rw [hhidden]; rfl)
      rw [hsame]
      simp [hhidden]
    | true =>
      cases top p.opri ((p.visibleAt x).filter fun sp => !p.hides bg sp) <;> simp [hhidden]

/-- The line can be drawn, and every column shows what it is to show over the background pixel. -/
def Composed (p : Ppu) : Prop :=
  ∃ b s, p.scanAndDraw = .ok (b, s) ∧ ∀ x : Fin 160,
    Shows p b x (p.beneath x) ∧ p.pixel s x = p.composed (p.beneath x) x

/-- A line is composed exactly when it can be drawn and what is painted is what is to be shown. -/
theorem composed_iff_paint (hly : p.ly < 144) (hobj : p.lcdcObjEnable = true) :
    Composed p ↔ (p.windowOn = true → p.screen.windowLineCounter < 0x4000) ∧ ∀ x : Fin 160,
      Painter.paint (p.cover (p.beneath x) x) (sortSprites p.opri p.selected)
        (p.beneath x).color = p.composed (p.beneath x) x := by
  constructor
  · rintro ⟨b, s, hdraw, hshows⟩
    have hsafe : p.windowOn = true → p.screen.windowLineCounter < 0x4000 := fun hon => by
      by_contra hover
      exact scanAndDraw_overflow hly hon hover _ hdraw
    refine ⟨hsafe, fun x => ?_⟩
    have hpaint := (scanAndDraw_paints hly hobj hsafe).of_ok hdraw
    exact (hpaint x).2.symm.trans (hshows x).2
  · rintro ⟨hsafe, hpaint⟩
    obtain ⟨⟨b, s⟩, hdraw, hshows⟩ := (scanAndDraw_paints hly hobj hsafe).exists_ok
    exact ⟨b, s, hdraw, fun x => ⟨(hshows x).1, (hshows x).2.trans (hpaint x)⟩⟩

/-- **DMG.** With the objects on, the scan and the drawing functions compose the line exactly when
the window is off or its line counter is below 2 ^ 14. -/
theorem composed_dmg_iff (hcgb : p.ctx.cgb = false) (hobj : p.lcdcObjEnable = true)
    (hly : p.ly < 144) :
    Composed p ↔ (p.windowOn = true → p.screen.windowLineCounter < 0x4000) := by
  rw [composed_iff_paint hly hobj]
  exact and_iff_left fun x => paint_cover_dmg hcgb _ _

/-- Two objects over each other at the left end of line 0, in tile 0, which has a pixel at its top
left and is all over the background too. -/
def overlapPpu (mode : CompatibilityMode) (front back : UInt8) : Ppu :=
  { Ppu.new .none (.ofMode mode) with
    vram := (markedPpu 0).vram, lcdcObjEnable := true, cgbObPalettes := .fill 0x40 0
    oam := ⟨fun i => [16, 8, 0, front, 16, 8, 0, back].getD i 0⟩ }

theorem composed_dmg_overlap : Composed (overlapPpu .modeDmg 0x80 0) :=
  (composed_dmg_iff rfl rfl (by decide)).mpr fun hon => absurd hon (by decide)

/-- With the window on and its line counter at 2 ^ 14 the line is not drawn. -/
theorem not_composed_dmg : ∃ p : Ppu, p.ctx.cgb = false ∧ p.opri = true ∧
    p.lcdcObjEnable = true ∧ p.ly < 144 ∧ ¬ Composed p := by
  let p : Ppu := { overlapPpu .modeDmg 0x80 0 with
    lcdcWndEnable := true, drawWindow := true
    screen := { (overlapPpu .modeDmg 0x80 0).screen with windowLineCounter := 0x4000 } }
  refine ⟨p, rfl, rfl, rfl, by decide, fun hcomposed => ?_⟩
  have hsafe := ((composed_iff_paint (p := p) (by decide) rfl).mp hcomposed).1
  exact absurd (hsafe (by decide)) (by decide)

/-- **CGB.** Here it also takes that in every column where the first visible object is hidden the
others do not show. -/
theorem composed_cgb_iff (hcgb : p.ctx.cgb = true) (hobj : p.lcdcObjEnable = true)
    (hly : p.ly < 144) :
    Composed p ↔ (p.windowOn = true → p.screen.windowLineCounter < 0x4000) ∧
      ∀ x : Fin 160, p.Suppresses (p.beneath x) x := by
  rw [composed_iff_paint hly hobj]
  exact and_congr_right fun _ => forall_congr' fun x => paint_cover_cgb_eq_iff hcgb _ _

/-- If both objects are hidden, neither shows. -/
theorem composed_cgb_overlap : Composed (overlapPpu .modeCgb 0x80 0x80) :=
  (composed_cgb_iff rfl rfl (by decide)).mpr
    ⟨fun hon => absurd hon (by decide), by decide +kernel⟩

/-- If only the first is, the second does. -/
theorem not_composed_cgb : ∃ p : Ppu, p.ctx.cgb = true ∧ p.lcdcObjEnable = true ∧ p.ly < 144 ∧
    p.windowOn = false ∧ ¬ Composed p := by
  refine ⟨overlapPpu .modeCgb 0x80 0, rfl, rfl, by decide, by decide, fun hcomposed => ?_⟩
  have hpaint := ((composed_iff_paint (p := overlapPpu .modeCgb 0x80 0) (by decide) rfl).mp
    hcomposed).2 0
  exact absurd hpaint (by decide +kernel)

end Ppu

end ZenithGb
