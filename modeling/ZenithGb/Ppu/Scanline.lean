import ZenithGb.Ppu.Pixel

/-!
# The background and the window

`draw_background` and `draw_window` fill a line from the left, tile by tile. What a piece of the
loop does is `Painted`: it shows certain pixels in a range of columns and touches nothing else.
Pieces compose, so the loops are inductions, and what remains of a function is which column of the
map each column of the screen gets.

For the background that is the column the scroll register asks for. For the window it is not, when
its left edge is off the screen: the first tile then shows its left pixels instead of its right
ones.

## Main results

* `Ppu.Painted.trans` — pieces of a line compose
* `Ppu.drawTiles_painted` — what the loop over the tiles paints
* `Ppu.drawBackground_shows` — the background
* `Ppu.drawWindowLine_shows_iff` — the window
-/

namespace ZenithGb

open Outcome

namespace Ppu

variable {p : Ppu} {s s' s'' : Screen}

/-! ### Painting -/

/-- The screen shows a pixel in a column of the current line. -/
structure Shows (p : Ppu) (s : Screen) (x : Fin 160) (px : MapPixel) : Prop where
  mask : (s.bgScanlineMask.cell x).toNat = px.mask
  color : ∀ y : Fin 144, y.1 = p.ly → (s.rt.cell y).cell x = px.color

/-- The pixels `f` are shown from column `lo` to column `hi`, and nothing else has changed. -/
structure Painted (p : Ppu) (f : ℕ → MapPixel) (lo hi : ℕ) (s s' : Screen) : Prop where
  shows : ∀ x : Fin 160, lo ≤ x.1 → x.1 < hi → Shows p s' x (f x)
  mask : ∀ x : Fin 160, ¬ (lo ≤ x.1 ∧ x.1 < hi) →
    s'.bgScanlineMask.cell x = s.bgScanlineMask.cell x
  rt : ∀ (y : Fin 144) (x : Fin 160), ¬ (y.1 = p.ly ∧ lo ≤ x.1 ∧ x.1 < hi) →
    (s'.rt.cell y).cell x = (s.rt.cell y).cell x
  windowLineCounter : s'.windowLineCounter = s.windowLineCounter

variable {f : ℕ → MapPixel} {lo mid hi : ℕ}

theorem painted_refl (p : Ppu) (f : ℕ → MapPixel) (lo : ℕ) (s : Screen) :
    Painted p f lo lo s s where
  shows _ hlo hhi := absurd hhi (Nat.not_lt.mpr hlo)
  mask _ _ := rfl
  rt _ _ _ := rfl
  windowLineCounter := rfl

/-- Pieces of a line compose. -/
theorem Painted.trans (h : Painted p f lo mid s s') (h' : Painted p f mid hi s' s'')
    (hlo : lo ≤ mid) (hhi : mid ≤ hi) : Painted p f lo hi s s'' where
  shows x hx hx' := by
    by_cases hmid : mid ≤ x.1
    · exact h'.shows x hmid hx'
    · have hshows := h.shows x hx (Nat.not_le.mp hmid)
      refine ⟨?_, fun y hy => ?_⟩
      · rw [h'.mask x fun hin => hmid hin.1]
        exact hshows.mask
      · rw [h'.rt y x fun hin => hmid hin.2.1]
        exact hshows.color y hy
  mask x hx := by rw [h'.mask x (by omega), h.mask x (by omega)]
  rt y x hx := by rw [h'.rt y x (by omega), h.rt y x (by omega)]
  windowLineCounter := h'.windowLineCounter.trans h.windowLineCounter

/-- The line ends at column 160. -/
theorem Painted.clip (h : Painted p f lo hi s s') (hhi : 160 ≤ hi) : Painted p f lo 160 s s' where
  shows x hlo _ := h.shows x hlo (Nat.lt_of_lt_of_le x.2 hhi)
  mask x hx := h.mask x fun hin => hx ⟨hin.1, x.2⟩
  rt y x hx := h.rt y x fun hin => hx ⟨hin.1, hin.2.1, x.2⟩
  windowLineCounter := h.windowLineCounter

/-- The fetcher is not part of the picture. -/
theorem Painted.of_fetcherX {fetcherX : ℕ} (h : Painted p f lo hi { s with fetcherX } s') :
    Painted p f lo hi s s' :=
  ⟨h.shows, h.mask, h.rt, h.windowLineCounter⟩

/-! ### The loops -/

theorem putPixel_cell (hly : p.ly < 144) (x x' : Fin 160) (color : UInt16) (s : Screen)
    (y : Fin 144) : ((p.putPixel hly x color s).rt.cell y).cell x' =
      if y.1 = p.ly ∧ x' = x then color else (s.rt.cell y).cell x' := by
  rw [putPixel]
  dsimp only
  rw [Mem.put_cell]
  by_cases hy : y = ⟨p.ly, hly⟩
  · rw [if_pos hy, Mem.put_cell, hy]
    simp only [true_and]
  · rw [if_neg hy, if_neg fun h => hy (Fin.ext h.1)]

/-- A pixel put in its column. -/
theorem putPixel_painted (hly : p.ly < 144) {x : ℕ} (hx : x < 160) {v : UInt8}
    (hv : v.toNat = (f x).mask) (s : Screen) :
    Painted p f x (x + 1) s (p.putPixel hly ⟨x, hx⟩ (f x).color
      { s with bgScanlineMask := s.bgScanlineMask.put ⟨x, hx⟩ v }) := by
  have hmask : ∀ i : Fin 160, (s.bgScanlineMask.put ⟨x, hx⟩ v).cell i =
      if i.1 = x then v else s.bgScanlineMask.cell i := fun i => by
    simp only [Mem.put_cell, Fin.ext_iff]
  refine ⟨fun i hlo hhi => ⟨?_, fun y hy => ?_⟩, fun i hi => ?_, fun y i hi => ?_, rfl⟩
  · show ((s.bgScanlineMask.put ⟨x, hx⟩ v).cell i).toNat = _
    rw [hmask, if_pos (by omega), hv, show i.1 = x by omega]
  · rw [putPixel_cell, if_pos ⟨hy, Fin.ext (show i.1 = x by omega)⟩, show i.1 = x by omega]
  · show (s.bgScanlineMask.put ⟨x, hx⟩ v).cell i = _
    rw [hmask, if_neg (by omega)]
  · rw [putPixel_cell, if_neg]
    rintro ⟨hy, rfl⟩
    exact hi ⟨hy, Nat.le_refl x, Nat.lt_succ_self x⟩

/-- One pixel of a tile. -/
theorem drawTilePixel_painted (hly : p.ly < 144) {x bitIdx : ℕ} (hx : x < 160) (hbit : bitIdx < 8)
    {cgbAttrs lsb msb : UInt8}
    (hf : f x = p.rowPixel (if p.ctx.cgb then cgbAttrs.toNat else 0) lsb msb (7 - bitIdx)) :
    Total (p.drawTilePixel cgbAttrs lsb msb bitIdx x s) fun s' =>
      Painted p f x (x + 1) s s' ∧ s'.fetcherX = s.fetcherX := by
  obtain ⟨v, hv, heq⟩ := drawTilePixel_eq hly hx hbit cgbAttrs lsb msb s
  rw [← hf] at hv heq
  rw [heq]
  exact ⟨putPixel_painted hly hx hv s, rfl⟩

/-- **The pixels of a tile**, up to the end of the line. The induction is on the pixels left. -/
theorem drawTilePixels_painted (hly : p.ly < 144) {cgbAttrs lsb msb : UInt8} :
    ∀ (bits : List ℕ) (x : ℕ) (s : Screen), x < 160 →
      (∀ k b, bits[k]? = some b → x + k < 160 → b < 8 ∧
        f (x + k) = p.rowPixel (if p.ctx.cgb then cgbAttrs.toNat else 0) lsb msb (7 - b)) →
      Total (p.drawTilePixels cgbAttrs lsb msb bits x s) fun r =>
        Painted p f x (x + bits.length) s r.2.2 ∧ r.2.2.fetcherX = s.fetcherX ∧
        r.1 = decide (160 ≤ x + bits.length) ∧
        (x + bits.length < 160 → r.2.1 = x + bits.length) := by
  intro bits
  induction bits with
  | nil =>
    intro x s hx _
    exact ⟨painted_refl p f x s, rfl, (decide_eq_false (Nat.not_le.mpr hx)).symm, fun _ => rfl⟩
  | cons bitIdx bits ih =>
    intro x s hx hf
    obtain ⟨hbit, hpixel⟩ := hf 0 bitIdx rfl hx
    rw [drawTilePixels, List.length_cons]
    refine (drawTilePixel_painted hly hx hbit hpixel).bind fun s1 h1 => ?_
    obtain ⟨h1, hfetch⟩ := h1
    refine .ite (fun hend => ?_) fun hend => ?_
    · have hpart : Painted p f x (x + (bits.length + 1)) s s1 := by
        refine ⟨fun i hlo hhi => h1.shows i hlo (by omega), fun i hi => h1.mask i (by omega),
          fun y i hi => h1.rt y i (by omega), h1.windowLineCounter⟩
      exact ⟨hpart, hfetch, (decide_eq_true (by omega)).symm, fun h => by omega⟩
    · refine (ih (x + 1) s1 (by omega) fun k b hk hlt => ?_).imp fun r hr => ?_
      · have hshift : x + 1 + k = x + (k + 1) := by omega
        rw [hshift] at hlt ⊢
        exact hf (k + 1) b hk hlt
      · obtain ⟨h2, hfetch2, hdone, hx2⟩ := hr
        have hlen : x + 1 + bits.length = x + (bits.length + 1) := by omega
        rw [hlen] at h2 hdone hx2
        exact ⟨h1.trans h2 (Nat.le_succ x) (by omega), hfetch2.trans hfetch, hdone, hx2⟩

/-- Which column of the map each column of the screen gets: from column `x` on the pixels `bits` of
the tile the fetcher is at, and then one tile after the other. -/
structure Columns (p : Ppu) (isWindow : Bool) (col : ℕ → ℕ) (bits : List ℕ) (x : ℕ) (s : Screen) :
    Prop where
  first : ∀ k b, bits[k]? = some b → x + k < 160 →
    b < 8 ∧ col (x + k) = 8 * p.mapTile isWindow s + (7 - b)
  rest : ∀ j, x + bits.length + j < 160 →
    col (x + bits.length + j) = 8 * (p.mapTile isWindow s + 1) + j

/-- The pixels of one tile lie in one entry of the map. -/
theorem mapPixel_of_tile (p : Ppu) (tilemapBit : Bool) (tile row : ℕ) {c : ℕ} (hc : c < 8) :
    let entry := mapEntry tilemapBit (8 * tile) row
    p.mapPixel tilemapBit (8 * tile + c) row = p.rowPixel (p.mapAttr entry)
      (p.readVramBanked ((p.mapAttr entry).testBit 3) (p.tileRow entry row))
      (p.readVramBanked ((p.mapAttr entry).testBit 3) (p.tileRow entry row + 1)) c := by
  have hentry : mapEntry tilemapBit (8 * tile + c) row = mapEntry tilemapBit (8 * tile) row := by
    rw [mapEntry, mapEntry, show (8 * tile + c) / 8 = 8 * tile / 8 by omega]
  rw [mapPixel, hentry, show (8 * tile + c) % 8 = c by omega]

/-- **The tiles of a line.** The induction is on the iterations left; the column map moves on by a
tile with the fetcher. -/
theorem drawTiles_painted (hly : p.ly < 144) (isWindow : Bool) (col : ℕ → ℕ) (row : ℕ) :
    ∀ (fuel : ℕ) (bits : List ℕ) (x : ℕ) (s : Screen), x < 160 → s.fetcherX + fuel ≤ 32 →
      0 < fuel → 168 ≤ x + bits.length + 8 * fuel → p.mapRow isWindow s = row →
      (isWindow = true → s.windowLineCounter < 0x4000) → Columns p isWindow col bits x s →
      Total (p.drawTiles isWindow fuel bits x s)
        (Painted p (fun x => p.mapPixel (p.tilemapBit isWindow) (col x) row) x 160 s) := by
  intro fuel
  induction fuel with
  | zero => intro bits x s _ _ hpos; exact absurd hpos (Nat.lt_irrefl 0)
  | succ fuel ih =>
    intro bits x s hx hfetch _ hfuel hrow hcounter hcol
    rw [drawTiles, fetchBgTileNumber_eq hcounter (by omega)]
    dsimp only
    rw [ok_bind]
    dsimp only
    rw [fetchBgTileTuple_eq, assert_of _ hx, ok_bind]
    refine (drawTilePixels_painted hly
      (f := fun x => p.mapPixel (p.tilemapBit isWindow) (col x) row) bits x _ hx
      fun k b hk hlt => ?_).bind fun r hr => ?_
    · obtain ⟨hb, hcolumn⟩ := hcol.first k b hk hlt
      refine ⟨hb, ?_⟩
      show p.mapPixel _ (col (x + k)) row = _
      rw [hcolumn, mapPixel_of_tile _ _ _ _ (by omega), ← hrow]
      rfl
    · obtain ⟨done, x', s1⟩ := r
      obtain ⟨hpaint, hnext, hdone, hx'⟩ := hr
      dsimp only at hpaint hnext hdone hx' ⊢
      have hpart := hpaint.of_fetcherX
      by_cases hend : 160 ≤ x + bits.length
      · rw [hdone, decide_eq_true hend, if_pos rfl]
        exact hpart.clip hend
      · obtain rfl := hx' (Nat.not_le.mp hend)
        rw [hdone, decide_eq_false hend, if_neg Bool.false_ne_true]
        have hcounter1 : s1.windowLineCounter = s.windowLineCounter := hpart.windowLineCounter
        have htile : p.mapTile isWindow s1 = p.mapTile isWindow s + 1 := by
          rw [mapTile, mapTile, hnext, Nat.add_assoc]
        refine (ih (List.range 8).reverse _ s1 (Nat.not_le.mp hend) (by omega) (by omega) ?_ ?_ ?_
          ⟨fun k b hk hlt => ?_, fun j hj => ?_⟩).imp fun s2 h2 => ?_
        · show 168 ≤ x + bits.length + 8 + 8 * fuel
          omega
        · rw [← hrow, mapRow, mapRow, hcounter1]
        · rw [hcounter1]
          exact hcounter
        · obtain ⟨hk8, rfl⟩ : k < 8 ∧ 7 - k = b := by
            rw [List.getElem?_eq_some_iff] at hk
            obtain ⟨hlen, hget⟩ := hk
            rw [List.length_reverse, List.length_range] at hlen
            rw [List.getElem_reverse, List.getElem_range, List.length_range] at hget
            omega
          rw [hcol.rest k hlt, htile]
          omega
        · rw [htile, Nat.add_assoc (x + bits.length)]
          rw [Nat.add_assoc (x + bits.length)] at hj
          rw [hcol.rest _ hj]
          show 8 * _ + (8 + j) = _
          omega
        · exact hpart.trans h2 (by omega) (by omega)

/-! ### The background -/

theorem getElem?_reverse_range' {start n k b : ℕ}
    (h : (List.range' start n).reverse[k]? = some b) :
    k < n ∧ b = start + (n - 1 - k) := by
  rw [List.getElem?_eq_some_iff] at h
  obtain ⟨hlen, hget⟩ := h
  rw [List.length_reverse, List.length_range'] at hlen
  rw [List.getElem_reverse, List.getElem_range', List.length_range', Nat.one_mul] at hget
  exact ⟨hlen, hget.symm⟩

/-- What `draw_background` does to a line when the background is on. -/
theorem drawBackground_painted (hly : p.ly < 144) (hon : p.ctx.cgb = true ∨ p.lcdcBit0 = true)
    (s : Screen) : Total (p.drawBackground s) (Painted p (fun x =>
      p.mapPixel p.lcdcBgTilemap (x + p.scx.toNat) (p.ly + p.scy.toNat)) 0 160 s) := by
  have hskip : (p.scx &&& (0x7 : UInt8)).toNat = p.scx.toNat % 8 :=
    toNat_and_low (b := 3) rfl p.scx
  have hblank : ¬ (!p.ctx.cgb && !p.lcdcBit0) = true := by
    obtain h | h := hon <;> simp [h]
  rw [drawBackground]
  dsimp only
  rw [if_neg hblank, assert_of _ hly, ok_bind, hskip, List.range_eq_range']
  have htile : p.mapTile false { s with fetcherX := 0 } = p.scx.toNat / 8 := rfl
  refine (drawTiles_painted hly false (fun x => x + p.scx.toNat) (p.ly + p.scy.toNat) lineFuel _ 0
    { s with fetcherX := 0 } (by decide) (Nat.le_refl 32) (by decide) ?_ rfl
    (fun h => absurd h (by decide)) ⟨fun k b hk _ => ?_, fun j _ => ?_⟩).imp
    fun s' h => h.of_fetcherX
  · show 168 ≤ 0 + _ + 8 * 32
    omega
  · obtain ⟨hlt, rfl⟩ := getElem?_reverse_range' hk
    rw [htile]
    omega
  · rw [List.length_reverse, List.length_range', htile]
    omega

/-- **The background.** With the background on, on a line of the screen, drawing it returns, and
every column shows the pixel of the background map that the scroll registers ask for. No other line
changes. -/
theorem drawBackground_shows (hly : p.ly < 144) (hon : p.ctx.cgb = true ∨ p.lcdcBit0 = true)
    (s : Screen) : ∃ s', p.drawBackground s = .ok s' ∧
      (∀ x : Fin 160, Shows p s' x (p.mapPixel p.lcdcBgTilemap ((x + p.scx.toNat) % 256)
        ((p.ly + p.scy.toNat) % 256))) ∧
      ∀ y : Fin 144, y.1 ≠ p.ly → s'.rt.cell y = s.rt.cell y := by
  obtain ⟨s', hs', h⟩ := (drawBackground_painted hly hon s).exists_ok
  refine ⟨s', hs', fun x => ?_, fun y hy => ?_⟩
  · rw [mapPixel_wrap]
    exact h.shows x (Nat.zero_le _) x.2
  · apply Mem.ext
    funext x
    exact h.rt y x fun hin => hy hin.1

/-- A DMG whose tile 0 is blank but for the pixel at its top left, with the window on from column
`wx` - 7. -/
def markedPpu (wx : UInt8) : Ppu :=
  { Ppu.new .none (.ofMode .modeDmg) with
    vram := (Mem.fill 0x4000 0).put 0 0x80, lcdcWndEnable := true, drawWindow := true, wx }

/-- The pixel shows at the left of the line. -/
theorem drawBackground_shows_marked : ∃ s',
    (markedPpu 7).drawBackground (markedPpu 7).screen = .ok s' ∧
      (s'.bgScanlineMask.cell 0).toNat = 1 := by
  obtain ⟨s', hs', hshows, -⟩ :=
    drawBackground_shows (p := markedPpu 7) (by decide) (.inr rfl) (markedPpu 7).screen
  exact ⟨s', hs', (hshows 0).mask.trans (by decide)⟩

/-! ### The window -/

/-- The window is on the line: it is enabled, its line has come, the background is on, and its left
edge is not beyond the right border. -/
def windowOn (p : Ppu) : Bool :=
  p.lcdcWndEnable && p.drawWindow && (p.ctx.cgb || p.lcdcBit0) && decide (p.wx.toNat ≤ 166)

/-- The column of the window map that a column of the screen gets. With the left edge off the screen
the first tile keeps its left pixels. -/
def windowColumn (p : Ppu) (x : ℕ) : ℕ :=
  if p.wx.toNat < 7 ∧ x ≤ p.wx.toNat then x else x + 7 - p.wx.toNat

/-- `draw_window` draws when the window is on the line. -/
theorem drawWindowLine_eq (hly : p.ly < 144) (s : Screen) :
    p.drawWindowLine s =
      if p.windowOn then do
        let s ← p.drawTiles true lineFuel
          (List.range' (7 - p.wx.toNat) (8 - (7 - p.wx.toNat))).reverse (p.wx.toNat - 7)
          { s with fetcherX := 0 }
        let windowLineCounter ← checkedAdd 16 .ppuDraw s.windowLineCounter 1
        return (some (UInt8.ofNat (p.wx.toNat - 7)), { s with windowLineCounter })
      else .ok (none, { s with fetcherX := 0 }) := by
  have hskip : 7 - min p.wx.toNat 7 = 7 - p.wx.toNat := by omega
  have hedge : p.wx.toNat - 7 ≥ 160 ↔ ¬ p.wx.toNat ≤ 166 := by omega
  have hon : (!p.ctx.cgb && !p.lcdcBit0) = !(p.ctx.cgb || p.lcdcBit0) := (Bool.not_or _ _).symm
  unfold drawWindowLine windowOn
  dsimp only
  simp only [hskip, hedge, hon, assert_of _ hly, ok_bind]
  by_cases hwx : p.wx.toNat ≤ 166 <;> cases p.lcdcWndEnable <;> cases p.drawWindow <;>
    cases (p.ctx.cgb || p.lcdcBit0) <;> simp [hwx]

/-- With the window's line counter at 2 ^ 14 or above, fetching its first tile overflows. -/
theorem drawTiles_overflow (fuel : ℕ) (bits : List ℕ) (x : ℕ)
    (hcounter : ¬ s.windowLineCounter < 0x4000) :
    p.drawTiles true (fuel + 1) bits x s = .error (.overflow .windowRow) := by
  have hmul : checkedMul 16 .windowRow 32 (s.windowLineCounter / 8) =
      .error (.overflow .windowRow) :=
    if_neg (by omega)
  rw [drawTiles, fetchBgTileNumber, currentTileIndex, if_pos rfl, hmul]
  rfl

/-- What `draw_window` does to a line when the window is on it. -/
theorem drawWindowLine_painted (hly : p.ly < 144) (hon : p.windowOn = true)
    (hcounter : s.windowLineCounter < 0x4000) :
    Total (p.drawWindowLine s) fun r => ∃ s1, Painted p (fun x =>
        p.mapPixel p.lcdcWndTilemap (p.windowColumn x) s.windowLineCounter)
        (p.wx.toNat - 7) 160 s s1 ∧
      r.2 = { s1 with windowLineCounter := s.windowLineCounter + 1 } := by
  have hwx : p.wx.toNat ≤ 166 := by
    rw [windowOn, Bool.and_eq_true, decide_eq_true_eq] at hon
    exact hon.2
  rw [drawWindowLine_eq hly, if_pos hon]
  have htile : p.mapTile true { s with fetcherX := 0 } = 0 := rfl
  refine (drawTiles_painted hly true p.windowColumn s.windowLineCounter lineFuel _ _
    { s with fetcherX := 0 } (by omega) (Nat.le_refl 32) (by decide) ?_ rfl (fun _ => hcounter)
    ⟨fun k b hk _ => ?_, fun j _ => ?_⟩).bind fun s1 h => ?_
  · show 168 ≤ _ + _ + 8 * 32
    omega
  · obtain ⟨hlt, rfl⟩ := getElem?_reverse_range' hk
    rw [htile, windowColumn]
    split <;> omega
  · rw [List.length_reverse, List.length_range', htile, windowColumn]
    split <;> omega
  · have hkept : s1.windowLineCounter = s.windowLineCounter := h.windowLineCounter
    rw [hkept, checkedAdd_of_lt _ (by omega), ok_bind]
    exact ⟨s1, h.of_fetcherX, rfl⟩

/-- A column shows one pixel. -/
theorem Shows.unique {x : Fin 160} {px px' : MapPixel} (h : Shows p s x px) (h' : Shows p s x px')
    (hly : p.ly < 144) (hpx : px.index < 4) (hpx' : px'.index < 4) : px = px' := by
  have hmask : px.mask = px'.mask := h.mask.symm.trans h'.mask
  have hcolor : px.color = px'.color :=
    (h.color ⟨p.ly, hly⟩ rfl).symm.trans (h'.color ⟨p.ly, hly⟩ rfl)
  obtain ⟨index, priority, color⟩ := px
  obtain ⟨index', priority', color'⟩ := px'
  rw [MapPixel.mask, MapPixel.mask] at hmask
  dsimp only at hmask hcolor hpx hpx'
  have hsame : index = index' ∧ priority = priority' := by
    cases priority <;> cases priority' <;> simp at hmask ⊢ <;> omega
  rw [hsame.1, hsame.2, hcolor]

/-- The line with the window on it: from its left edge on every column shows the pixel of the window
map that lies as far from the map's left edge, and the line counter has counted. -/
structure WindowShown (p : Ppu) (s s' : Screen) : Prop where
  shows : ∀ x : Fin 160, p.wx.toNat - 7 ≤ x.1 → Shows p s' x
    (p.mapPixel p.lcdcWndTilemap (x + 7 - p.wx.toNat) s.windowLineCounter)
  left : ∀ x : Fin 160, x.1 < p.wx.toNat - 7 → s'.bgScanlineMask.cell x = s.bgScanlineMask.cell x ∧
    ∀ y : Fin 144, (s'.rt.cell y).cell x = (s.rt.cell y).cell x
  lines : ∀ y : Fin 144, y.1 ≠ p.ly → s'.rt.cell y = s.rt.cell y
  windowLineCounter : s'.windowLineCounter = s.windowLineCounter + 1

/-- **The window.** With the window on the line, drawing it shows the window map exactly when the
line counter is below 2 ^ 14 and, if the left edge is off the screen, the left pixels of the first
tile, which are shown, look like the ones that should be. -/
theorem drawWindowLine_shows_iff (hly : p.ly < 144) (hon : p.ctx.cgb = true ∨ p.lcdcBit0 = true)
    (hwnd : p.lcdcWndEnable = true) (hdraw : p.drawWindow = true) (hwx : p.wx ≤ 166) (s : Screen) :
    (∃ pos s', p.drawWindowLine s = .ok (pos, s') ∧ WindowShown p s s') ↔
      s.windowLineCounter < 0x4000 ∧ (p.wx < 7 → ∀ x ≤ p.wx.toNat,
        p.mapPixel p.lcdcWndTilemap x s.windowLineCounter =
          p.mapPixel p.lcdcWndTilemap (x + 7 - p.wx.toNat) s.windowLineCounter) := by
  have hwx166 : p.wx.toNat ≤ 166 := UInt8.le_iff_toNat_le.mp hwx
  have hedge : p.wx < 7 ↔ p.wx.toNat < 7 := UInt8.lt_iff_toNat_lt
  have hdrawn : p.windowOn = true := by
    obtain h | h := hon <;> simp [windowOn, hwnd, hdraw, h, hwx166]
  constructor
  · rintro ⟨pos, s', hs', hshown⟩
    have hcounter : s.windowLineCounter < 0x4000 := by
      by_contra hover
      rw [drawWindowLine_eq hly, if_pos hdrawn, lineFuel,
        drawTiles_overflow (s := { s with fetcherX := 0 }) _ _ _ hover] at hs'
      cases hs'
    refine ⟨hcounter, fun hoff x hx => ?_⟩
    have hlt := hedge.mp hoff
    obtain ⟨s1, hpaint, hs1⟩ := (drawWindowLine_painted hly hdrawn hcounter).of_ok hs'
    dsimp only at hs1
    have hx160 : x < 160 := by omega
    have hfrom : p.wx.toNat - 7 ≤ x := by omega
    have hcol : p.windowColumn x = x := if_pos ⟨hlt, hx⟩
    have hleft := hpaint.shows ⟨x, hx160⟩ hfrom hx160
    dsimp only at hleft
    rw [hcol] at hleft
    have hright := hshown.shows ⟨x, hx160⟩ hfrom
    have hsame : Shows p s' ⟨x, hx160⟩ (p.mapPixel p.lcdcWndTilemap x s.windowLineCounter) := by
      rw [hs1]
      exact ⟨hleft.mask, hleft.color⟩
    exact hsame.unique hright hly (rowPixel_index_lt ..) (rowPixel_index_lt ..)
  · rintro ⟨hcounter, hfirst⟩
    obtain ⟨⟨pos, s'⟩, hs', s1, hpaint, hs1⟩ :=
      (drawWindowLine_painted hly hdrawn hcounter).exists_ok
    dsimp only at hs1
    refine ⟨pos, s', hs', ⟨fun x hx => ?_, fun x hx => ?_, fun y hy => ?_, by rw [hs1]⟩⟩
    · have hshows := hpaint.shows x hx x.2
      have hpixel : p.mapPixel p.lcdcWndTilemap (p.windowColumn x) s.windowLineCounter =
          p.mapPixel p.lcdcWndTilemap (x + 7 - p.wx.toNat) s.windowLineCounter := by
        rw [windowColumn]
        split
        · rename_i hleft
          exact hfirst (hedge.mpr hleft.1) x hleft.2
        · rfl
      rw [hpixel] at hshows
      rw [hs1]
      exact ⟨hshows.mask, hshows.color⟩
    · rw [hs1]
      exact ⟨hpaint.mask x fun hin => by omega, fun y => hpaint.rt y x fun hin => by omega⟩
    · rw [hs1]
      apply Mem.ext
      funext x
      exact hpaint.rt y x fun hin => hy hin.1

/-- From column 0 on the window does show its map. -/
theorem drawWindowLine_shows_marked : ∃ pos s',
    (markedPpu 7).drawWindowLine (markedPpu 7).screen = .ok (pos, s') ∧
      WindowShown (markedPpu 7) (markedPpu 7).screen s' :=
  (drawWindowLine_shows_iff (p := markedPpu 7) (by decide) (.inr rfl) rfl rfl (by decide) _).mpr
    ⟨by decide, fun h => absurd h (by decide)⟩

/-- Seven columns further left it still shows the pixel, which is off the screen then. -/
theorem drawWindowLine_shows_wrong : ∃ p : Ppu, p.ly < 144 ∧
    (p.ctx.cgb = true ∨ p.lcdcBit0 = true) ∧ p.lcdcWndEnable = true ∧ p.drawWindow = true ∧
    p.wx ≤ 166 ∧ p.screen.windowLineCounter = 0 ∧
    ¬ ∃ pos s', p.drawWindowLine p.screen = .ok (pos, s') ∧ WindowShown p p.screen s' := by
  refine ⟨markedPpu 0, by decide, .inr rfl, rfl, rfl, by decide, rfl, ?_⟩
  rintro ⟨pos, s', hs', hshown⟩
  have hmask : ((markedPpu 0).drawWindowLine (markedPpu 0).screen).toOption.map
      (fun r => (r.2.bgScanlineMask.cell 0).toNat) = some 1 := by decide +kernel
  rw [hs'] at hmask
  have hone : (s'.bgScanlineMask.cell 0).toNat = 1 := Option.some.inj hmask
  rw [(hshown.shows 0 (Nat.zero_le _)).mask] at hone
  exact absurd hone (by decide)

end Ppu

end ZenithGb
