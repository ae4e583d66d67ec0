import Mathlib.Data.Nat.Bitwise
import Mathlib.Data.Nat.Count
import ZenithGb.Ppu.Draw

/-!
# Drawing a line is safe

On a line below 144, drawing touches only the `Screen`, and the one way it can panic is that the
window's line counter has grown beyond what `fetch_bg_tile_number` can multiply. The length of
mode 3 it returns is between 43 and 73 for every content of the sprite buffer, as long as that
holds at most ten entries.

## Main results

* `Ppu.drawTiles_meets` — the loop over the tiles of a line ends at column 160
* `Ppu.fetchLoop_total` — the loop of `calc_mode3_len` ends, and what it can charge
* `Ppu.modeDraw_meets` — drawing a line
-/

namespace ZenithGb

open Outcome

namespace Ppu

/-! ### Pixels and colours -/

/-- The colour bits of every mask cell are a colour. -/
def MaskOk (mask : Mem 160 UInt8) : Prop := ∀ i, (mask.cell i &&& 0x7).toNat < 4

theorem tilePixel_lt (tileLsb tileMsb : UInt8) (bitIdx : ℕ) :
    (tilePixel tileLsb tileMsb bitIdx).toNat < 4 := by
  have hle : ∀ a : UInt8, (a &&& (0x1 : UInt8)).toNat ≤ 1 := fun a => toNat_and_le a 0x1
  unfold tilePixel
  dsimp only
  rw [UInt8.toNat_or]
  refine Nat.or_lt_two_pow (n := 2) (lt_of_le_of_lt (hle _) (by decide)) ?_
  rw [UInt8.toNat_shiftLeft, show (1 : UInt8).toNat % 8 = 1 from rfl, Nat.shiftLeft_eq]
  have := hle (tileMsb >>> UInt8.ofNat bitIdx)
  omega

theorem getCgbColor_total {palettes : Mem 0x40 UInt8} {attrs pixel : UInt8}
    (hpixel : pixel.toNat < 4) :
    Total (getCgbColor palettes (attrs &&& 0x7) pixel) fun _ => True := by
  have hpal : (attrs &&& (0x7 : UInt8)).toNat ≤ 7 := toNat_and_le attrs 0x7
  unfold getCgbColor
  dsimp only
  exact (Mem.meets_get (by omega) _).bind fun _ _ =>
    (Mem.meets_get (by omega) _).bind fun _ _ => trivial

theorem paletteColor_total {palette color : UInt8} (hcolor : color.toNat < 4) :
    Total (paletteColor palette color) fun _ => True := by
  have h : (color * 2).toNat < 8 := by
    rw [UInt8.toNat_mul, show (2 : UInt8).toNat = 2 from rfl]
    omega
  rw [paletteColor, checkedShrU8_of_lt _ h]
  trivial

/-! ### Plotting -/

variable {p : Ppu}

theorem plot_total (hly : p.ly < 144) {x : ℕ} (hx : x < 160) (s : Screen) (color : UInt16) :
    Total (p.plot s x color) fun s' => ∃ rt, s' = { s with rt } := by
  rw [plot]
  refine (Mem.meets_get hly _).bind fun line _ => ?_
  refine (Mem.meets_set hx _ _).bind fun line _ => ?_
  exact (Mem.meets_set hly _ _).bind fun rt _ => ⟨rt, rfl⟩

/-- What drawing part of a line may change: the frame buffer and the mask, which stays a mask of
colours. -/
structure Drawn (s s' : Screen) : Prop where
  windowLineCounter : s'.windowLineCounter = s.windowLineCounter
  fetcherX : s'.fetcherX = s.fetcherX
  mask : MaskOk s.bgScanlineMask → MaskOk s'.bgScanlineMask

theorem Drawn.refl (s : Screen) : Drawn s s := ⟨rfl, rfl, id⟩

theorem Drawn.trans {s s' s'' : Screen} (h : Drawn s s') (h' : Drawn s' s'') : Drawn s s'' :=
  ⟨h'.windowLineCounter.trans h.windowLineCounter, h'.fetcherX.trans h.fetcherX,
    fun hm => h'.mask (h.mask hm)⟩

theorem Drawn.plot {s s' : Screen} (h : ∃ rt, s' = { s with rt }) : Drawn s s' := by
  obtain ⟨rt, rfl⟩ := h
  exact ⟨rfl, rfl, id⟩

theorem MaskOk.put {mask : Mem 160 UInt8} (h : MaskOk mask) (i : Fin 160) {v : UInt8}
    (hv : (v &&& 0x7).toNat < 4) : MaskOk (mask.put i v) := fun j => by
  rw [Mem.put_cell]
  split
  · exact hv
  · exact h j

/-- A colour with or without the priority bit is a mask cell. -/
theorem maskCell_lt (pixel : UInt8) (prio : Bool) :
    (((pixel &&& 0x3) ||| (if prio then 0x80 else 0)) &&& 0x7 : UInt8).toNat < 4 := by
  have key : ∀ (v : BitVec 8) (b : Bool),
      (((v &&& 0x3#8) ||| (if b then 0x80#8 else 0#8)) &&& 0x7#8).toNat < 4 := by decide
  cases prio
  · exact key pixel.toBitVec false
  · exact key pixel.toBitVec true

/-! ### Background and window -/

theorem drawTilePixel_total (hly : p.ly < 144) {x : ℕ} (hx : x < 160)
    (cgbAttrs tileLsb tileMsb : UInt8) (bitIdx : ℕ) (s : Screen) :
    Total (p.drawTilePixel cgbAttrs tileLsb tileMsb bitIdx x s) (Drawn s) := by
  rw [drawTilePixel]
  dsimp only
  have hpixel := tilePixel_lt tileLsb tileMsb
  refine (Mem.meets_set hx _ _).bind fun mask hmask => ?_
  have hd : Drawn s { s with bgScanlineMask := mask } :=
    ⟨rfl, rfl, fun h => hmask ▸ h.put _ (maskCell_lt _ _)⟩
  refine .ite (fun _ => ?_) fun _ => ?_
  · refine (getCgbColor_total (hpixel _)).bind fun color _ => ?_
    exact (plot_total hly hx _ _).imp fun s' hs' => hd.trans (.plot hs')
  · refine (paletteColor_total (hpixel _)).bind fun color _ => ?_
    exact (plot_total hly hx _ _).imp fun s' hs' => hd.trans (.plot hs')

/-- The inner loop stops at column 160, or draws all its pixels and stays below. -/
theorem drawTilePixels_total (hly : p.ly < 144) (cgbAttrs tileLsb tileMsb : UInt8) :
    ∀ (bits : List ℕ) (x : ℕ) (s : Screen), x < 160 →
      Total (p.drawTilePixels cgbAttrs tileLsb tileMsb bits x s) fun r =>
        Drawn s r.2.2 ∧ (r.1 = true ∨ r.1 = false ∧ r.2.1 = x + bits.length ∧ r.2.1 < 160) := by
  intro bits
  induction bits with
  | nil => intro x s hx; exact ⟨.refl s, .inr ⟨rfl, rfl, hx⟩⟩
  | cons bitIdx bits ih =>
    intro x s hx
    rw [drawTilePixels]
    refine (drawTilePixel_total hly hx ..).bind fun s' hs' => ?_
    refine .ite (fun _ => ⟨hs', .inl rfl⟩) fun hne => ?_
    refine (ih (x + 1) s' (by omega)).imp fun r hr => ⟨hs'.trans hr.1, ?_⟩
    rcases hr.2 with hdone | ⟨hgo, hx', hlt⟩
    · exact .inl hdone
    · exact .inr ⟨hgo, by rw [hx', List.length_cons]; omega, hlt⟩

/-- The only way fetching can panic, and only for the window. -/
def RowOverflow (isWindow : Bool) (e : Panic) : Prop := isWindow = true ∧ e = .overflow .windowRow

theorem currentTileIndex_meets (isWindow : Bool) {s : Screen} (hx : s.fetcherX < 32) :
    Meets (p.currentTileIndex isWindow s) (fun _ => isWindow = true → s.windowLineCounter < 0x4000)
      (RowOverflow isWindow) := by
  rw [currentTileIndex]
  cases isWindow with
  | false => exact nofun
  | true =>
    simp only [if_true]
    rw [checkedMul]
    split
    · rename_i hmul
      have hcounter : s.windowLineCounter < 0x4000 := by omega
      rw [ok_bind, checkedAdd_of_lt _ (by omega)]
      exact fun _ => hcounter
    · exact ⟨rfl, rfl⟩

theorem fetchBgTileNumber_meets (isWindow : Bool) {s : Screen} (hx : s.fetcherX < 32) :
    Meets (p.fetchBgTileNumber isWindow s)
      (fun r => r.2 = { s with fetcherX := s.fetcherX + 1 } ∧
        (isWindow = true → s.windowLineCounter < 0x4000))
      (RowOverflow isWindow) := by
  rw [fetchBgTileNumber]
  refine (currentTileIndex_meets isWindow hx).bind fun index hindex => ?_
  rw [checkedAdd_of_lt _ (by omega)]
  exact ⟨rfl, hindex⟩

/-- What drawing a whole line of tiles may change. -/
structure LineDrawn (s s' : Screen) : Prop where
  windowLineCounter : s'.windowLineCounter = s.windowLineCounter
  mask : MaskOk s.bgScanlineMask → MaskOk s'.bgScanlineMask

/-- **The loop over the tiles of a line.** With enough iterations left to reach column 160 it ends
there; the induction is on the iterations, and each but the first draws eight pixels. -/
theorem drawTiles_meets (hly : p.ly < 144) (isWindow : Bool) :
    ∀ (fuel : ℕ) (bits : List ℕ) (x : ℕ) (s : Screen), x < 160 → s.fetcherX + fuel ≤ 32 →
      0 < fuel → 168 ≤ x + bits.length + 8 * fuel →
      Meets (p.drawTiles isWindow fuel bits x s)
        (fun s' => LineDrawn s s' ∧ (isWindow = true → s.windowLineCounter < 0x4000))
        (RowOverflow isWindow) := by
  intro fuel
  induction fuel with
  | zero => intro bits x s _ _ hpos _; exact absurd hpos (Nat.lt_irrefl 0)
  | succ fuel ih =>
    intro bits x s hx hfetch _ hfuel
    rw [drawTiles]
    refine (fetchBgTileNumber_meets isWindow (by omega)).bind fun r hr => ?_
    obtain ⟨⟨cgbAttrs, tile⟩, s1⟩ := r
    obtain ⟨rfl, hwin⟩ := hr
    dsimp only
    rw [assert_of _ hx, ok_bind]
    refine (drawTilePixels_total hly _ _ _ bits x _ hx).ofTotal.bind fun r hr => ?_
    obtain ⟨done, x', s2⟩ := r
    obtain ⟨hd, hend⟩ := hr
    have hl : LineDrawn s s2 := ⟨hd.windowLineCounter, hd.mask⟩
    rcases hend with rfl | ⟨rfl, rfl, hlt⟩
    · exact ⟨hl, hwin⟩
    · dsimp only at hlt
      have hfx : s2.fetcherX = s.fetcherX + 1 := hd.fetcherX
      have hlen : (List.range 8).reverse.length = 8 := rfl
      refine (ih _ _ s2 hlt (by omega) (by omega) (by omega)).imp fun s3 h3 => ⟨?_, hwin⟩
      exact ⟨h3.1.windowLineCounter.trans hl.windowLineCounter, fun h => h3.1.mask (hl.mask h)⟩

theorem drawBlankLine_total (hly : p.ly < 144) (s : Screen) :
    Total (p.drawBlankLine s) (LineDrawn s) := by
  refine foldlM_invariant ⟨rfl, id⟩ fun x hx s' hs' => ?_
  refine (Mem.meets_set (List.mem_range.mp hx) _ _).bind fun mask hmask => ?_
  refine (plot_total hly (List.mem_range.mp hx) _ _).imp fun s'' h => ?_
  obtain ⟨rt, rfl⟩ := h
  exact ⟨hs'.windowLineCounter, fun h => hmask ▸ (hs'.mask h).put _ (by decide)⟩

theorem drawBackground_total (hly : p.ly < 144) (s : Screen) :
    Total (p.drawBackground s) (LineDrawn s) := by
  have hskip : (p.scx &&& (0x7 : UInt8)).toNat ≤ 7 := toNat_and_le p.scx 0x7
  rw [drawBackground]
  dsimp only
  refine .ite (fun _ => ?_) fun _ => ?_
  · exact (drawBlankLine_total hly _).imp fun s' h => ⟨h.windowLineCounter, h.mask⟩
  · rw [assert_of _ hly, ok_bind]
    refine (drawTiles_meets hly false lineFuel _ 0 _ (by omega) ?_ (by decide) ?_).mono ?_ ?_
    · show 0 + 32 ≤ 32
      decide
    · rw [List.length_reverse, List.length_range]
      show 168 ≤ 0 + _ + 8 * 32
      omega
    · exact fun s' h => ⟨h.1.windowLineCounter, h.1.mask⟩
    · exact fun e he => absurd he.1 (by decide)

/-- Drawing the window counts one window line, if it draws anything. -/
structure WindowDrawn (p : Ppu) (s s' : Screen) : Prop where
  windowLineCounter : s'.windowLineCounter = s.windowLineCounter ∨
    p.drawWindow = true ∧ s'.windowLineCounter = s.windowLineCounter + 1
  mask : MaskOk s.bgScanlineMask → MaskOk s'.bgScanlineMask

/-- The one panic of the pixel unit: with the window on, the row of the tile map that the window's
line counter selects can be too large for the source's 16 bits. -/
def WindowOverflow (p : Ppu) (e : Panic) : Prop := p.lcdcWndEnable = true ∧ e = .overflow .windowRow

theorem drawWindowLine_meets (hly : p.ly < 144) (s : Screen) :
    Meets (p.drawWindowLine s) (fun r => WindowDrawn p s r.2) (WindowOverflow p) := by
  rw [drawWindowLine]
  dsimp only
  have hnone : WindowDrawn p s { s with fetcherX := 0 } := ⟨.inl rfl, id⟩
  refine .ite (fun _ => hnone) fun hwnd => .ite (fun _ => hnone) fun hdw =>
    .ite (fun _ => hnone) fun _ => .ite (fun _ => hnone) fun hx => ?_
  rw [assert_of _ hly, ok_bind]
  refine Meets.bind (Q := fun s' => LineDrawn s s' ∧ s.windowLineCounter < 0x4000)
    ((drawTiles_meets hly true lineFuel _ _ _ (by omega) ?_ (by decide) ?_).mono ?_ ?_) ?_
  · show 0 + 32 ≤ 32
    decide
  · show 168 ≤ _ + _ + 8 * 32
    omega
  · exact fun s' h => ⟨⟨h.1.windowLineCounter, h.1.mask⟩, h.2 rfl⟩
  · exact fun e he => ⟨by simpa using hwnd, he.2⟩
  · intro s' ⟨hs', hlt⟩
    have hc := hs'.windowLineCounter
    rw [checkedAdd_of_lt _ (by omega), ok_bind]
    exact ⟨.inr ⟨by simpa using hdw, by rw [hc]⟩, hs'.mask⟩

/-! ### Sprites -/

theorem spritePixel_total (sprite : Sprite) (bitIdx : ℕ) {mask : UInt8}
    (hmask : (mask &&& 0x7).toNat < 4) :
    Total (p.spritePixel sprite bitIdx mask) fun _ => True := by
  have hpixel := tilePixel_lt
  rw [spritePixel]
  dsimp only
  refine .ite (fun _ => trivial) fun _ => .ite (fun _ => trivial) fun _ => .ite (fun _ => ?_)
    fun _ => .ite (fun _ => ?_) fun _ => ?_
  · exact .ite (fun _ => (paletteColor_total hmask).bind fun _ _ => trivial) fun _ => trivial
  · exact (getCgbColor_total (hpixel _ _ _)).bind fun _ _ => trivial
  · exact (paletteColor_total (hpixel _ _ _)).bind fun _ _ => trivial

theorem drawSpriteColumn_total (hly : p.ly < 144) (sprite : Sprite) (bitIdx : ℕ) {s : Screen}
    (hs : MaskOk s.bgScanlineMask) : Total (p.drawSpriteColumn sprite s bitIdx) (Drawn s) := by
  unfold drawSpriteColumn
  dsimp only
  refine .ite (fun _ => .refl s) fun hx => ?_
  refine (Mem.meets_get (show Int.toNat _ < 160 by omega) _).bind fun mask hmask => ?_
  refine (spritePixel_total sprite bitIdx (hmask ▸ hs _)).bind fun color _ => ?_
  cases color with
  | none => exact .refl s
  | some color => exact (plot_total hly (by omega) s color).imp fun _ h => .plot h

theorem drawSprites_total (hly : p.ly < 144) {s : Screen} (hs : MaskOk s.bgScanlineMask) :
    Total (p.drawSprites s) (Drawn s) := by
  rw [drawSprites]
  refine .ite (fun _ => .refl s) fun _ => ?_
  refine foldlM_invariant (.refl s) fun sprite _ s' hs' => ?_
  refine foldlM_invariant hs' fun bitIdx _ s'' hs'' => ?_
  exact (drawSpriteColumn_total hly sprite bitIdx (hs''.mask hs)).imp fun _ h => hs''.trans h

/-! ### The length of mode 3 -/

/-- How many of the first `n` sprites have not been fetched. -/
def unfetched (spriteMask n : ℕ) : ℕ := Nat.count (fun i => spriteMask.testBit i = false) n

theorem unfetched_zero (n : ℕ) : unfetched 0 n = n := by
  induction n with
  | zero => rfl
  | succ n ih => rw [unfetched, Nat.count_succ, ← unfetched, ih]; simp

/-- Fetching a sprite leaves one fewer. -/
theorem unfetched_or {spriteMask k : ℕ} (hk : spriteMask.testBit k = false) :
    ∀ n, unfetched (spriteMask ||| 2 ^ k) n + (if k < n then 1 else 0) =
      unfetched spriteMask n := by
  intro n
  induction n with
  | zero => rfl
  | succ n ih =>
    have hbit : (spriteMask ||| 2 ^ k).testBit n = (spriteMask.testBit n || decide (k = n)) := by
      rw [Nat.testBit_or, Nat.testBit_two_pow]
    unfold unfetched at ih ⊢
    rw [Nat.count_succ, Nat.count_succ, hbit]
    rcases Nat.lt_trichotomy k n with h | rfl | h
    · rw [if_pos h] at ih
      rw [if_pos (show k < n + 1 by omega), decide_eq_false (show ¬ k = n by omega), Bool.or_false]
      omega
    · rw [if_neg (Nat.lt_irrefl k)] at ih
      simp only [hk, decide_true, Bool.or_true, Bool.true_eq_false, if_false, if_true,
        Nat.lt_succ_self]
      omega
    · rw [if_neg (show ¬ k < n by omega)] at ih
      rw [if_neg (show ¬ k < n + 1 by omega), decide_eq_false (show ¬ k = n by omega),
        Bool.or_false]
      omega

/-- What the search from position `i` on says about the sprites. -/
def SearchResult (spriteMask x : ℕ) (sprites : List Sprite) (i : ℕ) : Option ℕ → Prop
  | some spriteBit => ∃ k sp, sprites[k]? = some sp ∧ spriteBit = 2 ^ (i + k) ∧
      spriteMask.testBit (i + k) = false ∧ sp.x.toNat < x + 8
  | none => ∀ k sp, sprites[k]? = some sp → sp.x.toNat < x + 8 →
      spriteMask.testBit (i + k) = true

theorem and_two_pow_eq_zero_iff {spriteMask k : ℕ} :
    spriteMask &&& 2 ^ k = 0 ↔ spriteMask.testBit k = false := by
  rw [Nat.and_comm, Nat.two_pow_and]
  simp

theorem findSprite_result (spriteMask x : ℕ) :
    ∀ (sprites : List Sprite) (i : ℕ), i + sprites.length ≤ 16 →
      Total (findSprite spriteMask x sprites i) (SearchResult spriteMask x sprites i) := by
  intro sprites
  induction sprites with
  | nil => intro i _; exact nofun
  | cons sp rest ih =>
    intro i hi
    rw [List.length_cons] at hi
    rw [findSprite, spriteBitOf, if_pos (by omega), ok_bind, Nat.one_shiftLeft]
    refine .ite (fun h => ?_) fun h => ?_
    · exact ⟨0, sp, rfl, rfl, and_two_pow_eq_zero_iff.mp h.1, h.2⟩
    · refine (ih (i + 1) (by omega)).imp fun r hr => ?_
      cases r with
      | some spriteBit =>
        obtain ⟨k, sp', hk, hbit, hclear, hlt⟩ := hr
        rw [show i + 1 + k = i + (k + 1) by omega] at hbit hclear
        exact ⟨k + 1, sp', hk, hbit, hclear, hlt⟩
      | none =>
        intro k sp' hk hlt
        cases k with
        | zero =>
          cases hk
          rw [and_two_pow_eq_zero_iff] at h
          by_contra hclear
          exact h ⟨by simpa using hclear, hlt⟩
        | succ k =>
          have := hr k sp' hk hlt
          rwa [show i + 1 + k = i + (k + 1) by omega] at this

variable {sprites : List Sprite} {f : FetchState}

/-- An iteration that finds a sprite. -/
theorem fetchIteration_some {spriteBit : ℕ}
    (hfind : findSprite f.spriteMask f.x sprites 0 = .ok (some spriteBit))
    (hpen : f.spritePenalty + 6 < 2 ^ 16) :
    fetchIteration sprites f = .ok { f with
      spriteMask := f.spriteMask ||| spriteBit, spritePenalty := f.spritePenalty + 6,
      didSpriteFetch := true } := by
  rw [fetchIteration, hfind, ok_bind]
  dsimp only
  rw [checkedAdd_of_lt _ hpen]
  rfl

/-- An iteration that finds none. After a fetch it waits for the pixels that are still missing. -/
theorem fetchIteration_none (hfind : findSprite f.spriteMask f.x sprites 0 = .ok none)
    (hpen : f.spritePenalty + 6 < 2 ^ 16) :
    fetchIteration sprites f = .ok { f with
      spritePenalty := f.spritePenalty + if f.didSpriteFetch then 6 - f.bgFifoCount else 0
      didSpriteFetch := false, bgFifoCount := 8 - (f.x &&& 0x7), x := f.x + 1 } := by
  rw [fetchIteration, hfind, ok_bind]
  dsimp only
  cases hdid : f.didSpriteFetch with
  | true =>
    rw [if_pos rfl, if_pos rfl, checkedAdd_of_lt _ (by omega)]
    rfl
  | false =>
    simp only [Bool.false_eq_true, if_false, pure_bind, hdid]
    rfl

/-- What holds in every iteration of the loop over `n` sprites. Every fetch costs at most 11: six
for itself, and up to five for the pixels it has to wait for. -/
structure FetchInv (n : ℕ) (f : FetchState) : Prop where
  fifo : 1 ≤ f.bgFifoCount
  penalty : f.spritePenalty + (if f.didSpriteFetch then 5 else 0) + 11 * unfetched f.spriteMask n ≤
    11 * n

theorem FetchInv.start (n : ℕ) : FetchInv n fetchStart := by
  refine ⟨by decide, ?_⟩
  show 0 + 0 + 11 * unfetched 0 n ≤ _
  rw [unfetched_zero]
  omega

theorem FetchInv.penalty_lt {n : ℕ} (h : FetchInv n f) (hn : n ≤ 16) :
    f.spritePenalty + 6 < 2 ^ 16 := by
  have := h.penalty
  omega

/-- One iteration keeps the invariant and uses up one sprite or one pixel. -/
theorem fetchIteration_total (hn : sprites.length ≤ 16) (h : FetchInv sprites.length f)
    (hx : f.x < 160) :
    Total (fetchIteration sprites f) fun f' => FetchInv sprites.length f' ∧
      160 - f'.x + unfetched f'.spriteMask sprites.length + 1 =
        160 - f.x + unfetched f.spriteMask sprites.length := by
  have hpen := h.penalty
  have hlt := h.penalty_lt hn
  obtain ⟨r, hfind, hr⟩ := (findSprite_result f.spriteMask f.x sprites 0 (by omega)).exists_ok
  cases r with
  | some b =>
    obtain ⟨k, sp, hk, rfl, hbit, -⟩ := hr
    rw [Nat.zero_add] at hbit hfind
    have hklt := (List.getElem?_eq_some_iff.mp hk).1
    have hleft := unfetched_or hbit sprites.length
    rw [if_pos hklt] at hleft
    rw [fetchIteration_some hfind hlt]
    refine ⟨⟨h.fifo, ?_⟩, ?_⟩
    · show f.spritePenalty + 6 + (if true then 5 else 0) +
        11 * unfetched (f.spriteMask ||| 2 ^ k) sprites.length ≤ _
      simp only [if_true]
      omega
    · show 160 - f.x + unfetched (f.spriteMask ||| 2 ^ k) sprites.length + 1 = _
      omega
  | none =>
    have hand : f.x &&& 0x7 ≤ 7 := Nat.and_le_right
    have hfifo := h.fifo
    rw [fetchIteration_none hfind hlt]
    refine ⟨⟨?_, ?_⟩, ?_⟩
    · show 1 ≤ 8 - (f.x &&& 0x7)
      omega
    · have hwait : (if f.didSpriteFetch then 6 - f.bgFifoCount else 0) ≤
          if f.didSpriteFetch then 5 else 0 := by
        split <;> omega
      show f.spritePenalty + (if f.didSpriteFetch then 6 - f.bgFifoCount else 0) + 0 +
        11 * unfetched f.spriteMask sprites.length ≤ _
      omega
    · show 160 - (f.x + 1) + unfetched f.spriteMask sprites.length + 1 = _
      omega

/-- **The loop of `calc_mode3_len` ends**, within as many iterations as there are pixels and
sprites left. -/
theorem fetchLoop_total (hn : sprites.length ≤ 16) :
    ∀ (fuel : ℕ) (f : FetchState), FetchInv sprites.length f →
      160 - f.x + unfetched f.spriteMask sprites.length ≤ fuel →
      Total (fetchLoop sprites fuel f) (FetchInv sprites.length) := by
  intro fuel
  induction fuel with
  | zero =>
    intro f h hfuel
    rw [fetchLoop, if_neg (by omega)]
    exact h
  | succ fuel ih =>
    intro f h hfuel
    rw [fetchLoop]
    refine .ite (fun hx => ?_) fun _ => h
    exact (fetchIteration_total hn h hx).bind fun f' hf' => ih f' hf'.1 (by omega)

theorem spritePenalty_total (h : p.spriteBuffer.length ≤ 10) :
    Total p.spritePenalty fun n => n ≤ 110 := by
  rw [spritePenalty]
  refine .ite (fun _ => Nat.zero_le _) fun _ => ?_
  have hlen : p.spriteBuffer.reverse.length = p.spriteBuffer.length := List.length_reverse
  refine (fetchLoop_total (by omega) _ fetchStart (.start _) ?_).bind fun f hf => ?_
  · show 160 - 0 + unfetched 0 _ ≤ _
    rw [unfetched_zero]
    omega
  · have := hf.penalty
    show f.spritePenalty ≤ 110
    omega

/-- **Mode 3 takes between 43 and 73 clocks.** -/
theorem calcMode3Len_total (h : p.spriteBuffer.length ≤ 10) (windowPos : Option UInt8) :
    Total (p.calcMode3Len windowPos) fun len => 43 ≤ len ∧ len ≤ 73 := by
  have hscx : (p.scx &&& (0x7 : UInt8)).toNat ≤ 7 := toNat_and_le p.scx 0x7
  have hwin : (if windowPos.isSome then 6 else 0) ≤ 6 := by split <;> omega
  rw [calcMode3Len]
  refine (spritePenalty_total h).bind fun n hn => ?_
  rw [checkedAdd_of_lt _ (by omega), ok_bind,
    checkedAdd_of_lt _ (by simp only [cyclesPerDraw]; omega)]
  show 43 ≤ 43 + _ / 4 ∧ 43 + _ / 4 ≤ 73
  omega

/-! ### A whole line -/

/-- What `modeDraw` does: it replaces the screen, and says how long mode 3 takes. -/
structure LineDone (p : Ppu) (len : ℕ) (p' : Ppu) : Prop where
  screen : ∃ screen, p' = { p with screen } ∧ WindowDrawn p p.screen screen
  lower : 43 ≤ len
  upper : len ≤ 73

/-- **Drawing a line** panics only when the window has counted too many lines. -/
theorem modeDraw_meets (hly : p.ly < 144) (hsprites : p.spriteBuffer.length ≤ 10)
    (hmask : MaskOk p.screen.bgScanlineMask) :
    Meets p.modeDraw (fun r => LineDone p r.1 r.2) (WindowOverflow p) := by
  rw [modeDraw]
  refine (drawBackground_total hly p.screen).ofTotal.bind fun s1 h1 => ?_
  refine (drawWindowLine_meets hly s1).bind fun r h2 => ?_
  obtain ⟨windowPos, s2⟩ := r
  refine (drawSprites_total hly (h2.mask (h1.mask hmask))).ofTotal.bind fun s3 h3 => ?_
  refine (calcMode3Len_total (p := { p with screen := s3 }) hsprites windowPos).ofTotal.bind
    fun len hlen => ?_
  refine ⟨⟨s3, rfl, ?_, fun h => h3.mask (h2.mask (h1.mask h))⟩, hlen.1, hlen.2⟩
  rw [h3.windowLineCounter, ← h1.windowLineCounter]
  exact h2.windowLineCounter

end Ppu

end ZenithGb
