import ZenithGb.Ppu.Frame
import ZenithGb.Ppu.Objects
import ZenithGb.Ppu.Settings

/-!
# The picture

The drawing functions draw a line, and a clock draws at most one. Between two VBlanks all 144 are
drawn, and if nothing a line depends on has changed in between, the picture is the one `Ppu.frame`
computes from the registers and the memories alone: every cell on its own, without a mode machine,
a fetcher, an object buffer, a window latch or a line counter.

The window is what makes this more than 144 lines. Its latch is set on the line WY names and never
before, and from then on its line counter counts the lines that show it, so the row of the window
map on a line is its distance from WY. What a frame leaves there is forgotten in VBlank.

## Main definitions

* `Ppu.look` — what the picture depends on
* `Ppu.linePixel`, `Ppu.frame` — what a column of the current line shows, and a cell of the picture

## Main results

* `Ppu.modeDraw_paints` — drawing a line shows `linePixel` on it, and touches no other line
* `Ppu.Painting.step` — what has been drawn of the frame, after each operation
* `Ppu.frame_picture` — the picture at every VBlank
-/

namespace ZenithGb

open Outcome

namespace Ppu

variable {p p' p₀ : Ppu} {s s' s'' : Screen}

/-! ### The other lines -/

/-- No line but the current one has changed, nor has the window's line counter. -/
structure OthersKept (p : Ppu) (s s' : Screen) : Prop where
  lines : ∀ y : Fin 144, y.1 ≠ p.ly → s'.rt.cell y = s.rt.cell y
  windowLineCounter : s'.windowLineCounter = s.windowLineCounter

theorem OthersKept.refl (p : Ppu) (s : Screen) : p.OthersKept s s := ⟨fun _ _ => rfl, rfl⟩

theorem OthersKept.trans (h : p.OthersKept s s') (h' : p.OthersKept s' s'') :
    p.OthersKept s s'' :=
  ⟨fun y hy => (h'.lines y hy).trans (h.lines y hy),
    h'.windowLineCounter.trans h.windowLineCounter⟩

theorem plot_othersKept (x : ℕ) (color : UInt16) : Yields (p.plot s x color) (p.OthersKept s) := by
  refine (yields_any _).bind fun _ _ => (yields_any _).bind fun line _ => ?_
  have hset : Yields (s.rt.set (Panic.index .ppuDraw) p.ly line) fun rt =>
      ∀ y : Fin 144, y.1 ≠ p.ly → rt.cell y = s.rt.cell y := by
    refine meets_of_ok fun rt hrt y hy => ?_
    obtain ⟨hlt, rfl⟩ := Mem.set_eq_ok.mp hrt
    exact Mem.put_cell_of_ne _ (fun h => hy (congrArg Fin.val h)) _
  exact hset.bind fun rt h => ⟨h, rfl⟩

theorem drawTilePixel_othersKept (cgbAttrs lsb msb : UInt8) (bitIdx x : ℕ) :
    Yields (p.drawTilePixel cgbAttrs lsb msb bitIdx x s) (p.OthersKept s) := by
  refine (yields_any _).bind fun mask _ => Meets.ite (fun _ => ?_) fun _ => ?_
  · refine (yields_any _).bind fun color _ => (plot_othersKept x color).imp fun _ h => ?_
    exact ⟨h.lines, h.windowLineCounter⟩
  · refine (yields_any _).bind fun color _ => (plot_othersKept x color).imp fun _ h => ?_
    exact ⟨h.lines, h.windowLineCounter⟩

theorem drawTilePixels_othersKept (cgbAttrs lsb msb : UInt8) (bits : List ℕ) :
    ∀ x s, Yields (p.drawTilePixels cgbAttrs lsb msb bits x s) fun r => p.OthersKept s r.2.2 := by
  induction bits with
  | nil => exact fun _ s => .refl p s
  | cons bitIdx bits ih =>
    intro x s
    refine (drawTilePixel_othersKept cgbAttrs lsb msb bitIdx x).bind fun s' h => ?_
    exact .ite (fun _ => h) fun _ => (ih (x + 1) s').imp fun _ => h.trans

theorem drawTiles_othersKept (isWindow : Bool) (fuel : ℕ) :
    ∀ bits x s, Yields (p.drawTiles isWindow fuel bits x s) (p.OthersKept s) := by
  induction fuel with
  | zero => exact fun _ _ _ => trivial
  | succ fuel ih =>
    intro bits x s
    have hfetch : Yields (p.fetchBgTileNumber isWindow s) fun r => p.OthersKept s r.2 :=
      (yields_any _).bind fun _ _ => (yields_any _).bind fun _ _ => ⟨fun _ _ => rfl, rfl⟩
    rw [drawTiles]
    refine hfetch.bind ?_
    rintro ⟨⟨cgbAttrs, tile⟩, s1⟩ h1
    refine (yields_any _).bind fun _ _ => (drawTilePixels_othersKept ..).bind ?_
    rintro ⟨done, x', s2⟩ h2
    exact .ite (fun _ => h1.trans h2) fun _ => (ih _ x' s2).imp fun _ => (h1.trans h2).trans

theorem drawBackground_othersKept : Yields (p.drawBackground s) (p.OthersKept s) := by
  have hfetcher : p.OthersKept s { s with fetcherX := 0 } := ⟨fun _ _ => rfl, rfl⟩
  refine .ite (fun _ => ?_) fun _ => ?_
  · refine foldlM_invariant hfetcher fun x _ s' h => (yields_any _).bind fun _ _ => ?_
    exact (plot_othersKept x _).imp fun _ h' => h.trans ⟨h'.lines, h'.windowLineCounter⟩
  · refine (yields_any _).bind fun _ _ => ?_
    exact (drawTiles_othersKept false lineFuel _ 0 _).imp fun _ => hfetcher.trans

/-- Drawing the window touches the other lines as little. -/
theorem drawWindowLine_othersKept : Yields (p.drawWindowLine s) fun r =>
    ∀ y : Fin 144, y.1 ≠ p.ly → r.2.rt.cell y = s.rt.cell y := by
  have hsame : ∀ y : Fin 144, y.1 ≠ p.ly → s.rt.cell y = s.rt.cell y := fun _ _ => rfl
  refine .ite (fun _ => hsame) fun _ => .ite (fun _ => hsame) fun _ => .ite (fun _ => hsame)
    fun _ => .ite (fun _ => hsame) fun _ => (yields_any _).bind fun _ _ => ?_
  exact (drawTiles_othersKept true lineFuel _ _ _).bind fun s' h => (yields_any _).bind
    fun _ _ => h.lines

theorem drawSpriteColumn_othersKept (sprite : Sprite) (bitIdx : ℕ) :
    Yields (p.drawSpriteColumn sprite s bitIdx) (p.OthersKept s) := by
  refine .ite (fun _ => .refl p s) fun _ => (yields_any _).bind fun mask _ =>
    (yields_any _).bind fun color _ => ?_
  cases color with
  | none => exact .refl p s
  | some color => exact plot_othersKept _ color

theorem drawSprites_othersKept : Yields (p.drawSprites s) (p.OthersKept s) := by
  refine .ite (fun _ => .refl p s) fun _ => ?_
  refine foldlM_invariant (I := p.OthersKept s) (.refl p s) fun sprite _ s' h => ?_
  refine foldlM_invariant (I := p.OthersKept s) h fun bitIdx _ s' h => ?_
  exact (drawSpriteColumn_othersKept sprite bitIdx).imp fun _ => h.trans

/-! ### A line -/

/-- The object a column of the line shows, if it shows one: the visible object with the highest
priority, unless it is hidden. On a CGB hidden objects do not count. -/
def frontmost (p : Ppu) (bg : MapPixel) (x : ℕ) : Option Sprite :=
  if !p.lcdcObjEnable then none
  else if p.ctx.cgb then top p.opri ((p.visibleAt x).filter fun sp => !p.hides bg sp)
  else (top p.opri (p.visibleAt x)).filter fun sp => !p.hides bg sp

/-- What a column of the current line shows. -/
def linePixel (p : Ppu) (x : ℕ) : UInt16 :=
  ((p.frontmost (p.beneath x) x).map fun sp => p.spriteColor sp (p.spriteIndex sp x)).getD
    (p.beneath x).color

/-- With the objects on, it is what painting them leaves. -/
theorem paint_cover_eq_linePixel (hobj : p.lcdcObjEnable = true) (x : ℕ) :
    Painter.paint (p.cover (p.beneath x) x) (sortSprites p.opri p.selected) (p.beneath x).color =
      p.linePixel x := by
  rw [linePixel, frontmost, hobj]
  cases hcgb : p.ctx.cgb with
  | true => exact paint_cover_cgb hcgb _ _
  | false =>
    rw [paint_cover_dmg hcgb, composed]
    cases top p.opri (p.visibleAt x) with
    | none => rfl
    | some sp =>
      dsimp only
      rw [Option.filter_some]
      cases p.hides (p.beneath x) sp <;> rfl

/-- The objects of the line are in the buffer, in the order in which they are drawn. -/
def Scanned (p : Ppu) : Prop := p.spriteBuffer = sortSprites p.opri p.selected

/-- What drawing the line leaves on the screen. -/
structure LinePainted (p : Ppu) (s s' : Screen) : Prop where
  line : ∀ x : Fin 160, p.pixel s' x = p.linePixel x
  others : ∀ y : Fin 144, y.1 ≠ p.ly → s'.rt.cell y = s.rt.cell y
  windowLineCounter : s'.windowLineCounter = s.windowLineCounter + if p.windowOn then 1 else 0

theorem drawWindowLine_counts (hly : p.ly < 144) (hsafe : s.windowLineCounter < 0x4000) :
    Yields (p.drawWindowLine s) fun r =>
      r.2.windowLineCounter = s.windowLineCounter + if p.windowOn then 1 else 0 := by
  by_cases hon : p.windowOn = true
  · refine ((drawWindowLine_painted hly hon hsafe).imp fun r hr => ?_).ofTotal
    obtain ⟨s1, -, hr⟩ := hr
    rw [hr, if_pos hon]
  · rw [drawWindowLine_eq hly, if_neg hon, if_neg hon]
    exact rfl

theorem drawSprites_line (hly : p.ly < 144) (hscan : p.Scanned)
    (hs : ∀ x : Fin 160, Shows p s x (p.beneath x)) :
    Total (p.drawSprites s) fun s' => ∀ x : Fin 160, p.pixel s' x = p.linePixel x := by
  have hline : ∀ sp ∈ p.spriteBuffer, p.onLine sp = true := fun sp hsp => by
    rw [hscan] at hsp
    exact onLine_of_mem_selected (mem_sortSprites.mp hsp)
  cases hobj : p.lcdcObjEnable with
  | false =>
    rw [drawSprites, hobj]
    intro x
    rw [linePixel, frontmost, hobj]
    exact (hs x).color _ (Nat.mod_eq_of_lt hly)
  | true =>
    refine (drawSprites_paints hly hobj hline (fun x => beneath_beneath x.1) hs).imp ?_
    intro s' hpaint x
    rw [hpaint x, hscan, paint_cover_eq_linePixel hobj]

/-- **A line.** Drawing it shows `linePixel` in every column. The window counts it if the window is
on it, and no other line changes. -/
theorem modeDraw_paints (hly : p.ly < 144) (hscan : p.Scanned)
    (hsafe : p.screen.windowLineCounter < 0x4000) :
    Total p.modeDraw fun r => 43 ≤ r.1 ∧ ∃ screen, r.2 = { p with screen } ∧
      p.LinePainted p.screen screen := by
  have hlength : p.spriteBuffer.length ≤ 10 := by
    have hselected : p.selected.length ≤ 10 := by
      rw [selected, List.length_take]
      exact Nat.min_le_left ..
    rw [hscan, sortSprites]
    split
    · rwa [List.length_insertionSort, List.length_reverse]
    · rwa [List.length_reverse]
  rw [modeDraw]
  refine ((drawBackground_shown hly p.screen).and drawBackground_othersKept).bind ?_
  rintro s1 ⟨⟨hcounter1, hshown1⟩, hothers1⟩
  have hsafe1 : s1.windowLineCounter < 0x4000 := by rwa [hcounter1]
  refine (((drawWindowLine_shown hly hcounter1 (fun _ => hsafe) hshown1).and
    drawWindowLine_othersKept).and (drawWindowLine_counts hly hsafe1)).bind ?_
  rintro ⟨pos, s2⟩ ⟨⟨hshown2, hothers2⟩, hcounter2⟩
  refine ((drawSprites_line hly hscan hshown2).and drawSprites_othersKept).bind ?_
  rintro s3 ⟨hline, hothers3⟩
  refine (calcMode3Len_total (p := { p with screen := s3 }) hlength pos).bind fun len hlen => ?_
  refine ⟨hlen.1, s3, rfl, hline, fun y hy => ?_, ?_⟩
  · rw [hothers3.lines y hy, hothers2 y hy, hothers1.lines y hy]
  · rw [hothers3.windowLineCounter, hcounter2, hcounter1]

/-! ### The look -/

/-- What the picture depends on. -/
structure Look where
  ctx : GbCtx
  vram : Mem 0x4000 UInt8
  oam : Mem 0xA0 UInt8
  lcdcEnable : Bool
  lcdcWndTilemap : Bool
  lcdcWndEnable : Bool
  lcdcBgWndTiles : Bool
  lcdcBgTilemap : Bool
  lcdcObjSize : Bool
  lcdcObjEnable : Bool
  lcdcBit0 : Bool
  scy : UInt8
  scx : UInt8
  wx : UInt8
  wy : UInt8
  bgp : UInt8
  obp0 : UInt8
  obp1 : UInt8
  cgbBgPalettes : Mem 0x40 UInt8
  cgbObPalettes : Mem 0x40 UInt8
  opri : Bool

def Settings.look (c : Settings) : Look :=
  { ctx := c.ctx, vram := c.vram, oam := c.oam, lcdcEnable := c.lcdcEnable
    lcdcWndTilemap := c.lcdcWndTilemap, lcdcWndEnable := c.lcdcWndEnable
    lcdcBgWndTiles := c.lcdcBgWndTiles, lcdcBgTilemap := c.lcdcBgTilemap
    lcdcObjSize := c.lcdcObjSize, lcdcObjEnable := c.lcdcObjEnable, lcdcBit0 := c.lcdcBit0
    scy := c.scy, scx := c.scx, wx := c.wx, wy := c.wy, bgp := c.bgp, obp0 := c.obp0
    obp1 := c.obp1, cgbBgPalettes := c.cgbBgPalettes, cgbObPalettes := c.cgbObPalettes
    opri := c.opri }

def look (p : Ppu) : Look := p.settings.look

/-- A line depends on the look, on LY and on the window. The rest of the state is taken over. -/
theorem eq_of_look (hlook : p'.look = p.look) (hly : p'.ly = p.ly)
    (hwindow : p'.window = p.window) : p' = { p with
      cyclesMode := p'.cyclesMode, cyclesFrame := p'.cyclesFrame, drawLength := p'.drawLength
      statInterrupt := p'.statInterrupt, spriteBuffer := p'.spriteBuffer
      screen := { p'.screen with windowLineCounter := p.screen.windowLineCounter }
      frameChan := p'.frameChan, statLycSelect := p'.statLycSelect
      statMode2Select := p'.statMode2Select, statMode1Select := p'.statMode1Select
      statMode0Select := p'.statMode0Select, statLycEqLy := p'.statLycEqLy
      statMode := p'.statMode, lyc := p'.lyc, vbk := p'.vbk, bcps := p'.bcps, ocps := p'.ocps
      hblankCycle := p'.hblankCycle, checkInterrupt := p'.checkInterrupt } := by
  obtain ⟨⟩ := p
  obtain ⟨⟩ := p'
  simp only [look, settings, Settings.look, Look.mk.injEq, window, Prod.mk.injEq] at *
  obtain ⟨rfl, rfl, rfl, rfl, rfl, rfl, rfl, rfl, rfl, rfl, rfl, rfl, rfl, rfl, rfl, rfl, rfl, rfl,
    rfl, rfl, rfl⟩ := hlook
  obtain ⟨rfl, hcounter⟩ := hwindow
  subst hly
  rw [← hcounter]

theorem linePixel_congr (hlook : p'.look = p.look) (hly : p'.ly = p.ly)
    (hwindow : p'.window = p.window) (x : ℕ) : p'.linePixel x = p.linePixel x := by
  rw [eq_of_look hlook hly hwindow]
  rfl

theorem windowOn_congr (hlook : p'.look = p.look) (hly : p'.ly = p.ly)
    (hwindow : p'.window = p.window) : p'.windowOn = p.windowOn := by
  rw [eq_of_look hlook hly hwindow]
  rfl

theorem selected_congr (hlook : p'.look = p.look) (hly : p'.ly = p.ly) :
    p'.selected = p.selected := by
  have hoam : p'.oam = p.oam := congrArg Look.oam hlook
  have hsize : p'.lcdcObjSize = p.lcdcObjSize := congrArg Look.lcdcObjSize hlook
  have hentry : p'.oamEntry = p.oamEntry := by
    funext i
    rw [oamEntry, oamEntry, hoam]
  have honline : p'.onLine = p.onLine := by
    funext sp
    rw [onLine, onLine, objHeight, objHeight, hly, hsize]
  rw [selected, selected, hentry, honline]

/-! ### The frame -/

/-- Whether the registers put the window on the lines from WY on. -/
def windowSet (p : Ppu) : Bool :=
  p.lcdcWndEnable && (p.ctx.cgb || p.lcdcBit0) && decide (p.wx.toNat ≤ 166)

/-- The window latch, and the window's line counter, when the lines above `line` have been drawn. -/
def windowAt (p : Ppu) (line : ℕ) : Bool × ℕ :=
  (decide (p.wy.toNat < line), if p.windowSet then line - p.wy.toNat else 0)

/-- The unit at a line of the frame. -/
def atLine (p : Ppu) (line : ℕ) : Ppu :=
  { p with
    ly := line, drawWindow := decide (p.wy.toNat ≤ line)
    screen.windowLineCounter := (p.windowAt line).2 }

/-- A cell of the picture. -/
def frame (p : Ppu) (line x : ℕ) : UInt16 := (p.atLine line).linePixel x

theorem windowAt_zero (p : Ppu) : p.windowAt 0 = (false, 0) := by
  rw [windowAt, decide_eq_false (Nat.not_lt_zero _), Nat.zero_sub, ite_self]

/-- The next line finds the latch as this one leaves it, and the line counted if it shows the
window. -/
theorem windowAt_succ (p : Ppu) (line : ℕ) : p.windowAt (line + 1) =
    (decide (p.wy.toNat ≤ line),
      (p.windowAt line).2 + if (p.atLine line).windowOn then 1 else 0) := by
  have hon : (p.atLine line).windowOn = (p.windowSet && decide (p.wy.toNat ≤ line)) := by
    show (p.lcdcWndEnable && decide (p.wy.toNat ≤ line) && (p.ctx.cgb || p.lcdcBit0) &&
      decide (p.wx.toNat ≤ 166)) = _
    rw [windowSet]
    cases p.lcdcWndEnable <;> cases decide (p.wy.toNat ≤ line) <;> simp
  rw [hon, windowAt, windowAt]
  refine Prod.ext (decide_eq_decide.mpr Nat.lt_succ_iff) ?_
  dsimp only
  cases p.windowSet with
  | false => rfl
  | true =>
    by_cases hwy : p.wy.toNat ≤ line
    · rw [decide_eq_true hwy]
      exact Nat.succ_sub hwy
    · rw [decide_eq_false hwy]
      show line + 1 - _ = line - _ + 0
      omega

/-- Setting the latch on the line WY names. -/
theorem latch_eq {wy : UInt8} {line : ℕ} (hline : line < 256) :
    (decide (wy.toNat < line) || wy == UInt8.ofNat line) = decide (wy.toNat ≤ line) := by
  have hbyte : wy = UInt8.ofNat line ↔ wy.toNat = line := by
    rw [← UInt8.toNat_inj, UInt8.toNat_ofNat_of_lt' hline]
  rw [Bool.eq_iff_iff, Bool.or_eq_true, decide_eq_true_eq, decide_eq_true_eq, beq_iff_eq, hbyte]
  omega

/-! ### What has been drawn -/

/-- The lines of the frame that have been drawn. -/
def linesDone (p : Ppu) : ℕ :=
  match p.statMode with
  | .vBlank => 0
  | .oamScan => p.ly
  | .draw | .hBlank => p.ly + 1

/-- The frame of `p₀`, as far as it has been drawn. -/
structure Painting (p₀ p : Ppu) : Prop where
  look : p.look = p₀.look
  window : p.window = p₀.windowAt p.linesDone
  objects : p.statMode = .oamScan → p.Scanned
  lines : ∀ y : Fin 144, y.1 < p.linesDone → ∀ x : Fin 160,
    (p.screen.rt.cell y).cell x = p₀.frame y x

theorem Painting.start (hvblank : p.statMode = .vBlank) (hwindow : p.window = (false, 0)) :
    Painting p p := by
  have hdone : p.linesDone = 0 := by rw [linesDone, hvblank]
  refine ⟨rfl, ?_, fun hm => ?_, fun y hy => ?_⟩
  · rw [hdone, windowAt_zero, hwindow]
  · rw [hvblank] at hm
    cases hm
  · rw [hdone] at hy
    exact absurd hy (Nat.not_lt_zero _)

/-- At the end of the object scan the line is drawn. -/
theorem Painting.leaveOamScan (h : Painting p₀ p) (hm : p.statMode = .oamScan) (hly : p.ly < 144) :
    Total p.leaveOamScan fun p' => Painting p₀ p' ∧ p'.cyclesMode ≠ 0 := by
  have hdone : p.linesDone = p.ly := by rw [linesDone, hm]
  have hwindow := h.window
  rw [hdone] at hwindow
  have hwy : p.wy = p₀.wy := congrArg Look.wy h.look
  -- The latch is set on the line WY names.
  obtain ⟨q, hq, hqwindow⟩ : ∃ q : Ppu,
      (if p.wy == UInt8.ofNat p.ly then { p with drawWindow := true } else p) = q ∧
      q = { p with drawWindow := decide (p₀.wy.toNat ≤ p.ly) } := by
    refine ⟨_, rfl, ?_⟩
    have hlatch : p.drawWindow = decide (p₀.wy.toNat < p.ly) := congrArg Prod.fst hwindow
    rw [← latch_eq (by omega), ← hlatch, ← hwy]
    split
    · rename_i h
      rw [h, Bool.or_true]
    · rename_i h
      rw [Bool.not_eq_true] at h
      rw [h, Bool.or_false]
  have hcounter : p.screen.windowLineCounter = (p₀.windowAt p.ly).2 := congrArg Prod.snd hwindow
  have hsafe : p.screen.windowLineCounter < 0x4000 := by
    rw [hcounter, windowAt]
    dsimp only
    split <;> omega
  have hqat : q.look = (p₀.atLine p.ly).look ∧ q.ly = (p₀.atLine p.ly).ly ∧
      q.window = (p₀.atLine p.ly).window := by
    rw [hqwindow]
    exact ⟨h.look, rfl, Prod.ext rfl hcounter⟩
  have hscan : q.Scanned := by
    rw [hqwindow]
    exact h.objects hm
  rw [Ppu.leaveOamScan]
  dsimp only
  rw [hq]
  refine (modeDraw_paints (by rw [hqwindow]; exact hly) hscan (by rw [hqwindow]; exact hsafe)).bind
    ?_
  rintro ⟨len, p'⟩ ⟨hlen, screen, rfl, hpaint⟩
  dsimp only at hlen ⊢
  refine ⟨⟨?_, ?_, fun hm' => ?_, fun y hy x => ?_⟩, Nat.ne_of_gt (show 0 < len by omega)⟩
  · rw [hqwindow]
    exact h.look
  · show (q.drawWindow, screen.windowLineCounter) = p₀.windowAt (q.ly + 1)
    rw [windowAt_succ, hpaint.windowLineCounter, windowOn_congr hqat.1 hqat.2.1 hqat.2.2, hqwindow]
    exact Prod.ext rfl (congrArg (· + _) hcounter)
  · cases hm'
  · have hy' : y.1 < q.ly + 1 := hy
    have hqly : q.ly = p.ly := by rw [hqwindow]
    show (screen.rt.cell y).cell x = _
    by_cases hcurrent : y.1 = q.ly
    · have hpixel := hpaint.line x
      rw [pixel, ← hcurrent, Fin.ofNat_val_eq_self] at hpixel
      rw [hpixel, linePixel_congr hqat.1 hqat.2.1 hqat.2.2, frame, hcurrent, hqly]
    · rw [hpaint.others y hcurrent, hqwindow]
      exact h.lines y (by rw [hdone]; omega) x

theorem enterOamScan_eq (hly : p.ly < 144) : p.enterOamScan = .ok { p with
    spriteBuffer := sortSprites p.opri p.selected, cyclesMode := 20, statMode := .oamScan } := by
  rw [enterOamScan, modeOamScan_eq hly]
  rfl

/-- The scan of line 0. -/
theorem leaveVblankLine_scans (hly : p.ly = 153) : Total p.leaveVblankLine fun p' =>
    p' = { p with
      ly := 0, spriteBuffer := sortSprites p.opri ({ p with ly := 0 } : Ppu).selected
      cyclesMode := 20, statMode := .oamScan }.updateLycEqLy := by
  rw [leaveVblankLine, hly]
  refine Meets.bind (Q := fun a => a = 154) rfl fun a ha => ?_
  subst ha
  dsimp only
  rw [if_pos (by decide), enterOamScan_eq (p := { p with ly := 0 }) (by decide : 0 < 144)]
  rfl

/-- Most of what happens to the unit moves the beam at most, and that not past a line. -/
theorem Painting.keep (h : Painting p₀ p) (hlook : p'.look = p.look)
    (hdone : p'.linesDone = p.linesDone) (hwindow : p'.window = p.window)
    (hrt : p'.screen.rt = p.screen.rt) (hscan : p'.statMode = .oamScan → p'.Scanned) :
    Painting p₀ p' := by
  refine ⟨hlook.trans h.look, ?_, hscan, ?_⟩
  · rw [hwindow, hdone, h.window]
  · rw [hrt, hdone]
    exact h.lines

theorem Painting.changeMode (h : Painting p₀ p)
    (hline : if p.statMode = .vBlank then 144 ≤ p.ly ∧ p.ly ≤ 153 else p.ly ≤ 143)
    (hdraw : p.statMode = .draw → 43 ≤ p.drawLength ∧ p.drawLength ≤ 73) (ctx : ClockContext) :
    Total (p.changeMode ctx) fun r => Painting p₀ r.1 ∧ r.1.cyclesMode ≠ 0 := by
  rw [Ppu.changeMode]
  cases hm : p.statMode with
  | oamScan =>
    rw [hm, if_neg (by decide)] at hline
    exact (h.leaveOamScan hm (by omega)).bind fun _ h' => h'
  | draw =>
    have hlen := hdraw hm
    rw [leaveDraw_eq (by omega)]
    refine ⟨h.keep rfl ?_ rfl rfl (fun hm' => by cases hm'), ?_⟩
    · rw [linesDone, linesDone, hm]
    · show 94 - p.drawLength ≠ 0
      omega
  | hBlank =>
    have hdone : p.linesDone = p.ly + 1 := by rw [linesDone, hm]
    rw [hm, if_neg (by decide)] at hline
    rcases Nat.lt_or_eq_of_le hline with hlt | heq
    · dsimp only
      rw [leaveHblank, checkedAdd_of_lt _ (by omega), ok_bind]
      dsimp only
      rw [if_neg (by show ¬ p.ly + 1 ≥ 144; omega),
        enterOamScan_eq (by show p.ly + 1 < 144; omega)]
      exact ⟨h.keep rfl hdone.symm rfl rfl fun _ => rfl, (by decide : (20 : ℕ) ≠ 0)⟩
    · dsimp only
      rw [leaveHblank_vBlank heq]
      refine ⟨⟨h.look, ?_, ?_, fun y hy => ?_⟩, (by decide : (114 : ℕ) ≠ 0)⟩
      · exact (windowAt_zero p₀).symm
      · rintro ⟨⟩
      · exact absurd hy (Nat.not_lt_zero _)
  | vBlank =>
    have hdone : p.linesDone = 0 := by rw [linesDone, hm]
    rw [hm, if_pos rfl] at hline
    rcases Nat.lt_or_eq_of_le hline.2 with hlt | heq
    · dsimp only
      rw [leaveVblankLine_next hlt]
      refine ⟨h.keep rfl ?_ rfl rfl fun hm' => ?_, (by decide : (114 : ℕ) ≠ 0)⟩
      · show (match p.statMode with
          | .vBlank => 0
          | .oamScan => p.ly + 1
          | .draw | .hBlank => p.ly + 1 + 1) = _
        rw [hm, hdone]
      · have hm'' : p.statMode = .oamScan := hm'
        rw [hm] at hm''
        cases hm''
    · dsimp only
      refine (leaveVblankLine_scans heq).bind ?_
      rintro _ rfl
      exact ⟨h.keep rfl hdone.symm rfl rfl fun _ => rfl, (by decide : (20 : ℕ) ≠ 0)⟩

/-- The counters and the STAT interrupt play no part in the picture. -/
theorem Painting.counted {n m : ℕ} {a b c : Bool} (h : Painting p₀ p) : Painting p₀ { p with
    cyclesMode := n, cyclesFrame := m, statInterrupt := a, checkInterrupt := b
    hblankCycle := c } :=
  ⟨h.look, h.window, h.objects, h.lines⟩

/-- A clock goes on with the frame, and does not fail. -/
theorem Painting.clock (h : Painting p₀ p) (hinv : Inv p) (hon : p.lcdcEnable = true) :
    Total (Ppu.step .clock p) (Painting p₀) := by
  refine meets_map.mpr ?_
  have hpos := hinv.cyclesMode
  rcases Nat.lt_or_eq_of_le hpos with hleft | hleft
  · rw [clock_count _ hinv hon hleft]
    obtain ⟨a, b, hst⟩ := checkStatInterrupt_fst { p with
      hblankCycle := false, cyclesFrame := p.cyclesFrame + 1
      cyclesMode := p.cyclesMode - 1 } clearContext
    show Painting p₀ (checkStatInterrupt _ _).1
    rw [hst]
    exact h.counted
  · rw [clock_change _ hinv hon hleft.symm]
    refine Meets.bind (Q := fun r => Painting p₀ r.1 ∧ r.1.cyclesMode ≠ 0 ∧ r.1.cyclesFrame = 0)
      ?_ ?_
    · refine ((h.counted (n := 0) (m := p.cyclesFrame + 1) (a := p.statInterrupt)
        (b := p.checkInterrupt) (c := false)).changeMode hinv.line hinv.drawLength
        clearContext).bind ?_
      rintro ⟨p', ctx⟩ ⟨hp', hleft'⟩
      exact ⟨hp'.counted, hleft', rfl⟩
    · rintro ⟨p', ctx⟩ ⟨hp', hleft', hframe⟩
      refine (meets_assert _ hleft' _).bind fun _ _ => (meets_assert _ hframe _).bind fun _ _ => ?_
      exact hp'.counted

theorem scanned_of_look (hlook : p'.look = p.look) (hly : p'.ly = p.ly)
    (hbuffer : p'.spriteBuffer = p.spriteBuffer) (h : p.Scanned) : p'.Scanned := by
  have hopri : p'.opri = p.opri := congrArg Look.opri hlook
  rw [Scanned, hbuffer, hopri, selected_congr hlook hly]
  exact h

theorem linesDone_of_beam (h : p'.beam = p.beam) : p'.linesDone = p.linesDone := by
  have hm : p'.statMode = p.statMode := congrArg Beam.mode h
  have hly : p'.ly = p.ly := congrArg Beam.ly h
  rw [linesDone, linesDone, hm, hly]

/-- **What has been drawn.** An operation that leaves the look as it is goes on with the frame, or
leaves it as far as it is. -/
theorem Painting.step {op : Op} (h : Painting p₀ p) (hinv : Inv p) (hon : p.lcdcEnable = true)
    (hs : Ppu.step op p = .ok p') (hlook : p'.look = p.look) : Painting p₀ p' := by
  have hkeep : p'.beam = p.beam → p'.window = p.window → p'.screen.rt = p.screen.rt →
      p'.spriteBuffer = p.spriteBuffer → Painting p₀ p' := by
    intro hbeam hwindow hrt hbuffer
    have hmode : p'.statMode = p.statMode := congrArg Beam.mode hbeam
    refine h.keep hlook (linesDone_of_beam hbeam) hwindow hrt fun hm => ?_
    exact scanned_of_look hlook (congrArg Beam.ly hbeam) hbuffer (h.objects (hmode ▸ hm))
  obtain ⟨-, heffect⟩ := effect_of_step hinv hs
  cases heffect with
  | clock => exact (h.clock hinv hon).of_ok hs
  | lcdc data he =>
    -- The LCD stays on, so LCDC is written without `reset`.
    have hdata : lcdBit data = true := by
      have henable : p'.lcdcEnable = p.lcdcEnable := congrArg Look.lcdcEnable hlook
      rw [← hon, ← henable, he]
      rfl
    have hswitch : p.lcdSwitch (lcdBit data) = p := by
      rw [hdata, ← hon]
      exact lcdSwitch_same p
    refine hkeep ?_ ?_ ?_ ?_
    · rw [he, writeLcdc_beam, hdata, if_neg (by simp)]
    · rw [he, writeLcdc_window]
    · rw [he]
      show (p.lcdSwitch (lcdBit data)).screen.rt = _
      rw [hswitch]
    · rw [he]
      show (p.lcdSwitch (lcdBit data)).spriteBuffer = _
      rw [hswitch]
  | aside _ _ ha => exact hkeep ha.beam ha.window (congrArg Screen.rt ha.screen) ha.spriteBuffer

/-! ### The picture -/

/-- In VBlank the window is forgotten. -/
theorem Reachable.window_vBlank (h : Reachable p) :
    p.statMode = .vBlank → p.window = (false, 0) := by
  have hboth : Inv p ∧ (p.statMode = .vBlank → p.window = (false, 0)) := by
    refine Machine.Reachable.induction
      (I := fun p => Inv p ∧ (p.statMode = .vBlank → p.window = (false, 0))) ?_ ?_ h
    · rintro _ ⟨frameChan, ctx, rfl⟩
      exact ⟨Inv.new frameChan ctx, nofun⟩
    · intro op p p' hp hs
      obtain ⟨hinv, heffect⟩ := effect_of_step hp.1 hs
      refine ⟨hinv, fun hm => ?_⟩
      have hmode : p'.beam.mode = .vBlank := hm
      cases heffect with
      | clock hkept htick =>
        generalize p.requestsVblank = vblank at htick
        cases htick with
        | off _ hb hw | count _ _ hb hw =>
          rw [hb] at hmode
          rw [hw]
          exact hp.2 hmode
        | change _ _ htrans =>
          cases htrans with
          | drawLine _ _ _ _ hb | hBlank _ hb | nextLine _ _ hb | newFrame _ _ hb =>
            rw [hb] at hmode
            cases hmode
          | vBlank _ _ _ hw => exact hw
          | vBlankLine hm' _ _ hw =>
            rw [hw]
            exact hp.2 hm'
      | lcdc data he =>
        rw [he, writeLcdc_beam] at hmode
        rw [he, writeLcdc_window]
        split at hmode
        · cases hmode
        · exact hp.2 hmode
      | aside _ _ ha =>
        rw [ha.beam] at hmode
        rw [ha.window]
        exact hp.2 hmode
  exact hboth.2

theorem Painting.lcdcEnable (h : Painting p₀ p) (hon : p₀.lcdcEnable = true) :
    p.lcdcEnable = true :=
  (congrArg Look.lcdcEnable h.look).trans hon

/-- The clock that requests VBlank finds every line drawn. -/
theorem Painting.complete (h : Painting p₀ p) (hinv : Inv p) (hs : Ppu.step .clock p = .ok p')
    (hrequest : p.requestsVblank = true) (y : Fin 144) (x : Fin 160) :
    (p'.screen.rt.cell y).cell x = p₀.frame y x := by
  obtain ⟨-, -, htick⟩ := tick_of_step hinv hs
  rw [hrequest] at htick
  cases htick with
  | change _ _ htrans =>
    cases htrans with
    | vBlank hm hly =>
      have hdone : p.linesDone = 144 := by rw [linesDone, hm, hly]
      rw [rt_of_not_draws hinv hs fun hd => by rw [hd.2.2] at hm; cases hm]
      exact h.lines y (by rw [hdone]; exact y.2) x

/-- Clocks alone draw a frame, up to the clock that enters VBlank. -/
theorem Painting.exec_clock (h : Painting p p) (hinv : Inv p) (hon : p.lcdcEnable = true) :
    ∃ q, Machine.exec Ppu.step (List.replicate (17556 - p.beam.position) .clock) p = .ok q ∧
      q.beam.position = 0 ∧ ∀ (y : Fin 144) (x : Fin 160),
        (q.screen.rt.cell y).cell x = p.frame y x := by
  have hclock : ∀ q : Ppu, Inv q ∧ Painting p q → Total (Ppu.step .clock q) fun q' =>
      Inv q' ∧ Painting p q' := by
    rintro q ⟨hq, hpaint⟩
    obtain ⟨q', hs, hpaint'⟩ := (hpaint.clock hq (hpaint.lcdcEnable hon)).exists_ok
    rw [hs]
    exact ⟨(effect_of_step hq hs).1, hpaint'⟩
  have hlt := hinv.position_lt
  obtain ⟨n, hn⟩ : ∃ n, 17556 - p.beam.position = n + 1 := ⟨17555 - p.beam.position, by omega⟩
  obtain ⟨r, hlen, hin, hstart⟩ := Machine.Run.ofTotal
    (I := fun _ q => Inv q ∧ Painting p q) (fun _ => Op.clock) ⟨hinv, h⟩ (fun _ => hclock) (n + 1)
  have hpainted : ∀ k ≤ n + 1, Inv (r.state k) ∧ Painting p (r.state k) := by
    refine fun k hk => r.invariant (I := fun _ q => Inv q ∧ Painting p q) (m := 0)
      (by rw [hstart]; exact ⟨hinv, h⟩) (fun i _ hi hq => ?_) k (Nat.zero_le k) (by rwa [hlen])
    have hs := r.next i hi
    rw [hin] at hs
    exact (hclock _ hq).of_ok hs
  let lit : LitRun := ⟨r, hstart ▸ hinv, hstart ▸ hon, fun k _ => by rw [hin]; trivial⟩
  have hcount : ∀ k, clocks r k = k := clocks_of_forall hin
  have hs : Ppu.step .clock (r.state n) = .ok (r.state (n + 1)) := by
    have hs := r.next n (by omega)
    rwa [hin] at hs
  have hrequest : (r.state n).requestsVblank = true := by
    rw [lit.requestsVblank_iff (show n < r.length by omega) (by rw [hin])]
    show ((r.state 0).beam.position + clocks r n + 1) % 17556 = 0
    rw [hcount, hstart]
    omega
  refine ⟨r.state (n + 1), ?_, ?_, fun y x => ?_⟩
  · have hexec := r.exec_input (k := n + 1) (by omega)
    rw [hn]
    rwa [hin, hstart, List.map_const', List.length_range] at hexec
  · have hposition := lit.position (show n + 1 ≤ r.length by omega)
    show (r.state (n + 1)).beam.position = 0
    rw [show (r.state (n + 1)).beam.position =
      ((r.state 0).beam.position + clocks r (n + 1)) % 17556 from hposition, hcount, hstart]
    omega
  · obtain ⟨hq, hpaint⟩ := hpainted n (Nat.le_succ n)
    exact hpaint.complete hq hs hrequest y x

/-- **The picture.** From VBlank on, in every run that leaves what the picture depends on as it is,
whatever else it writes, each VBlank finds in the frame buffer the frame of the state the run
started from. Clocks alone are such a run: they do not fail, and draw it in time. -/
theorem frame_picture (hp : Reachable p) (hon : p.lcdcEnable = true)
    (hvblank : p.statMode = .vBlank) :
    (∀ r : Machine.Run step, r.state 0 = p → (∀ k ≤ r.length, (r.state k).look = p.look) →
      ∀ n < r.length, r.input n = .clock → (r.state n).requestsVblank = true →
        ∀ (y : Fin 144) (x : Fin 160),
          ((r.state (n + 1)).screen.rt.cell y).cell x = p.frame y x) ∧
    ∃ q, Machine.exec step (List.replicate (17556 - p.beam.position) .clock) p = .ok q ∧
      q.beam.position = 0 ∧ ∀ (y : Fin 144) (x : Fin 160),
        (q.screen.rt.cell y).cell x = p.frame y x := by
  have hstart : Painting p p := .start hvblank (hp.window_vBlank hvblank)
  refine ⟨fun r hr hlook n hn hc hrequest y x => ?_, hstart.exec_clock hp.inv hon⟩
  obtain ⟨hinv, hpaint⟩ := r.invariant (I := fun _ q => Inv q ∧ Painting p q) (m := 0)
    (by rw [hr]; exact ⟨hp.inv, hstart⟩)
    (fun k _ hk hq => by
      have hs := r.next k hk
      have hsame : (r.state (k + 1)).look = (r.state k).look := by
        rw [hlook (k + 1) hk, hlook k (Nat.le_of_lt hk)]
      exact ⟨(effect_of_step hq.1 hs).1,
        hq.2.step hq.1 (hq.2.lcdcEnable hon) hs hsame⟩)
    n (Nat.zero_le n) (Nat.le_of_lt hn)
  have hs := r.next n hn
  rw [hc] at hs
  exact hpaint.complete hinv hs hrequest y x

/-- A new pixel unit draws its second frame in the 17556 clocks from its first VBlank to the
second. -/
theorem frame_picture_new : ∃ p q : Ppu, Reachable p ∧ p.ly = 144 ∧
    Machine.exec step (List.replicate 17556 .clock) p = .ok q ∧
      ∀ (y : Fin 144) (x : Fin 160), (q.screen.rt.cell y).cell x = p.frame y x := by
  obtain ⟨lit, hlen, hin, hstart⟩ := exists_lit_new .none (.ofMode .modeDmg) 16416
  have hle : 16416 ≤ lit.run.length := by omega
  have hpos : (lit.run.state 16416).beam.position = 0 := by
    rw [lit.position hle, clocks_of_forall hin, hstart]
    rfl
  have hlit := lit.lit hle
  have hly : (lit.run.state 16416).ly = 144 := by
    rw [hlit.1.ly_eq, hpos]
  have hmode : (lit.run.state 16416).statMode = .vBlank := by
    have hline := hlit.1.line
    by_contra hne
    rw [if_neg hne] at hline
    omega
  have hreach : Reachable (lit.run.state 16416) := lit.run.reachable (.start ⟨_, _, hstart⟩) hle
  obtain ⟨q, hexec, -, hframe⟩ := (frame_picture hreach hlit.2 hmode).2
  rw [hpos] at hexec
  exact ⟨_, q, hreach, hly, hexec, hframe⟩

end Ppu

end ZenithGb
