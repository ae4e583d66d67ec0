import ZenithGb.Lib.Run
import ZenithGb.Ppu.Clock
import ZenithGb.Ppu.DrawSafe

/-!
# The pixel unit: what a clock does

A clock of the pixel unit is described once, by `Ppu.Tick`: one constructor for every way it can
go. What all of them leave alone is `Ppu.Kept`. Everything later about the pixel unit is derived
from these two and from the invariant `Ppu.Inv`, and never unfolds the mode machine again.

## Main results

* `Ppu.clock_meets` — under the invariant every clock is a `Tick`
* `Ppu.Inv.clock`, `Ppu.meets_step` — the invariant is kept by clocks and by bus writes
* `Ppu.exec_new_meets` — so it holds after every sequence of operations from `Ppu.new`
-/

namespace ZenithGb

open Outcome

namespace Ppu

/-! ### The object scan -/

section

variable {p : Ppu}

theorem readSprite_total {oamCursor : ℕ} (h : oamCursor < 40) :
    Total (p.readSprite oamCursor) fun _ => True := by
  rw [readSprite]
  exact (Mem.meets_get (by omega) _).bind fun _ _ => (Mem.meets_get (by omega) _).bind fun _ _ =>
    (Mem.meets_get (by omega) _).bind fun _ _ => (Mem.meets_get (by omega) _).bind fun _ _ =>
      trivial

theorem objOnLine_total (hly : p.ly ≤ 153) (yCoord : ℕ) :
    Total (p.objOnLine yCoord) fun _ => True := by
  have hheight : p.objHeight ≤ 16 := by unfold objHeight; split <;> omega
  rw [objOnLine, checkedAdd_of_lt _ (by omega), ok_bind]
  refine .ite (fun hle => ?_) fun _ => trivial
  rw [checkedAdd_of_lt _ (by omega)]
  trivial

/-- The scan stops at the tenth object. -/
theorem scanOam_total (hly : p.ly ≤ 153) :
    ∀ (cursors : List ℕ) (buffer : List Sprite), (∀ c ∈ cursors, c < 40) → buffer.length < 10 →
      Total (p.scanOam cursors buffer) fun buffer => buffer.length ≤ 10 := by
  intro cursors
  induction cursors with
  | nil => intro buffer _ h; exact Nat.le_of_lt h
  | cons c cursors ih =>
    intro buffer hc h
    have hrest : ∀ c ∈ cursors, c < 40 := fun c' h' => hc c' (List.mem_cons_of_mem c h')
    rw [scanOam]
    refine (readSprite_total (hc c List.mem_cons_self)).bind fun sprite _ => ?_
    refine (objOnLine_total hly _).bind fun hit _ => ?_
    have hlen : (buffer ++ [sprite]).length = buffer.length + 1 := by simp
    refine .ite (fun _ => .ite (fun _ => ?_) fun _ => ?_) fun _ => ih buffer hrest h
    · show (buffer ++ [sprite]).length ≤ 10
      omega
    · exact ih _ hrest (by omega)

theorem modeOamScan_total (hly : p.ly ≤ 153) :
    Total p.modeOamScan fun p' =>
      ∃ buffer, p' = { p with spriteBuffer := buffer } ∧ buffer.length ≤ 10 := by
  rw [modeOamScan]
  refine (scanOam_total hly _ [] (fun c hc => List.mem_range.mp hc) (by decide)).bind
    fun buffer hbuf => ⟨_, rfl, ?_⟩
  rw [sortSprites]
  split
  · rwa [List.length_insertionSort, List.length_reverse]
  · rwa [List.length_reverse]

end

/-! ### What a clock leaves alone -/

/-- The memories and the registers a clock never writes. -/
structure Kept (p p' : Ppu) : Prop where
  vram : p'.vram = p.vram
  oam : p'.oam = p.oam
  vbk : p'.vbk = p.vbk
  ctx : p'.ctx = p.ctx
  lcdcEnable : p'.lcdcEnable = p.lcdcEnable
  lcdcWndEnable : p'.lcdcWndEnable = p.lcdcWndEnable
  wy : p'.wy = p.wy

/-! ### The beam -/

/-- Where the mode machine is: the line, the mode, the clocks left in it, and the length of the
last mode 3. -/
structure Beam where
  ly : ℕ
  mode : PpuMode
  left : ℕ
  drawLength : ℕ
  deriving DecidableEq, Repr

def beam (p : Ppu) : Beam := ⟨p.ly, p.statMode, p.cyclesMode, p.drawLength⟩

/-- The window latch and the window's line counter. -/
def window (p : Ppu) : Bool × ℕ := (p.drawWindow, p.screen.windowLineCounter)

/-- What drawing a line may do to the window: set the latch if WY is met, and count a line if the
latch is set. -/
def WindowStep (p p' : Ppu) : Prop :=
  p'.drawWindow = (p.drawWindow || p.wy == UInt8.ofNat p.ly) ∧
    (p'.screen.windowLineCounter = p.screen.windowLineCounter ∨
      p'.drawWindow = true ∧ p'.screen.windowLineCounter = p.screen.windowLineCounter + 1)

/-- A change of mode, with whether it requests the VBlank interrupt. -/
inductive Transition (p p' : Ppu) : Bool → Prop
  /-- The line is drawn. -/
  | drawLine (len : ℕ) : p.statMode = .oamScan → 43 ≤ len → len ≤ 73 →
      p'.beam = ⟨p.ly, .draw, len, len⟩ → WindowStep p p' → p'.hblankCycle = false →
      Transition p p' false
  /-- Mode 3 ends. -/
  | hBlank : p.statMode = .draw → p'.beam = ⟨p.ly, .hBlank, 94 - p.drawLength, p.drawLength⟩ →
      p'.window = p.window → p'.hblankCycle = false → Transition p p' false
  /-- The next line begins. -/
  | nextLine : p.statMode = .hBlank → p.ly < 143 →
      p'.beam = ⟨p.ly + 1, .oamScan, 20, p.drawLength⟩ → p'.window = p.window →
      p'.hblankCycle = true → Transition p p' false
  /-- The last line ends. -/
  | vBlank : p.statMode = .hBlank → p.ly = 143 → p'.beam = ⟨144, .vBlank, 114, p.drawLength⟩ →
      p'.window = (false, 0) → p'.hblankCycle = true → Transition p p' true
  /-- The next line of VBlank begins. -/
  | vBlankLine : p.statMode = .vBlank → p.ly < 153 →
      p'.beam = ⟨p.ly + 1, .vBlank, 114, p.drawLength⟩ → p'.window = p.window →
      p'.hblankCycle = false → Transition p p' false
  /-- The next frame begins. -/
  | newFrame : p.statMode = .vBlank → p.ly = 153 →
      p'.beam = ⟨0, .oamScan, 20, p.drawLength⟩ → p'.window = p.window →
      p'.hblankCycle = false → Transition p p' false

/-- One clock, with whether it requests the VBlank interrupt. -/
inductive Tick (p p' : Ppu) : Bool → Prop
  /-- The LCD is off. -/
  | off : p.lcdcEnable = false → p'.beam = p.beam → p'.window = p.window →
      p'.hblankCycle = false → Tick p p' false
  /-- Nothing but the counter moves. -/
  | count : p.lcdcEnable = true → 1 < p.cyclesMode →
      p'.beam = { p.beam with left := p.cyclesMode - 1 } → p'.window = p.window →
      p'.hblankCycle = false → Tick p p' false
  /-- The counter runs out and the mode changes. -/
  | change {vblank : Bool} : p.lcdcEnable = true → p.cyclesMode = 1 → Transition p p' vblank →
      Tick p p' vblank

/-- A clock from here runs `mode_draw`: `update_mode` is reached with one cycle left, and calls it
at the end of the object scan only. -/
def Draws (p : Ppu) : Prop := p.lcdcEnable = true ∧ p.cyclesMode = 1 ∧ p.statMode = .oamScan

instance (p : Ppu) : Decidable p.Draws := inferInstanceAs (Decidable (_ ∧ _ ∧ _))

/-! ### The invariant -/

/-- What holds of the pixel unit between two operations. -/
structure Inv (p : Ppu) : Prop where
  /-- LY fits the mode. -/
  line : if p.statMode = .vBlank then 144 ≤ p.ly ∧ p.ly ≤ 153 else p.ly ≤ 143
  cyclesMode : 1 ≤ p.cyclesMode
  /-- In mode 3 the length of mode 3 is known. -/
  drawLength : p.statMode = .draw → 43 ≤ p.drawLength ∧ p.drawLength ≤ 73
  /-- The counter stays within the length of the mode. -/
  within : (p.statMode = .oamScan → p.cyclesMode ≤ 20) ∧
    (p.statMode = .draw → p.cyclesMode ≤ p.drawLength) ∧
    (p.statMode = .hBlank → p.drawLength + p.cyclesMode ≤ 94)
  sprites : p.spriteBuffer.length ≤ 10
  /-- The two counters count the same mode, one up and one down. -/
  cycles : p.cyclesFrame + p.cyclesMode ≤ 114
  mask : MaskOk p.screen.bgScanlineMask
  /-- The flag of HBlank DMA is never seen while VRAM is locked. -/
  hblank : p.hblankCycle = true → p.statMode ≠ .draw

theorem Inv.ly_le (h : Inv p) : p.ly ≤ 153 := by
  have := h.line
  split at this <;> omega

theorem Inv.new (frameChan : FrameChan) (ctx : GbCtx) : Inv (new frameChan ctx) :=
  { line := Nat.zero_le _
    cyclesMode := show 1 ≤ 20 by decide
    drawLength := nofun
    within := ⟨fun _ => Nat.le_refl 20, nofun, nofun⟩
    sprites := Nat.zero_le _
    cycles := show 0 + 20 ≤ 114 by decide
    mask := fun _ => show ((0 : UInt8) &&& 0x7).toNat < 4 by decide
    hblank := nofun }

/-! ### The transitions -/

section

variable {p : Ppu}

theorem leaveOamScan_meets (hly : p.ly < 144) (hsprites : p.spriteBuffer.length ≤ 10)
    (hmask : MaskOk p.screen.bgScanlineMask) :
    Meets p.leaveOamScan
      (fun p' => ∃ len screen, 43 ≤ len ∧ len ≤ 73 ∧
        WindowDrawn { p with drawWindow := p.drawWindow || p.wy == UInt8.ofNat p.ly } p.screen
          screen ∧
        p' = { p with
          drawWindow := p.drawWindow || p.wy == UInt8.ofNat p.ly
          screen, cyclesMode := len, drawLength := len, statMode := .draw })
      (WindowOverflow p) := by
  have hlatch : (if p.wy == UInt8.ofNat p.ly then { p with drawWindow := true } else p) =
      { p with drawWindow := p.drawWindow || p.wy == UInt8.ofNat p.ly } := by
    split
    · rename_i h; rw [h, Bool.or_true]
    · rename_i h; rw [Bool.not_eq_true] at h; rw [h, Bool.or_false]
  rw [leaveOamScan]
  dsimp only
  rw [hlatch]
  refine (modeDraw_meets (p := { p with drawWindow := p.drawWindow || p.wy == UInt8.ofNat p.ly })
    hly hsprites hmask).bind fun r hr => ?_
  obtain ⟨len, p'⟩ := r
  obtain ⟨⟨screen, rfl, hwin⟩, hlo, hhi⟩ := hr
  exact ⟨len, screen, hlo, hhi, hwin, rfl⟩

theorem leaveDraw_eq (h : p.drawLength ≤ 94) :
    p.leaveDraw = .ok { p with
      screen.fetcherX := 0, cyclesMode := 94 - p.drawLength, statMode := .hBlank } := by
  rw [leaveDraw, checkedSub_of_le _ h]
  rfl

theorem enterOamScan_total (hly : p.ly ≤ 153) :
    Total p.enterOamScan fun p' => ∃ buffer, buffer.length ≤ 10 ∧
      p' = { p with spriteBuffer := buffer, cyclesMode := 20, statMode := .oamScan } := by
  rw [enterOamScan]
  refine (modeOamScan_total hly).bind fun p' h => ?_
  obtain ⟨buffer, rfl, hlen⟩ := h
  exact ⟨buffer, hlen, rfl⟩

theorem leaveHblank_nextLine (hly : p.ly < 143) (ctx : ClockContext) :
    Total (p.leaveHblank ctx) fun r => ∃ buffer, buffer.length ≤ 10 ∧
      r = ({ { p with hblankCycle := true, ly := p.ly + 1 }.updateLycEqLy with
        spriteBuffer := buffer, cyclesMode := 20, statMode := .oamScan }, ctx) := by
  rw [leaveHblank, checkedAdd_of_lt _ (by omega), ok_bind]
  refine .ite (fun h => absurd (show p.ly + 1 ≥ 144 from h) (by omega)) fun _ => ?_
  refine (enterOamScan_total (show p.ly + 1 ≤ 153 by omega)).bind fun p' h => ?_
  obtain ⟨buffer, hlen, rfl⟩ := h
  exact ⟨buffer, hlen, rfl⟩

theorem leaveHblank_vBlank (hly : p.ly = 143) (ctx : ClockContext) :
    p.leaveHblank ctx =
      .ok ({ p with hblankCycle := true, ly := 144 }.updateLycEqLy.enterVblank ctx) := by
  rw [leaveHblank, hly]
  rfl

theorem leaveVblankLine_next (hly : p.ly < 153) :
    p.leaveVblankLine = .ok { p with ly := p.ly + 1, cyclesMode := 114 }.updateLycEqLy := by
  rw [leaveVblankLine, checkedAdd_of_lt _ (by omega), ok_bind]
  dsimp only
  rw [if_neg (show ¬ p.ly + 1 ≥ 154 by omega)]
  rfl

theorem leaveVblankLine_newFrame (hly : p.ly = 153) :
    Total p.leaveVblankLine fun p' => ∃ buffer, buffer.length ≤ 10 ∧
      p' = { p with
        ly := 0, spriteBuffer := buffer, cyclesMode := 20,
        statMode := .oamScan }.updateLycEqLy := by
  rw [leaveVblankLine, hly]
  refine Meets.bind (Q := fun a => a = 154) rfl fun a ha => ?_
  subst ha
  dsimp only
  rw [if_pos (by decide)]
  refine (enterOamScan_total (p := { p with ly := 0 }) (Nat.zero_le _)).bind fun p' h => ?_
  obtain ⟨buffer, hlen, rfl⟩ := h
  exact ⟨buffer, hlen, rfl⟩

/-- Entering VBlank requests its interrupt, whether or not the host has gone away. -/
theorem enterVblank_request (p : Ppu) (ctx : ClockContext) :
    (p.enterVblank ctx).2.interrupts &&& interruptBitVblank = interruptBitVblank := by
  have hor : ∀ v : UInt8, (v ||| interruptBitVblank) &&& interruptBitVblank = interruptBitVblank :=
    fun v => UInt8.toBitVec_inj.mp
      ((by decide : ∀ b : BitVec 8, (b ||| 1) &&& 1 = 1) v.toBitVec)
  rw [enterVblank]
  dsimp only
  split <;> exact hor _

end

/-! ### The clock -/

/-- What changing the mode gives. -/
structure Changed (p : Ppu) (ctx : ClockContext) (r : Ppu × ClockContext) (vblank : Bool) :
    Prop where
  kept : Kept p r.1
  sprites : r.1.spriteBuffer.length ≤ 10
  mask : MaskOk r.1.screen.bgScanlineMask
  transition : Transition p r.1 vblank
  /-- Only `mode_draw` paints. -/
  picture : p.statMode ≠ .oamScan → r.1.screen.rt = p.screen.rt
  request : r.2.interrupts &&& interruptBitVblank =
    if vblank then interruptBitVblank else ctx.interrupts &&& interruptBitVblank

theorem changeMode_meets {p : Ppu}
    (hline : if p.statMode = .vBlank then 144 ≤ p.ly ∧ p.ly ≤ 153 else p.ly ≤ 143)
    (hdraw : p.statMode = .draw → 43 ≤ p.drawLength ∧ p.drawLength ≤ 73)
    (hsprites : p.spriteBuffer.length ≤ 10) (hmask : MaskOk p.screen.bgScanlineMask)
    (hblank : p.hblankCycle = false) (ctx : ClockContext) :
    Meets (p.changeMode ctx) (fun r => ∃ vblank, Changed p ctx r vblank)
      (WindowOverflow p) := by
  rw [changeMode]
  cases hmode : p.statMode with
  | oamScan =>
    rw [hmode, if_neg (by decide)] at hline
    refine (leaveOamScan_meets (by omega) hsprites hmask).bind fun p' hp' => ?_
    obtain ⟨len, screen, hlo, hhi, hwin, rfl⟩ := hp'
    exact ⟨false, ⟨rfl, rfl, rfl, rfl, rfl, rfl, rfl⟩, hsprites, hwin.mask hmask,
      .drawLine len hmode hlo hhi rfl ⟨rfl, hwin.windowLineCounter⟩ hblank,
      fun hne => absurd hmode hne, rfl⟩
  | draw =>
    have hlen := hdraw hmode
    rw [leaveDraw_eq (by omega)]
    exact ⟨false, ⟨rfl, rfl, rfl, rfl, rfl, rfl, rfl⟩, hsprites, hmask,
      .hBlank hmode rfl rfl hblank, fun _ => rfl, rfl⟩
  | hBlank =>
    rw [hmode, if_neg (by decide)] at hline
    rcases Nat.lt_or_eq_of_le hline with hlt | heq
    · refine (leaveHblank_nextLine hlt ctx).ofTotal.imp fun r hr => ?_
      obtain ⟨buffer, hlen, rfl⟩ := hr
      exact ⟨false, ⟨rfl, rfl, rfl, rfl, rfl, rfl, rfl⟩, hlen, hmask,
        .nextLine hmode hlt rfl rfl rfl, fun _ => rfl, rfl⟩
    · rw [leaveHblank_vBlank heq]
      refine ⟨true, ⟨rfl, rfl, rfl, rfl, rfl, rfl, rfl⟩, hsprites, hmask,
        .vBlank hmode heq rfl rfl rfl, fun _ => rfl, ?_⟩
      rw [if_pos rfl]
      exact enterVblank_request _ ctx
  | vBlank =>
    rw [hmode, if_pos rfl] at hline
    rcases Nat.lt_or_eq_of_le hline.2 with hlt | heq
    · rw [leaveVblankLine_next hlt]
      exact ⟨false, ⟨rfl, rfl, rfl, rfl, rfl, rfl, rfl⟩, hsprites, hmask,
        .vBlankLine hmode hlt (by rw [beam, ← hmode]; rfl) rfl hblank, fun _ => rfl, rfl⟩
    · refine (leaveVblankLine_newFrame heq).ofTotal.bind fun p' hp' => ?_
      obtain ⟨buffer, hlen, rfl⟩ := hp'
      exact ⟨false, ⟨rfl, rfl, rfl, rfl, rfl, rfl, rfl⟩, hlen, hmask,
        .newFrame hmode heq rfl rfl hblank, fun _ => rfl, rfl⟩

/-- `update_mode` changes the mode and starts counting again. -/
theorem updateMode_meets {p : Ppu}
    (hline : if p.statMode = .vBlank then 144 ≤ p.ly ∧ p.ly ≤ 153 else p.ly ≤ 143)
    (hdraw : p.statMode = .draw → 43 ≤ p.drawLength ∧ p.drawLength ≤ 73)
    (hsprites : p.spriteBuffer.length ≤ 10) (hmask : MaskOk p.screen.bgScanlineMask)
    (hblank : p.hblankCycle = false) (ctx : ClockContext) :
    Meets (p.updateMode ctx)
      (fun r => ∃ p' ctx' vblank, Changed p ctx (p', ctx') vblank ∧
        r = ({ p' with cyclesFrame := 0 }, ctx'))
      (WindowOverflow p) :=
  (changeMode_meets hline hdraw hsprites hmask hblank ctx).bind fun r ⟨vblank, h⟩ =>
    ⟨r.1, r.2, vblank, h, rfl⟩

/-- What a clock from `p` in the context `ctx` gives. -/
structure Clocked (p : Ppu) (ctx : ClockContext) (r : Ppu × ClockContext) (vblank : Bool) :
    Prop where
  inv : Inv r.1
  kept : Kept p r.1
  tick : Tick p r.1 vblank
  /-- Only `mode_draw` paints. -/
  picture : ¬ p.Draws → r.1.screen.rt = p.screen.rt
  request : r.2.interrupts &&& interruptBitVblank =
    if vblank then interruptBitVblank else ctx.interrupts &&& interruptBitVblank

theorem handleStatInterrupt_request (p : Ppu) (ctx : ClockContext) :
    (p.handleStatInterrupt ctx).2.interrupts &&& interruptBitVblank =
      ctx.interrupts &&& interruptBitVblank := by
  have hor : ∀ v : UInt8,
      (v ||| interruptBitLcd) &&& interruptBitVblank = v &&& interruptBitVblank :=
    fun v => UInt8.toBitVec_inj.mp
      ((by decide : ∀ b : BitVec 8, (b ||| 2) &&& 1 = b &&& 1) v.toBitVec)
  rw [handleStatInterrupt]
  dsimp only
  split
  · exact hor _
  · rfl

theorem checkStatInterrupt_request (p : Ppu) (ctx : ClockContext) :
    (p.checkStatInterrupt ctx).2.interrupts &&& interruptBitVblank =
      ctx.interrupts &&& interruptBitVblank := by
  rw [checkStatInterrupt]
  split
  · exact handleStatInterrupt_request p ctx
  · rfl

/-- The STAT interrupt touches only its own two fields. -/
theorem checkStatInterrupt_fst (p : Ppu) (ctx : ClockContext) :
    ∃ a b, (p.checkStatInterrupt ctx).1 = { p with statInterrupt := a, checkInterrupt := b } := by
  rw [checkStatInterrupt]
  split
  · exact ⟨_, _, rfl⟩
  · exact ⟨_, _, rfl⟩

section

variable {p : Ppu} (ctx : ClockContext)

theorem clock_off (hoff : p.lcdcEnable = false) :
    p.clock ctx = .ok ({ p with hblankCycle := false }.checkStatInterrupt ctx) := by
  rw [clock]
  dsimp only
  rw [hoff]
  rfl

theorem clock_count (h : Inv p) (hon : p.lcdcEnable = true) (hleft : 1 < p.cyclesMode) :
    p.clock ctx = .ok ({ p with
      hblankCycle := false, cyclesFrame := p.cyclesFrame + 1
      cyclesMode := p.cyclesMode - 1 }.checkStatInterrupt ctx) := by
  have hcycles := h.cycles
  rw [clock]
  dsimp only
  rw [hon, if_neg (by decide), assert_of _ h.ly_le, ok_bind, checkedAdd_of_lt _ (by omega), ok_bind,
    checkedSub_of_le _ (by omega), ok_bind, if_pos (by omega)]
  rfl

theorem clock_change (h : Inv p) (hon : p.lcdcEnable = true) (hleft : p.cyclesMode = 1) :
    p.clock ctx = (do
      let r ← { p with
        hblankCycle := false, cyclesFrame := p.cyclesFrame + 1, cyclesMode := 0 }.updateMode ctx
      let r := r.1.handleStatInterrupt r.2
      assert .ppuClock (r.1.cyclesMode ≠ 0)
      assert .ppuClock (r.1.cyclesFrame = 0)
      return r) := by
  have hcycles := h.cycles
  rw [clock]
  dsimp only
  rw [hon, if_neg (by decide), assert_of _ h.ly_le, ok_bind, checkedAdd_of_lt _ (by omega), ok_bind,
    checkedSub_of_le _ (by omega), ok_bind, if_neg (by omega), hleft]

end

/-- A transition leaves the machine in a mode that lasts between 20 and 114 clocks. -/
theorem Transition.left {p p' : Ppu} {vblank : Bool} (h : Transition p p' vblank)
    (hlen : p.statMode = .draw → 43 ≤ p.drawLength ∧ p.drawLength ≤ 73) :
    1 ≤ p'.cyclesMode ∧ p'.cyclesMode ≤ 114 := by
  have hbeam : p'.cyclesMode = p'.beam.left := rfl
  cases h with
  | drawLine len _ hlo hhi hb => rw [hbeam, hb]; dsimp only; omega
  | hBlank hmode hb => have := hlen hmode; rw [hbeam, hb]; dsimp only; omega
  | nextLine _ _ hb => rw [hbeam, hb]; dsimp only; omega
  | vBlank _ _ hb => rw [hbeam, hb]; dsimp only; omega
  | vBlankLine _ _ hb => rw [hbeam, hb]; dsimp only; omega
  | newFrame _ _ hb => rw [hbeam, hb]; dsimp only; omega

/-- A transition keeps the line in the range of the mode. -/
theorem Transition.line {p p' : Ppu} {vblank : Bool} (h : Transition p p' vblank)
    (hline : if p.statMode = .vBlank then 144 ≤ p.ly ∧ p.ly ≤ 153 else p.ly ≤ 143) :
    if p'.statMode = .vBlank then 144 ≤ p'.ly ∧ p'.ly ≤ 153 else p'.ly ≤ 143 := by
  have hly : p'.ly = p'.beam.ly := rfl
  have hmode : p'.statMode = p'.beam.mode := rfl
  rw [hly, hmode]
  cases h with
  | drawLine _ hm _ _ hb => rw [hm, if_neg (by decide)] at hline; rw [hb]; exact hline
  | hBlank hm hb => rw [hm, if_neg (by decide)] at hline; rw [hb]; exact hline
  | nextLine _ hlt hb => rw [hb]; exact hlt
  | vBlank _ _ hb => rw [hb, if_pos rfl]; dsimp only; omega
  | vBlankLine hm hlt hb =>
    rw [hm, if_pos rfl] at hline
    rw [hb, if_pos rfl]
    dsimp only
    omega
  | newFrame _ _ hb => rw [hb]; exact Nat.zero_le _

/-- In mode 3 a transition has just measured it, and it is short enough to leave time for
HBlank. -/
theorem Transition.drawLength {p p' : Ppu} {vblank : Bool} (h : Transition p p' vblank) :
    p'.statMode = .draw → 43 ≤ p'.drawLength ∧ p'.drawLength ≤ 73 := by
  have hlen : p'.drawLength = p'.beam.drawLength := rfl
  have hmode : p'.statMode = p'.beam.mode := rfl
  rw [hlen, hmode]
  cases h with
  | drawLine _ _ hlo hhi hb => rw [hb]; exact fun _ => ⟨hlo, hhi⟩
  | hBlank _ hb => rw [hb]; exact nofun
  | nextLine _ _ hb => rw [hb]; exact nofun
  | vBlank _ _ hb => rw [hb]; exact nofun
  | vBlankLine _ _ hb => rw [hb]; exact nofun
  | newFrame _ _ hb => rw [hb]; exact nofun

/-- A transition sets the counter to the length of the new mode. -/
theorem Transition.within {p p' : Ppu} {vblank : Bool} (h : Transition p p' vblank)
    (hlen : p.statMode = .draw → 43 ≤ p.drawLength ∧ p.drawLength ≤ 73) :
    (p'.statMode = .oamScan → p'.cyclesMode ≤ 20) ∧
      (p'.statMode = .draw → p'.cyclesMode ≤ p'.drawLength) ∧
      (p'.statMode = .hBlank → p'.drawLength + p'.cyclesMode ≤ 94) := by
  have hleft : p'.cyclesMode = p'.beam.left := rfl
  have hlength : p'.drawLength = p'.beam.drawLength := rfl
  have hmode : p'.statMode = p'.beam.mode := rfl
  rw [hleft, hlength, hmode]
  cases h with
  | drawLine _ _ _ _ hb => rw [hb]; exact ⟨nofun, fun _ => Nat.le_refl _, nofun⟩
  | hBlank hm hb =>
    have := hlen hm
    rw [hb]
    exact ⟨nofun, nofun, fun _ => by dsimp only; omega⟩
  | nextLine _ _ hb => rw [hb]; exact ⟨fun _ => Nat.le_refl 20, nofun, nofun⟩
  | vBlank _ _ hb => rw [hb]; exact ⟨nofun, nofun, nofun⟩
  | vBlankLine _ _ hb => rw [hb]; exact ⟨nofun, nofun, nofun⟩
  | newFrame _ _ hb => rw [hb]; exact ⟨fun _ => Nat.le_refl 20, nofun, nofun⟩

/-- The transitions that raise the flag of HBlank DMA do not enter mode 3. -/
theorem Transition.hblank {p p' : Ppu} {vblank : Bool} (h : Transition p p' vblank) :
    p'.hblankCycle = true → p'.statMode ≠ .draw := by
  have hmode : p'.statMode = p'.beam.mode := rfl
  rw [hmode]
  cases h with
  | drawLine _ _ _ _ _ _ hf => rw [hf]; exact nofun
  | hBlank _ hb => rw [hb]; exact fun _ => nofun
  | nextLine _ _ hb => rw [hb]; exact fun _ => nofun
  | vBlank _ _ hb => rw [hb]; exact fun _ => nofun
  | vBlankLine _ _ hb => rw [hb]; exact fun _ => nofun
  | newFrame _ _ hb => rw [hb]; exact fun _ => nofun

/-- The counters and the STAT interrupt play no part in a transition. -/
theorem Transition.counted {p p' : Ppu} {vblank : Bool} {n m : ℕ} {a b : Bool}
    (h : Transition { p with hblankCycle := false, cyclesFrame := n, cyclesMode := 0 } p' vblank) :
    Transition p { p' with cyclesFrame := m, statInterrupt := a, checkInterrupt := b } vblank := by
  cases h with
  | drawLine len hm hlo hhi hb hw hf => exact .drawLine len hm hlo hhi hb hw hf
  | hBlank hm hb hw hf => exact .hBlank hm hb hw hf
  | nextLine hm hlt hb hw hf => exact .nextLine hm hlt hb hw hf
  | vBlank hm heq hb hw hf => exact .vBlank hm heq hb hw hf
  | vBlankLine hm hlt hb hw hf => exact .vBlankLine hm hlt hb hw hf
  | newFrame hm heq hb hw hf => exact .newFrame hm heq hb hw hf

/-- **Every clock is a tick.** Under the invariant a clock does one of the things `Tick` lists and
keeps the invariant. The only failure left is in the window's tile address, once its line counter
has passed 0x3FFF. -/
theorem clock_meets {p : Ppu} (h : Inv p) (ctx : ClockContext) :
    Meets (p.clock ctx) (fun r => ∃ vblank, Clocked p ctx r vblank) (WindowOverflow p) := by
  cases hon : p.lcdcEnable with
  | false =>
    rw [clock_off ctx hon]
    obtain ⟨a, b, hst⟩ := checkStatInterrupt_fst { p with hblankCycle := false } ctx
    refine ⟨false, ?_, ?_, ?_, fun _ => ?_, checkStatInterrupt_request _ ctx⟩ <;> rw [hst]
    · exact { h with hblank := nofun }
    · exact ⟨rfl, rfl, rfl, rfl, rfl, rfl, rfl⟩
    · exact .off hon rfl rfl rfl
  | true =>
    have hpos := h.cyclesMode
    rcases Nat.lt_or_eq_of_le hpos with hleft | hleft
    · rw [clock_count ctx h hon hleft]
      obtain ⟨a, b, hst⟩ := checkStatInterrupt_fst { p with
        hblankCycle := false, cyclesFrame := p.cyclesFrame + 1, cyclesMode := p.cyclesMode - 1 } ctx
      refine ⟨false, ?_, ?_, ?_, fun _ => ?_, checkStatInterrupt_request _ ctx⟩ <;> rw [hst]
      · have hcycles := h.cycles
        exact { h with
          cyclesMode := show 1 ≤ p.cyclesMode - 1 by omega
          within :=
            ⟨fun hm => (Nat.sub_le _ _).trans (h.within.1 hm),
              fun hm => (Nat.sub_le _ _).trans (h.within.2.1 hm),
              fun hm => (Nat.add_le_add_left (Nat.sub_le _ _) _).trans (h.within.2.2 hm)⟩
          cycles := show p.cyclesFrame + 1 + (p.cyclesMode - 1) ≤ 114 by omega
          hblank := nofun }
      · exact ⟨rfl, rfl, rfl, rfl, rfl, rfl, rfl⟩
      · exact .count hon hleft rfl rfl rfl
    · rw [clock_change ctx h hon hleft.symm]
      refine (updateMode_meets
        (p := { p with hblankCycle := false, cyclesFrame := p.cyclesFrame + 1, cyclesMode := 0 })
        h.line h.drawLength h.sprites h.mask rfl ctx).bind fun r hr => ?_
      obtain ⟨p', ctx', vblank, hchanged, rfl⟩ := hr
      have hleft' := hchanged.transition.left h.drawLength
      have hpos' : p'.cyclesMode ≠ 0 := Nat.one_le_iff_ne_zero.mp hleft'.1
      refine (meets_assert _ hpos' _).bind fun _ _ => (meets_assert _ rfl _).bind fun _ _ => ?_
      exact ⟨vblank,
        { line := hchanged.transition.line h.line
          cyclesMode := hleft'.1
          drawLength := hchanged.transition.drawLength
          within := hchanged.transition.within h.drawLength
          sprites := hchanged.sprites
          cycles := (Nat.zero_add _).trans_le hleft'.2
          mask := hchanged.mask
          hblank := hchanged.transition.hblank },
        { hchanged.kept with },
        .change hon hleft.symm (hchanged.transition.counted),
        fun hne => hchanged.picture fun hm => hne ⟨hon, hleft.symm, hm⟩,
        (handleStatInterrupt_request _ _).trans hchanged.request⟩

/-! ### What a clock asks of the system

A clock only adds to the requests it is given, so what it does can be observed from the empty
context. -/

/-- A context with nothing requested. -/
def clearContext : ClockContext := ⟨0, 0⟩

/-- What a clock that was given no requests gives when it is given `ctx`. -/
def addTo (ctx : ClockContext) (r : Ppu × ClockContext) : Ppu × ClockContext :=
  (r.1, ⟨ctx.interrupts ||| r.2.interrupts, ctx.events ||| r.2.events⟩)

section

variable (p : Ppu) (ctx : ClockContext)

theorem addTo_clearContext : addTo ctx (p, clearContext) = (p, ctx) := by
  rw [addTo, clearContext]
  dsimp only
  rw [UInt8.or_zero, UInt8.or_zero]

theorem handleStatInterrupt_addTo (d : ClockContext) :
    p.handleStatInterrupt (addTo ctx (p, d)).2 = addTo ctx (p.handleStatInterrupt d) := by
  unfold handleStatInterrupt addTo ClockContext.setInterrupt
  dsimp only
  split
  · rw [UInt8.or_assoc]
  · rfl

theorem checkStatInterrupt_addTo (d : ClockContext) :
    p.checkStatInterrupt (addTo ctx (p, d)).2 = addTo ctx (p.checkStatInterrupt d) := by
  unfold checkStatInterrupt
  split
  · exact handleStatInterrupt_addTo p ctx d
  · rfl

theorem enterVblank_addTo (d : ClockContext) :
    p.enterVblank (addTo ctx (p, d)).2 = addTo ctx (p.enterVblank d) := by
  unfold enterVblank addTo ClockContext.setInterrupt ClockContext.setEvents
  dsimp only
  split <;> simp only [UInt8.or_assoc]

theorem leaveHblank_addTo (d : ClockContext) :
    p.leaveHblank (addTo ctx (p, d)).2 = addTo ctx <$> p.leaveHblank d := by
  unfold leaveHblank
  cases checkedAdd 8 .ppuUpdateMode p.ly 1 with
  | error e => rfl
  | ok ly =>
    dsimp only [ok_bind]
    split
    · exact congrArg Except.ok (enterVblank_addTo _ ctx d)
    · cases enterOamScan _ <;> rfl

theorem changeMode_addTo (d : ClockContext) :
    p.changeMode (addTo ctx (p, d)).2 = addTo ctx <$> p.changeMode d := by
  unfold changeMode
  cases p.statMode with
  | oamScan => cases p.leaveOamScan <;> rfl
  | draw => cases p.leaveDraw <;> rfl
  | hBlank => exact leaveHblank_addTo p ctx d
  | vBlank => cases p.leaveVblankLine <;> rfl

theorem updateMode_addTo (d : ClockContext) :
    p.updateMode (addTo ctx (p, d)).2 = addTo ctx <$> p.updateMode d := by
  unfold updateMode
  rw [changeMode_addTo]
  cases p.changeMode d <;> rfl

/-- The two assertions that end a clock do not look at the context. -/
theorem clockEnd_addTo (r : Ppu × ClockContext) {r' : Ppu × ClockContext} (h : r' = addTo ctx r) :
    (do
      assert .ppuClock (r'.1.cyclesMode ≠ 0)
      assert .ppuClock (r'.1.cyclesFrame = 0)
      return r' : Checked _) =
    addTo ctx <$> (do
      assert .ppuClock (r.1.cyclesMode ≠ 0)
      assert .ppuClock (r.1.cyclesFrame = 0)
      return r) := by
  subst h
  show (assert .ppuClock (r.1.cyclesMode ≠ 0) >>= fun _ =>
    assert .ppuClock (r.1.cyclesFrame = 0) >>= fun _ => Except.ok (addTo ctx r)) = _
  cases assert .ppuClock (r.1.cyclesMode ≠ 0) with
  | error e => rfl
  | ok u => cases assert .ppuClock (r.1.cyclesFrame = 0) <;> rfl

theorem clock_addTo (d : ClockContext) :
    p.clock (addTo ctx (p, d)).2 = addTo ctx <$> p.clock d := by
  unfold clock
  dsimp only
  split
  · exact congrArg Except.ok (checkStatInterrupt_addTo _ ctx d)
  · cases assert .ppuClock (p.ly ≤ 153) with
    | error e => rfl
    | ok u =>
      cases checkedAdd 32 .ppuClock p.cyclesFrame 1 with
      | error e => rfl
      | ok cyclesFrame =>
        cases checkedSub .ppuClock p.cyclesMode 1 with
        | error e => rfl
        | ok cyclesMode =>
          dsimp only [ok_bind]
          split
          · exact congrArg Except.ok (checkStatInterrupt_addTo _ ctx d)
          · rw [show (addTo ctx (p, d)).2 = (addTo ctx
              ({ p with hblankCycle := false, cyclesFrame, cyclesMode }, d)).2 from rfl,
              updateMode_addTo]
            cases updateMode _ d with
            | error e => rfl
            | ok r =>
              exact clockEnd_addTo ctx _ (handleStatInterrupt_addTo r.1 ctx r.2)

/-- **A clock only adds requests.** -/
theorem clock_eq_addTo : p.clock ctx = addTo ctx <$> p.clock clearContext := by
  have h := clock_addTo p ctx clearContext
  rwa [addTo_clearContext] at h

end

/-! ### Operations -/

/-- The registers of the pixel unit. -/
inductive Reg
  | lcdc | stat | ly | scy | scx | lyc | bgp | obp0 | obp1 | wy | wx | vbk | bcps | bcpd | ocps
  | ocpd | opri
  deriving DecidableEq, Repr

def writeReg (p : Ppu) (data : UInt8) : Reg → Ppu
  | .lcdc => p.writeLcdc data
  | .stat => p.writeStat data
  | .ly => p.writeLy data
  | .scy => p.writeScy data
  | .scx => p.writeScx data
  | .lyc => p.writeLyc data
  | .bgp => p.writeBgp data
  | .obp0 => p.writeObp0 data
  | .obp1 => p.writeObp1 data
  | .wy => p.writeWy data
  | .wx => p.writeWx data
  | .vbk => p.writeVbk data
  | .bcps => p.writeBcps data
  | .bcpd => p.writeBcpd data
  | .ocps => p.writeOcps data
  | .ocpd => p.writeOcpd data
  | .opri => p.writeOpri data

/-- What the system does to the pixel unit. It passes only the addresses of OAM, from 0xFE00 on, to
the two functions that write there. -/
inductive Op
  | clock
  | writeReg (reg : Reg) (data : UInt8)
  | writeVram (addr : ℕ) (data : UInt8)
  | writeOam (i : Fin 0xA0) (data : UInt8)
  | oamDma (i : Fin 0xA0) (data : UInt8)

instance (op : Op) : Decidable (op = .clock) :=
  match op with
  | .clock => .isTrue rfl
  | .writeReg .. | .writeVram .. | .writeOam .. | .oamDma .. => .isFalse nofun

def step : Op → Ppu → Checked Ppu
  | .clock, p => Prod.fst <$> p.clock clearContext
  | .writeReg reg data, p => .ok (p.writeReg data reg)
  | .writeVram addr data, p => .ok (p.writeVram addr data)
  | .writeOam i data, p => p.writeOam (0xFE00 + i) data
  | .oamDma i data, p => p.oamDma (0xFE00 + i) data

/-- The context a clock is given does not matter to the pixel unit. -/
theorem step_of_clock {p : Ppu} {ctx : ClockContext} {r : Ppu × ClockContext}
    (h : p.clock ctx = .ok r) : step .clock p = .ok r.1 := by
  rw [clock_eq_addTo] at h
  obtain ⟨r', hr', rfl⟩ := map_eq_ok.mp h
  rw [step, hr']
  rfl

/-- Whether a clock requests the VBlank interrupt. -/
def requestsVblank (p : Ppu) : Bool :=
  match p.clock clearContext with
  | .ok r => r.2.interrupts &&& interruptBitVblank != 0
  | .error _ => false

/-- A clock that does not panic is a tick, and keeps the invariant. -/
theorem tick_of_step {p p' : Ppu} (h : Inv p) (hs : step .clock p = .ok p') :
    Inv p' ∧ Kept p p' ∧ Tick p p' p.requestsVblank := by
  obtain ⟨r, hr, rfl⟩ := map_eq_ok.mp hs
  obtain ⟨vblank, hc⟩ := (clock_meets h clearContext).of_ok hr
  have hvblank : p.requestsVblank = vblank := by
    rw [requestsVblank, hr]
    dsimp only
    rw [hc.request]
    cases vblank <;> rfl
  rw [hvblank]
  exact ⟨hc.inv, hc.kept, hc.tick⟩

/-- A clock from here leaves HBlank, which is when it raises the flag of HBlank DMA. -/
def LeavesHblank (p : Ppu) : Prop :=
  p.lcdcEnable = true ∧ p.cyclesMode = 1 ∧ p.statMode = .hBlank

theorem Tick.hblankCycle_iff {p p' : Ppu} {vblank : Bool} (h : Tick p p' vblank) :
    p'.hblankCycle = true ↔ p.LeavesHblank := by
  cases h with
  | off hoff _ _ hf =>
    rw [hf]
    exact iff_of_false nofun fun ⟨hon, _, _⟩ => absurd (hoff.symm.trans hon) nofun
  | count _ hgt _ _ hf =>
    rw [hf]
    exact iff_of_false nofun fun ⟨_, hleft, _⟩ => by omega
  | change hon hleft htrans =>
    cases htrans with
    | drawLine _ hm _ _ _ _ hf | hBlank hm _ _ hf | vBlankLine hm _ _ _ hf
    | newFrame hm _ _ _ hf =>
      rw [hf]
      exact iff_of_false nofun fun ⟨_, _, hm'⟩ => absurd (hm.symm.trans hm') nofun
    | nextLine hm _ _ _ hf | vBlank hm _ _ _ hf => exact iff_of_true hf ⟨hon, hleft, hm⟩

/-- A clock that does not draw a line leaves the frame buffer alone. -/
theorem rt_of_not_draws {p p' : Ppu} (h : Inv p) (hs : step .clock p = .ok p') (hd : ¬ p.Draws) :
    p'.screen.rt = p.screen.rt := by
  obtain ⟨r, hr, rfl⟩ := map_eq_ok.mp hs
  obtain ⟨vblank, hc⟩ := (clock_meets h clearContext).of_ok hr
  exact hc.picture hd

/-- The value a write gives the enable bit of LCDC. -/
def lcdBit (data : UInt8) : Bool := data &&& 0x80 != 0

/-- What an operation beside the mode machine leaves alone. -/
structure Aside (p p' : Ppu) : Prop where
  beam : p'.beam = p.beam
  screen : p'.screen = p.screen
  drawWindow : p'.drawWindow = p.drawWindow
  lcdcEnable : p'.lcdcEnable = p.lcdcEnable
  lcdcWndEnable : p'.lcdcWndEnable = p.lcdcWndEnable
  spriteBuffer : p'.spriteBuffer = p.spriteBuffer
  cyclesFrame : p'.cyclesFrame = p.cyclesFrame
  hblankCycle : p'.hblankCycle = p.hblankCycle

theorem Aside.refl (p : Ppu) : Aside p p := ⟨rfl, rfl, rfl, rfl, rfl, rfl, rfl, rfl⟩

theorem Aside.window {p p' : Ppu} (h : Aside p p') : p'.window = p.window := by
  rw [Ppu.window, h.drawWindow, h.screen]; rfl

theorem Aside.inv {p p' : Ppu} (h : Aside p p') (hinv : Inv p) : Inv p' := by
  obtain ⟨hly, hmode, hleft, hlen⟩ : p'.ly = p.ly ∧ p'.statMode = p.statMode ∧
      p'.cyclesMode = p.cyclesMode ∧ p'.drawLength = p.drawLength := by
    simpa only [Ppu.beam, Beam.mk.injEq] using h.beam
  constructor <;> simp only [hly, hmode, hleft, hlen, h.screen, h.spriteBuffer, h.cyclesFrame,
    h.hblankCycle]
  exacts [hinv.line, hinv.cyclesMode, hinv.drawLength, hinv.within, hinv.sprites, hinv.cycles,
    hinv.mask, hinv.hblank]

/-! #### LCDC -/

/-- Switching the LCD off puts the beam at the top, in HBlank. -/
theorem lcdSwitch_off {p : Ppu} (hon : p.lcdcEnable = true) :
    p.lcdSwitch false = { p.reset with checkInterrupt := true } := by
  rw [lcdSwitch, hon]
  rfl

theorem lcdSwitch_on {p : Ppu} (hoff : p.lcdcEnable = false) :
    p.lcdSwitch true = { p.updateLycEqLy with checkInterrupt := true } := by
  rw [lcdSwitch, hoff]
  rfl

theorem lcdSwitch_same (p : Ppu) : p.lcdSwitch p.lcdcEnable = p := by
  rw [lcdSwitch]
  cases p.lcdcEnable <;> rfl

/-- The LCD never switches without LCDC being written. -/
theorem lcdSwitch_cases (p : Ppu) (enableNext : Bool) :
    (p.lcdcEnable = true ∧ enableNext = false ∧
      p.lcdSwitch enableNext = { p.reset with checkInterrupt := true }) ∨
    (p.lcdcEnable = false ∧ enableNext = true ∧
      p.lcdSwitch enableNext = { p.updateLycEqLy with checkInterrupt := true }) ∨
    p.lcdcEnable = enableNext ∧ p.lcdSwitch enableNext = p := by
  cases hp : p.lcdcEnable with
  | true =>
    cases enableNext with
    | true => exact .inr (.inr ⟨rfl, by rw [← hp]; exact lcdSwitch_same p⟩)
    | false => exact .inl ⟨rfl, rfl, lcdSwitch_off hp⟩
  | false =>
    cases enableNext with
    | true => exact .inr (.inl ⟨rfl, rfl, lcdSwitch_on hp⟩)
    | false => exact .inr (.inr ⟨rfl, by rw [← hp]; exact lcdSwitch_same p⟩)

/-- Switching the LCD off puts the beam back to the top. Nothing else about LCDC moves it. -/
theorem writeLcdc_beam (p : Ppu) (data : UInt8) :
    (p.writeLcdc data).beam =
      if p.lcdcEnable = true ∧ lcdBit data = false then ⟨0, .hBlank, 20, 0⟩ else p.beam := by
  show (p.lcdSwitch (lcdBit data)).beam = _
  rcases lcdSwitch_cases p (lcdBit data) with ⟨hp, hd, h⟩ | ⟨hp, hd, h⟩ | ⟨hp, h⟩ <;> rw [h]
  · rw [if_pos ⟨hp, hd⟩]
    rfl
  · rw [if_neg (by rw [hp]; simp)]
    rfl
  · rw [if_neg (by rw [hp]; simp)]

/-- LCDC does not touch the window latch and its line counter, not even when it switches the LCD
off. -/
theorem writeLcdc_window (p : Ppu) (data : UInt8) : (p.writeLcdc data).window = p.window := by
  show (p.lcdSwitch (lcdBit data)).window = p.window
  rcases lcdSwitch_cases p (lcdBit data) with ⟨-, -, h⟩ | ⟨-, -, h⟩ | ⟨-, h⟩ <;> rw [h] <;> rfl

theorem Inv.writeLcdc {p : Ppu} (h : Inv p) (data : UInt8) : Inv (p.writeLcdc data) := by
  have hswitch : Inv (p.lcdSwitch (lcdBit data)) := by
    rcases lcdSwitch_cases p (lcdBit data) with ⟨-, -, hs⟩ | ⟨-, -, hs⟩ | ⟨-, hs⟩ <;> rw [hs]
    · exact
        { line := Nat.zero_le _
          cyclesMode := show 1 ≤ 20 by decide
          drawLength := nofun
          within := ⟨nofun, nofun, fun _ => show 0 + 20 ≤ 94 by decide⟩
          sprites := Nat.zero_le _
          cycles := show 0 + 20 ≤ 114 by decide
          mask := h.mask
          hblank := fun _ => nofun }
    · exact { h with }
    · exact h
  exact { hswitch with }

/-! #### Everything else -/

theorem aside_writeReg (p : Ppu) (data : UInt8) {reg : Reg} (hreg : reg ≠ .lcdc) :
    Aside p (p.writeReg data reg) ∧ (p.writeReg data reg).oam = p.oam := by
  have hsame : ∀ c : Bool, ∀ q : Ppu, Aside p q ∧ q.oam = p.oam →
      Aside p (if c then p else q) ∧ (if c then p else q).oam = p.oam := by
    intro c q h; cases c <;> [exact h; exact ⟨.refl p, rfl⟩]
  cases reg with
  | lcdc => exact absurd rfl hreg
  | lyc =>
    rw [writeReg, writeLyc]
    dsimp only
    split <;> exact ⟨⟨rfl, rfl, rfl, rfl, rfl, rfl, rfl, rfl⟩, rfl⟩
  | vbk =>
    unfold writeReg writeVbk
    dsimp only
    split <;> exact ⟨⟨rfl, rfl, rfl, rfl, rfl, rfl, rfl, rfl⟩, rfl⟩
  | bcps => exact hsame _ _ ⟨⟨rfl, rfl, rfl, rfl, rfl, rfl, rfl, rfl⟩, rfl⟩
  | ocps => exact hsame _ _ ⟨⟨rfl, rfl, rfl, rfl, rfl, rfl, rfl, rfl⟩, rfl⟩
  | opri => exact hsame _ _ ⟨⟨rfl, rfl, rfl, rfl, rfl, rfl, rfl, rfl⟩, rfl⟩
  | bcpd =>
    refine hsame _ _ ?_
    split <;> exact ⟨⟨rfl, rfl, rfl, rfl, rfl, rfl, rfl, rfl⟩, rfl⟩
  | ocpd =>
    refine hsame _ _ ?_
    split <;> exact ⟨⟨rfl, rfl, rfl, rfl, rfl, rfl, rfl, rfl⟩, rfl⟩
  | _ => exact ⟨⟨rfl, rfl, rfl, rfl, rfl, rfl, rfl, rfl⟩, rfl⟩

/-- No register write reaches OAM. -/
theorem writeReg_oam (p : Ppu) (data : UInt8) (reg : Reg) : (p.writeReg data reg).oam = p.oam := by
  by_cases hreg : reg = .lcdc
  · subst hreg
    show (p.lcdSwitch (lcdBit data)).oam = p.oam
    rcases lcdSwitch_cases p (lcdBit data) with ⟨-, -, h⟩ | ⟨-, -, h⟩ | ⟨-, h⟩ <;> rw [h] <;> rfl
  · exact (aside_writeReg p data hreg).2

/-- No register write touches the flag of HBlank DMA. -/
theorem writeReg_hblankCycle (p : Ppu) (data : UInt8) (reg : Reg) :
    (p.writeReg data reg).hblankCycle = p.hblankCycle := by
  by_cases hreg : reg = .lcdc
  · subst hreg
    show (p.lcdSwitch (lcdBit data)).hblankCycle = p.hblankCycle
    rcases lcdSwitch_cases p (lcdBit data) with ⟨-, -, h⟩ | ⟨-, -, h⟩ | ⟨-, h⟩ <;> rw [h] <;> rfl
  · exact (aside_writeReg p data hreg).1.hblankCycle

theorem aside_writeVram (p : Ppu) (addr : ℕ) (data : UInt8) : Aside p (p.writeVram addr data) := by
  rw [writeVram]
  split
  · exact .refl p
  · exact ⟨rfl, rfl, rfl, rfl, rfl, rfl, rfl, rfl⟩

/-- OAM DMA writes OAM whatever the mode. -/
theorem oamDma_eq (p : Ppu) (i : Fin 0xA0) (data : UInt8) :
    p.oamDma (0xFE00 + i) data = .ok { p with oam := p.oam.put i data } := by
  have hi : (0xFE00 + i.1) &&& 0xFF = i.1 := by
    have := i.2
    rw [show (0xFF : ℕ) = 2 ^ 8 - 1 from rfl, Nat.and_two_pow_sub_one_eq_mod]
    omega
  rw [oamDma, Mem.set_of_lt _ _ (by rw [hi]; exact i.2)]
  simp only [hi, ok_bind]
  rfl

/-- A write to OAM is dropped in modes 2 and 3. -/
theorem writeOam_eq (p : Ppu) (i : Fin 0xA0) (data : UInt8) :
    p.writeOam (0xFE00 + i) data =
      .ok (if p.statMode = .oamScan ∨ p.statMode = .draw then p
        else { p with oam := p.oam.put i data }) := by
  by_cases hlocked : p.statMode = .oamScan ∨ p.statMode = .draw
  · rw [if_pos hlocked, writeOam]
    rcases hlocked with hm | hm <;> rw [hm]
  · rw [if_neg hlocked, ← oamDma_eq, writeOam]
    split
    · exact absurd (.inl ‹_›) hlocked
    · exact absurd (.inr ‹_›) hlocked
    · rfl

/-- The operations that leave the LCD on. -/
def Op.KeepsLcdOn : Op → Prop
  | .writeReg .lcdc data => lcdBit data = true
  | _ => True

/-- What a step did. -/
inductive Effect (p p' : Ppu) : Op → Prop
  | clock : Kept p p' → Tick p p' p.requestsVblank → Effect p p' .clock
  | lcdc (data : UInt8) : p' = p.writeLcdc data → Effect p p' (.writeReg .lcdc data)
  | aside {op : Op} : op ≠ .clock → (∀ data, op ≠ .writeReg .lcdc data) → Aside p p' →
      Effect p p' op

/-- What a clock did. -/
theorem Effect.tick {p p' : Ppu} (h : Effect p p' .clock) :
    Kept p p' ∧ Tick p p' p.requestsVblank := by
  cases h with
  | clock hkept htick => exact ⟨hkept, htick⟩
  | aside hne => exact absurd rfl hne

/-- An operation that leaves the LCD on moves the beam and the window only if it is a clock. -/
theorem Effect.keepsLcdOn {p p' : Ppu} {op : Op} (h : Effect p p' op) (hop : op.KeepsLcdOn)
    (hon : p.lcdcEnable = true) :
    p'.lcdcEnable = true ∧ (op ≠ .clock → p'.beam = p.beam ∧ p'.window = p.window) := by
  cases h with
  | clock hkept => exact ⟨hkept.lcdcEnable.trans hon, fun hne => absurd rfl hne⟩
  | lcdc data he =>
    have hdata : lcdBit data = true := hop
    subst he
    refine ⟨hdata, fun _ => ⟨?_, writeLcdc_window p data⟩⟩
    rw [writeLcdc_beam, if_neg (by rw [hdata]; simp)]
  | aside _ _ ha => exact ⟨ha.lcdcEnable.trans hon, fun _ => ⟨ha.beam, ha.window⟩⟩

/-- **Steps.** Every operation keeps the invariant, and only a clock can fail. -/
theorem meets_step (op : Op) {p : Ppu} (h : Inv p) :
    Meets (step op p) (fun p' => Inv p' ∧ Effect p p' op) (WindowOverflow p) := by
  have haside : ∀ {p'}, op ≠ .clock → (∀ data, op ≠ .writeReg .lcdc data) → Aside p p' →
      Inv p' ∧ Effect p p' op := fun hc hl ha => ⟨ha.inv h, .aside hc hl ha⟩
  cases op with
  | clock =>
    cases hr : p.clock clearContext with
    | error e =>
      rw [step, hr]
      exact (clock_meets h clearContext).of_error hr
    | ok r =>
      have hs : step .clock p = .ok r.1 := by rw [step, hr]; rfl
      obtain ⟨hinv, hkept, htick⟩ := tick_of_step h hs
      rw [hs]
      exact ⟨hinv, .clock hkept htick⟩
  | writeReg reg data =>
    by_cases hreg : reg = .lcdc
    · subst hreg
      exact ⟨h.writeLcdc data, .lcdc data rfl⟩
    · exact haside nofun (fun _ he => hreg (Op.writeReg.inj he).1) (aside_writeReg p data hreg).1
  | writeVram addr data => exact haside nofun nofun (aside_writeVram p addr data)
  | writeOam i data =>
    rw [step, writeOam_eq]
    refine haside nofun nofun ?_
    split
    · exact .refl p
    · exact ⟨rfl, rfl, rfl, rfl, rfl, rfl, rfl, rfl⟩
  | oamDma i data =>
    rw [step, oamDma_eq]
    exact haside nofun nofun ⟨rfl, rfl, rfl, rfl, rfl, rfl, rfl, rfl⟩

/-- What a step that does not panic did. -/
theorem effect_of_step {op : Op} {p p' : Ppu} (h : Inv p) (hs : step op p = .ok p') :
    Inv p' ∧ Effect p p' op :=
  (meets_step op h).of_ok hs

/-- With the window off a clock cannot panic. -/
theorem step_clock_total {p : Ppu} (h : Inv p) (hwnd : p.lcdcWndEnable = false) :
    Total (step .clock p) fun p' => Inv p' ∧ p'.lcdcWndEnable = false := by
  refine (meets_step .clock h).mono (fun p' hp' => ⟨hp'.1, ?_⟩) fun e he => ?_
  · exact hp'.2.tick.1.lcdcWndEnable.trans hwnd
  · exact absurd (hwnd.symm.trans he.1) (by decide)

/-- **The invariant after any sequence of operations.** -/
theorem exec_meets {p : Ppu} (h : Inv p) (ops : List Op) :
    Meets (Machine.exec step ops p) Inv (· = .overflow .windowRow) :=
  Machine.exec_meets (P := fun _ => True)
    (fun op _ _ h => (meets_step op h).mono (fun _ => And.left) fun _ => And.right)
    ops p (fun _ _ => trivial) h

/-- **The mode machine of the pixel unit.** Whatever is done to a new pixel unit, LY fits the mode,
the mode has clocks left, HBlank gets a positive number of them, and the object buffer holds at
most ten; and no assertion fails and no subtraction underflows on the way. What can still fail is
the address of a window tile. -/
theorem exec_new_modes (frameChan : FrameChan) (ctx : GbCtx) (ops : List Op) :
    Meets (Machine.exec step ops (new frameChan ctx))
      (fun p => (p.statMode ≠ .vBlank → p.ly ≤ 143) ∧
        (p.statMode = .vBlank → 144 ≤ p.ly ∧ p.ly ≤ 153) ∧
        1 ≤ p.cyclesMode ∧ (p.statMode = .draw → p.drawLength < 94) ∧
        p.spriteBuffer.length ≤ 10)
      (· = .overflow .windowRow) := by
  refine (exec_meets (Inv.new frameChan ctx) ops).imp fun p h => ?_
  refine ⟨fun hm => ?_, fun hm => ?_, h.cyclesMode, fun hm => ?_, h.sprites⟩
  · have hline := h.line
    rwa [if_neg hm] at hline
  · have hline := h.line
    rwa [if_pos hm] at hline
  · have := h.drawLength hm
    omega

/-- The pixel units that some sequence of operations leads to. -/
def Reachable (p : Ppu) : Prop :=
  Machine.Reachable (fun p => ∃ frameChan ctx, p = new frameChan ctx) step p

theorem Reachable.inv {p : Ppu} (h : Reachable p) : Inv p :=
  Machine.Reachable.induction (by rintro _ ⟨frameChan, ctx, rfl⟩; exact Inv.new frameChan ctx)
    (fun op _ _ h hs => ((meets_step op h).of_ok hs).1) h

end Ppu

end ZenithGb
