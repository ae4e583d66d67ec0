import ZenithGb.Ppu.Frame

/-!
# The pixel unit: switching the LCD off and on

`reset` leaves the machine in HBlank on line 0. So when the LCD comes back, the first change of
mode takes LY to 1 and line 0 is never drawn; and because `reset` forgets neither the window latch
nor the window's line counter, what the cut frame did to them is still there.

## Main results

* `Ppu.enable_skips_line_zero` — after the LCD comes on, lines 1 to 143 are drawn before the first
  VBlank, and line 0 is not
* `Ppu.window_per_frame` — the window state belongs to one frame in every run that switches the LCD
  off only while it is clear
-/

namespace ZenithGb

open Outcome

namespace Ppu

/-! ### Lines drawn -/

/-- The lines the clocks before position `k` have drawn, in order. -/
def drawnLines (r : Machine.Run step) : ℕ → List ℕ
  | 0 => []
  | k + 1 =>
    drawnLines r k ++ if r.input k = .clock ∧ (r.state k).Draws then [(r.state k).ly] else []

/-- The first request of the VBlank interrupt is made by the step from position `n`. -/
def FirstVblank (r : Machine.Run step) (n : ℕ) : Prop :=
  (r.input n = .clock ∧ (r.state n).requestsVblank = true) ∧
    ∀ k < n, r.input k = .clock → (r.state k).requestsVblank = false

/-- Every run from `p` with the LCD kept on draws lines 0 to 143, each once and in this order,
before its first VBlank. -/
def DrawsWholeFrame (p : Ppu) : Prop :=
  ∀ r : Machine.Run step, r.state 0 = p → (∀ k < r.length, (r.input k).KeepsLcdOn) →
    ∀ n < r.length, FirstVblank r n → drawnLines r n = List.range 144

/-- Lines are drawn where the beam is at the end of the object scan. -/
theorem draws_iff {p : Ppu} (h : Inv p) (hon : p.lcdcEnable = true) :
    p.Draws ↔ p.ly < 144 ∧ p.beam.offset = 19 := by
  have hline := h.line
  have hpos := h.cyclesMode
  obtain ⟨hscan, -, -⟩ := h.within
  constructor
  · rintro ⟨-, hleft, hm⟩
    rw [hm, if_neg (by decide)] at hline
    rw [offset_oamScan hm, hleft]
    exact ⟨by omega, rfl⟩
  · rintro ⟨hly, ho⟩
    have hm : p.statMode = .oamScan := by
      rw [h.statMode_eq hly, ho]
      rfl
    rw [offset_oamScan hm] at ho
    have := hscan hm
    exact ⟨hon, by omega, hm⟩

/-! ### After the LCD comes on -/

/-- What holds of a pixel unit whose LCD is off. -/
structure Dark (p : Ppu) : Prop where
  inv : Inv p
  off : p.lcdcEnable = false
  beam : p.beam = ⟨0, .hBlank, 20, 0⟩

theorem Reachable.dark {p : Ppu} (h : Reachable p) (hoff : p.lcdcEnable = false) : Dark p := by
  have hbeam : Inv p ∧ (p.lcdcEnable = false → p.beam = ⟨0, .hBlank, 20, 0⟩) := by
    refine Machine.Reachable.induction
      (I := fun p => Inv p ∧ (p.lcdcEnable = false → p.beam = ⟨0, .hBlank, 20, 0⟩))
      ?_ (fun op p p' hp hs => ?_) h
    · rintro _ ⟨frameChan, ctx, rfl⟩
      exact ⟨Inv.new frameChan ctx, nofun⟩
    · obtain ⟨hinv, heffect⟩ := effect_of_step hp.1 hs
      refine ⟨hinv, fun hoff' => ?_⟩
      cases heffect with
      | clock hkept htick =>
        rw [hkept.lcdcEnable] at hoff'
        generalize p.requestsVblank = vblank at htick
        cases htick with
        | off _ hb => rw [hb, hp.2 hoff']
        | count hon => rw [hon] at hoff'; cases hoff'
        | change hon => rw [hon] at hoff'; cases hoff'
      | lcdc data he =>
        subst he
        rw [writeLcdc_beam]
        split
        · rfl
        · rename_i hne
          have hp' : p.lcdcEnable = false := by
            cases hlcd : p.lcdcEnable with
            | false => rfl
            | true => exact absurd ⟨hlcd, hoff'⟩ hne
          exact hp.2 hp'
      | aside _ _ ha =>
        rw [ha.beam]
        exact hp.2 (ha.lcdcEnable.symm.trans hoff')
  exact ⟨hbeam.1, hoff, hbeam.2 hoff⟩

section

variable {p : Ppu} {data : UInt8}

/-- Switching the LCD on leaves the beam where `reset` put it, 94 clocks into line 0. -/
theorem Dark.position (h : Dark p) : (p.writeLcdc data).beam.position = 1234 := by
  rw [writeLcdc_beam, if_neg (by rw [h.off]; simp), h.beam]
  rfl

/-- In a run from there the clock count tells how many lines have been drawn, and the first is
line 1. -/
theorem LitRun.drawnLines_eq (r : LitRun) (h0 : (r.run.state 0).beam.position = 1234) {k : ℕ}
    (hk : k ≤ r.run.length) (hclocks : clocks r.run k ≤ 16322) :
    drawnLines r.run k = List.range' 1 ((clocks r.run k + 74) / 114) := by
  induction k with
  | zero => rw [clocks, Nat.count_zero]; rfl
  | succ k ih =>
    have hmono := clocks_mono r.run (Nat.le_add_right k 1)
    have h := r.lit (Nat.le_of_lt hk)
    have hly := h.1.ly_eq
    have hoffset := h.1.offset_eq
    rw [r.position (Nat.le_of_lt hk), h0] at hly hoffset
    rw [drawnLines, ih (by omega) (by omega)]
    rw [clocks_succ] at hclocks ⊢
    by_cases hc : r.run.input k = .clock
    · rw [if_pos hc] at hclocks ⊢
      by_cases hd : (r.run.state k).Draws
      · rw [if_pos ⟨hc, hd⟩]
        obtain ⟨hvisible, ho⟩ := (draws_iff h.1 h.2).mp hd
        have hnext : (clocks r.run k + 1 + 74) / 114 = (clocks r.run k + 74) / 114 + 1 := by omega
        rw [hnext, List.range'_1_concat]
        congr 2
        omega
      · rw [if_neg fun h' => hd h'.2, List.append_nil]
        rw [draws_iff h.1 h.2] at hd
        congr 1
        by_contra hne
        exact hd ⟨by omega, by omega⟩
    · rw [if_neg hc, if_neg fun h' => hc h'.1, List.append_nil, Nat.add_zero]

/-- The first VBlank comes with the 16322nd clock, when line 143 has been drawn. -/
theorem LitRun.drawnLines_firstVblank (r : LitRun) (h0 : (r.run.state 0).beam.position = 1234)
    {n : ℕ} (hn : n < r.run.length) (hfirst : FirstVblank r.run n) :
    drawnLines r.run n = List.range' 1 143 := by
  obtain ⟨⟨hc, hrequest⟩, hbefore⟩ := hfirst
  rw [r.requestsVblank_iff hn hc, h0] at hrequest
  have hlt : ¬ 16321 < clocks r.run n := by
    intro hlt
    obtain ⟨i, hi, hci, hcount⟩ := Machine.Run.exists_count_eq hlt
    have hi' : (r.run.state i).requestsVblank = true := by
      rw [r.requestsVblank_iff (by omega) hci, h0]
      show (1234 + Nat.count _ i + 1) % 17556 = 0
      rw [hcount]
    rw [hbefore i hi hci] at hi'
    cases hi'
  have hclocks : clocks r.run n = 16321 := by omega
  rw [r.drawnLines_eq h0 (Nat.le_of_lt hn) (by omega), hclocks]

/-- Some run with the LCD kept on does reach its first VBlank: the one that switches the window off
and then only clocks. -/
theorem exists_firstVblank {q : Ppu} (hinv : Inv q) (hon : q.lcdcEnable = true)
    (hpos : q.beam.position = 1234) :
    ∃ r : LitRun, r.run.state 0 = q ∧ r.run.length = 16323 ∧ FirstVblank r.run 16322 := by
  obtain ⟨r, hlen, hin, hstart⟩ : ∃ r : Machine.Run step, r.length = 16323 ∧
      (r.input = fun k => if k = 0 then .writeReg .lcdc 0x80 else .clock) ∧ r.state 0 = q :=
    Machine.Run.ofTotal (I := fun k p => Inv p ∧ (k ≠ 0 → p.lcdcWndEnable = false))
    (fun k => if k = 0 then Op.writeReg .lcdc 0x80 else .clock) ⟨hinv, fun h => absurd rfl h⟩
    (fun k p hp => by
      split
      · exact ⟨hp.1.writeLcdc 0x80, fun _ => rfl⟩
      · rename_i hk
        exact (step_clock_total hp.1 (hp.2 hk)).imp fun _ h => ⟨h.1, fun _ => h.2⟩) 16323
  have hkeeps : ∀ k < r.length, (r.input k).KeepsLcdOn := by
    intro k _
    rw [hin]
    dsimp only
    split
    · exact (by decide : lcdBit 0x80 = true)
    · trivial
  let lit : LitRun := ⟨r, hstart ▸ hinv, hstart ▸ hon, hkeeps⟩
  have hclock : ∀ k, r.input (k + 1) = .clock := fun k => by rw [hin]; rfl
  have hcount : ∀ k, clocks r (k + 1) = k := by
    intro k
    induction k with
    | zero => rw [clocks_succ, hin]; rfl
    | succ k ih => rw [clocks_succ, ih, if_pos (hclock k)]
  have hrequest : ∀ k < 16322, (r.state (k + 1)).requestsVblank = true ↔
      (1234 + k + 1) % 17556 = 0 := by
    intro k hk
    have hlt : k + 1 < r.length := by omega
    have := lit.requestsVblank_iff hlt (hclock k)
    rwa [hcount, show (lit.run.state 0).beam.position = 1234 by rw [hstart]; exact hpos] at this
  refine ⟨lit, hstart, hlen, ⟨hclock 16321, (hrequest 16321 (by omega)).mpr rfl⟩, ?_⟩
  intro k hk hc
  cases k with
  | zero => rw [show lit.run.input 0 = .writeReg .lcdc 0x80 by rw [hin]; rfl] at hc; cases hc
  | succ k =>
    rw [← Bool.not_eq_true, hrequest k (by omega)]
    omega

/-- What switching the LCD on leads to. -/
theorem Dark.not_drawsWholeFrame (h : Dark p) (hdata : lcdBit data = true) :
    ¬ DrawsWholeFrame (p.writeLcdc data) := by
  intro hwhole
  obtain ⟨r, hstart, hlen, hfirst⟩ :=
    exists_firstVblank (h.inv.writeLcdc data) hdata h.position
  have hall := hwhole r.run hstart r.keepsOn 16322 (by omega) hfirst
  rw [r.drawnLines_firstVblank (by rw [hstart]; exact h.position) (by omega) hfirst] at hall
  exact absurd (congrArg List.length hall) (by rw [List.length_range', List.length_range]; decide)

/-- **Line 0 is never drawn when the LCD comes on.** From every reachable state with the LCD off,
every write that turns it on, and every run after it: when the first VBlank is requested, lines 1
to 143 have been drawn, once each and in this order. There is such a run, so no state and no write
meet `DrawsWholeFrame`. -/
theorem enable_skips_line_zero (hp : Reachable p) (hoff : p.lcdcEnable = false)
    (hdata : lcdBit data = true) :
    (∀ r : Machine.Run step, r.state 0 = p.writeLcdc data →
      (∀ k < r.length, (r.input k).KeepsLcdOn) → ∀ n < r.length, FirstVblank r n →
        drawnLines r n = List.range' 1 143) ∧
    ¬ DrawsWholeFrame (p.writeLcdc data) := by
  have hdark := hp.dark hoff
  refine ⟨fun r hstart hkeeps n hn hfirst => ?_, hdark.not_drawsWholeFrame hdata⟩
  let lit : LitRun := ⟨r, hstart ▸ hdark.inv.writeLcdc data, hstart ▸ hdata, hkeeps⟩
  exact lit.drawnLines_firstVblank (by rw [hstart]; exact hdark.position) hn hfirst

end

/-- A new pixel unit whose LCD is then switched off. -/
theorem reachable_writeLcdc_new (frameChan : FrameChan) (ctx : GbCtx) (data : UInt8) :
    Reachable ((new frameChan ctx).writeLcdc data) :=
  .step (.writeReg .lcdc data) (.start ⟨frameChan, ctx, rfl⟩) rfl

theorem enable_skips_line_zero_cgb :
    ¬ DrawsWholeFrame (((new .none (.ofMode .modeCgb)).writeLcdc 0x11).writeLcdc 0x91) :=
  (enable_skips_line_zero (reachable_writeLcdc_new _ _ 0x11) (by decide) (by decide)).2

/-- The LCD is switched off and on again right after boot. -/
theorem not_drawsWholeFrame_new :
    ∃ p data, Reachable p ∧ p.lcdcEnable = false ∧ lcdBit data = true ∧
      ¬ DrawsWholeFrame (p.writeLcdc data) := by
  have hreach := reachable_writeLcdc_new .none (.ofMode .modeDmg) 0x11
  exact ⟨(new .none (.ofMode .modeDmg)).writeLcdc 0x11, 0x91, hreach, by decide, by decide,
    (hreach.dark (by decide)).not_drawsWholeFrame (by decide)⟩

/-! ### The window -/

/-- A step begins a frame: LY wraps to 0, or the LCD is switched off. -/
def NewFrame (p p' : Ppu) : Prop :=
  p.ly ≠ 0 ∧ p'.ly = 0 ∨ p.lcdcEnable = true ∧ p'.lcdcEnable = false

instance (p p' : Ppu) : Decidable (NewFrame p p') := inferInstanceAs (Decidable (_ ∨ _))

/-- The lines drawn in the current frame. -/
def linesDrawn (r : Machine.Run step) : ℕ → ℕ
  | 0 => 0
  | k + 1 =>
    if NewFrame (r.state k) (r.state (k + 1)) then 0
    else linesDrawn r k + if r.input k = .clock ∧ (r.state k).Draws then 1 else 0

/-- Line 0 begins at position `k`: the run begins, LY has wrapped to 0, or the LCD has just been
switched on. -/
def StartsLineZero (r : Machine.Run step) : ℕ → Prop
  | 0 => True
  | k + 1 => (r.state k).ly ≠ 0 ∧ (r.state (k + 1)).ly = 0 ∨ (r.state k).lcdcEnable = false

/-- What the window state must be at position `k`, with the LCD on and outside VBlank. -/
def WindowPerFrame (r : Machine.Run step) (k : ℕ) : Prop :=
  (r.state k).lcdcEnable = true → (r.state k).ly < 144 →
    (r.state k).screen.windowLineCounter ≤ linesDrawn r k ∧
      (StartsLineZero r k → (r.state k).window = (false, 0))

/-- The operations that switch the LCD off. -/
def Op.SwitchesOff (op : Op) (p : Ppu) : Prop :=
  p.lcdcEnable = true ∧ ∃ data, op = .writeReg .lcdc data ∧ lcdBit data = false

/-- The invariant: the counter counts at most the lines of this frame, and is clear, with the latch,
in VBlank and with the LCD off. -/
structure WindowInv (lines : ℕ) (p : Ppu) : Prop where
  inv : Inv p
  counter : p.screen.windowLineCounter ≤ lines
  off : p.lcdcEnable = false → p.window = (false, 0)
  vBlank : p.statMode = .vBlank → p.window = (false, 0)

/-- What one step does to the invariant, and what the window state is where line 0 begins. -/
def WindowKept (op : Op) (lines : ℕ) (p p' : Ppu) : Prop :=
  WindowInv (if NewFrame p p' then 0 else lines + if op = .clock ∧ p.Draws then 1 else 0) p' ∧
    (p.ly ≠ 0 ∧ p'.ly = 0 ∨ p.lcdcEnable = false → p'.lcdcEnable = true → p'.window = (false, 0))

/-- Most steps leave the window alone. -/
theorem WindowInv.keep {p p' : Ppu} {lines : ℕ} (op : Op) (h : WindowInv lines p) (hinv : Inv p')
    (hwindow : p'.window = p.window) (hoff : p'.lcdcEnable = false → p.window = (false, 0))
    (hvblank : p'.statMode = .vBlank → p.window = (false, 0))
    (hnew : NewFrame p p' → p.window = (false, 0)) : WindowKept op lines p p' := by
  have hcounter : p'.screen.windowLineCounter = p.screen.windowLineCounter :=
    congrArg Prod.snd hwindow
  refine ⟨⟨hinv, ?_, fun ho => hwindow.trans (hoff ho), fun hm => hwindow.trans (hvblank hm)⟩, ?_⟩
  · rw [hcounter]
    split
    · rename_i hn
      exact Nat.le_of_eq (congrArg Prod.snd (hnew hn))
    · exact h.counter.trans (Nat.le_add_right _ _)
  · rintro (hwrap | ho) -
    · exact hwindow.trans (hnew (.inl hwrap))
    · exact hwindow.trans (h.off ho)

theorem WindowInv.tick {p p' : Ppu} {lines : ℕ} {vblank : Bool} (h : WindowInv lines p)
    (hinv : Inv p') (hkept : Kept p p') (ht : Tick p p' vblank) :
    WindowKept .clock lines p p' := by
  have hlcd := hkept.lcdcEnable
  have hly' : p'.ly = p'.beam.ly := rfl
  have hmode' : p'.statMode = p'.beam.mode := rfl
  have hlit : p.lcdcEnable = true → p'.lcdcEnable = false → p.window = (false, 0) :=
    fun hon hoff => by rw [hlcd, hon] at hoff; cases hoff
  -- LY does not wrap and the LCD stays as it is.
  have hsame : p'.ly = p.ly ∨ p'.ly ≠ 0 → NewFrame p p' → p.window = (false, 0) := by
    rintro hl (⟨h1, h2⟩ | ⟨h1, h2⟩)
    · rcases hl with hl | hl
      · exact absurd (hl.symm.trans h2) h1
      · exact absurd h2 hl
    · exact hlit h1 h2
  cases ht with
  | off hoff hb hw =>
    exact h.keep .clock hinv hw (fun _ => h.off hoff) (fun _ => h.off hoff)
      (hsame (.inl (congrArg Beam.ly hb)))
  | count hon _ hb hw =>
    exact h.keep .clock hinv hw (hlit hon)
      (fun hm => h.vBlank (by rwa [hmode', hb] at hm)) (hsame (.inl (congrArg Beam.ly hb)))
  | change hon hleft htrans =>
    cases htrans with
    | drawLine len hm _ _ hb hw =>
      have hly : p'.ly = p.ly := congrArg Beam.ly hb
      have hnot : ¬ NewFrame p p' := by
        rintro (⟨h1, h2⟩ | ⟨h1, h2⟩)
        · exact h1 (hly.symm.trans h2)
        · rw [hlcd, h1] at h2; cases h2
      rw [WindowKept, if_neg hnot, if_pos ⟨rfl, hon, hleft, hm⟩]
      refine ⟨⟨hinv, ?_, fun ho => ?_, fun hv => ?_⟩, ?_⟩
      · have := h.counter
        rcases hw.2 with hc | ⟨-, hc⟩ <;> omega
      · rw [hlcd, hon] at ho; cases ho
      · rw [hmode', hb] at hv; cases hv
      · rintro (⟨h1, h2⟩ | ho) -
        · exact absurd (hly.symm.trans h2) h1
        · rw [hon] at ho; cases ho
    | hBlank _ hb hw =>
      exact h.keep .clock hinv hw (hlit hon) (fun hm => by rw [hmode', hb] at hm; cases hm)
        (hsame (.inl (congrArg Beam.ly hb)))
    | nextLine _ _ hb hw =>
      refine h.keep .clock hinv hw (hlit hon) (fun hm => by rw [hmode', hb] at hm; cases hm)
        (hsame (.inr ?_))
      rw [hly', hb]
      exact Nat.succ_ne_zero p.ly
    | vBlank _ _ _ hw =>
      exact ⟨⟨hinv, (Nat.le_of_eq (congrArg Prod.snd hw)).trans (Nat.zero_le _), fun _ => hw,
        fun _ => hw⟩, fun _ _ => hw⟩
    | vBlankLine hm _ hb hw =>
      refine h.keep .clock hinv hw (hlit hon) (fun _ => h.vBlank hm) (hsame (.inr ?_))
      rw [hly', hb]
      exact Nat.succ_ne_zero p.ly
    | newFrame hm _ _ hw =>
      exact h.keep .clock hinv hw (hlit hon) (fun _ => h.vBlank hm) fun _ => h.vBlank hm

theorem WindowInv.step {p p' : Ppu} {op : Op} {lines : ℕ} (h : WindowInv lines p)
    (hs : Ppu.step op p = .ok p') (hclean : op.SwitchesOff p → p.window = (false, 0)) :
    WindowKept op lines p p' := by
  obtain ⟨hinv, heffect⟩ := effect_of_step h.inv hs
  cases heffect with
  | clock hkept htick => exact h.tick hinv hkept htick
  | lcdc data he =>
    subst he
    have hbeam := writeLcdc_beam p data
    -- A write either switches the LCD off, in a clean state, or leaves the beam where it is.
    by_cases hoff : p.lcdcEnable = true ∧ lcdBit data = false
    · have hclear := hclean ⟨hoff.1, data, rfl, hoff.2⟩
      exact h.keep _ hinv (writeLcdc_window p data) (fun _ => hclear) (fun _ => hclear)
        fun _ => hclear
    · rw [if_neg hoff] at hbeam
      refine h.keep _ hinv (writeLcdc_window p data) (fun ho => h.off ?_)
        (fun hm => h.vBlank ((congrArg Beam.mode hbeam).symm.trans hm)) ?_
      · cases hon : p.lcdcEnable with
        | false => rfl
        | true => exact absurd ⟨hon, ho⟩ hoff
      · rintro (⟨h1, h2⟩ | ⟨h1, h2⟩)
        · exact absurd ((congrArg Beam.ly hbeam).symm.trans h2) h1
        · exact absurd ⟨h1, h2⟩ hoff
  | aside _ _ ha =>
    refine h.keep _ hinv ha.window (fun ho => h.off (ha.lcdcEnable.symm.trans ho))
      (fun hm => h.vBlank ((congrArg Beam.mode ha.beam).symm.trans hm)) ?_
    rintro (⟨h1, h2⟩ | ⟨h1, h2⟩)
    · exact absurd ((congrArg Beam.ly ha.beam).symm.trans h2) h1
    · exact absurd (ha.lcdcEnable.symm.trans h2) (by rw [h1]; decide)

/-- **The window state belongs to one frame.** In every run from a new pixel unit that switches the
LCD off only while the latch and the counter are clear, the counter never exceeds the number of
lines drawn in the frame, and both are clear where line 0 begins. -/
theorem window_per_frame {frameChan : FrameChan} {ctx : GbCtx} (r : Machine.Run step)
    (hstart : r.state 0 = new frameChan ctx)
    (hclean : ∀ k < r.length, (r.input k).SwitchesOff (r.state k) →
      (r.state k).window = (false, 0)) :
    ∀ k ≤ r.length, WindowPerFrame r k := by
  have hinv : ∀ k ≤ r.length, WindowInv (linesDrawn r k) (r.state k) := fun k hk =>
    r.invariant (I := fun k p => WindowInv (linesDrawn r k) p)
      (by rw [hstart]; exact ⟨Inv.new frameChan ctx, Nat.le_refl 0, nofun, nofun⟩)
      (fun k _ hk h => (h.step (r.next k hk) (hclean k hk)).1) k (Nat.zero_le k) hk
  intro k hk hon _
  refine ⟨(hinv k hk).counter, fun hline => ?_⟩
  cases k with
  | zero => rw [hstart]; rfl
  | succ k =>
    exact ((hinv k (by omega)).step (r.next k hk) (hclean k hk)).2 hline hon

theorem window_per_frame_new :
    ∃ r : Machine.Run step, r.length = 40000 ∧ (r.input = fun _ => .clock) ∧
      ∀ k ≤ 40000, WindowPerFrame r k := by
  obtain ⟨r, hlen, hin, hstart⟩ := exists_lit_new .none (.ofMode .modeDmg) 40000
  refine ⟨r.run, hlen, hin, fun k hk => window_per_frame r.run hstart ?_ k (hlen ▸ hk)⟩
  rintro j - ⟨-, data, hop, -⟩
  rw [hin] at hop
  cases hop

/-- The object scan of line 0 passes, and then the LCD is switched off and on again. -/
def cutFrame (k : ℕ) : Op :=
  if k < 20 then .clock else if k = 20 then .writeReg .lcdc 0x11 else .writeReg .lcdc 0x91

theorem exists_cutFrame (frameChan : FrameChan) (ctx : GbCtx) :
    ∃ r : Machine.Run step, r.length = 22 ∧ r.input = cutFrame ∧ r.state 0 = new frameChan ctx := by
  refine Machine.Run.ofTotal (I := fun _ p => Inv p ∧ p.lcdcWndEnable = false) cutFrame
    ⟨Inv.new frameChan ctx, rfl⟩ (fun k p hp => ?_) 22
  rw [cutFrame]
  split
  · exact step_clock_total hp.1 hp.2
  · split
    · exact ⟨hp.1.writeLcdc 0x11, rfl⟩
    · exact ⟨hp.1.writeLcdc 0x91, rfl⟩

/-- At the end of the scan WY and LY are both 0, which sets the latch. -/
theorem drawWindow_cutFrame {frameChan : FrameChan} {ctx : GbCtx} {r : Machine.Run step}
    (hlen : r.length = 22) (hin : r.input = cutFrame) (hstart : r.state 0 = new frameChan ctx) :
    (r.state 20).drawWindow = true := by
  have hclock : ∀ k < 20, r.input k = .clock := fun k hk => by rw [hin]; exact if_pos hk
  have hscan : ∀ k ≤ 19, Inv (r.state k) ∧ (r.state k).lcdcEnable = true ∧ (r.state k).wy = 0 ∧
      (r.state k).beam = ⟨0, .oamScan, 20 - k, 0⟩ := by
    intro k
    induction k with
    | zero => intro _; rw [hstart]; exact ⟨Inv.new frameChan ctx, rfl, rfl, rfl⟩
    | succ k ih =>
      intro hk
      obtain ⟨hinv, hon, hwy, hbeam⟩ := ih (by omega)
      have hs := r.next k (by omega)
      rw [hclock k (by omega)] at hs
      obtain ⟨hinv', hkept, htick⟩ := tick_of_step hinv hs
      refine ⟨hinv', hkept.lcdcEnable.trans hon, hkept.wy.trans hwy, ?_⟩
      have hleft : (r.state k).cyclesMode = 20 - k := congrArg Beam.left hbeam
      generalize (r.state k).requestsVblank = vblank at htick
      cases htick with
      | off hoff => rw [hon] at hoff; cases hoff
      | count _ _ hb => rw [hb, hbeam, hleft, Nat.sub_sub]
      | change _ hone => omega
  obtain ⟨hinv, hon, hwy, hbeam⟩ := hscan 19 (by decide)
  have hs := r.next 19 (by omega)
  rw [hclock 19 (by decide)] at hs
  obtain ⟨-, -, htick⟩ := tick_of_step hinv hs
  have hly : (r.state 19).ly = 0 := congrArg Beam.ly hbeam
  have hmode : (r.state 19).statMode = .oamScan := congrArg Beam.mode hbeam
  have hleft : (r.state 19).cyclesMode = 1 := congrArg Beam.left hbeam
  generalize (r.state 19).requestsVblank = vblank at htick
  cases htick with
  | off hoff => rw [hon] at hoff; cases hoff
  | count _ hgt => omega
  | change _ _ htrans =>
    cases htrans with
    | drawLine _ _ _ _ _ hw => rw [hw.1, hwy, hly]; exact Bool.or_true _
    | hBlank hm => rw [hmode] at hm; cases hm
    | nextLine hm => rw [hmode] at hm; cases hm
    | vBlank hm => rw [hmode] at hm; cases hm
    | vBlankLine hm => rw [hmode] at hm; cases hm
    | newFrame hm => rw [hmode] at hm; cases hm

/-- Cutting a frame short leaves the latch set where the next line 0 begins. -/
theorem not_windowPerFrame_cutFrame :
    ∃ r : Machine.Run step, r.length = 22 ∧ r.input = cutFrame ∧
      r.state 0 = new .none (.ofMode .modeDmg) ∧ ¬ WindowPerFrame r 22 := by
  obtain ⟨r, hlen, hin, hstart⟩ := exists_cutFrame .none (.ofMode .modeDmg)
  refine ⟨r, hlen, hin, hstart, fun hframe => ?_⟩
  have hoff : r.state 21 = (r.state 20).writeLcdc 0x11 := by
    have hs := r.next 20 (by omega)
    rw [hin] at hs
    exact (ok_inj.mp hs).symm
  have hback : r.state 22 = (r.state 21).writeLcdc 0x91 := by
    have hs := r.next 21 (by omega)
    rw [hin] at hs
    exact (ok_inj.mp hs).symm
  have hdark : Dark (r.state 21) := by
    refine Reachable.dark (r.reachable (.start ⟨_, _, hstart⟩) (by omega)) ?_
    rw [hoff]
    rfl
  have hwindow : (r.state 22).window = (r.state 20).window := by
    rw [hback, writeLcdc_window, hoff, writeLcdc_window]
  have hly : (r.state 22).ly = 0 := by
    refine (congrArg Beam.ly (?_ : (r.state 22).beam = ⟨0, .hBlank, 20, 0⟩))
    rw [hback, writeLcdc_beam, if_neg (by rw [hdark.off]; simp), hdark.beam]
  have hclear := (hframe (by rw [hback]; rfl) (by omega)).2 (.inr hdark.off)
  rw [hwindow, window, drawWindow_cutFrame hlen hin hstart] at hclear
  cases hclear

end Ppu

end ZenithGb
