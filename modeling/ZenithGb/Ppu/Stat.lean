import ZenithGb.Ppu.Machine

/-!
# The pixel unit: the STAT interrupt

The STAT line is the disjunction of the selected sources. The code looks at it only when the mode
changes or when a write has asked for it through `check_interrupt`, and compares it with the value
it has stored. `Ppu.StatInv` is why that is enough: while nobody has asked, the stored value is the
line. So the interrupt is requested on the rising edges of the line, sampled at the end of every
clock.

## Main results

* `Ppu.StatInv.step` — the stored value is the line, unless a check is due
* `Ppu.requestsLcd_iff` — a clock requests the interrupt when the line rises above the stored value
* `Ppu.stat_rising_edge` — in every run the interrupt is requested on the rising edges
-/

namespace ZenithGb

open Outcome

namespace Ppu

/-- A selected STAT source is active. -/
def StatLine (p : Ppu) : Prop :=
  p.statLycSelect = true ∧ p.statLycEqLy = true ∨
    p.statMode2Select = true ∧ p.statMode = .oamScan ∨
    p.statMode1Select = true ∧ p.statMode = .vBlank ∨
    p.statMode0Select = true ∧ p.statMode = .hBlank

theorem statLine_iff (p : Ppu) : p.statLine = true ↔ p.StatLine := by
  simp [statLine, StatLine, or_assoc]

/-- Whether a clock requests the LCD interrupt. -/
def requestsLcd (p : Ppu) : Bool :=
  match p.clock clearContext with
  | .ok r => r.2.interrupts &&& interruptBitLcd != 0
  | .error _ => false

/-! ### The invariant -/

/-- What holds of the STAT interrupt between two operations. -/
structure StatInv (p : Ppu) : Prop where
  /-- Unless a check is due, the stored value is the line. -/
  stored : p.checkInterrupt = false → p.statInterrupt = p.statLine
  /-- While the LCD is on, the comparison with LYC is up to date. -/
  lyc : p.lcdcEnable = true → p.statLycEqLy = (UInt8.ofNat p.ly == p.lyc)

theorem StatInv.new (frameChan : FrameChan) (ctx : GbCtx) : StatInv (new frameChan ctx) :=
  ⟨fun _ => rfl, fun _ => rfl⟩

/-- The comparison with LYC, as the bus sees it. -/
theorem StatInv.lyc_iff {p : Ppu} (h : StatInv p) (hly : p.ly ≤ 153) (hon : p.lcdcEnable = true) :
    p.statLycEqLy = true ↔ p.ly = p.lyc.toNat := by
  rw [h.lyc hon, beq_iff_eq]
  constructor
  · intro he
    rw [← he, UInt8.toNat_ofNat_of_lt' (show p.ly < 256 by omega)]
  · intro he
    rw [he, UInt8.ofNat_toNat]

/-! ### Clocks -/

/-- What a change of mode does to the STAT interrupt: the comparison with LYC follows LY, and
nothing else is touched. -/
structure StatKept (p p' : Ppu) : Prop where
  lcdcEnable : p'.lcdcEnable = p.lcdcEnable
  statInterrupt : p'.statInterrupt = p.statInterrupt
  lyc : p.statLycEqLy = (UInt8.ofNat p.ly == p.lyc) →
    p'.statLycEqLy = (UInt8.ofNat p'.ly == p'.lyc)

theorem enterVblank_lcd (p : Ppu) (ctx : ClockContext) :
    (p.enterVblank ctx).2.interrupts &&& interruptBitLcd = ctx.interrupts &&& interruptBitLcd := by
  have hor : ∀ v : UInt8,
      (v ||| interruptBitVblank) &&& interruptBitLcd = v &&& interruptBitLcd :=
    fun v => UInt8.toBitVec_inj.mp
      ((by decide : ∀ b : BitVec 8, (b ||| 1) &&& 2 = b &&& 2) v.toBitVec)
  rw [enterVblank]
  dsimp only
  split <;> exact hor _

theorem changeMode_stat {p : Ppu}
    (hline : if p.statMode = .vBlank then 144 ≤ p.ly ∧ p.ly ≤ 153 else p.ly ≤ 143)
    (hdraw : p.statMode = .draw → 43 ≤ p.drawLength ∧ p.drawLength ≤ 73)
    (hsprites : p.spriteBuffer.length ≤ 10) (hmask : MaskOk p.screen.bgScanlineMask)
    {ctx : ClockContext} {r : Ppu × ClockContext} (hr : p.changeMode ctx = .ok r) :
    StatKept p r.1 ∧ r.2.interrupts &&& interruptBitLcd = ctx.interrupts &&& interruptBitLcd := by
  rw [changeMode] at hr
  cases hmode : p.statMode with
  | oamScan =>
    rw [hmode, if_neg (by decide)] at hline
    rw [hmode] at hr
    obtain ⟨p', hp', hr⟩ := bind_eq_ok.mp hr
    obtain ⟨len, screen, -, -, -, rfl⟩ :=
      (leaveOamScan_meets (by omega) hsprites hmask).of_ok hp'
    cases hr
    exact ⟨⟨rfl, rfl, id⟩, rfl⟩
  | draw =>
    have hlen := hdraw hmode
    rw [hmode] at hr
    dsimp only at hr
    rw [leaveDraw_eq (by omega)] at hr
    cases hr
    exact ⟨⟨rfl, rfl, id⟩, rfl⟩
  | hBlank =>
    rw [hmode, if_neg (by decide)] at hline
    rw [hmode] at hr
    rcases Nat.lt_or_eq_of_le hline with hlt | heq
    · obtain ⟨buffer, -, rfl⟩ := (leaveHblank_nextLine hlt ctx).of_ok hr
      exact ⟨⟨rfl, rfl, fun _ => rfl⟩, rfl⟩
    · dsimp only at hr
      rw [leaveHblank_vBlank heq] at hr
      cases hr
      exact ⟨⟨rfl, rfl, fun _ => rfl⟩, enterVblank_lcd _ ctx⟩
  | vBlank =>
    rw [hmode, if_pos rfl] at hline
    rw [hmode] at hr
    rcases Nat.lt_or_eq_of_le hline.2 with hlt | heq
    · dsimp only at hr
      rw [leaveVblankLine_next hlt] at hr
      cases hr
      exact ⟨⟨rfl, rfl, fun _ => rfl⟩, rfl⟩
    · obtain ⟨p', hp', hr⟩ := bind_eq_ok.mp hr
      obtain ⟨buffer, -, rfl⟩ := (leaveVblankLine_newFrame heq).of_ok hp'
      cases hr
      exact ⟨⟨rfl, rfl, fun _ => rfl⟩, rfl⟩

/-- What a clock from `p` gives, as far as the STAT interrupt is concerned. -/
structure StatClocked (p : Ppu) (r : Ppu × ClockContext) : Prop where
  inv : StatInv r.1
  checked : r.1.checkInterrupt = false
  request : r.2.interrupts &&& interruptBitLcd =
    if p.statInterrupt = false ∧ r.1.statLine = true then interruptBitLcd else 0

/-- A check that is made stores the line and requests the interrupt if it has risen. -/
theorem handleStatInterrupt_stat (p : Ppu) (ctx : ClockContext)
    (hctx : ctx.interrupts &&& interruptBitLcd = 0) :
    (p.handleStatInterrupt ctx).1.statInterrupt = p.statLine ∧
    (p.handleStatInterrupt ctx).2.interrupts &&& interruptBitLcd =
      if p.statInterrupt = false ∧ p.statLine = true then interruptBitLcd else 0 := by
  have hor : ∀ v : UInt8, (v ||| interruptBitLcd) &&& interruptBitLcd = interruptBitLcd :=
    fun v => UInt8.toBitVec_inj.mp ((by decide : ∀ b : BitVec 8, (b ||| 2) &&& 2 = 2) v.toBitVec)
  refine ⟨rfl, ?_⟩
  rw [handleStatInterrupt]
  dsimp only
  cases p.statInterrupt <;> cases p.statLine <;> simp [hctx, hor, ClockContext.setInterrupt]

/-- Where the invariant holds, it makes no difference whether the line is looked at. -/
theorem checkStatInterrupt_stat {p : Ppu} (ctx : ClockContext) (h : StatInv p)
    (hctx : ctx.interrupts &&& interruptBitLcd = 0) :
    StatClocked p (p.checkStatInterrupt ctx) := by
  rw [checkStatInterrupt]
  split
  · obtain ⟨hstored, hrequest⟩ := handleStatInterrupt_stat p ctx hctx
    exact ⟨⟨fun _ => hstored, h.lyc⟩, rfl, hrequest⟩
  · rename_i hcheck
    rw [Bool.not_eq_true] at hcheck
    refine ⟨h, hcheck, ?_⟩
    have hstored := h.stored hcheck
    cases hline : p.statLine <;> simp_all

/-- **Clocks.** After every clock the stored value is the line, and the interrupt was requested
exactly when the line is high and the value stored before was low. -/
theorem clock_stat {p : Ppu} (h : Inv p) (hs : StatInv p) {r : Ppu × ClockContext}
    (hr : p.clock clearContext = .ok r) : StatClocked p r := by
  cases hon : p.lcdcEnable with
  | false =>
    rw [clock_off clearContext hon] at hr
    cases hr
    have hc := checkStatInterrupt_stat (p := { p with hblankCycle := false })
      clearContext ⟨hs.stored, hs.lyc⟩ rfl
    exact ⟨hc.inv, hc.checked, hc.request⟩
  | true =>
    rcases Nat.lt_or_eq_of_le h.cyclesMode with hleft | hleft
    · rw [clock_count clearContext h hon hleft] at hr
      cases hr
      have hc := checkStatInterrupt_stat (p := { p with
        hblankCycle := false, cyclesFrame := p.cyclesFrame + 1, cyclesMode := p.cyclesMode - 1 })
        clearContext ⟨hs.stored, hs.lyc⟩ rfl
      exact ⟨hc.inv, hc.checked, hc.request⟩
    · rw [clock_change clearContext h hon hleft.symm] at hr
      obtain ⟨q, hq, hr⟩ := bind_eq_ok.mp hr
      obtain ⟨-, -, hr⟩ := bind_eq_ok.mp hr
      obtain ⟨-, -, hr⟩ := bind_eq_ok.mp hr
      cases hr
      obtain ⟨c, hc, hq⟩ := bind_eq_ok.mp hq
      cases hq
      obtain ⟨hkept, hctx⟩ := changeMode_stat (p := { p with
        hblankCycle := false, cyclesFrame := p.cyclesFrame + 1, cyclesMode := 0 })
        h.line h.drawLength h.sprites h.mask hc
      obtain ⟨hstored, hrequest⟩ :=
        handleStatInterrupt_stat { c.1 with cyclesFrame := 0 } c.2 (hctx.trans rfl)
      refine ⟨⟨fun _ => hstored, fun _ => hkept.lyc (hs.lyc hon)⟩, rfl, ?_⟩
      rw [← show c.1.statInterrupt = p.statInterrupt from hkept.statInterrupt]
      exact hrequest

theorem requestsLcd_iff {p p' : Ppu} (h : Inv p) (hs : StatInv p) (hstep : step .clock p = .ok p') :
    p.requestsLcd = true ↔ p'.StatLine ∧ p.statInterrupt = false := by
  obtain ⟨r, hr, rfl⟩ := map_eq_ok.mp hstep
  have hrequest := (clock_stat h hs hr).request
  rw [requestsLcd, hr]
  dsimp only
  rw [hrequest, ← statLine_iff]
  by_cases hc : p.statInterrupt = false ∧ r.1.statLine = true
  · rw [if_pos hc]
    exact iff_of_true rfl hc.symm
  · rw [if_neg hc]
    exact iff_of_false nofun fun hc' => hc hc'.symm

/-! ### Writes -/

/-- LCDC asks for a check whenever it switches the LCD. -/
theorem StatInv.writeLcdc {p : Ppu} (h : StatInv p) (data : UInt8) :
    StatInv (p.writeLcdc data) ∧ (p.writeLcdc data).statInterrupt = p.statInterrupt := by
  have hswitch : ∀ q : Ppu, p.lcdSwitch (lcdBit data) = q →
      (q.checkInterrupt = false → q.statInterrupt = q.statLine) →
      (lcdBit data = true → q.statLycEqLy = (UInt8.ofNat q.ly == q.lyc)) →
      q.statInterrupt = p.statInterrupt →
      StatInv (p.writeLcdc data) ∧ (p.writeLcdc data).statInterrupt = p.statInterrupt := by
    rintro q rfl hstored hlyc hsame
    exact ⟨⟨hstored, hlyc⟩, hsame⟩
  rcases lcdSwitch_cases p (lcdBit data) with ⟨-, hd, he⟩ | ⟨-, -, he⟩ | ⟨hp, he⟩
  · exact hswitch _ he nofun (fun hon => absurd (hd.symm.trans hon) nofun) rfl
  · exact hswitch _ he nofun (fun _ => rfl) rfl
  · exact hswitch _ he h.stored (fun hon => h.lyc (hp.trans hon)) rfl

/-- A register write stores nothing, and asks for a check if it can change the line. -/
theorem StatInv.writeReg {p : Ppu} (h : StatInv p) (data : UInt8) (reg : Reg) :
    StatInv (p.writeReg data reg) ∧ (p.writeReg data reg).statInterrupt = p.statInterrupt := by
  have hsame : ∀ c : Bool, ∀ q : Ppu, StatInv q ∧ q.statInterrupt = p.statInterrupt →
      StatInv (if c then p else q) ∧ (if c then p else q).statInterrupt = p.statInterrupt := by
    intro c q hq
    cases c <;> [exact hq; exact ⟨h, rfl⟩]
  cases reg with
  | lcdc => exact h.writeLcdc data
  | stat => exact ⟨⟨fun hc => Bool.noConfusion hc, h.lyc⟩, rfl⟩
  | lyc =>
    rw [Ppu.writeReg, writeLyc]
    dsimp only
    split
    · exact ⟨⟨fun hc => Bool.noConfusion hc, fun _ => rfl⟩, rfl⟩
    · rename_i hoff
      exact ⟨⟨h.stored, fun hon => absurd hon hoff⟩, rfl⟩
  | vbk =>
    unfold Ppu.writeReg writeVbk
    dsimp only
    split <;> exact ⟨⟨h.stored, h.lyc⟩, rfl⟩
  | bcps => exact hsame _ _ ⟨⟨h.stored, h.lyc⟩, rfl⟩
  | ocps => exact hsame _ _ ⟨⟨h.stored, h.lyc⟩, rfl⟩
  | opri => exact hsame _ _ ⟨⟨h.stored, h.lyc⟩, rfl⟩
  | bcpd =>
    refine hsame _ _ ?_
    split <;> exact ⟨⟨h.stored, h.lyc⟩, rfl⟩
  | ocpd =>
    refine hsame _ _ ?_
    split <;> exact ⟨⟨h.stored, h.lyc⟩, rfl⟩
  | _ => exact ⟨⟨h.stored, h.lyc⟩, rfl⟩

/-! ### Runs -/

/-- **Steps.** Every operation keeps the invariant, and only a clock stores the line. -/
theorem StatInv.step {p p' : Ppu} {op : Op} (h : Inv p) (hs : StatInv p)
    (hstep : step op p = .ok p') :
    StatInv p' ∧ p'.statInterrupt = if op = .clock then p'.statLine else p.statInterrupt := by
  cases op with
  | clock =>
    obtain ⟨r, hr, rfl⟩ := map_eq_ok.mp hstep
    have hc := clock_stat h hs hr
    exact ⟨hc.inv, hc.inv.stored hc.checked⟩
  | writeReg reg data =>
    cases hstep
    exact hs.writeReg data reg
  | writeVram addr data =>
    cases hstep
    rw [writeVram]
    split <;> exact ⟨⟨hs.stored, hs.lyc⟩, rfl⟩
  | writeOam i data =>
    rw [Ppu.step, writeOam_eq] at hstep
    cases hstep
    split <;> exact ⟨⟨hs.stored, hs.lyc⟩, rfl⟩
  | oamDma i data =>
    rw [Ppu.step, oamDma_eq] at hstep
    cases hstep
    exact ⟨⟨hs.stored, hs.lyc⟩, rfl⟩

/-- The STAT line at the end of the last clock before position `k`, and low if there was none. -/
def lineBefore (r : Machine.Run step) : ℕ → Prop
  | 0 => False
  | k + 1 => if r.input k = .clock then (r.state (k + 1)).StatLine else lineBefore r k

/-- What the clocks of a run have stored is the line at the end of the last of them. -/
theorem statInterrupt_iff {r : Machine.Run step} {frameChan : FrameChan} {ctx : GbCtx}
    (h0 : r.state 0 = new frameChan ctx) {k : ℕ} (hk : k ≤ r.length) :
    Inv (r.state k) ∧ StatInv (r.state k) ∧
      ((r.state k).statInterrupt = true ↔ lineBefore r k) := by
  refine r.invariant (I := fun k p => Inv p ∧ StatInv p ∧ (p.statInterrupt = true ↔ lineBefore r k))
    ?_ (fun j _ hj hinv => ?_) k (Nat.zero_le k) hk
  · rw [h0]
    exact ⟨Inv.new frameChan ctx, StatInv.new frameChan ctx, iff_of_false nofun id⟩
  · obtain ⟨hinv, hstat, hstored⟩ := hinv
    obtain ⟨hstat', hstep⟩ := hstat.step hinv (r.next j hj)
    refine ⟨(effect_of_step hinv (r.next j hj)).1, hstat', ?_⟩
    rw [hstep, lineBefore]
    split
    · exact statLine_iff _
    · exact hstored

/-- **The STAT interrupt is the rising edge of the STAT line.** In every run from power-on: while
no check is due the stored value is the line; while the LCD is on the comparison bit says whether
LY is LYC; and a clock requests the interrupt exactly when the line is high at its end and was low
at the end of the clock before it. -/
theorem stat_rising_edge {r : Machine.Run step} {frameChan : FrameChan} {ctx : GbCtx}
    (h0 : r.state 0 = new frameChan ctx) {k : ℕ} (hk : k ≤ r.length) :
    ((r.state k).checkInterrupt = false →
      ((r.state k).statInterrupt = true ↔ (r.state k).StatLine)) ∧
    ((r.state k).lcdcEnable = true →
      ((r.state k).statLycEqLy = true ↔ (r.state k).ly = (r.state k).lyc.toNat)) ∧
    (k < r.length → r.input k = .clock →
      ((r.state k).requestsLcd = true ↔ (r.state (k + 1)).StatLine ∧ ¬ lineBefore r k)) := by
  obtain ⟨hinv, hstat, hstored⟩ := statInterrupt_iff h0 hk
  refine ⟨fun hcheck => ?_, hstat.lyc_iff hinv.ly_le, fun hlt hin => ?_⟩
  · rw [hstat.stored hcheck]
    exact statLine_iff _
  · have hstep := r.next k hlt
    rw [hin] at hstep
    rw [requestsLcd_iff hinv hstat hstep, ← hstored, Bool.not_eq_true]

/-- Selecting the comparison with LYC, which is met at power-on, gives an interrupt in the next
clock. -/
theorem stat_rising_edge_new :
    ∃ r : Machine.Run step, r.length = 2 ∧ r.state 0 = new .none (.ofMode .modeDmg) ∧
      r.input 1 = .clock ∧ (r.state 1).requestsLcd = true := by
  obtain ⟨p, hp⟩ := exists_of_isOk
    (x := Machine.exec step [.writeReg .stat 0x40, .clock] (new .none (.ofMode .modeDmg)))
    (by decide +kernel)
  have hline : (Machine.exec step [.writeReg .stat 0x40, .clock]
      (new .none (.ofMode .modeDmg))).toOption.map statLine = some true := by decide +kernel
  rw [hp] at hline
  obtain ⟨r, hlen, hstart, hend, hin⟩ := Machine.Run.ofExec .clock hp
  refine ⟨r, hlen, hstart, hin 1, ?_⟩
  rw [(stat_rising_edge hstart (k := 1) (by rw [hlen]; decide)).2.2 (by rw [hlen]; decide) (hin 1)]
  refine ⟨?_, ?_⟩
  · rw [← statLine_iff, show r.state 2 = p from hend]
    exact Option.some.inj hline
  · rw [lineBefore, hin 0, if_neg nofun]
    exact id

end Ppu

end ZenithGb
