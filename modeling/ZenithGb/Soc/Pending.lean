import ZenithGb.Ppu.Frame
import ZenithGb.Ppu.Stat
import ZenithGb.Soc.Components
import ZenithGb.Soc.Wram

/-!
# The system on chip: pending interrupts

IF is written from two sides. The components and the joypad set its bits; the CPU clears the one it
serves, and a program can write the register. A bit is therefore a latch, and in every run it tells
whether its request was made, or written, after the last time it was cleared: no request is lost
and none appears from nowhere. There is one exception, which the statement shows: what a component
requests in the very M-cycle in which the CPU writes to IF is overwritten.

## Main results

* `Soc.pending_of_cycle` — the requests of an M-cycle, read off the state before it
* `Soc.pending_of_step` — one step
* `Soc.pending_iff` — any number of them
-/

namespace ZenithGb

open Outcome

/-- The interrupts. -/
inductive Interrupt
  | vblank | lcd | timer | serial | joypad
  deriving DecidableEq, Repr

/-- The bit of IF of an interrupt. -/
def Interrupt.index : Interrupt → ℕ
  | .vblank => 0
  | .lcd => 1
  | .timer => 2
  | .serial => 3
  | .joypad => 4

/-- The bit of an interrupt is set. -/
def Flagged (bits : UInt8) (i : Interrupt) : Prop := bits.toNat.testBit i.index = true

instance (bits : UInt8) (i : Interrupt) : Decidable (Flagged bits i) :=
  inferInstanceAs (Decidable (_ = _))

section

variable {x y : UInt8} {i : Interrupt}

theorem flagged_or : Flagged (x ||| y) i ↔ Flagged x i ∨ Flagged y i := by
  rw [Flagged, UInt8.toNat_or, Nat.testBit_or, Bool.or_eq_true]
  rfl

theorem not_flagged_zero : ¬ Flagged 0 i := by
  rw [Flagged, show (0 : UInt8).toNat = 0 from rfl, Nat.zero_testBit]
  exact Bool.false_ne_true

theorem flagged_congr {mask : UInt8} (h : x &&& mask = y &&& mask) (hmask : Flagged mask i) :
    Flagged x i ↔ Flagged y i := by
  have hbit := congrArg (fun v : UInt8 => v.toNat.testBit i.index) h
  simp only [UInt8.toNat_and, Nat.testBit_and] at hbit
  rw [Flagged] at hmask
  rw [hmask, Bool.and_true, Bool.and_true] at hbit
  rw [Flagged, Flagged, hbit]

theorem flagged_and_compl : Flagged (x &&& ~~~y) i ↔ Flagged x i ∧ ¬ Flagged y i := by
  have hlt : i.index < 8 := by cases i <;> decide
  rw [Flagged, Flagged, Flagged, ← UInt8.toNat_toBitVec, ← UInt8.toNat_toBitVec,
    ← UInt8.toNat_toBitVec, BitVec.testBit_toNat, BitVec.testBit_toNat, BitVec.testBit_toNat,
    UInt8.toBitVec_and, UInt8.toBitVec_not, BitVec.getLsbD_and, BitVec.getLsbD_not]
  simp [hlt]

end

/-! ### Requests of the components -/

theorem Timer.flagged_requested (t : Timer) (i : Interrupt) :
    Flagged t.requested i ↔ i = .timer ∧ t.timaOverflow = true := by
  rw [requested]
  cases t.timaOverflow with
  | false => exact iff_of_false not_flagged_zero fun h => Bool.false_ne_true h.2
  | true => cases i <;> simp [Flagged, Interrupt.index, interruptBitTimer] <;> decide

theorem Serial.flagged_requested (s : Serial) (i : Interrupt) :
    Flagged s.requested i ↔ i = .serial ∧ s.Enabled ∧ s.shiftCounter = 8 := by
  have hcond : (s.regEnable && s.regSelect && s.shiftCounter == 8) = true ↔
      s.Enabled ∧ s.shiftCounter = 8 := by
    rw [Bool.and_eq_true, Bool.and_eq_true, beq_iff_eq]
    rfl
  rw [requested]
  split
  · rename_i h
    rw [and_iff_left (hcond.mp h)]
    cases i <;> simp [Flagged, Interrupt.index, interruptBitSerial] <;> decide
  · rename_i h
    exact iff_of_false not_flagged_zero fun h' => h (hcond.mpr h'.2)

namespace Ppu

variable (p : Ppu) (ctx : ClockContext)

theorem others_or_lcd (v : UInt8) : (v ||| interruptBitLcd) &&& 0xFC = v &&& 0xFC :=
  UInt8.toBitVec_inj.mp ((by decide : ∀ b : BitVec 8, (b ||| 2) &&& 0xFC = b &&& 0xFC) v.toBitVec)

theorem others_or_vblank (v : UInt8) : (v ||| interruptBitVblank) &&& 0xFC = v &&& 0xFC :=
  UInt8.toBitVec_inj.mp ((by decide : ∀ b : BitVec 8, (b ||| 1) &&& 0xFC = b &&& 0xFC) v.toBitVec)

theorem handleStatInterrupt_others :
    (p.handleStatInterrupt ctx).2.interrupts &&& 0xFC = ctx.interrupts &&& 0xFC := by
  rw [handleStatInterrupt]
  dsimp only
  split
  · exact others_or_lcd _
  · rfl

theorem checkStatInterrupt_others :
    (p.checkStatInterrupt ctx).2.interrupts &&& 0xFC = ctx.interrupts &&& 0xFC := by
  rw [checkStatInterrupt]
  split
  · exact handleStatInterrupt_others p ctx
  · rfl

theorem enterVblank_others :
    (p.enterVblank ctx).2.interrupts &&& 0xFC = ctx.interrupts &&& 0xFC := by
  rw [enterVblank]
  dsimp only
  split <;> exact others_or_vblank _

theorem changeMode_others :
    Yields (p.changeMode ctx) fun r => r.2.interrupts &&& 0xFC = ctx.interrupts &&& 0xFC := by
  rw [changeMode]
  split
  · exact (yields_any _).bind fun _ _ => rfl
  · exact (yields_any _).bind fun _ _ => rfl
  · refine (yields_any _).bind fun _ _ => Meets.ite (fun _ => ?_) fun _ => ?_
    · exact enterVblank_others _ ctx
    · exact (yields_any _).bind fun _ _ => rfl
  · exact (yields_any _).bind fun _ _ => rfl

/-- The pixel unit requests nothing but its two interrupts. -/
theorem clock_others :
    Yields (p.clock ctx) fun r => r.2.interrupts &&& 0xFC = ctx.interrupts &&& 0xFC := by
  refine Meets.ite (fun _ => checkStatInterrupt_others _ ctx) fun _ => ?_
  refine (yields_any _).bind fun _ _ => (yields_any _).bind fun _ _ =>
    (yields_any _).bind fun _ _ => Meets.ite (fun _ => checkStatInterrupt_others _ ctx) fun _ => ?_
  have hmode : ∀ q : Ppu, Yields (q.updateMode ctx) fun r =>
      r.2.interrupts &&& 0xFC = ctx.interrupts &&& 0xFC :=
    fun q => (changeMode_others q ctx).bind fun _ hr => hr
  refine (hmode _).bind fun r hr => ?_
  refine (yields_any _).bind fun _ _ => (yields_any _).bind fun _ _ => ?_
  exact (handleStatInterrupt_others r.1 r.2).trans hr

end Ppu

namespace Ppu

variable {p p' : Ppu}

/-- A clock requests VBlank when it brings the beam round. -/
theorem requestsVblank_iff_position (h : Inv p) (hs : step .clock p = .ok p') :
    p.requestsVblank = true ↔ p.lcdcEnable = true ∧ (p.beam.position + 1) % 17556 = 0 := by
  obtain ⟨-, -, htick⟩ := tick_of_step h hs
  cases hon : p.lcdcEnable with
  | true =>
    rw [(htick.position h hon).2]
    exact (and_iff_right rfl).symm
  | false =>
    refine iff_of_false (fun hv => ?_) fun hb => Bool.false_ne_true hb.1
    rw [hv] at htick
    cases htick with
    | change hon' => exact Bool.false_ne_true (hon.symm.trans hon')

/-- What a clock adds to IF. -/
theorem flagged_of_clock {ctx : ClockContext} {r : Ppu × ClockContext} (h : Inv p)
    (hstat : StatInv p) (hr : p.clock ctx = .ok r) (i : Interrupt) :
    Flagged r.2.interrupts i ↔ Flagged ctx.interrupts i ∨
      i = .vblank ∧ p.lcdcEnable = true ∧ (p.beam.position + 1) % 17556 = 0 ∨
      i = .lcd ∧ p.statInterrupt = false ∧ r.1.StatLine := by
  have hs := step_of_clock hr
  rw [clock_eq_addTo] at hr
  obtain ⟨r', hr', rfl⟩ := map_eq_ok.mp hr
  have hothers := (clock_others p clearContext).of_ok hr'
  have hvblank := requestsVblank_iff_position h hs
  have hlcd := requestsLcd_iff h hstat hs
  rw [requestsVblank, hr'] at hvblank
  rw [requestsLcd, hr'] at hlcd
  have hbit0 : ∀ v : UInt8, (v &&& interruptBitVblank != 0) = v.toNat.testBit 0 := fun v =>
    (by decide : ∀ b : BitVec 8, (UInt8.ofBitVec b &&& 1 != 0) = b.toNat.testBit 0) v.toBitVec
  have hbit1 : ∀ v : UInt8, (v &&& interruptBitLcd != 0) = v.toNat.testBit 1 := fun v =>
    (by decide : ∀ b : BitVec 8, (UInt8.ofBitVec b &&& 2 != 0) = b.toNat.testBit 1) v.toBitVec
  show Flagged (ctx.interrupts ||| r'.2.interrupts) i ↔ _
  rw [flagged_or]
  refine or_congr_right ?_
  cases i with
  | vblank =>
    rw [Flagged, Interrupt.index, ← hbit0, hvblank]
    simp
  | lcd =>
    rw [Flagged, Interrupt.index, ← hbit1, hlcd]
    simp only [reduceCtorEq, false_and, true_and, false_or]
    exact and_comm
  | timer | serial | joypad =>
    refine iff_of_false (fun hf => ?_) (by simp)
    exact not_flagged_zero ((flagged_congr hothers (by decide)).mp hf)

theorem Reachable.stat (h : Reachable p) : Inv p ∧ StatInv p := by
  refine Machine.Reachable.induction (I := fun p => Inv p ∧ StatInv p) ?_
    (fun op p p' hp hs => ?_) h
  · rintro _ ⟨frameChan, ctx, rfl⟩
    exact ⟨Inv.new frameChan ctx, StatInv.new frameChan ctx⟩
  · exact ⟨(effect_of_step hp.1 hs).1, (StatInv.step hp.1 hp.2 hs).1⟩

end Ppu

namespace Soc

variable {s s' t : Soc} {i : Interrupt}

/-! ### Requests of a step -/

/-- A button that is up goes down. -/
def presses (buttons : GbButton → Bool) : List InputEvent → Bool
  | [] => false
  | input :: inputs =>
    (!buttons input.button && input.down) ||
      presses (Function.update buttons input.button input.down) inputs

/-- A step requests an interrupt. -/
def Requests (s : Soc) (op : Op) : Interrupt → Prop
  | .vblank => op.isCycle = true ∧ s.ticks = true ∧ s.ppu.lcdcEnable = true ∧
      (s.ppu.beam.position + 1) % 17556 = 0
  | .lcd => op.isCycle = true ∧ s.ticks = true ∧ s.ppu.statInterrupt = false ∧
      -- The STAT line when the cycle is over.
      ∃ s1 s2 t, Cycle s s1 s2 t ∧ t.ppu.StatLine
  | .timer => op.isCycle = true ∧ s.timer.timaOverflow = true
  | .serial => op.isCycle = true ∧ s.serial.Enabled ∧ s.serial.shiftCounter = 8
  | .joypad => ∃ inputs, op = .processEvents inputs ∧ s.eventBits &&& socEventVSync ≠ 0 ∧
      presses s.buttons inputs = true

/-- A step leaves the bit set: by a request, or because the CPU writes it. -/
def Sets (s : Soc) (op : Op) (i : Interrupt) : Prop :=
  match op with
  | .write address data => if address = 0xFF0F then Flagged data i else s.Requests op i
  | _ => s.Requests op i

/-- A step that does not set the bit clears it: the CPU writes IF without it, or serves it. -/
def Op.Clears (op : Op) (i : Interrupt) : Prop :=
  match op with
  | .write address data => address = 0xFF0F ∧ ¬ Flagged data i
  | .clearInterrupt interrupt => Flagged interrupt i
  | _ => False

/-- The interrupt is pending. -/
def Pending (s : Soc) (i : Interrupt) : Prop := Flagged s.rIf i

theorem Cycle.ppu_unique {s1 s2 t1 t2 t' : Soc} (h : Cycle s s1 s2 t) (h' : Cycle s t1 t2 t') :
    t'.ppu = t.ppu := by
  have h1 : t1 = s1 := ok_inj.mp (h'.dma.symm.trans h.dma)
  subst h1
  have hdma := h.hdma
  have hdma' := h'.hdma
  have hppu := h.ppu
  have hppu' := h'.ppu
  split at hdma
  · rename_i htick
    rw [if_pos htick] at hdma' hppu hppu'
    have h2 : t2 = s2 := ok_inj.mp (hdma'.symm.trans hdma)
    subst h2
    exact ok_inj.mp (hppu'.symm.trans hppu)
  · rename_i htick
    rw [if_neg htick] at hdma' hppu hppu'
    rw [hppu, hppu', hdma, hdma']

/-- **One M-cycle** adds its requests to IF. -/
theorem pending_of_cycle {op : Op} {top : Timer.Op} (hop : op.isCycle = true)
    (htop : top ≠ .resetDiv) (hinv : Ppu.Inv s.ppu) (hstat : Ppu.StatInv s.ppu)
    (h : s.clockWith (Timer.perform top) = .ok t) (i : Interrupt) :
    t.Pending i ↔ s.Requests op i ∨ s.Pending i := by
  obtain ⟨s1, s2, ctx, hcycle, hparts⟩ := parts_of_clockWith h
  obtain ⟨hinv2, -, oam, vram, hppu2⟩ := hcycle.ppu_before hinv
  have hstat2 : Ppu.StatInv s2.ppu := by
    rw [hppu2]
    exact ⟨hstat.stored, hstat.lyc⟩
  -- What the pixel unit adds.
  have hctx : Flagged ctx.interrupts i ↔ Flagged s.rIf i ∨ s.ticks = true ∧
      (i = .vblank ∧ s.ppu.lcdcEnable = true ∧ (s.ppu.beam.position + 1) % 17556 = 0 ∨
        i = .lcd ∧ s.ppu.statInterrupt = false ∧ t.ppu.StatLine) := by
    have hclock := hparts.ppu
    cases htick : s.ticks with
    | true =>
      rw [if_pos htick] at hclock
      have hflag := Ppu.flagged_of_clock hinv2 hstat2 hclock i
      rw [hppu2] at hflag
      rw [and_iff_right rfl]
      exact hflag
    | false =>
      rw [htick, if_neg Bool.false_ne_true] at hclock
      rw [hclock.2]
      simp
  -- What the timer and the serial port add.
  have hall : t.rIf = (ctx.interrupts ||| s.timer.requested) ||| s.serial.requested := by
    obtain ⟨r, -, heq⟩ := map_eq_ok.mp ((Serial.clock_eq _ _).symm.trans hparts.serial)
    rw [Timer.perform_eq htop] at heq
    exact (congrArg ClockContext.interrupts (Prod.mk.inj heq).2).symm
  rw [Pending, hall, flagged_or, flagged_or, hctx, Timer.flagged_requested,
    Serial.flagged_requested, Pending]
  have hlcd : (∃ s1 s2 t', Cycle s s1 s2 t' ∧ t'.ppu.StatLine) ↔ t.ppu.StatLine := by
    constructor
    · rintro ⟨t1, t2, t', hc, hline⟩
      rwa [hcycle.ppu_unique hc] at hline
    · exact fun hline => ⟨s1, s2, t, hcycle, hline⟩
  cases i with
  | vblank => simp [Requests, hop, or_comm]
  | lcd => simp only [Requests, hop, hlcd]; simp [or_comm]
  | timer => simp [Requests, hop, or_comm]
  | serial => simp [Requests, hop, or_comm]
  | joypad =>
    have hnone : ¬ s.Requests op .joypad := by
      rintro ⟨inputs, rfl, -⟩
      cases hop
    simp [hnone]

theorem foldl_presses (inputs : List InputEvent) : ∀ (buttons : GbButton → Bool) (b : Bool),
    (inputs.foldl (fun (acc : (GbButton → Bool) × Bool) input =>
      let wasDown := acc.1 input.button
      (Function.update acc.1 input.button input.down, acc.2 || (!wasDown && input.down)))
      (buttons, b)).2 = (b || presses buttons inputs) := by
  induction inputs with
  | nil => intro buttons b; exact (Bool.or_false b).symm
  | cons input inputs ih =>
    intro buttons b
    rw [List.foldl_cons, presses, ih, Bool.or_assoc]

theorem rIf_inputUpdate (s : Soc) (inputs : List InputEvent) : (s.inputUpdate inputs).rIf =
    if presses s.buttons inputs then s.rIf ||| interruptBitJoypad else s.rIf := by
  have hfold := foldl_presses inputs s.buttons false
  rw [Bool.false_or] at hfold
  rw [inputUpdate]
  dsimp only
  rw [← hfold]
  split <;> rfl

/-- What the host's events add to IF. -/
theorem flagged_processEvents (s : Soc) (inputs : List InputEvent) (i : Interrupt) :
    Flagged (s.processEvents inputs).2.rIf i ↔ s.Pending i ∨
      i = .joypad ∧ s.eventBits &&& socEventVSync ≠ 0 ∧ presses s.buttons inputs = true := by
  rw [processEvents]
  split
  · rename_i hnone
    rw [or_iff_left fun h => h.2.1 hnone]
    exact Iff.rfl
  · rename_i hevent
    show Flagged (s.inputUpdate inputs).rIf i ↔ _
    rw [rIf_inputUpdate]
    split
    · rename_i hpress
      rw [flagged_or, Pending, and_iff_left ⟨hevent, hpress⟩]
      refine or_congr_right ?_
      cases i <;> simp [Flagged, Interrupt.index, interruptBitJoypad] <;> decide
    · rename_i hpress
      rw [or_iff_left fun h => hpress h.2.2]
      exact Iff.rfl

/-- **One step.** -/
theorem pending_of_step {op : Op} (hinv : Ppu.Inv s.ppu) (hstat : Ppu.StatInv s.ppu)
    (h : step op s = .ok s') (i : Interrupt) :
    s'.Pending i ↔ s.Sets op i ∨ s.Pending i ∧ ¬ op.Clears i := by
  cases hop : op.isCycle with
  | true =>
    obtain ⟨top, t, htop, -, hclock, hafter⟩ := cycle_of_step hop h
    have hcycle := pending_of_cycle hop htop hinv hstat hclock i
    cases hafter with
    | clock he | read _ he =>
      subst he
      rw [hcycle]
      simp [Sets, Op.Clears]
    | write address data _ hrif =>
      have haddr : address.toNat = 0xFF0F ↔ address = 0xFF0F := UInt16.toNat_inj (b := 0xFF0F)
      rw [Pending, hrif]
      simp only [haddr]
      by_cases hif : address = 0xFF0F
      · have hmask : Flagged (data &&& 0x1F) i ↔ Flagged data i := by
          have hfive : Flagged 0x1F i := by cases i <;> decide
          refine flagged_congr ?_ hfive
          rw [UInt8.and_assoc]
          rfl
        rw [if_pos hif, hmask, Sets, if_pos hif, Op.Clears, and_iff_right hif]
        tauto
      · rw [if_neg hif, Sets, if_neg hif, Op.Clears]
        show t.Pending i ↔ _
        rw [hcycle]
        simp [hif]
  | false =>
    have hrequests : i ≠ .joypad → ¬ s.Requests op i := by
      intro hi hreq
      cases i with
      | joypad => exact hi rfl
      | _ => exact Bool.false_ne_true (hop.symm.trans hreq.1)
    have hquiet : (∀ inputs, op ≠ .processEvents inputs) → ¬ s.Requests op i := by
      intro hne hreq
      cases i with
      | joypad =>
        obtain ⟨inputs, he, -⟩ := hreq
        exact hne inputs he
      | _ => exact hrequests (by decide) hreq
    cases op with
    | clock | read _ | write _ _ => cases hop
    | clearInterrupt interrupt =>
      cases h
      show Flagged (s.rIf &&& ~~~interrupt) i ↔ s.Requests (.clearInterrupt interrupt) i ∨ _
      rw [flagged_and_compl, or_iff_right (hquiet fun _ he => by cases he)]
      exact Iff.rfl
    | setCpuHalted halted =>
      cases h
      show s.Pending i ↔ s.Requests (.setCpuHalted halted) i ∨ s.Pending i ∧ ¬ False
      rw [or_iff_right (hquiet fun _ he => by cases he), and_iff_left not_false]
    | speedSwitch =>
      cases h
      have hsame : s.cgbSpeedSwitch.rIf = s.rIf := by
        rw [cgbSpeedSwitch]
        split <;> rfl
      show Flagged s.cgbSpeedSwitch.rIf i ↔ s.Requests .speedSwitch i ∨ s.Pending i ∧ ¬ False
      rw [hsame, or_iff_right (hquiet fun _ he => by cases he), and_iff_left not_false]
      exact Iff.rfl
    | processEvents inputs =>
      cases h
      show Flagged (s.processEvents inputs).2.rIf i ↔
        s.Requests (.processEvents inputs) i ∨ s.Pending i ∧ ¬ False
      rw [and_iff_left not_false, or_comm, flagged_processEvents]
      refine or_congr_right ⟨?_, fun hreq => ?_⟩
      · rintro ⟨rfl, hevent, hpress⟩
        exact ⟨inputs, rfl, hevent, hpress⟩
      · cases i with
        | joypad =>
          obtain ⟨inputs', he, hevent, hpress⟩ := hreq
          cases he
          exact ⟨rfl, hevent, hpress⟩
        | _ => exact absurd hreq (hrequests (by decide))

/-! ### Runs -/

/-- **Pending interrupts.** In every run of a reachable system an interrupt is pending exactly when
its bit of IF was set, by a request or by the CPU, and not cleared since, or was so from the start
on. -/
theorem pending_iff (r : Machine.Run step) (hreach : Reachable (r.state 0)) (i : Interrupt) {k : ℕ}
    (hk : k ≤ r.length) :
    (r.state k).Pending i ↔
      (∃ j < k, (r.state j).Sets (r.input j) i ∧ ∀ m, j < m → m < k → ¬ (r.input m).Clears i) ∨
        (r.state 0).Pending i ∧ ∀ m < k, ¬ (r.input m).Clears i :=
  r.latched (f := fun s => s.Pending i) (fun j hj => by
    obtain ⟨hinv, hstat⟩ := (hreach.along (Nat.le_of_lt hj)).ppu.stat
    exact pending_of_step hinv hstat (r.next j hj) i) k hk

/-- After power-on VBlank is pending; once it has been served it no longer is. -/
theorem pending_iff_served : ∃ r : Machine.Run step, cgbNew = .ok (r.state 0) ∧ r.length = 2 ∧
    r.input 1 = .clearInterrupt 0x1 ∧ (r.state 0).Pending .vblank ∧
      ¬ (r.state 2).Pending .vblank := by
  obtain ⟨r, hstart, hlen, hin⟩ := exists_cgbRun [.clock, .clearInterrupt 0x1] (by decide +kernel)
  replace hlen : r.length = 2 := hlen
  have hserved : r.input 1 = .clearInterrupt 0x1 := hin 1
  have hpending : (r.state 0).rIf = 0x1 :=
    state_of_cgbNew (f := fun s => s.rIf) (k := 0) hstart (Nat.zero_le _) (by
      rw [show (List.range 0).map r.input = [] from rfl]
      decide +kernel)
  have hclears : (r.input 1).Clears .vblank := by
    rw [hserved]
    show Flagged 0x1 .vblank
    decide
  refine ⟨r, hstart, hlen, hserved, by rw [Pending, hpending]; decide, fun hpend => ?_⟩
  rcases (pending_iff r (reachable_cgbNew hstart) .vblank hlen.ge).mp hpend with
    ⟨j, hj, hset, hkept⟩ | ⟨-, hkept⟩
  · rcases j with _ | j
    · exact hkept 1 Nat.zero_lt_one (by decide) hclears
    · rw [show j + 1 = 1 by omega, hserved] at hset
      exact Bool.false_ne_true hset.1
  · exact hkept 1 (by decide) hclears

end Soc

end ZenithGb
