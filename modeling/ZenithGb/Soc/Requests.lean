import Mathlib.Data.Nat.Bitwise
import ZenithGb.Soc.Memory

/-!
# The system on chip: interrupt requests

A component that is clocked can only add requests to IF, and only its own, so IF stays below 0x20.
Apart from that IF and IE change when the CPU writes to their addresses.

## Main results

* `Soc.raises_of_clock` — a clock only adds requests
* `Soc.interrupts_of_clockWrite` — what a write does to IF and IE
* `Soc.rIf_lt_of_step` — IF stays below 0x20
-/

namespace ZenithGb

open Outcome

/-! ### Adding requests -/

/-- Requests were added to IF, if it changed at all. -/
def Raises (before after : UInt8) : Prop :=
  ∃ requests : UInt8, requests < 0x20 ∧ after = before ||| requests

namespace Raises

variable {x y z : UInt8}

theorem refl (x : UInt8) : Raises x x := ⟨0, by decide, UInt8.or_zero.symm⟩

theorem or_lt (hx : x < 0x20) (hy : y < 0x20) : x ||| y < 0x20 := by
  rw [UInt8.lt_iff_toNat_lt] at hx hy ⊢
  rw [UInt8.toNat_or]
  exact Nat.or_lt_two_pow (n := 5) hx hy

theorem trans (h : Raises x y) (h' : Raises y z) : Raises x z := by
  obtain ⟨r, hr, rfl⟩ := h
  obtain ⟨r', hr', rfl⟩ := h'
  exact ⟨r ||| r', or_lt hr hr', UInt8.or_assoc x r r'⟩

theorem of_request {interruptBit : UInt8} (h : interruptBit < 0x20) (ctx : ClockContext) :
    Raises ctx.interrupts (ctx.setInterrupt interruptBit).interrupts :=
  ⟨interruptBit, h, rfl⟩

theorem lt (h : Raises x y) (hx : x < 0x20) : y < 0x20 := by
  obtain ⟨r, hr, rfl⟩ := h
  exact or_lt hx hr

/-- A pending request stays pending. -/
theorem testBit (h : Raises x y) {i : ℕ} (hi : x.toNat.testBit i = true) :
    y.toNat.testBit i = true := by
  obtain ⟨r, -, rfl⟩ := h
  rw [UInt8.toNat_or, Nat.testBit_or, hi, Bool.true_or]

end Raises

/-! ### The components -/

namespace Ppu

variable (p : Ppu) (ctx : ClockContext)

theorem handleStatInterrupt_raises :
    Raises ctx.interrupts (p.handleStatInterrupt ctx).2.interrupts := by
  rw [handleStatInterrupt]
  dsimp only
  split
  · exact .of_request (by decide) ctx
  · exact .refl _

theorem checkStatInterrupt_raises :
    Raises ctx.interrupts (p.checkStatInterrupt ctx).2.interrupts := by
  rw [checkStatInterrupt]
  split
  · exact handleStatInterrupt_raises p ctx
  · exact .refl _

theorem enterVblank_raises : Raises ctx.interrupts (p.enterVblank ctx).2.interrupts := by
  rw [enterVblank]
  dsimp only
  split <;> exact .of_request (by decide) ctx

theorem changeMode_raises :
    Yields (p.changeMode ctx) fun r => Raises ctx.interrupts r.2.interrupts := by
  rw [changeMode]
  split
  · exact (yields_any _).bind fun _ _ => .refl _
  · exact (yields_any _).bind fun _ _ => .refl _
  · refine (yields_any _).bind fun _ _ => Meets.ite (fun _ => ?_) fun _ => ?_
    · exact enterVblank_raises _ ctx
    · exact (yields_any _).bind fun _ _ => .refl _
  · exact (yields_any _).bind fun _ _ => .refl _

theorem clock_raises : Yields (p.clock ctx) fun r => Raises ctx.interrupts r.2.interrupts := by
  refine Meets.ite (fun _ => checkStatInterrupt_raises _ ctx) fun _ => ?_
  refine (yields_any _).bind fun _ _ => (yields_any _).bind fun _ _ =>
    (yields_any _).bind fun _ _ => Meets.ite (fun _ => checkStatInterrupt_raises _ ctx) fun _ => ?_
  have hmode : ∀ q : Ppu, Yields (q.updateMode ctx) fun r => Raises ctx.interrupts r.2.interrupts :=
    fun q => (changeMode_raises q ctx).bind fun _ hr => hr
  refine (hmode _).bind fun r hr => ?_
  refine (yields_any _).bind fun _ _ => (yields_any _).bind fun _ _ => ?_
  exact hr.trans (handleStatInterrupt_raises r.1 r.2)

end Ppu

theorem Timer.clock_raises (t : Timer) (ctx : ClockContext) :
    Raises ctx.interrupts (t.clock ctx).2.interrupts := by
  rw [Timer.clock]
  split
  rename_i h
  split at h <;> cases h
  · exact .of_request (by decide) ctx
  · exact .refl _

/-- A write that the timer takes in its own way clocks it first. -/
theorem Timer.clockWrite_raises {r : HwReg}
    {clockCb : Timer → UInt8 → ClockContext → Timer × ClockContext}
    (h : Soc.timerWriteOf r = some clockCb) (t : Timer) (data : UInt8) (ctx : ClockContext) :
    Raises ctx.interrupts (clockCb t data ctx).2.interrupts := by
  have hclock := Timer.clock_raises t ctx
  cases r with
  | div => cases h; exact hclock
  | tac => cases h; exact hclock
  | tima =>
    cases h
    rw [Timer.clockWriteTima]
    dsimp only
    split <;> exact hclock
  | tma =>
    cases h
    rw [Timer.clockWriteTma]
    dsimp only
    split <;> exact hclock
  | _ => cases h

theorem Serial.clock_raises (s : Serial) (ctx : ClockContext) :
    Yields (s.clock ctx) fun r => Raises ctx.interrupts r.2.interrupts := by
  rw [Serial.clock]
  refine Meets.ite (fun _ => .refl _) fun _ => Meets.ite (fun _ => ?_) fun _ =>
    Meets.ite (fun _ => (yields_any _).bind fun _ _ => (yields_any _).bind fun _ _ => ?_)
      fun _ => (yields_any _).bind fun _ _ => ?_
  · exact .of_request (by decide) ctx
  -- A bit is shifted in, if there is one, and no interrupt is requested.
  all_goals
    dsimp only
    split
    · exact (yields_any _).bind fun _ _ => (yields_any _).bind fun _ _ => .refl _
    · exact .refl _

/-! ### Clocks -/

namespace Soc

variable {s s' : Soc}

theorem Cycle.ie {s1 s2 : Soc} (h : Cycle s s1 s2 s') : s'.ie = s.ie := by
  obtain ⟨hdma, -⟩ := (dmaStep_of_clockDma h.dma).frame
  obtain ⟨-, vram, hd, hhdma⟩ := h.hdma_frame
  rw [h.rest, hhdma, hdma]
  rfl

theorem clock4Mhz_raises {speed : Bool} {cycle : ℕ} (p : Ppu) (ctx : ClockContext) :
    Yields (clock4Mhz speed cycle (fun c : Ppu × ClockContext => c.1.clock c.2) (p, ctx))
      fun r => Raises ctx.interrupts r.2.interrupts :=
  Meets.ite (fun _ => Ppu.clock_raises p ctx) fun _ => .refl _

theorem raises_of_clockWith {timerClock : Timer → ClockContext → Timer × ClockContext}
    (htimer : ∀ t ctx, Raises ctx.interrupts (timerClock t ctx).2.interrupts)
    (h : s.clockWith timerClock = .ok s') : Raises s.rIf s'.rIf ∧ s'.ie = s.ie := by
  obtain ⟨s1, s2, hc⟩ := cycle_of_clockWith h
  refine ⟨?_, hc.ie⟩
  obtain ⟨t1, hdma, h⟩ := bind_eq_ok.mp h
  obtain ⟨t2, hhdma, h⟩ := bind_eq_ok.mp h
  obtain ⟨⟨ppu, ctx⟩, hppu, h⟩ := bind_eq_ok.mp h
  obtain ⟨mbc, -, h⟩ := bind_eq_ok.mp h
  obtain ⟨apu, -, h⟩ := bind_eq_ok.mp h
  obtain ⟨⟨serial, ctx'⟩, hserial, h⟩ := bind_eq_ok.mp h
  obtain ⟨cycles, -, h⟩ := bind_eq_ok.mp h
  cases h
  have hbefore : t2.rIf = s.rIf := by
    obtain ⟨hframe, -⟩ := (dmaStep_of_clockDma hdma).frame
    have hhdma := of_clock4Mhz hhdma
    split at hhdma
    · obtain ⟨-, vram, hd, rfl⟩ := (hdmaStep_of_clockHdma hhdma).frame
      rw [hframe]
      rfl
    · rw [hhdma, hframe]
  rw [← hbefore]
  have hraised := (clock4Mhz_raises t2.ppu ⟨t2.rIf, t2.eventBits⟩).of_ok hppu
  exact (hraised.trans (htimer t2.timer ctx)).trans ((Serial.clock_raises _ _).of_ok hserial)

/-- A clock only adds requests. -/
theorem raises_of_clock (h : s.clock = .ok s') : Raises s.rIf s'.rIf ∧ s'.ie = s.ie :=
  raises_of_clockWith Timer.clock_raises h

/-! ### Bus accesses -/

theorem raises_of_clockRead {address : UInt16} {byte : UInt8}
    (h : s.clockRead address = .ok (byte, s')) : Raises s.rIf s'.rIf ∧ s'.ie = s.ie := by
  obtain ⟨t, hclock, h⟩ := bind_eq_ok.mp h
  obtain ⟨b, -, h⟩ := bind_eq_ok.mp h
  cases h
  exact raises_of_clock hclock

/-- IF and IE are untouched. -/
def InterruptsKept (s s' : Soc) : Prop := s'.rIf = s.rIf ∧ s'.ie = s.ie

theorem InterruptsKept.refl (s : Soc) : InterruptsKept s s := ⟨rfl, rfl⟩

theorem interruptsKept_whenCgb {t : Soc} (h : InterruptsKept s t) :
    InterruptsKept s (s.whenCgb t) := by
  rw [whenCgb]
  split
  · exact .refl s
  · exact h

theorem interruptsKept_writeReg {address : ℕ} {data : UInt8} {r : HwReg} (hr : r ≠ .if)
    (h : s.writeReg address data r = .ok s') : InterruptsKept s s' := by
  cases r with
  | «if» => exact absurd rfl hr
  | nr10 | nr11 | nr12 | nr13 | nr14 | nr21 | nr22 | nr23 | nr24 | waveRam | nr30 | nr31 | nr32
  | nr33 | nr34 | nr41 | nr42 | nr43 | nr44 =>
    obtain ⟨apu, -, h⟩ := bind_eq_ok.mp h
    cases h
    exact ⟨rfl, rfl⟩
  | hdma5 | svbk | key1 | ff72 | ff73 | ff74 | ff75 =>
    cases h
    exact interruptsKept_whenCgb ⟨rfl, rfl⟩
  | _ =>
    cases h
    exact ⟨rfl, rfl⟩

theorem ofAddr_eq_if {address : ℕ} (h : HwReg.ofAddr address = some .if) : address = 0xFF0F := by
  have := ofAddr_range h
  simp only [HwReg.addr, HwReg.span] at this
  omega

theorem ofAddr_if : HwReg.ofAddr 0xFF0F = some .if := by decide

/-- What a write that follows its clock does to IF and IE. -/
theorem interrupts_of_writeBus {activeDma : Bool} {address : ℕ} {data : UInt8}
    (haddr : address ≤ 0xFFFF) (h : s.writeBus activeDma address data = .ok s') :
    s'.rIf = (if address = 0xFF0F then data &&& 0x1F else s.rIf) ∧
      s'.ie = if address = 0xFFFF then data else s.ie := by
  have hplain : address ≠ 0xFF0F → address ≠ 0xFFFF → InterruptsKept s s' →
      s'.rIf = (if address = 0xFF0F then data &&& 0x1F else s.rIf) ∧
        s'.ie = if address = 0xFFFF then data else s.ie := by
    intro hif hie hkept
    rw [if_neg hif, if_neg hie]
    exact hkept
  cases stores_of_writeBus h with
  | mbc | vram | wram | oam | locked | hram => exact hplain (by omega) (by omega) ⟨rfl, rfl⟩
  | reg r _ hr hwrite =>
    by_cases hif : address = 0xFF0F
    · subst hif
      cases ofAddr_if.symm.trans hr
      cases hwrite
      exact ⟨rfl, rfl⟩
    · refine hplain hif ?_ (interruptsKept_writeReg ?_ hwrite)
      · rintro rfl
        have hnone : HwReg.ofAddr 0xFFFF = none := by decide
        cases hnone.symm.trans hr
      · rintro rfl
        exact hif (ofAddr_eq_if hr)
  | unmapped hlo hhi hnone =>
    refine hplain ?_ (by omega) (.refl s)
    rintro rfl
    cases ofAddr_if.symm.trans hnone
  | ie hend =>
    rw [if_neg (by omega), if_pos (by omega)]
    exact ⟨rfl, rfl⟩

/-- **Writes.** A write clocks the components, which can add requests, and then sets IF or IE if
that is what it addresses. -/
theorem interrupts_of_clockWrite {address : UInt16} {data : UInt8}
    (h : s.clockWrite address data = .ok s') : ∃ raised, Raises s.rIf raised ∧
      s'.rIf = (if address = 0xFF0F then data &&& 0x1F else raised) ∧
      s'.ie = if address = 0xFFFF then data else s.ie := by
  have hnat : ∀ n : UInt16, address = n ↔ address.toNat = n.toNat := fun n => UInt16.toNat_inj.symm
  simp only [hnat]
  rw [clockWrite] at h
  split at h
  · rename_i clockCb hcb
    have hrange := timerWriteOf_range hcb
    obtain ⟨r, -, hr⟩ := Option.bind_eq_some_iff.mp hcb
    rw [clockTimerWrite_eq_clockWith] at h
    obtain ⟨hraises, hie⟩ :=
      raises_of_clockWith (fun t ctx => Timer.clockWrite_raises hr t data ctx) h
    refine ⟨_, hraises, ?_, ?_⟩
    · rw [if_neg]
      show address.toNat ≠ 0xFF0F
      omega
    · rw [if_neg, hie]
      show address.toNat ≠ 0xFFFF
      omega
  · obtain ⟨t, hclock, hwrite⟩ := bind_eq_ok.mp h
    obtain ⟨hraises, hie⟩ := raises_of_clock hclock
    have hbus := interrupts_of_writeBus (Nat.le_of_lt_succ address.toNat_lt) hwrite
    rw [hie] at hbus
    exact ⟨t.rIf, hraises, hbus⟩

theorem and_lt (data : UInt8) : data &&& 0x1F < 0x20 := by
  rw [UInt8.lt_iff_toNat_lt]
  exact Nat.lt_succ_of_le (toNat_and_le data 0x1F)

theorem rIf_lt_of_clockWrite {address : UInt16} {data : UInt8} (hif : s.rIf < 0x20)
    (h : s.clockWrite address data = .ok s') : s'.rIf < 0x20 := by
  obtain ⟨raised, hraises, hrif, -⟩ := interrupts_of_clockWrite h
  rw [hrif]
  split
  · exact and_lt data
  · exact hraises.lt hif

/-- **IF stays below 0x20**, whatever is done to the system. -/
theorem rIf_lt_of_step {op : Op} (hif : s.rIf < 0x20) (h : step op s = .ok s') :
    s'.rIf < 0x20 := by
  cases op with
  | clock => exact (raises_of_clock h).1.lt hif
  | read address =>
    obtain ⟨⟨byte, t⟩, hr, rfl⟩ := map_eq_ok.mp h
    exact (raises_of_clockRead hr).1.lt hif
  | write address data => exact rIf_lt_of_clockWrite hif h
  | clearInterrupt interrupt =>
    cases h
    rw [UInt8.lt_iff_toNat_lt] at hif ⊢
    show (s.rIf &&& ~~~interrupt).toNat < _
    rw [UInt8.toNat_and]
    exact Nat.lt_of_le_of_lt Nat.and_le_left hif
  | setCpuHalted halted => cases h; exact hif
  | speedSwitch =>
    cases h
    rw [cgbSpeedSwitch]
    split <;> exact hif
  | processEvents inputs =>
    cases h
    rw [processEvents]
    split
    · exact hif
    · rw [inputUpdate]
      dsimp only
      split
      · exact Raises.or_lt hif (by decide)
      · exact hif

theorem Reachable.rIf_lt (h : Reachable s) : s.rIf < 0x20 := by
  refine Machine.Reachable.induction (I := fun s => s.rIf < 0x20) ?_
    (fun _ _ _ hs hstep => rIf_lt_of_step hs hstep) h
  rintro s ⟨cartridge, frameChan, runForCycles, ctx, hnew⟩
  obtain ⟨mbc, -, hnew⟩ := bind_eq_ok.mp hnew
  cases hnew
  exact (by decide : (0x1 : UInt8) < 0x20)

end Soc

end ZenithGb
