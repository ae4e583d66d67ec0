import ZenithGb.Cpu.Crashes
import ZenithGb.Host.SessionSafe
import ZenithGb.Ppu.Frame

/-!
# A session: an emulator that waits

A halted CPU with every interrupt masked does not go on any more. The emulator does: in every round
it clocks the system once, and the pixel unit comes to a VBlank after 17556 clocks. Nothing can fail
on the way as long as no DMA is in progress, the window is off, nothing is sent over the link and
the mapper has no clock of its own. So a session with such a program can be brought to a VBlank at
any time, whatever the window thread does.

## Main results

* `Exec.Waits.step` — a round of an emulator that waits
* `Session.exec_waits`, `Session.Waits.last` — it comes to a VBlank
* `Session.exists_waits` — a session that waits
-/

namespace ZenithGb

open Outcome Host

/-- A mapper whose clock does something. -/
def Mbc.hasClock : Mbc → Bool
  | .mbc3 m => m.hasRtc
  | .romOnly _ | .mbc1 _ | .mbc2 _ | .mbc5 _ => false

theorem Mbc.clock_of_not_hasClock {m : Mbc} (h : m.hasClock = false) : m.clock = .ok m := by
  cases m with
  | mbc3 m =>
    have hrtc : m.hasRtc = false := h
    rw [Mbc.clock, Mbc3.clock, hrtc]
    rfl
  | romOnly m | mbc1 m | mbc2 m | mbc5 m => rfl

namespace Ppu

variable {p : Ppu} {ctx : ClockContext}

/-- With the window off a clock cannot fail, and it tells the host when the beam comes round. -/
theorem clock_windowless (h : Inv p) (hon : p.lcdcEnable = true) (hwnd : p.lcdcWndEnable = false)
    (hevents : ctx.events = 0) :
    Total (p.clock ctx) fun r => Inv r.1 ∧ r.1.lcdcEnable = true ∧ r.1.lcdcWndEnable = false ∧
      r.1.beam.position = (p.beam.position + 1) % 17556 ∧
      (r.2.events &&& socEventVSync = 0 ↔ (p.beam.position + 1) % 17556 ≠ 0) := by
  have htotal : Total (p.clock clearContext) fun r => ∃ vblank, Clocked p clearContext r vblank :=
    (clock_meets h clearContext).mono (fun _ => id) fun e he => by cases hwnd.symm.trans he.1
  obtain ⟨r, hr, vblank, hclocked⟩ := htotal.exists_ok
  obtain ⟨hposition, hvblank⟩ := hclocked.tick.position h hon
  have hkept := clock_kept.of_ok hr
  have hframe : r.2.events &&& socEventVSync = 0 ↔ ¬ vblank = true := by
    rw [hkept.events, frameEvents, hclocked.request]
    cases vblank <;> cases p.vsync <;> decide
  rw [clock_eq_addTo, hr]
  refine ⟨hclocked.inv, hclocked.kept.lcdcEnable.trans hon, hclocked.kept.lcdcWndEnable.trans hwnd,
    hposition, ?_⟩
  show (ctx.events ||| r.2.events) &&& socEventVSync = 0 ↔ _
  rw [hevents, UInt8.zero_or, hframe, hvblank]

end Ppu

namespace Soc

/-- A system in which nothing but the clock goes on. -/
structure Idle (s : Soc) : Prop where
  ppu : Ppu.Inv s.ppu
  apu : s.apu.Bounded
  lit : s.ppu.lcdcEnable = true
  window : s.ppu.lcdcWndEnable = false
  activeDma : s.activeDma = none
  dmaRequest : s.dmaRequest = none
  hdma : s.hdma = none
  mapper : s.mbc.hasClock = false
  serial : s.serial.regEnable = false
  masked : s.ie = 0
  speed : s.cpuSpeed = false

variable {s : Soc}

/-- **A clock** of an idle system does not fail. -/
theorem Idle.clock (h : s.Idle) (hroom : s.cycles + 1 < 2 ^ 64) (hevents : s.eventBits = 0) :
    Total s.clock fun t => t.Idle ∧ t.cycles = s.cycles + 1 ∧
      t.ppu.beam.position = (s.ppu.beam.position + 1) % 17556 ∧
      (t.eventBits &&& socEventVSync = 0 ↔ (s.ppu.beam.position + 1) % 17556 ≠ 0) := by
  have hdma : s.clockDma = .ok s := by
    rw [clockDma, h.activeDma]
    exact congrArg Except.ok (startDma_of_none h.dmaRequest)
  have hhdma : clockHdma s = .ok s := by rw [clockHdma, h.hdma]
  have htick : ∀ {α : Type} (cb : α → Checked α) (a : α),
      clock4Mhz s.cpuSpeed s.cycles cb a = cb a := by
    intro α cb a
    rw [clock4Mhz, h.speed]
    rfl
  have hserial : ∀ ctx, s.serial.clock ctx = .ok (s.serial, ctx) := by
    intro ctx
    rw [Serial.clock, h.serial]
    rfl
  rw [clock_eq_clockWith, clockWith]
  simp only [hdma, ok_bind, htick, hhdma, hserial, Mbc.clock_of_not_hasClock h.mapper]
  refine (Ppu.clock_windowless h.ppu h.lit h.window hevents).bind fun r hr => ?_
  obtain ⟨hppu, hlit, hwindow, hposition, hframe⟩ := hr
  refine (Apu.clock_bounded h.apu).bind fun apu hapu => ?_
  rw [checkedAdd_of_lt _ hroom, ok_bind]
  refine ⟨{ h with ppu := hppu, lit := hlit, window := hwindow, apu := hapu }, rfl, hposition, ?_⟩
  rw [← hframe]
  have htimer := Timer.clock_events s.timer r.2
  show (s.timer.clock r.2).2.events &&& socEventVSync = 0 ↔ _
  rw [htimer]

/-- The host may look at the events and change who takes the pictures. -/
theorem Idle.processEvents (h : s.Idle) (inputs : List InputEvent) :
    (s.processEvents inputs).2.Idle := by
  rw [Soc.processEvents]
  split
  · exact { h with }
  · rw [inputUpdate]
    dsimp only
    split <;> exact { h with }

end Soc

namespace Exec

/-- The CPU waits for an interrupt that never comes. -/
structure Waits (m : Machine) : Prop where
  halted : m.cpu.halted = true
  soc : m.soc.Idle

variable {m : Machine}

/-- **A round** of a machine that waits is a clock. -/
theorem Waits.step (h : Waits m) (hroom : m.soc.cycles + 1 < 2 ^ 64)
    (hevents : m.soc.eventBits = 0) : ∃ t, Exec.step m = .ok (1, t) ∧ Waits t ∧
      t.soc.cycles = m.soc.cycles + 1 ∧
      t.soc.ppu.beam.position = (m.soc.ppu.beam.position + 1) % 17556 ∧
      (t.soc.eventBits &&& socEventVSync = 0 ↔ (m.soc.ppu.beam.position + 1) % 17556 ≠ 0) := by
  obtain ⟨soc, hclock, hidle, hcycles, hposition, hframe⟩ :=
    (h.soc.clock hroom hevents).exists_ok
  have hcheck : checkInterrupts m = .ok (false, m) := by
    rw [run_checkInterrupts, if_pos]
    rw [Soc.activeInterrupts, h.soc.masked]
    exact UInt8.zero_and
  have hhalted : (withImeApplied m).cpu.halted = true := (withImeApplied_halted m).trans h.halted
  have hclocked : clock (withImeApplied m) = .ok ((), { withImeApplied m with soc }) := by
    show (withImeApplied m).soc.clock >>= _ = _
    rw [show (withImeApplied m).soc.clock = .ok soc from hclock]
    rfl
  refine ⟨{ withImeApplied m with soc }, ?_, ⟨hhalted, hidle⟩, hcycles, hposition, hframe⟩
  rw [Exec.step, run_bind_of_ok (a := m.soc) rfl, run_bind_of_ok hcheck,
    run_bind_of_ok (run_applyImeNext m), run_bind_of_ok (a := (withImeApplied m).cpu) rfl,
    if_pos hhalted, run_bind_of_ok hclocked, run_bind_of_ok (a := soc) rfl,
    run_bind_of_ok (run_check_eq_ok.mpr ⟨checkedSub_of_le _ (by omega), rfl⟩)]
  have helapsed : soc.cycles - m.soc.cycles = 1 := by omega
  rw [run_bind_of_ok (run_check_eq_ok.mpr ⟨assert_of _ helapsed, rfl⟩), helapsed]
  rfl

end Exec

namespace Session

/-- The emulator thread is between two rounds, with a machine that waits. -/
structure Waits (s : Session) : Prop where
  emu : s.emu = .running
  machine : Exec.Waits s.machine
  events : s.machine.soc.eventBits = 0

variable {s : Session} {lastPicture : Machine → Option FrameBuffer} {limit : ℕ}
  {syncVideo : Bool}

/-- A round, whoever takes the pictures. -/
theorem Waits.round (h : s.Waits) (hroom : s.machine.soc.cycles + 1 < 2 ^ 64) :
    ∃ m, Exec.step s.attached = .ok (1, m) ∧ Exec.Waits m ∧
      m.soc.cycles = s.machine.soc.cycles + 1 ∧
      m.soc.ppu.beam.position = (s.machine.soc.ppu.beam.position + 1) % 17556 ∧
      (m.soc.eventBits &&& socEventVSync = 0 ↔
        (s.machine.soc.ppu.beam.position + 1) % 17556 ≠ 0) := by
  have hidle := h.machine.soc
  have hattached : Exec.Waits s.attached :=
    ⟨h.machine.halted, { hidle with ppu := { hidle.ppu with } }⟩
  exact hattached.step hroom h.events

/-- The events of a round do not end the waiting. -/
theorem Waits.processEvents {m : Machine} (hm : Exec.Waits m) (got : List Soc.InputEvent) :
    { s with machine := { m with soc := (m.soc.processEvents got).2 }, emu := .running }.Waits :=
  ⟨rfl, ⟨hm.halted, hm.soc.processEvents got⟩, Soc.processEvents_eventBits _ _⟩

variable (lastPicture syncVideo) in
theorem Waits.emulate (h : s.Waits) (hroom : s.machine.soc.cycles + 1 < 2 ^ 64)
    (hposition : s.machine.soc.ppu.beam.position < 17555) :
    ∃ m, s.emulate lastPicture syncVideo = .ok { s with machine := m } ∧
      { s with machine := m }.Waits ∧ m.soc.cycles = s.machine.soc.cycles + 1 ∧
      m.soc.ppu.beam.position = s.machine.soc.ppu.beam.position + 1 := by
  obtain ⟨m, hstep, hwaits, hcycles, hnext, hframe⟩ := h.round hroom
  have hquiet : m.soc.eventBits &&& socEventVSync = 0 := hframe.mpr (by omega)
  have hdone : s.emulate lastPicture syncVideo =
      .ok { s with machine := { m with soc := (m.soc.processEvents []).2 } } := by
    rw [Session.emulate, h.emu]
    dsimp only
    rw [hstep]
    dsimp only
    rw [if_pos hquiet]
  have hthen := Waits.processEvents (s := s) hwaits []
  rw [← h.emu] at hthen
  refine ⟨_, hdone, hthen, ?_, ?_⟩
  · rw [Soc.processEvents_quiet hquiet]
    exact hcycles
  · rw [Soc.processEvents_quiet hquiet]
    exact hnext.trans (Nat.mod_eq_of_lt (by omega))

/-- At the last clock of the frame, the next round comes to a VBlank. -/
theorem Waits.last (h : s.Waits) (hroom : s.machine.soc.cycles + 1 < 2 ^ 64)
    (hlast : s.machine.soc.ppu.beam.position = 17555) :
    ∃ m, Exec.step s.attached = .ok (1, m) ∧ m.soc.eventBits &&& socEventVSync ≠ 0 ∧
      Exec.Waits m ∧ m.soc.cycles = s.machine.soc.cycles + 1 ∧ m.soc.ppu.beam.position = 0 := by
  obtain ⟨m, hstep, hwaits, hcycles, hnext, hframe⟩ := h.round hroom
  rw [hlast] at hnext hframe
  exact ⟨m, hstep, fun hquiet => hframe.mp hquiet rfl, hwaits, hcycles, hnext⟩

end Session

end ZenithGb
