import ZenithGb.Cpu.Drives
import ZenithGb.Ppu.Settings

/-!
# The system on chip: what the host sees of it

The host presses buttons, takes frames and reads events. The buttons, the cycle limit and the frame
channel are its own and no operation of the CPU touches them; the events the CPU's operations raise
say that a frame is ready, and, if nobody takes frames any more, that the emulator is to stop.

## Main results

* `Soc.host_of_cpuStep` — the CPU leaves the host's side alone
* `Soc.HostStep.eventsOk` — the events between two looks of the host
-/

namespace ZenithGb

open Outcome

namespace Timer

theorem clock_events (t : Timer) (ctx : ClockContext) :
    (t.clock ctx).2.events = ctx.events := by
  rw [clock]
  split
  rename_i h
  split at h <;> cases h <;> rfl

theorem clockWrite_events {r : HwReg}
    {clockCb : Timer → UInt8 → ClockContext → Timer × ClockContext}
    (h : Soc.timerWriteOf r = some clockCb) (t : Timer) (data : UInt8) (ctx : ClockContext) :
    (clockCb t data ctx).2.events = ctx.events := by
  have hclock := clock_events t ctx
  cases r with
  | div | tac => cases h; exact hclock
  | tima =>
    cases h
    rw [clockWriteTima]
    dsimp only
    split <;> exact hclock
  | tma =>
    cases h
    rw [clockWriteTma]
    dsimp only
    split <;> exact hclock
  | _ => cases h

end Timer

theorem Serial.clock_events (s : Serial) (ctx : ClockContext) :
    Yields (s.clock ctx) fun r => r.2.events = ctx.events := by
  rw [Serial.clock]
  refine Meets.ite (fun _ => rfl) fun _ => Meets.ite (fun _ => rfl) fun _ =>
    Meets.ite (fun _ => (yields_any _).bind fun _ _ => (yields_any _).bind fun _ _ => ?_)
      fun _ => (yields_any _).bind fun _ _ => ?_
  all_goals
    dsimp only
    split
    · exact (yields_any _).bind fun _ _ => (yields_any _).bind fun _ _ => rfl
    · rfl

namespace Soc

/-- The host's side of the system. -/
structure HostSide where
  buttons : GbButton → Bool
  runForCycles : Option ℕ
  frameChan : FrameChan

def hostSide (s : Soc) : HostSide := ⟨s.buttons, s.runForCycles, s.ppu.frameChan⟩

/-- What the events can be between two looks of the host. -/
def EventsOk (s : Soc) : Prop :=
  s.eventBits = 0 ∨ s.eventBits = if s.ppu.vsync then socEventsVSyncAndExit ||| socEventVSync
    else socEventVSync

variable {s s' : Soc}

/-! ### One M-cycle -/

/-- The host's side and the events when a cycle comes to clock the pixel unit. -/
theorem Cycle.host_before {s1 s2 : Soc} (h : Cycle s s1 s2 s') :
    s2.hostSide = s.hostSide ∧ s2.eventBits = s.eventBits := by
  obtain ⟨hdma, oam, hppu⟩ := (dmaStep_of_clockDma h.dma).frame
  obtain ⟨-, vram, hd, hhdma⟩ := h.hdma_frame
  have hchan : s1.ppu.frameChan = s.ppu.frameChan := by rw [hppu]
  rw [hhdma]
  refine ⟨?_, ?_⟩
  · show HostSide.mk s1.buttons s1.runForCycles s1.ppu.frameChan = _
    rw [hchan, hdma]
    rfl
  · show s1.eventBits = _
    rw [hdma]

theorem ppu_step_settings {p p' : Ppu} (h : Ppu.step .clock p = .ok p') :
    p'.settings = p.settings := by
  obtain ⟨r, hr, rfl⟩ := map_eq_ok.mp h
  exact (Ppu.clock_kept.of_ok hr).settings

/-- **A cycle** leaves the host's side alone. -/
theorem Cycle.hostSide {s1 s2 : Soc} (h : Cycle s s1 s2 s') : s'.hostSide = s.hostSide := by
  rw [← h.host_before.1]
  have hchan : s'.ppu.frameChan = s2.ppu.frameChan := by
    have hppu := h.ppu
    split at hppu
    · exact congrArg Ppu.Settings.frameChan (ppu_step_settings hppu)
    · rw [hppu]
  rw [Soc.hostSide, hchan, h.rest]
  rfl

/-- The events of a clock of the pixel unit, on top of those that were there. -/
theorem ppu_clock_events {p : Ppu} {ctx : ClockContext} {r : Ppu × ClockContext}
    (h : p.clock ctx = .ok r) :
    r.1.settings = p.settings ∧ (r.2.events = ctx.events ∨
      r.2.events = ctx.events ||| if p.vsync then socEventsVSyncAndExit ||| socEventVSync
        else socEventVSync) := by
  rw [Ppu.clock_eq_addTo] at h
  obtain ⟨r', hr', rfl⟩ := map_eq_ok.mp h
  have hkept := Ppu.clock_kept.of_ok hr'
  refine ⟨hkept.settings, ?_⟩
  show ctx.events ||| r'.2.events = ctx.events ∨ ctx.events ||| r'.2.events = _
  rw [hkept.events, Ppu.frameEvents]
  split
  · exact .inr rfl
  · exact .inl UInt8.or_zero

theorem clockWith_events {timerClock : Timer → ClockContext → Timer × ClockContext}
    (htimer : ∀ t ctx, (timerClock t ctx).2.events = ctx.events)
    (h : s.clockWith timerClock = .ok s') : s'.eventBits = s.eventBits ∨
      s'.eventBits = s.eventBits ||| if s.ppu.vsync then socEventsVSyncAndExit ||| socEventVSync
        else socEventVSync := by
  obtain ⟨s1, s2, hc⟩ := cycle_of_clockWith h
  obtain ⟨t1, hdma, h⟩ := bind_eq_ok.mp h
  obtain ⟨t2, hhdma, h⟩ := bind_eq_ok.mp h
  obtain ⟨⟨ppu, ctx⟩, hppu, h⟩ := bind_eq_ok.mp h
  obtain ⟨mbc, -, h⟩ := bind_eq_ok.mp h
  obtain ⟨apu, -, h⟩ := bind_eq_ok.mp h
  obtain ⟨⟨serial, ctx'⟩, hserial, h⟩ := bind_eq_ok.mp h
  obtain ⟨cycles, -, h⟩ := bind_eq_ok.mp h
  cases h
  have ht1 : t1 = s1 := ok_inj.mp (hdma.symm.trans hc.dma)
  have ht2 : t2 = s2 := by
    have hhdma := of_clock4Mhz hhdma
    have hcycle := hc.hdma
    rw [ht1] at hhdma
    split at hhdma
    · rename_i htick
      rw [if_pos htick] at hcycle
      exact ok_inj.mp (hhdma.symm.trans hcycle)
    · rename_i htick
      rw [if_neg htick] at hcycle
      rw [hhdma, hcycle]
  obtain ⟨hside, hevents⟩ := hc.host_before
  have hvsync : s2.ppu.vsync = s.ppu.vsync := by
    have hchan : s2.ppu.frameChan = s.ppu.frameChan := congrArg HostSide.frameChan hside
    rw [Ppu.vsync, Ppu.vsync, hchan]
  have hserial' : ctx'.events = (timerClock t2.timer ctx).2.events :=
    (Serial.clock_events _ _).of_ok hserial
  show ctx'.events = _ ∨ ctx'.events = _
  rw [hserial', htimer, ← hevents, ← hvsync, ← ht2]
  rw [clock4Mhz] at hppu
  split at hppu
  · exact (ppu_clock_events hppu).2
  · cases hppu
    exact .inl rfl

/-! ### Writes -/

/-- What a write leaves alone. -/
structure HostKept (s s' : Soc) : Prop where
  hostSide : s'.hostSide = s.hostSide
  eventBits : s'.eventBits = s.eventBits

theorem HostKept.refl (s : Soc) : HostKept s s := ⟨rfl, rfl⟩

theorem hostKept_whenCgb {t : Soc} (h : HostKept s t) : HostKept s (s.whenCgb t) := by
  rw [whenCgb]
  split
  · exact .refl s
  · exact h

/-- A change of the pixel unit that keeps the channel. -/
theorem hostKept_ppu {ppu : Ppu} (h : ppu.frameChan = s.ppu.frameChan) :
    HostKept s { s with ppu } := by
  refine ⟨?_, rfl⟩
  show HostSide.mk s.buttons s.runForCycles ppu.frameChan = _
  rw [h]
  rfl

theorem ppu_writeReg_frameChan (p : Ppu) (data : UInt8) (reg : Ppu.Reg) :
    (p.writeReg data reg).frameChan = p.frameChan := by
  cases reg with
  | lcdc =>
    show (p.lcdSwitch _).frameChan = _
    rw [Ppu.lcdSwitch]
    split
    · rfl
    split <;> rfl
  | lyc =>
    show (p.writeLyc data).frameChan = _
    rw [Ppu.writeLyc]
    dsimp only
    split <;> rfl
  | bcpd =>
    show (p.writeBcpd data).frameChan = _
    rw [Ppu.writeBcpd]
    split
    · rfl
    split <;> rfl
  | ocpd =>
    show (p.writeOcpd data).frameChan = _
    rw [Ppu.writeOcpd]
    split
    · rfl
    split <;> rfl
  | vbk =>
    show (p.writeVbk data).frameChan = _
    rw [Ppu.writeVbk]
    split <;> rfl
  | bcps =>
    show (p.writeBcps data).frameChan = _
    rw [Ppu.writeBcps]
    split <;> rfl
  | ocps =>
    show (p.writeOcps data).frameChan = _
    rw [Ppu.writeOcps]
    split <;> rfl
  | opri =>
    show (p.writeOpri data).frameChan = _
    rw [Ppu.writeOpri]
    split <;> rfl
  | stat | ly | scy | scx | bgp | obp0 | obp1 | wy | wx => rfl

theorem hostKept_of_writeReg {address : ℕ} {data : UInt8} {r : HwReg}
    (h : s.writeReg address data r = .ok s') : HostKept s s' := by
  cases r with
  | lcdc => cases h; exact hostKept_ppu (ppu_writeReg_frameChan _ data .lcdc)
  | stat => cases h; exact hostKept_ppu (ppu_writeReg_frameChan _ data .stat)
  | ly => cases h; exact hostKept_ppu (ppu_writeReg_frameChan _ data .ly)
  | scy => cases h; exact hostKept_ppu (ppu_writeReg_frameChan _ data .scy)
  | scx => cases h; exact hostKept_ppu (ppu_writeReg_frameChan _ data .scx)
  | lyc => cases h; exact hostKept_ppu (ppu_writeReg_frameChan _ data .lyc)
  | bgp => cases h; exact hostKept_ppu (ppu_writeReg_frameChan _ data .bgp)
  | obp0 => cases h; exact hostKept_ppu (ppu_writeReg_frameChan _ data .obp0)
  | obp1 => cases h; exact hostKept_ppu (ppu_writeReg_frameChan _ data .obp1)
  | wy => cases h; exact hostKept_ppu (ppu_writeReg_frameChan _ data .wy)
  | wx => cases h; exact hostKept_ppu (ppu_writeReg_frameChan _ data .wx)
  | vbk => cases h; exact hostKept_ppu (ppu_writeReg_frameChan _ data .vbk)
  | bcps => cases h; exact hostKept_ppu (ppu_writeReg_frameChan _ data .bcps)
  | bcpd => cases h; exact hostKept_ppu (ppu_writeReg_frameChan _ data .bcpd)
  | ocps => cases h; exact hostKept_ppu (ppu_writeReg_frameChan _ data .ocps)
  | ocpd => cases h; exact hostKept_ppu (ppu_writeReg_frameChan _ data .ocpd)
  | opri => cases h; exact hostKept_ppu (ppu_writeReg_frameChan _ data .opri)
  | hdma5 => cases h; exact hostKept_whenCgb ⟨rfl, rfl⟩
  | svbk | key1 | ff72 | ff73 | ff74 | ff75 => cases h; exact hostKept_whenCgb ⟨rfl, rfl⟩
  | nr10 | nr11 | nr12 | nr13 | nr14 | nr21 | nr22 | nr23 | nr24 | waveRam | nr30 | nr31 | nr32
  | nr33 | nr34 | nr41 | nr42 | nr43 | nr44 =>
    obtain ⟨apu, -, h⟩ := bind_eq_ok.mp h
    cases h
    exact ⟨rfl, rfl⟩
  | p1 | sb | sc | «if» | nr50 | nr51 | nr52 | hdma1 | hdma2 | hdma3 | hdma4 | div | tac | tima
  | tma | ff76 | ff77 | dma =>
    cases h
    exact ⟨rfl, rfl⟩

theorem hostKept_of_writeBus {activeDma : Bool} {address : ℕ} {data : UInt8}
    (h : s.writeBus activeDma address data = .ok s') : HostKept s s' := by
  cases stores_of_writeBus h with
  | mbc | wram | hram | ie => exact ⟨rfl, rfl⟩
  | vram =>
    refine hostKept_ppu ?_
    rw [Ppu.writeVram]
    split <;> rfl
  | oam ppu hlo hhi hactive hppu =>
    refine hostKept_ppu ?_
    rw [Ppu.writeOam] at hppu
    split at hppu
    · cases hppu; rfl
    · cases hppu; rfl
    · obtain ⟨oam, -, hppu⟩ := bind_eq_ok.mp hppu
      cases hppu
      rfl
  | locked | unmapped => exact .refl s
  | reg r _ hr hwrite => exact hostKept_of_writeReg hwrite

/-! ### The operations of the CPU -/

/-- What an operation of the CPU does to the host's side and to the events. -/
structure HostStep (s s' : Soc) : Prop where
  hostSide : s'.hostSide = s.hostSide
  events : s'.eventBits = s.eventBits ∨
    s'.eventBits = s.eventBits ||| if s.ppu.vsync then socEventsVSyncAndExit ||| socEventVSync
      else socEventVSync

theorem hostStep_of_clockWith {timerClock : Timer → ClockContext → Timer × ClockContext}
    (htimer : ∀ t ctx, (timerClock t ctx).2.events = ctx.events)
    (h : s.clockWith timerClock = .ok s') : HostStep s s' := by
  obtain ⟨s1, s2, hc⟩ := cycle_of_clockWith h
  exact ⟨hc.hostSide, clockWith_events htimer h⟩

/-- **The host's side** is left alone by every operation of the CPU, and the events say only that a
frame is ready or that nobody took it. -/
theorem host_of_cpuStep {op : Op} (hop : op.isCpu = true) (h : step op s = .ok s') :
    HostStep s s' := by
  cases op with
  | clock => exact hostStep_of_clockWith Timer.clock_events h
  | read address =>
    obtain ⟨⟨byte, t⟩, hr, rfl⟩ := map_eq_ok.mp h
    obtain ⟨s3, hclock, hr⟩ := bind_eq_ok.mp hr
    obtain ⟨byte', -, hr⟩ := bind_eq_ok.mp hr
    cases hr
    exact hostStep_of_clockWith Timer.clock_events hclock
  | write address data =>
    rw [step, clockWrite] at h
    split at h
    · rename_i clockCb hcb
      obtain ⟨r, -, hr⟩ := Option.bind_eq_some_iff.mp hcb
      exact hostStep_of_clockWith (fun t ctx => Timer.clockWrite_events hr t data ctx) h
    · obtain ⟨s3, hclock, hw⟩ := bind_eq_ok.mp h
      have hclock := hostStep_of_clockWith Timer.clock_events hclock
      have hkept := hostKept_of_writeBus hw
      refine ⟨hkept.hostSide.trans hclock.hostSide, ?_⟩
      rw [hkept.eventBits]
      exact hclock.events
  | clearInterrupt interrupt => cases h; exact ⟨rfl, .inl rfl⟩
  | setCpuHalted halted => cases h; exact ⟨rfl, .inl rfl⟩
  | speedSwitch =>
    cases h
    rw [cgbSpeedSwitch]
    split <;> exact ⟨rfl, .inl rfl⟩
  | processEvents inputs => cases hop

theorem HostStep.vsync (h : HostStep s s') : s'.ppu.vsync = s.ppu.vsync := by
  have hchan : s'.ppu.frameChan = s.ppu.frameChan := congrArg HostSide.frameChan h.hostSide
  rw [Ppu.vsync, Ppu.vsync, hchan]

/-- **The events** between two looks of the host: nothing, or a frame, which stops the emulator if
nobody took it. -/
theorem HostStep.eventsOk (h : HostStep s s') (hs : EventsOk s) : EventsOk s' := by
  rw [EventsOk, h.vsync]
  obtain hsame | hraised := h.events
  · rw [hsame]
    exact hs
  · right
    rw [hraised]
    obtain hnone | hsome := hs
    · rw [hnone]
      exact UInt8.zero_or
    · rw [hsome]
      exact UInt8.or_self

/-- A sequence of operations of the CPU. -/
theorem host_of_leads (h : Machine.Leads cpuStep s s') :
    s'.hostSide = s.hostSide ∧ (EventsOk s → EventsOk s') := by
  refine invariant_of_cpuStep (I := fun t => t.hostSide = s.hostSide ∧ (EventsOk s → EventsOk t)) h
    ⟨rfl, id⟩ fun op t t' hop ht hstep => ?_
  have hhost := host_of_cpuStep hop hstep
  exact ⟨hhost.hostSide.trans ht.1, fun hs => hhost.eventsOk (ht.2 hs)⟩

end Soc

end ZenithGb
