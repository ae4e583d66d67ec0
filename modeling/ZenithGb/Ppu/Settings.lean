import ZenithGb.Ppu.Machine

/-!
# The pixel unit: what only the CPU and the host change

A clock moves the beam and draws. The memories, the registers and the host's end of the frame
channel are the CPU's and the host's, and no clock touches them. What a clock tells the host is
decided by the VBlank interrupt: a frame is handed over exactly when it is requested.

## Main results

* `Ppu.clock_kept` — a clock keeps the settings, and hands over a frame when it requests VBlank
-/

namespace ZenithGb

open Outcome

namespace Ppu

/-- What a clock reads but never writes. -/
structure Settings where
  ctx : GbCtx
  frameChan : FrameChan
  vram : Mem 0x4000 UInt8
  oam : Mem 0xA0 UInt8
  vbk : Bool
  lcdcEnable : Bool
  lcdcWndTilemap : Bool
  lcdcWndEnable : Bool
  lcdcBgWndTiles : Bool
  lcdcBgTilemap : Bool
  lcdcObjSize : Bool
  lcdcObjEnable : Bool
  lcdcBit0 : Bool
  statLycSelect : Bool
  statMode2Select : Bool
  statMode1Select : Bool
  statMode0Select : Bool
  lyc : UInt8
  scy : UInt8
  scx : UInt8
  wx : UInt8
  wy : UInt8
  bgp : UInt8
  obp0 : UInt8
  obp1 : UInt8
  cgbBgPalettes : Mem 0x40 UInt8
  cgbObPalettes : Mem 0x40 UInt8
  opri : Bool
  bcps : UInt8
  ocps : UInt8

def settings (p : Ppu) : Settings :=
  { ctx := p.ctx, frameChan := p.frameChan, vram := p.vram, oam := p.oam, vbk := p.vbk
    lcdcEnable := p.lcdcEnable, lcdcWndTilemap := p.lcdcWndTilemap
    lcdcWndEnable := p.lcdcWndEnable, lcdcBgWndTiles := p.lcdcBgWndTiles
    lcdcBgTilemap := p.lcdcBgTilemap, lcdcObjSize := p.lcdcObjSize
    lcdcObjEnable := p.lcdcObjEnable, lcdcBit0 := p.lcdcBit0, statLycSelect := p.statLycSelect
    statMode2Select := p.statMode2Select, statMode1Select := p.statMode1Select
    statMode0Select := p.statMode0Select, lyc := p.lyc, scy := p.scy, scx := p.scx, wx := p.wx
    wy := p.wy, bgp := p.bgp, obp0 := p.obp0, obp1 := p.obp1, cgbBgPalettes := p.cgbBgPalettes
    cgbObPalettes := p.cgbObPalettes, opri := p.opri, bcps := p.bcps, ocps := p.ocps }

/-- The events of a clock that made these requests: a frame was handed over if VBlank is among them,
and the emulator is to stop if nobody took it. -/
def frameEvents (p : Ppu) (interrupts : UInt8) : UInt8 :=
  if interrupts &&& interruptBitVblank != 0 then
    if p.vsync then socEventsVSyncAndExit ||| socEventVSync else socEventVSync
  else 0

/-- What holds of a clock in any state. -/
structure ClockKept (p : Ppu) (r : Ppu × ClockContext) : Prop where
  settings : r.1.settings = p.settings
  events : r.2.events = p.frameEvents r.2.interrupts

variable {p q : Ppu}

/-- A clock that requests nothing tells the host nothing. -/
theorem ClockKept.quiet (h : q.settings = p.settings) : ClockKept p (q, clearContext) :=
  have hnone : ¬ ((0 : UInt8) &&& interruptBitVblank != 0) := by decide
  ⟨h, (if_neg hnone).symm⟩

theorem vsync_of_settings (h : q.settings = p.settings) : q.vsync = p.vsync := by
  have hchan : q.frameChan = p.frameChan := congrArg Settings.frameChan h
  rw [vsync, vsync, hchan]

/-- What is kept of a state with the same settings. -/
theorem ClockKept.of_settings {r : Ppu × ClockContext} (hr : ClockKept q r)
    (h : q.settings = p.settings) : ClockKept p r := by
  refine ⟨hr.settings.trans h, ?_⟩
  rw [hr.events, frameEvents, frameEvents, vsync_of_settings h]

/-! ### The parts of a clock -/

theorem handleStatInterrupt_kept {ctx : ClockContext}
    (h : ctx.events = p.frameEvents ctx.interrupts) :
    ClockKept p (p.handleStatInterrupt ctx) := by
  refine ⟨rfl, ?_⟩
  rw [handleStatInterrupt]
  dsimp only
  split
  · have hbit : (ctx.interrupts ||| interruptBitLcd) &&& interruptBitVblank =
        ctx.interrupts &&& interruptBitVblank := by
      refine Eq.trans (UInt8.toBitVec_inj.mp BitVec.and_or_distrib_right) ?_
      exact UInt8.or_zero
    show ctx.events = p.frameEvents (ctx.interrupts ||| interruptBitLcd)
    rw [h, frameEvents, frameEvents, hbit]
  · exact h

theorem checkStatInterrupt_kept : ClockKept p (p.checkStatInterrupt clearContext) := by
  rw [checkStatInterrupt]
  split
  · exact handleStatInterrupt_kept (ClockKept.quiet rfl).events
  · exact .quiet rfl

theorem enterVblank_kept : ClockKept p (p.enterVblank clearContext) := by
  refine ⟨rfl, ?_⟩
  rw [enterVblank]
  dsimp only
  cases hgone : p.vsync with
  | false =>
    show socEventVSync = p.frameEvents interruptBitVblank
    rw [frameEvents, hgone]
    rfl
  | true =>
    show socEventsVSyncAndExit ||| socEventVSync = p.frameEvents interruptBitVblank
    rw [frameEvents, hgone]
    rfl

theorem modeOamScan_settings : Yields p.modeOamScan fun q => q.settings = p.settings :=
  (yields_any _).bind fun _ _ => rfl

theorem enterOamScan_settings : Yields p.enterOamScan fun q => q.settings = p.settings :=
  modeOamScan_settings.bind fun _ h => h

theorem modeDraw_settings : Yields p.modeDraw fun r => r.2.settings = p.settings :=
  (yields_any _).bind fun _ _ => (yields_any _).bind fun _ _ => (yields_any _).bind fun _ _ =>
    (yields_any _).bind fun _ _ => rfl

theorem leaveOamScan_settings : Yields p.leaveOamScan fun q => q.settings = p.settings := by
  rw [leaveOamScan]
  dsimp only
  split
  · exact modeDraw_settings.bind fun _ h => h
  · exact modeDraw_settings.bind fun _ h => h

theorem leaveVblankLine_settings : Yields p.leaveVblankLine fun q => q.settings = p.settings := by
  refine (yields_any _).bind fun ly _ => Meets.ite (fun _ => ?_) fun _ => ?_
  · exact enterOamScan_settings.bind fun _ h => h
  · rfl

theorem leaveHblank_kept : Yields (p.leaveHblank clearContext) (ClockKept p) := by
  refine (yields_any _).bind fun ly _ => Meets.ite (fun _ => ?_) fun _ => ?_
  · have h := enterVblank_kept (p := ({ p with hblankCycle := true, ly } : Ppu).updateLycEqLy)
    exact ⟨h.settings, h.events⟩
  · exact enterOamScan_settings.bind fun q h => .quiet h

theorem changeMode_kept : Yields (p.changeMode clearContext) (ClockKept p) := by
  rw [changeMode]
  split
  · exact leaveOamScan_settings.bind fun _ h => .quiet h
  · have hdraw : Yields p.leaveDraw fun q => q.settings = p.settings :=
      (yields_any _).bind fun _ _ => rfl
    exact hdraw.bind fun _ h => .quiet h
  · exact leaveHblank_kept
  · exact leaveVblankLine_settings.bind fun _ h => .quiet h

theorem updateMode_kept : Yields (p.updateMode clearContext) (ClockKept p) :=
  changeMode_kept.bind fun _ h => ⟨h.settings, h.events⟩

/-- **A clock** keeps the settings, and what it tells the host is decided by VBlank. -/
theorem clock_kept : Yields (p.clock clearContext) (ClockKept p) := by
  refine Meets.ite (fun _ => ?_) fun _ => ?_
  · exact checkStatInterrupt_kept.of_settings (p := p) rfl
  · refine (yields_any _).bind fun _ _ => (yields_any _).bind fun _ _ =>
      (yields_any _).bind fun _ _ => Meets.ite (fun _ => ?_) fun _ => ?_
    · exact checkStatInterrupt_kept.of_settings (p := p) rfl
    · refine updateMode_kept.bind fun r hr => ?_
      have hr' : ClockKept p r := hr.of_settings rfl
      have hevents : r.2.events = r.1.frameEvents r.2.interrupts := by
        rw [hr'.events, frameEvents, frameEvents, vsync_of_settings hr'.settings]
      refine (yields_any _).bind fun _ _ => (yields_any _).bind fun _ _ => ?_
      exact (handleStatInterrupt_kept hevents).of_settings hr'.settings

end Ppu

end ZenithGb
