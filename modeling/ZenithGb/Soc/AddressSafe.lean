import ZenithGb.Soc.Bus

/-!
# The panics of the system are its own

The CPU does 16-bit address arithmetic that is checked in two places, and an overflow there is a
panic of its own. This file shows that nothing behind the bus ever panics in that way, so that such
a panic of a step tells what the CPU did.

## Main results

* `AddressSafe` — a computation that does not fail with an overflow of an address
* `Soc.addressSafe_clock`, `Soc.addressSafe_clockRead`, `Soc.addressSafe_clockWrite` — nothing
  behind the bus does
-/

namespace ZenithGb

open Outcome

/-- The overflow of an address in the CPU: of PC in the dispatch of an interrupt, or of the address
of an instruction. -/
inductive Panic.IsAddressOverflow : Panic → Prop
  | handleInterrupt : IsAddressOverflow (.overflow .handleInterrupt)
  | opcode : IsAddressOverflow (.overflow .opcode)
  | storeSp : IsAddressOverflow (.overflow .storeSp)

/-- The failures of `x`, if any, are not overflows of an address. -/
abbrev AddressSafe {α : Type} (x : Checked α) : Prop := FailsIn (fun e => ¬ e.IsAddressOverflow) x

namespace Panic

@[simp] theorem isAddressOverflow_overflow {site : Site} :
    (overflow site).IsAddressOverflow ↔
      site = .handleInterrupt ∨ site = .opcode ∨ site = .storeSp := by
  constructor
  · rintro (_ | _ | _)
    · exact .inl rfl
    · exact .inr (.inl rfl)
    · exact .inr (.inr rfl)
  · rintro (rfl | rfl | rfl)
    · exact .handleInterrupt
    · exact .opcode
    · exact .storeSp

@[simp] theorem not_isAddressOverflow_index (site : Site) :
    ¬ (index site).IsAddressOverflow := nofun

@[simp] theorem not_isAddressOverflow_remByZero (site : Site) :
    ¬ (remByZero site).IsAddressOverflow := nofun

@[simp] theorem not_isAddressOverflow_unreachable (site : Site) :
    ¬ (unreachable site).IsAddressOverflow := nofun

@[simp] theorem not_isAddressOverflow_assert (site : Site) :
    ¬ (assert site).IsAddressOverflow := nofun

@[simp] theorem not_isAddressOverflow_diverges (site : Site) :
    ¬ (diverges site).IsAddressOverflow := nofun

end Panic

/-! ### Checked operations -/

section

variable {α : Type} {site : Site}

section

variable (h : ¬ (Panic.overflow site).IsAddressOverflow)
include h

@[simp] theorem addressSafe_checkedAdd {w a b : ℕ} : AddressSafe (checkedAdd w site a b) :=
  failsIn_ite.mpr ⟨fun _ => failsIn_ok _, fun _ => failsIn_error.mpr h⟩

@[simp] theorem addressSafe_checkedSub {a b : ℕ} : AddressSafe (checkedSub site a b) :=
  failsIn_ite.mpr ⟨fun _ => failsIn_ok _, fun _ => failsIn_error.mpr h⟩

@[simp] theorem addressSafe_checkedMul {w a b : ℕ} : AddressSafe (checkedMul w site a b) :=
  failsIn_ite.mpr ⟨fun _ => failsIn_ok _, fun _ => failsIn_error.mpr h⟩

@[simp] theorem addressSafe_checkedAddU8 {a b : UInt8} : AddressSafe (checkedAddU8 site a b) :=
  failsIn_ite.mpr ⟨fun _ => failsIn_ok _, fun _ => failsIn_error.mpr h⟩

@[simp] theorem addressSafe_checkedMulU8 {a b : UInt8} : AddressSafe (checkedMulU8 site a b) :=
  failsIn_ite.mpr ⟨fun _ => failsIn_ok _, fun _ => failsIn_error.mpr h⟩

@[simp] theorem addressSafe_checkedShr {w a n : ℕ} : AddressSafe (checkedShr w site a n) :=
  failsIn_ite.mpr ⟨fun _ => failsIn_ok _, fun _ => failsIn_error.mpr h⟩

@[simp] theorem addressSafe_checkedShrU8 {a : UInt8} {n : ℕ} :
    AddressSafe (checkedShrU8 site a n) :=
  failsIn_ite.mpr ⟨fun _ => failsIn_ok _, fun _ => failsIn_error.mpr h⟩

end

@[simp] theorem addressSafe_checkedRem {a b : ℕ} : AddressSafe (checkedRem site a b) :=
  failsIn_ite.mpr ⟨fun _ => failsIn_error.mpr nofun, fun _ => failsIn_ok _⟩

@[simp] theorem addressSafe_assert {c : Prop} [Decidable c] : AddressSafe (assert site c) :=
  failsIn_ite.mpr ⟨fun _ => failsIn_ok _, fun _ => failsIn_error.mpr nofun⟩

@[simp] theorem addressSafe_memGet {n : ℕ} (m : Mem n α) (i : ℕ) :
    AddressSafe (m.get (.index site) i) := by
  rw [Mem.get]
  split <;> simp

@[simp] theorem addressSafe_memSet {n : ℕ} (m : Mem n α) (i : ℕ) (a : α) :
    AddressSafe (m.set (.index site) i a) := by
  rw [Mem.set]
  split <;> simp

@[simp] theorem addressSafe_bufGet (b : Buf α) (i : ℕ) : AddressSafe (b.get (.index site) i) := by
  rw [Buf.get]
  split <;> simp

@[simp] theorem addressSafe_bufSet (b : Buf α) (i : ℕ) (a : α) :
    AddressSafe (b.set (.index site) i a) := by
  rw [Buf.set]
  split <;> simp

end

/-! ### Serial port -/

@[simp] theorem Printer.addressSafe_print (p : Printer) (a b c d : UInt8) :
    AddressSafe (p.print a b c d) := by
  refine failsIn_mapM (fun y => failsIn_bind.mpr ⟨failsIn_mapM (fun x => ?_) _, fun _ _ => ?_⟩) _
  · have hget : ∀ i, AddressSafe (p.ramGet i) := fun i => by
      rw [Printer.ramGet]
      split <;> simp
    simp [hget]
  · exact failsIn_pure _

@[simp] theorem Printer.addressSafe_sendByte (p : Printer) (byte : UInt8) :
    AddressSafe (p.sendByte byte) := by
  have hpayload : ∀ p : Printer, AddressSafe p.receivePayload := fun p => by
    rw [Printer.receivePayload]
    split
    · split <;> simp
    · simp
    · simp
  refine failsIn_bind.mpr ⟨?_, fun _ _ => failsIn_pure _⟩
  rw [Printer.receive]
  split <;> simp [hpayload]

@[simp] theorem Serial.addressSafe_clock (s : Serial) (ctx : ClockContext) :
    AddressSafe (s.clock ctx) := by
  rw [Serial.clock]
  simp only [failsIn_ite, failsIn_ok, failsIn_bind, failsIn_pure, Printer.addressSafe_sendByte,
    implies_true, true_and]
  refine fun _ _ => ⟨fun _ _ _ _ _ => ?_, fun _ _ _ => ?_⟩
  all_goals split <;> simp

/-! ### Mappers -/

theorem Mbc1.addressSafe_ramAddress (m : Mbc1) (address : ℕ) :
    AddressSafe (m.ramAddress address) := by
  simp [Mbc1.ramAddress]

theorem Mbc3.addressSafe_rtcRegisterMask (r : ℕ) : AddressSafe (rtcRegisterMask r) := by
  unfold rtcRegisterMask
  split <;> simp

theorem Mbc3.addressSafe_rtcInc (m : Mbc3) (r : ℕ) : AddressSafe (rtcInc r m) := by
  have hrollover : ∀ r, AddressSafe (rtcRollover r) := fun r => by
    unfold rtcRollover
    split <;> simp
  have hdays : ∀ m : Mbc3, AddressSafe m.rtcIncDays := fun m => by simp [rtcIncDays]
  have hbelow : ∀ r carry, (∀ m, AddressSafe (carry m)) →
      ∀ m, AddressSafe (rtcIncBelowDays r carry m) := fun r carry h m => by
    simp [rtcIncBelowDays, addressSafe_rtcRegisterMask, hrollover, h]
  unfold rtcInc
  split
  · exact hbelow _ _ (hbelow _ _ (hbelow _ _ hdays)) m
  · exact hbelow _ _ (hbelow _ _ hdays) m
  · exact hbelow _ _ hdays m
  · exact hdays m
  · simp

namespace Mbc

@[simp] theorem addressSafe_read (m : Mbc) (address : ℕ) : AddressSafe (m.read address) := by
  cases m with
  | romOnly m => simp [read, MbcRomOnly.read]
  | mbc1 m => simp [read, Mbc1.read, Mbc1.addressSafe_ramAddress]
  | mbc2 m => simp [read, Mbc2.read]
  | mbc3 m =>
    simp only [read, Mbc3.read, failsIn_ite, addressSafe_bufGet, failsIn_ok, failsIn_error]
    cases m.rtcSelect <;> cases m.rtcLatch <;> cases m.ramBank <;> simp
  | mbc5 m => simp [read, Mbc5.read]

@[simp] theorem addressSafe_write (m : Mbc) (address : ℕ) (data : UInt8) :
    AddressSafe (m.write address data) := by
  cases m with
  | romOnly m => simp [write, MbcRomOnly.write]
  | mbc1 m => simp [write, Mbc1.write, Mbc1.addressSafe_ramAddress]
  | mbc2 m => simp [write, Mbc2.write]
  | mbc3 m =>
    have hrtc : ∀ r data, AddressSafe (m.writeRtc r data) := fun r data => by
      simp only [Mbc3.writeRtc, failsIn_bind, Mbc3.addressSafe_rtcRegisterMask, addressSafe_memSet,
        true_and]
      intro mask _ regs _
      split <;> simp
    simp only [write, Mbc3.write, failsIn_map, failsIn_ite, failsIn_ok, failsIn_bind, failsIn_pure,
      addressSafe_checkedRem, implies_true, and_true, true_and]
    intro _ _ _ _ _ _
    cases m.rtcSelect <;> cases m.ramBank <;> simp [hrtc]
  | mbc5 m => simp [write, Mbc5.write]

@[simp] theorem addressSafe_clock (m : Mbc) : AddressSafe m.clock := by
  cases m with
  | romOnly m => simp [clock, MbcRomOnly.clock]
  | mbc1 m => simp [clock, Mbc1.clock]
  | mbc2 m => simp [clock, Mbc2.clock]
  | mbc3 m => simp [clock, Mbc3.clock, Mbc3.addressSafe_rtcInc]
  | mbc5 m => simp [clock, Mbc5.clock]

end Mbc

/-! ### Sound -/

namespace LengthCounter

@[simp] theorem addressSafe_writeNrx4 (l : LengthCounter) (t e : Bool) :
    AddressSafe (l.writeNrx4 t e) := by
  simp [writeNrx4, writeNrx4Enabled, writeNrx4DisabledToEnabled]

end LengthCounter

namespace Sweep

@[simp] theorem addressSafe_calcFrequency (s : Sweep) : AddressSafe s.calcFrequency := by
  simp [calcFrequency, checkedI16]

@[simp] theorem addressSafe_clock (s : Sweep) : AddressSafe s.clock := by
  simp [clock]

@[simp] theorem addressSafe_trigger (s : Sweep) : AddressSafe s.trigger := by
  simp [trigger]

end Sweep

@[simp] theorem Envelope.addressSafe_clock (e : Envelope) : AddressSafe e.clock := by
  simp [Envelope.clock]

@[simp] theorem addressSafe_frequencyPeriod (frequency mult : ℕ) :
    AddressSafe (frequencyPeriod frequency mult) := by
  simp [frequencyPeriod]

@[simp] theorem addressSafe_squareSample (e : Envelope) (duty cycle : ℕ) :
    AddressSafe (squareSample e duty cycle) := by
  simp [squareSample]

@[simp] theorem addressSafe_lengthFromNrx1 (data : UInt8) : AddressSafe (lengthFromNrx1 data) := by
  simp [lengthFromNrx1]

@[simp] theorem addressSafe_afterNrx4 {χ : Type} {l : LengthCounter} {t : Bool} {stop : χ → χ}
    {trigger : χ → Checked χ} (h : ∀ c, AddressSafe (trigger c)) (c : χ) :
    AddressSafe (afterNrx4 l t stop trigger c) := by
  simp [afterNrx4, h]

@[simp] theorem Channel1.addressSafe_clock (c : Channel1) : AddressSafe c.clock := by
  simp [Channel1.clock]

@[simp] theorem Channel1.addressSafe_trigger (c : Channel1) : AddressSafe c.trigger := by
  simp [Channel1.trigger]

@[simp] theorem Channel2.addressSafe_clock (c : Channel2) : AddressSafe c.clock := by
  simp [Channel2.clock]

@[simp] theorem Channel2.addressSafe_trigger (c : Channel2) : AddressSafe c.trigger := by
  simp [Channel2.trigger]

@[simp] theorem Channel3.addressSafe_clock (c : Channel3) : AddressSafe c.clock := by
  have hnot : ¬ (Panic.overflow Site.apuChannel).IsAddressOverflow := by simp
  rw [Channel3.clock]
  simp only [failsIn_ite, failsIn_bind, failsIn_pure, addressSafe_checkedAdd hnot,
    addressSafe_frequencyPeriod, addressSafe_memGet, implies_true, true_and]
  refine ⟨fun _ _ _ _ _ _ _ _ _ => ?_, fun _ _ _ _ _ _ _ _ _ => ?_⟩
  all_goals split <;> simp

@[simp] theorem Channel3.addressSafe_trigger (c : Channel3) : AddressSafe c.trigger := by
  simp [Channel3.trigger, triggerCorruption]

@[simp] theorem Channel4.addressSafe_calcFreq (c : Channel4) : AddressSafe c.calcFreq := by
  simp [Channel4.calcFreq]

@[simp] theorem Channel4.addressSafe_clock (c : Channel4) : AddressSafe c.clock := by
  simp [Channel4.clock]

@[simp] theorem Channel4.addressSafe_trigger (c : Channel4) : AddressSafe c.trigger := by
  simp [Channel4.trigger]

namespace Apu

@[simp] theorem addressSafe_clockFrameSequencer (a : Apu) : AddressSafe a.clockFrameSequencer := by
  have htick : ∀ a : Apu, AddressSafe a.frameSequencerTick := fun a => by
    rw [frameSequencerTick]
    split <;> simp [envelopeClocks, Channel1.sweepClock]
  simp [clockFrameSequencer, htick]

@[simp] theorem addressSafe_clockChannels (a : Apu) : AddressSafe a.clockChannels := by
  have hsample : ∀ a : Apu, AddressSafe a.sampleAudio := fun a => by
    refine failsIn_forM (fun i => ?_) _
    simp [getVolumeScale]
  simp [clockChannels, hsample]

@[simp] theorem addressSafe_clock (a : Apu) : AddressSafe a.clock := by
  simp [clock]

@[simp] theorem addressSafe_whenEnabled {a : Apu} {write : Checked Apu} (h : AddressSafe write) :
    AddressSafe (a.whenEnabled write) := by
  simp [whenEnabled, h]

@[simp] theorem addressSafe_whenLengthWritable {a : Apu} {write : Checked Apu}
    (h : AddressSafe write) : AddressSafe (a.whenLengthWritable write) := by
  simp [whenLengthWritable, h]

end Apu

/-! ### Pixels -/

namespace Ppu

theorem addressSafe_plot (p : Ppu) (s : Screen) (x : ℕ) (color : UInt16) :
    AddressSafe (p.plot s x color) := by
  simp [plot]

theorem addressSafe_modeOamScan (p : Ppu) : AddressSafe p.modeOamScan := by
  have hscan : ∀ cursors buffer, AddressSafe (p.scanOam cursors buffer) := fun cursors => by
    induction cursors with
    | nil => simp [scanOam]
    | cons cursor cursors ih => simp [scanOam, readSprite, objOnLine, ih]
  simp [modeOamScan, hscan]

theorem addressSafe_drawTiles (p : Ppu) (isWindow : Bool) (fuel : ℕ) :
    ∀ bits x s, AddressSafe (p.drawTiles isWindow fuel bits x s) := by
  have hpixels : ∀ a l m bits x s, AddressSafe (p.drawTilePixels a l m bits x s) := by
    intro a l m bits
    induction bits with
    | nil => simp [drawTilePixels]
    | cons bit bits ih =>
      simp [drawTilePixels, drawTilePixel, getCgbColor, paletteColor, addressSafe_plot, ih]
  induction fuel with
  | zero => simp [drawTiles]
  | succ fuel ih => simp [drawTiles, fetchBgTileNumber, currentTileIndex, hpixels, ih]

theorem addressSafe_drawBackground (p : Ppu) (s : Screen) : AddressSafe (p.drawBackground s) := by
  have hblank : ∀ s, AddressSafe (p.drawBlankLine s) := fun s =>
    failsIn_foldlM (fun s x => by simp [addressSafe_plot]) _ s
  simp [drawBackground, addressSafe_drawTiles, hblank]

theorem addressSafe_drawWindowLine (p : Ppu) (s : Screen) : AddressSafe (p.drawWindowLine s) := by
  simp [drawWindowLine, addressSafe_drawTiles]

theorem addressSafe_drawSprites (p : Ppu) (s : Screen) : AddressSafe (p.drawSprites s) := by
  have hcolumn : ∀ sprite s bit, AddressSafe (p.drawSpriteColumn sprite s bit) := by
    intro sprite s bit
    have hpixel : ∀ bit mask, AddressSafe (p.spritePixel sprite bit mask) := fun bit mask => by
      simp [spritePixel, getCgbColor, paletteColor]
    simp only [drawSpriteColumn, failsIn_ite, failsIn_ok, failsIn_bind, addressSafe_memGet, hpixel,
      implies_true, true_and]
    intro _ mask _ color _
    cases color <;> simp [addressSafe_plot]
  refine failsIn_ite.mpr ⟨fun _ => failsIn_ok _, fun _ => ?_⟩
  exact failsIn_foldlM (fun s sprite => failsIn_foldlM (hcolumn sprite) _ s) _ s

theorem addressSafe_fetchLoop (sprites : List Sprite) (fuel : ℕ) :
    ∀ f, AddressSafe (fetchLoop sprites fuel f) := by
  have hfind : ∀ mask x (l : List Sprite) i, AddressSafe (findSprite mask x l i) := by
    intro mask x l
    induction l with
    | nil => simp [findSprite]
    | cons sp l ih => simp [findSprite, spriteBitOf, ih]
  have hiter : ∀ f, AddressSafe (fetchIteration sprites f) := fun f => by
    simp only [fetchIteration, failsIn_bind, hfind, true_and]
    intro o _
    cases o <;> simp
  induction fuel with
  | zero => intro f; unfold fetchLoop; simp
  | succ fuel ih => intro f; unfold fetchLoop; simp [hiter, ih]

theorem addressSafe_modeDraw (p : Ppu) : AddressSafe p.modeDraw := by
  simp [modeDraw, addressSafe_drawBackground, addressSafe_drawWindowLine, addressSafe_drawSprites,
    calcMode3Len, spritePenalty, addressSafe_fetchLoop]

@[simp] theorem addressSafe_clock (p : Ppu) (ctx : ClockContext) : AddressSafe (p.clock ctx) := by
  have hmode : ∀ p : Ppu, AddressSafe (p.updateMode ctx) := fun p => by
    refine failsIn_bind.mpr ⟨?_, fun _ _ => failsIn_pure _⟩
    rw [changeMode]
    split <;> simp [leaveOamScan, leaveDraw, leaveHblank, leaveVblankLine, enterOamScan,
      addressSafe_modeDraw, addressSafe_modeOamScan]
  simp [clock, hmode]

@[simp] theorem addressSafe_oamDma (p : Ppu) (addr : ℕ) (data : UInt8) :
    AddressSafe (p.oamDma addr data) := by
  simp [oamDma]

@[simp] theorem addressSafe_readOam (p : Ppu) (addr : ℕ) : AddressSafe (p.readOam addr) := by
  rw [readOam]
  split <;> simp

@[simp] theorem addressSafe_writeOam (p : Ppu) (addr : ℕ) (data : UInt8) :
    AddressSafe (p.writeOam addr data) := by
  rw [writeOam]
  split <;> simp

end Ppu

/-! ### The system -/

namespace Soc

@[simp] theorem addressSafe_wramIndex (s : Soc) {site : Site}
    (h : ¬ (Panic.overflow site).IsAddressOverflow) (address : ℕ) :
    AddressSafe (s.wramIndex site address) := by
  simp only [wramIndex, failsIn_ite, failsIn_ok, failsIn_bind, addressSafe_checkedMul h,
    addressSafe_checkedAdd h, implies_true, and_self]

@[simp] theorem addressSafe_dmaRead (s : Soc) {site : Site}
    (h : ¬ (Panic.overflow site).IsAddressOverflow) (address : ℕ) :
    AddressSafe (s.dmaRead site address) := by
  simp [dmaRead, addressSafe_wramIndex s h]

@[simp] theorem addressSafe_clockDma (s : Soc) : AddressSafe s.clockDma := by
  rw [clockDma]
  split <;> simp [stepDma]

@[simp] theorem addressSafe_clockHdma (s : Soc) : AddressSafe s.clockHdma := by
  have hcopy : ∀ active start n s, AddressSafe (copyHdma active start n s) := by
    intro active start n s
    exact failsIn_foldlM (fun s i => by simp [copyHdmaByte]) _ s
  rw [clockHdma]
  split <;> simp [stepHblankDma, hcopy]

@[simp] theorem addressSafe_clock4Mhz {α : Type} {cb : α → Checked α} (h : ∀ a, AddressSafe (cb a))
    (doubleSpeed : Bool) (cycle : ℕ) (a : α) : AddressSafe (clock4Mhz doubleSpeed cycle cb a) := by
  simp [clock4Mhz, h]

@[simp] theorem addressSafe_clock (s : Soc) : AddressSafe s.clock := by
  simp [clock]

@[simp] theorem addressSafe_clockTimerWrite (s : Soc)
    (clockCb : Timer → UInt8 → ClockContext → Timer × ClockContext) (data : UInt8) :
    AddressSafe (s.clockTimerWrite clockCb data) := by
  simp [clockTimerWrite]

theorem addressSafe_readReg (s : Soc) (address : ℕ) (r : HwReg) :
    AddressSafe (s.readReg address r) := by
  cases r with
  | hdma5 =>
    show AddressSafe s.readHdma5
    rw [readHdma5]
    split
    · simp
    · exact failsIn_ok _
  | waveRam => simp [readReg, Channel3.readWaveRam]
  | _ => simp [readReg]

@[simp] theorem addressSafe_readBus (s : Soc) (activeDma : Bool) (address : ℕ) :
    AddressSafe (s.readBus activeDma address) := by
  have hsite : ¬ (Panic.overflow Site.clockRead).IsAddressOverflow := by simp
  simp only [readBus, failsIn_ite, failsIn_ok, failsIn_bind, Mbc.addressSafe_read,
    addressSafe_memGet, Ppu.addressSafe_readOam, addressSafe_wramIndex s hsite, implies_true,
    and_true, true_and]
  intro _ _ _ _ _ _ _
  split <;> simp [addressSafe_readReg]

@[simp] theorem addressSafe_clockRead (s : Soc) (address : UInt16) :
    AddressSafe (s.clockRead address) := by
  simp [clockRead]

theorem addressSafe_writeReg (s : Soc) (address : ℕ) (data : UInt8) (r : HwReg) :
    AddressSafe (s.writeReg address data r) := by
  cases r with
  | nr10 | nr12 | nr13 => simp [writeReg, Apu.writeNr10, Apu.writeNr12, Apu.writeNr13]
  | nr11 => simp [writeReg, Apu.writeNr11, Channel1.writeNr11]
  | nr14 => simp [writeReg, Apu.writeNr14, Channel1.writeNr14]
  | nr21 => simp [writeReg, Apu.writeNr21, Channel2.writeNr21]
  | nr22 | nr23 => simp [writeReg, Apu.writeNr22, Apu.writeNr23]
  | nr24 => simp [writeReg, Apu.writeNr24, Channel2.writeNr24]
  | waveRam => simp [writeReg, Apu.writeWaveRam, Channel3.writeWaveRam]
  | nr30 | nr32 | nr33 => simp [writeReg, Apu.writeNr30, Apu.writeNr32, Apu.writeNr33]
  | nr31 => simp [writeReg, Apu.writeNr31, Channel3.writeNr31]
  | nr34 => simp [writeReg, Apu.writeNr34, Channel3.writeNr34]
  | nr41 => simp [writeReg, Apu.writeNr41, Channel4.writeNr41]
  | nr42 | nr43 => simp [writeReg, Apu.writeNr42, Apu.writeNr43]
  | nr44 => simp [writeReg, Apu.writeNr44, Channel4.writeNr44]
  | _ => simp [writeReg]

@[simp] theorem addressSafe_writeBus (s : Soc) (activeDma : Bool) (address : ℕ) (data : UInt8) :
    AddressSafe (s.writeBus activeDma address data) := by
  have hsite : ¬ (Panic.overflow Site.clockWrite).IsAddressOverflow := by simp
  simp only [writeBus, failsIn_ite, failsIn_ok, failsIn_bind, failsIn_pure, Mbc.addressSafe_write,
    addressSafe_memSet, Ppu.addressSafe_writeOam,
    addressSafe_wramIndex s hsite, implies_true, and_true, true_and]
  intro _ _ _ _ _ _ _
  split <;> simp [addressSafe_writeReg]

@[simp] theorem addressSafe_clockWrite (s : Soc) (address : UInt16) (data : UInt8) :
    AddressSafe (s.clockWrite address data) := by
  rw [clockWrite]
  split <;> simp

end Soc

end ZenithGb
