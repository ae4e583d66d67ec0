import ZenithGb.Apu.ChannelBounds
import ZenithGb.Apu.Machine

/-!
# The sound unit never fails

`Apu.Bounded` is what the sound unit's arithmetic relies on between two operations. Every
operation returns and keeps it, so no sequence of operations from power-on fails.

## Main results

* `Apu.step_bounded` — one operation on the sound unit
* `Apu.exec_bounded` — every sequence of operations
* `Apu.Reachable.bounded` — every state the sound unit can be in
-/

namespace ZenithGb

open Outcome

namespace Apu

/-- Everything the sound unit's arithmetic relies on between two operations. -/
structure Bounded (a : Apu) : Prop where
  channel1 : a.channel1.Bounded
  channel2 : a.channel2.Bounded
  channel3 : a.channel3.Bounded
  channel4 : a.channel4.Bounded
  sampleCounter_pos : 1 ≤ a.sampleCounter
  sampleCounter_le : a.sampleCounter ≤ 95
  frameSequencer_pos : 1 ≤ a.frameSequencer
  frameSequencer_le : a.frameSequencer ≤ 2048
  frameSequencerStep_lt : a.frameSequencerStep < 8
  rightVol_le : a.rightVol ≤ 7
  leftVol_le : a.leftVol ≤ 7

theorem new_bounded (ctx : GbCtx) : (new ctx).Bounded where
  channel1 := Channel1.new_bounded ctx
  channel2 := Channel2.new_bounded ctx
  channel3 := Channel3.new_bounded ctx
  channel4 := Channel4.new_bounded ctx
  sampleCounter_pos := (by decide : 1 ≤ sampleCounterStart)
  sampleCounter_le := le_refl sampleCounterStart
  frameSequencer_pos := (by decide : 1 ≤ frameSequencerStart)
  frameSequencer_le := le_refl frameSequencerStart
  frameSequencerStep_lt := Nat.zero_lt_succ 7
  rightVol_le := UInt8.le_refl 7
  leftVol_le := UInt8.le_refl 7

variable {a : Apu}

theorem lengthClocks_bounded (h : a.Bounded) : a.lengthClocks.Bounded :=
  { h with
    channel1 := Channel1.lengthClock_bounded h.channel1
    channel2 := Channel2.lengthClock_bounded h.channel2
    channel3 := Channel3.lengthClock_bounded h.channel3
    channel4 := Channel4.lengthClock_bounded h.channel4 }

theorem envelopeClocks_bounded (h : a.Bounded) : Total a.envelopeClocks Bounded :=
  (Envelope.clock_bounded h.channel1.envelope).bind fun _ h1 =>
    (Envelope.clock_bounded h.channel2.envelope).bind fun _ h2 =>
      (Envelope.clock_bounded h.channel4.envelope).bind fun _ h4 =>
        { h with
          channel1 := { h.channel1 with envelope := h1 }
          channel2 := { h.channel2 with envelope := h2 }
          channel4 := { h.channel4 with envelope := h4 } }

theorem updateFrameSequencerSteps_bounded (h : a.Bounded) (step : ℕ) :
    (a.updateFrameSequencerSteps step).Bounded :=
  { h with
    channel1 := { h.channel1 with lengthCounter := { h.channel1.lengthCounter with } }
    channel2 := { h.channel2 with lengthCounter := { h.channel2.lengthCounter with } }
    channel3 := { h.channel3 with lengthCounter := { h.channel3.lengthCounter with } }
    channel4 := { h.channel4 with lengthCounter := { h.channel4.lengthCounter with } } }

theorem frameSequencerTick_bounded (h : a.Bounded) : Total a.frameSequencerTick Bounded := by
  have hstep := h.frameSequencerStep_lt
  rw [frameSequencerTick]
  split
  case h_1 | h_2 => exact lengthClocks_bounded h
  case h_3 | h_4 =>
    have hlength := lengthClocks_bounded h
    exact (Channel1.sweepClock_bounded hlength.channel1).bind fun _ h1 =>
      { hlength with channel1 := h1 }
  case h_5 => exact envelopeClocks_bounded h
  case h_6 | h_7 | h_8 => exact h
  case h_9 => grind

theorem clockFrameSequencer_bounded (h : a.Bounded) : Total a.clockFrameSequencer Bounded := by
  rw [clockFrameSequencer, checkedSub_of_le _ h.frameSequencer_pos, ok_bind]
  have hle := h.frameSequencer_le
  refine Meets.ite (fun hne => ?_) fun _ => ?_
  · exact { h with
      frameSequencer_pos := Nat.one_le_iff_ne_zero.mpr hne
      frameSequencer_le := (Nat.sub_le ..).trans hle }
  · have hreloaded : Bounded { a with frameSequencer := frameSequencerStart } :=
      { h with frameSequencer_pos := (by decide : 1 ≤ 2048), frameSequencer_le := le_refl 2048 }
    refine (frameSequencerTick_bounded hreloaded).bind fun a ha => ?_
    have hlt : a.frameSequencerStep + 1 < 2 ^ 8 := by have := ha.frameSequencerStep_lt; omega
    rw [checkedAdd_of_lt _ hlt, ok_bind]
    have hnext : Bounded { a with frameSequencerStep := a.frameSequencerStep + 1 &&& 0x7 } :=
      { ha with frameSequencerStep_lt := Nat.lt_succ_of_le Nat.and_le_right }
    exact updateFrameSequencerSteps_bounded hnext _

theorem getVolumeScale_total {vol : UInt8} (h : vol ≤ 7) :
    Total (getVolumeScale vol) fun _ => True := by
  have hle : vol.toNat ≤ 7 := UInt8.le_iff_toNat_le.mp h
  have hlt : vol.toNat + (1 : UInt8).toNat < 256 :=
    Nat.lt_of_le_of_lt (Nat.add_le_add_right hle 1) (by decide)
  rw [getVolumeScale, checkedAddU8, if_pos hlt]
  trivial

theorem forM_total {α : Type} {f : α → Checked PUnit} (h : ∀ i, Total (f i) fun _ => True) :
    ∀ l : List α, Total (l.forM f) fun _ => True
  | [] => trivial
  | i :: l => (h i).bind fun _ _ => forM_total h l

theorem sampleAudio_total (h : a.Bounded) : Total a.sampleAudio fun _ => True := by
  refine forM_total (fun i => ?_) _
  have hright : Total (if a.rightPan i then getVolumeScale a.rightVol else pure ()) fun _ => True :=
    Meets.ite (fun _ => getVolumeScale_total h.rightVol_le) fun _ => trivial
  refine Meets.ite (fun _ => ?_) fun _ => hright
  exact (getVolumeScale_total h.leftVol_le).bind fun _ _ => hright

theorem clockChannels_bounded (h : a.Bounded) : Total a.clockChannels Bounded := by
  refine (Channel1.clock_bounded h.channel1).bind fun _ h1 => ?_
  refine (Channel2.clock_bounded h.channel2).bind fun _ h2 => ?_
  refine (Channel3.clock_bounded h.channel3).bind fun _ h3 => ?_
  refine (Channel4.clock_bounded h.channel4).bind fun _ h4 => ?_
  rw [checkedSub_of_le _ h.sampleCounter_pos, ok_bind]
  refine Meets.ite (fun _ => ?_) fun hne => ?_
  · have hreloaded : Bounded { a with
        channel1 := _, channel2 := _, channel3 := _, channel4 := _
        sampleCounter := sampleCounterStart } :=
      { h with
        channel1 := h1, channel2 := h2, channel3 := h3, channel4 := h4
        sampleCounter_pos := (by decide : 1 ≤ 95), sampleCounter_le := le_refl 95 }
    exact (sampleAudio_total hreloaded).bind fun _ _ => hreloaded
  · exact { h with
      channel1 := h1, channel2 := h2, channel3 := h3, channel4 := h4
      sampleCounter_pos := Nat.one_le_iff_ne_zero.mpr hne
      sampleCounter_le := (Nat.sub_le ..).trans h.sampleCounter_le }

theorem clock_bounded (h : a.Bounded) : Total a.clock Bounded :=
  (clockFrameSequencer_bounded h).bind fun _ h => (clockChannels_bounded h).bind fun _ h =>
    (clockChannels_bounded h).bind fun _ h => (clockChannels_bounded h).bind fun _ h =>
      clockChannels_bounded h

/-! ### Register writes -/

theorem shutdown_bounded (h : a.Bounded) : a.shutdown.Bounded :=
  { h with
    channel1 := Channel1.shutdown_bounded h.channel1
    channel2 := Channel2.shutdown_bounded h.channel2
    channel3 := Channel3.shutdown_bounded h.channel3
    channel4 := Channel4.shutdown_bounded h.channel4
    rightVol_le := UInt8.le_iff_toNat_le.mpr (Nat.zero_le 7)
    leftVol_le := UInt8.le_iff_toNat_le.mpr (Nat.zero_le 7) }

theorem writeNr50_bounded (h : a.Bounded) (data : UInt8) : (a.writeNr50 data).Bounded := by
  rw [writeNr50]
  split
  · exact h
  · exact { h with rightVol_le := and_mask_le _ 0x7, leftVol_le := and_mask_le _ 0x7 }

theorem writeNr51_bounded (h : a.Bounded) (data : UInt8) : (a.writeNr51 data).Bounded := by
  rw [writeNr51]
  split
  · exact h
  · exact { h with }

theorem writeNr52_bounded (h : a.Bounded) (data : UInt8) : (a.writeNr52 data).Bounded := by
  have hset : ∀ b : Apu, b.Bounded → Bounded { b with audioEnabled := data &&& 0x80 != 0 } :=
    fun b hb => { hb with }
  rw [writeNr52]
  split
  · exact hset _ (shutdown_bounded h)
  · exact hset _ { h with frameSequencerStep_lt := Nat.zero_lt_succ 7 }
  · exact hset _ h

theorem whenEnabled_bounded (h : a.Bounded) {write : Checked Apu} (hw : Total write Bounded) :
    Total (a.whenEnabled write) Bounded :=
  Meets.ite (fun _ => h) fun _ => hw

theorem whenLengthWritable_bounded (h : a.Bounded) {write : Checked Apu}
    (hw : Total write Bounded) : Total (a.whenLengthWritable write) Bounded :=
  Meets.ite (fun _ => h) fun _ => hw

theorem Bounded.bind1 (h : a.Bounded) {x : Checked Channel1} (hx : Total x Channel1.Bounded) :
    Total (do return { a with channel1 := ← x }) Bounded :=
  hx.bind fun _ hc => { h with channel1 := hc }

theorem Bounded.bind2 (h : a.Bounded) {x : Checked Channel2} (hx : Total x Channel2.Bounded) :
    Total (do return { a with channel2 := ← x }) Bounded :=
  hx.bind fun _ hc => { h with channel2 := hc }

theorem Bounded.bind3 (h : a.Bounded) {x : Checked Channel3} (hx : Total x Channel3.Bounded) :
    Total (do return { a with channel3 := ← x }) Bounded :=
  hx.bind fun _ hc => { h with channel3 := hc }

theorem Bounded.bind4 (h : a.Bounded) {x : Checked Channel4} (hx : Total x Channel4.Bounded) :
    Total (do return { a with channel4 := ← x }) Bounded :=
  hx.bind fun _ hc => { h with channel4 := hc }

theorem write_bounded (h : a.Bounded) (data : UInt8) (register : Register) :
    Total (a.write data register) Bounded := by
  have h1 := h.channel1
  have h2 := h.channel2
  have h3 := h.channel3
  have h4 := h.channel4
  cases register with
  | nr10 => exact whenEnabled_bounded h { h with channel1 := Channel1.writeNr10_bounded h1 data }
  | nr11 => exact whenLengthWritable_bounded h (h.bind1 (Channel1.writeNr11_bounded h1 _))
  | nr12 => exact whenEnabled_bounded h { h with channel1 := Channel1.writeNr12_bounded h1 data }
  | nr13 => exact whenEnabled_bounded h { h with channel1 := Channel1.writeNr13_bounded h1 data }
  | nr14 => exact whenEnabled_bounded h (h.bind1 (Channel1.writeNr14_bounded h1 data))
  | nr21 => exact whenLengthWritable_bounded h (h.bind2 (Channel2.writeNr21_bounded h2 _))
  | nr22 => exact whenEnabled_bounded h { h with channel2 := Channel2.writeNr22_bounded h2 data }
  | nr23 => exact whenEnabled_bounded h { h with channel2 := Channel2.writeNr23_bounded h2 data }
  | nr24 => exact whenEnabled_bounded h (h.bind2 (Channel2.writeNr24_bounded h2 data))
  | nr30 => exact whenEnabled_bounded h { h with channel3 := Channel3.writeNr30_bounded h3 data }
  | nr31 => exact whenLengthWritable_bounded h (h.bind3 (Channel3.writeNr31_bounded h3 data))
  | nr32 => exact whenEnabled_bounded h { h with channel3 := Channel3.writeNr32_bounded h3 data }
  | nr33 => exact whenEnabled_bounded h { h with channel3 := Channel3.writeNr33_bounded h3 data }
  | nr34 => exact whenEnabled_bounded h (h.bind3 (Channel3.writeNr34_bounded h3 data))
  | nr41 => exact whenLengthWritable_bounded h (h.bind4 (Channel4.writeNr41_bounded h4 data))
  | nr42 => exact whenEnabled_bounded h { h with channel4 := Channel4.writeNr42_bounded h4 data }
  | nr43 => exact whenEnabled_bounded h { h with channel4 := Channel4.writeNr43_bounded h4 data }
  | nr44 => exact whenEnabled_bounded h (h.bind4 (Channel4.writeNr44_bounded h4 data))
  | nr50 => exact writeNr50_bounded h data
  | nr51 => exact writeNr51_bounded h data
  | nr52 => exact writeNr52_bounded h data

/-! ### Operations and their sequences -/

/-- **One operation** returns, and keeps the bounds. -/
theorem step_bounded (h : a.Bounded) (op : Op) : Total (step op a) Bounded := by
  cases op with
  | clock =>
    rw [step_clock]
    exact clock_bounded h
  | write register data =>
    rw [step_write]
    exact write_bounded h data register
  | read register => exact h
  | writeWaveRam address data =>
    rw [step_writeWaveRam]
    exact h.bind3 (Channel3.writeWaveRam_bounded h.channel3 _ data)
  | readWaveRam address =>
    rw [step_readWaveRam]
    exact meets_map.mpr <| (Channel3.readWaveRam_total h.channel3 _).imp fun _ _ => h

theorem exec_total (h : a.Bounded) (ops : List Op) : Total (Machine.exec step ops a) Bounded :=
  Machine.exec_meets (P := fun _ => True) (fun op _ _ h => step_bounded h op) ops a
    (fun _ _ => trivial) h

/-- **No operation on the sound unit fails**: every sequence of clocks, register accesses and wave
RAM accesses from power-on returns, in a state within the bounds. -/
theorem exec_bounded (ctx : GbCtx) (ops : List Op) :
    Total (Machine.exec step ops (new ctx)) Bounded :=
  exec_total (new_bounded ctx) ops

/-- The states the sound unit can be in. -/
abbrev Reachable : Apu → Prop := Machine.Reachable (fun a => ∃ ctx, a = new ctx) step

theorem Reachable.bounded (h : a.Reachable) : a.Bounded := by
  refine Machine.Reachable.induction ?_ (fun op _ _ hb hs => (step_bounded hb op).of_ok hs) h
  rintro _ ⟨ctx, rfl⟩
  exact new_bounded ctx

end Apu

end ZenithGb
