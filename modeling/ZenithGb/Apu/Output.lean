import Mathlib.Algebra.BigOperators.Fin
import Mathlib.Tactic.FinCases
import ZenithGb.Apu.Bounded
import ZenithGb.Lib.Sampling

/-!
# The sound unit: what it plays

Every 95 T-cycles the four channels are mixed to a left and a right byte, and whenever 4096 such
pairs have come together they are a batch for the host. `Player` is the sound unit with that buffer,
`sample_output` being there.

The source mixes in `f32`. A volume is a number of eighths, so every intermediate result is a number
of eighths below 64, which `f32` holds exactly; here they are natural numbers that count eighths.

`ticks` is not part of the program: it records the sound unit after every T-cycle.

## Main results

* `Apu.mix_eq_stereo` — the mix, without rounding, saturation or failure
* `Player.Keeps.step` — an operation of the sound unit, in the stream of batches
-/

namespace ZenithGb

open Outcome Sampling

namespace Apu

/-! ### Mixing -/

/-- `get_volume_scale`, in eighths. -/
def volumeScale (vol : UInt8) : Checked ℕ := UInt8.toNat <$> checkedAddU8 .apuSample vol 1

/-- `get_sample` of the four channels. -/
def samples (a : Apu) : Fin 4 → UInt8 :=
  ![a.channel1.sample, a.channel2.sample, a.channel3.sample, a.channel4.sample]

/-- One side of one channel, on top of what is mixed already. -/
def addScaled (pan : Bool) (vol : UInt8) (sample : UInt8) (scaled : ℕ) : Checked ℕ :=
  if pan then do return scaled + sample.toNat * (← volumeScale vol) else .ok scaled

/-- The loop of `sample_audio`: what is on the left and on the right, in eighths. -/
def mix (a : Apu) : Checked (ℕ × ℕ) :=
  (List.finRange 4).foldlM (fun (leftScaled, rightScaled) i => do
    let sample := a.samples i
    let leftScaled ← addScaled (a.leftPan i) a.leftVol sample leftScaled
    let rightScaled ← addScaled (a.rightPan i) a.rightVol sample rightScaled
    return (leftScaled, rightScaled)) (0, 0)

/-- `as u8` of a number of eighths: cut off, and saturated. -/
def eighthsToU8 (scaled : ℕ) : UInt8 := UInt8.ofNat (min (scaled / 8) 255)

/-- The volume of one side, weighted by the channels panned to it. -/
def side (a : Apu) (pan : Fin 4 → Bool) (vol : UInt8) : ℕ :=
  ∑ i, if pan i then (a.samples i).toNat * (vol.toNat + 1) else 0

/-- What is heard on the left and on the right. -/
def stereo (a : Apu) : List UInt8 :=
  [UInt8.ofNat (a.side a.leftPan a.leftVol / 8), UInt8.ofNat (a.side a.rightPan a.rightVol / 8)]

variable {a : Apu}

theorem volumeScale_eq {vol : UInt8} (h : vol ≤ 7) : volumeScale vol = .ok (vol.toNat + 1) := by
  have hle : vol.toNat ≤ 7 := UInt8.le_iff_toNat_le.mp h
  have hlt : vol.toNat + (1 : UInt8).toNat < 256 :=
    Nat.lt_of_le_of_lt (Nat.add_le_add_right hle 1) (by decide)
  rw [volumeScale, checkedAddU8, if_pos hlt]
  refine congrArg Except.ok ?_
  rw [UInt8.toNat_add]
  exact Nat.mod_eq_of_lt hlt

theorem addScaled_eq {vol : UInt8} (h : vol ≤ 7) (pan : Bool) (sample : UInt8) (scaled : ℕ) :
    addScaled pan vol sample scaled =
      .ok (scaled + if pan then sample.toNat * (vol.toNat + 1) else 0) := by
  rw [addScaled, volumeScale_eq h]
  cases pan <;> rfl

theorem samples_le (h : a.Bounded) (i : Fin 4) : (a.samples i).toNat ≤ 15 := by
  have hle : ∀ s : UInt8, s ≤ 15 → s.toNat ≤ 15 := fun _ => UInt8.le_iff_toNat_le.mp
  fin_cases i
  · exact hle _ h.channel1.sample_le
  · exact hle _ h.channel2.sample_le
  · exact hle _ h.channel3.sample_le
  · exact hle _ h.channel4.sample_le

/-- Four channels at full volume make 60. -/
theorem side_le (h : a.Bounded) (pan : Fin 4 → Bool) {vol : UInt8} (hvol : vol ≤ 7) :
    a.side pan vol ≤ 480 := by
  have hle : vol.toNat ≤ 7 := UInt8.le_iff_toNat_le.mp hvol
  have hone : ∀ i, (if pan i then (a.samples i).toNat * (vol.toNat + 1) else 0) ≤ 120 := by
    intro i
    split
    · calc (a.samples i).toNat * (vol.toNat + 1)
          ≤ 15 * 8 := Nat.mul_le_mul (samples_le h i) (Nat.succ_le_succ hle)
        _ = 120 := rfl
    · exact Nat.zero_le 120
  rw [side, Fin.sum_univ_four]
  exact Nat.add_le_add (Nat.add_le_add (Nat.add_le_add (hone 0) (hone 1)) (hone 2)) (hone 3)

/-- **The mix.** Nothing is rounded but by the final cut, and nothing saturates. -/
theorem mix_eq_stereo (h : a.Bounded) :
    (fun scaled => [eighthsToU8 scaled.1, eighthsToU8 scaled.2]) <$> a.mix = .ok a.stereo := by
  have hmix : a.mix = .ok (a.side a.leftPan a.leftVol, a.side a.rightPan a.rightVol) := by
    simp only [mix, side, addScaled_eq h.leftVol_le, addScaled_eq h.rightVol_le, ok_bind,
      List.finRange_succ, List.finRange_zero, List.map_cons, List.map_nil, List.foldlM_cons,
      List.foldlM_nil, Fin.sum_univ_four]
    simp only [pure_bind, Nat.zero_add]
    rfl
  have hcut : ∀ scaled ≤ 480, eighthsToU8 scaled = UInt8.ofNat (scaled / 8) := by
    intro scaled hscaled
    rw [eighthsToU8, min_eq_left (by omega)]
  rw [hmix, stereo]
  refine congrArg Except.ok ?_
  dsimp only
  rw [hcut _ (side_le h _ h.leftVol_le), hcut _ (side_le h _ h.rightVol_le)]

/-! ### The sample counter -/

theorem frameSequencerTick_sampleCounter (a : Apu) :
    Yields a.frameSequencerTick fun a' => a'.sampleCounter = a.sampleCounter := by
  rw [frameSequencerTick]
  split
  case h_3 | h_4 => exact (yields_any _).bind fun _ _ => rfl
  case h_5 => exact (yields_any _).bind fun _ _ => (yields_any _).bind fun _ _ =>
    (yields_any _).bind fun _ _ => rfl
  case h_9 => trivial
  all_goals rfl

theorem clockFrameSequencer_sampleCounter (a : Apu) :
    Yields a.clockFrameSequencer fun a' => a'.sampleCounter = a.sampleCounter := by
  rw [clockFrameSequencer]
  refine (yields_any _).bind fun frameSequencer _ => .ite (fun _ => rfl) fun _ => ?_
  refine (frameSequencerTick_sampleCounter _).bind fun a' ha' => ?_
  exact (yields_any _).bind fun _ _ => ha'

theorem write_sampleCounter (a : Apu) (data : UInt8) (register : Register) :
    Yields (a.write data register) fun a' => a'.sampleCounter = a.sampleCounter := by
  cases register with
  | nr10 | nr12 | nr13 | nr22 | nr23 | nr30 | nr32 | nr33 | nr42 | nr43 =>
    exact .ite (fun _ => rfl) fun _ => rfl
  | nr11 | nr14 | nr21 | nr24 | nr31 | nr34 | nr41 | nr44 =>
    exact .ite (fun _ => rfl) fun _ => (yields_any _).bind fun _ _ => rfl
  | nr50 =>
    show (a.writeNr50 data).sampleCounter = _
    rw [writeNr50]
    split <;> rfl
  | nr51 =>
    show (a.writeNr51 data).sampleCounter = _
    rw [writeNr51]
    split <;> rfl
  | nr52 =>
    show (a.writeNr52 data).sampleCounter = _
    rw [writeNr52]
    split <;> rfl

/-- Only the clock moves the sample counter. -/
theorem step_sampleCounter (a : Apu) {op : Op} (hop : op ≠ .clock) :
    Yields (step op a) fun a' => a'.sampleCounter = a.sampleCounter := by
  cases op with
  | clock => exact absurd rfl hop
  | read register => rfl
  | write register data =>
    rw [step_write]
    exact a.write_sampleCounter data register
  | writeWaveRam address data =>
    rw [step_writeWaveRam]
    exact (yields_any _).bind fun _ _ => rfl
  | readWaveRam address =>
    rw [step_readWaveRam]
    exact meets_map.mpr ((yields_any _).imp fun _ _ => rfl)

end Apu

/-! ### The buffer -/

def apuSamplesPerChannel : ℕ := 4096

def apuSamples : ℕ := apuSamplesPerChannel * 2

/-- The sound unit with a `sample_output`. -/
structure Player where
  apu : Apu
  sampleBuffer : List UInt8
  /-- The sound unit after each T-cycle so far. -/
  ticks : List Apu

namespace Player

def new (ctx : GbCtx) : Player := { apu := .new ctx, sampleBuffer := [], ticks := [] }

/-- `sample_audio`, and the buffer if it is full. -/
def sampleAudio (p : Player) : Checked (Player × List (List UInt8)) := do
  let (leftScaled, rightScaled) ← p.apu.mix
  let left := Apu.eighthsToU8 leftScaled
  let right := Apu.eighthsToU8 rightScaled
  let sampleBuffer := p.sampleBuffer ++ [left, right]
  if sampleBuffer.length < apuSamples then return ({ p with sampleBuffer }, [])
  else
    assert .apuSample (sampleBuffer.length = apuSamples)
    return ({ p with sampleBuffer := [] }, [sampleBuffer])

/-- One T-cycle of the channels and of the sample counter. -/
def clockChannels (p : Player) : Checked (Player × List (List UInt8)) := do
  let a := p.apu
  let channel1 ← a.channel1.clock
  let channel2 ← a.channel2.clock
  let channel3 ← a.channel3.clock
  let channel4 ← a.channel4.clock
  let sampleCounter ← checkedSub .apuSample a.sampleCounter 1
  let a := { a with channel1, channel2, channel3, channel4, sampleCounter }
  if a.sampleCounter = 0 then
    let a := { a with sampleCounter := Apu.sampleCounterStart }
    sampleAudio { p with apu := a, ticks := p.ticks ++ [a] }
  else return ({ p with apu := a, ticks := p.ticks ++ [a] }, [])

/-- One M-cycle. -/
def clock (p : Player) : Checked (Player × List (List UInt8)) := do
  let apu ← p.apu.clockFrameSequencer
  let (p, batch1) ← { p with apu }.clockChannels
  let (p, batch2) ← p.clockChannels
  let (p, batch3) ← p.clockChannels
  let (p, batch4) ← p.clockChannels
  return (p, batch1 ++ batch2 ++ batch3 ++ batch4)

/-- An operation of the sound unit, and the batches it completes. -/
def step (op : Apu.Op) (p : Player) : Checked (Player × List (List UInt8)) :=
  match op with
  | .clock => p.clock
  | op => do return ({ p with apu := ← Apu.step op p.apu }, [])

/-! ### The stream -/

/-- What is to be heard, one pair every 95 T-cycles. -/
def stream (p : Player) : List UInt8 := (everyNth 95 p.ticks).flatMap Apu.stereo

/-- The stream is in the batches so far and in the buffer. -/
structure Keeps (p : Player) (batches : List (List UInt8)) : Prop where
  apu : p.apu.Bounded
  counter : 95 ∣ p.ticks.length + p.apu.sampleCounter
  even : 2 ∣ p.sampleBuffer.length
  batched : Batched apuSamples p.stream batches p.sampleBuffer

theorem new_keeps (ctx : GbCtx) : (new ctx).Keeps [] where
  apu := Apu.new_bounded ctx
  counter := ⟨1, rfl⟩
  even := ⟨0, rfl⟩
  batched := by
    rw [show (new ctx).stream = [] by simp [stream, everyNth, new]]
    exact batched_nil (by decide)

variable {p : Player} {batches : List (List UInt8)}

/-- What a computation with the player is to the sound unit and to the stream. -/
structure Follows (apu : Checked Apu) (ticks : ℕ) (batches : List (List UInt8))
    (r : Player × List (List UInt8)) : Prop where
  apu : apu = .ok r.1.apu
  ticks : r.1.ticks.length = ticks
  keeps : r.1.Keeps (batches ++ r.2)

theorem length_stereo (a : Apu) : a.stereo.length = 2 := rfl

/-- A pair is heard: it stays in the buffer, or it fills the buffer. -/
theorem sampleAudio_keeps (happ : p.apu.Bounded)
    (hcounter : 95 ∣ p.ticks.length + p.apu.sampleCounter)
    (heven : 2 ∣ p.sampleBuffer.length) {heard : List UInt8}
    (hbatched : Batched apuSamples heard batches p.sampleBuffer)
    (hstream : p.stream = heard ++ p.apu.stereo) :
    Total p.sampleAudio (Follows (.ok p.apu) p.ticks.length batches) := by
  obtain ⟨scaled, hmix, hstereo⟩ := map_eq_ok.mp (Apu.mix_eq_stereo happ)
  have hlt := hbatched.buffer
  have hlength : (p.sampleBuffer ++ p.apu.stereo).length = p.sampleBuffer.length + 2 :=
    List.length_append
  rw [sampleAudio, hmix, ok_bind]
  dsimp only
  rw [hstereo]
  refine .ite (fun hroom => ?_) fun hfull => ?_
  · refine ⟨rfl, rfl, happ, hcounter, ?_, ?_⟩
    · rw [hlength]
      omega
    · rw [List.append_nil]
      show Batched apuSamples p.stream batches _
      rw [hstream]
      exact hbatched.push hroom
  · have hlast : (p.sampleBuffer ++ p.apu.stereo).length = apuSamples := by
      rw [hlength] at hfull ⊢
      have hsamples : apuSamples = 8192 := rfl
      omega
    rw [assert_of _ hlast, ok_bind]
    refine ⟨rfl, rfl, happ, hcounter, ⟨0, rfl⟩, ?_⟩
    show Batched apuSamples p.stream _ []
    rw [hstream]
    exact hbatched.flush hlast

/-- **One T-cycle.** -/
theorem clockChannels_keeps (h : p.Keeps batches) :
    Total p.clockChannels (Follows p.apu.clockChannels (p.ticks.length + 1) batches) := by
  obtain ⟨channel1, hclock1, hbounded1⟩ := (Channel1.clock_bounded h.apu.channel1).exists_ok
  obtain ⟨channel2, hclock2, hbounded2⟩ := (Channel2.clock_bounded h.apu.channel2).exists_ok
  obtain ⟨channel3, hclock3, hbounded3⟩ := (Channel3.clock_bounded h.apu.channel3).exists_ok
  obtain ⟨channel4, hclock4, hbounded4⟩ := (Channel4.clock_bounded h.apu.channel4).exists_ok
  have hpos := h.apu.sampleCounter_pos
  have hle := h.apu.sampleCounter_le
  have hcounter := h.counter
  have hlength : ∀ a : Apu, (p.ticks ++ [a]).length = p.ticks.length + 1 := fun a =>
    List.length_append
  have hstream : ∀ a b : Apu, stream ⟨a, p.sampleBuffer, p.ticks ++ [b]⟩ =
      p.stream ++ if 95 ∣ p.ticks.length + 1 then b.stereo else [] := by
    intro a b
    rw [stream, everyNth_concat (by decide), List.flatMap_append]
    split
    · rw [List.flatMap_singleton]
      rfl
    · rfl
  rw [clockChannels, Apu.clockChannels]
  dsimp only
  rw [hclock1, hclock2, hclock3, hclock4, checkedSub_of_le _ hpos]
  simp only [ok_bind]
  by_cases hlast : p.apu.sampleCounter - 1 = 0
  · rw [if_pos hlast, if_pos hlast]
    generalize hnew : ({ p.apu with
      channel1, channel2, channel3, channel4, sampleCounter := Apu.sampleCounterStart } : Apu) = a
    have hbounded : a.Bounded := by
      rw [← hnew]
      exact { h.apu with
        channel1 := hbounded1, channel2 := hbounded2, channel3 := hbounded3
        channel4 := hbounded4, sampleCounter_pos := (by decide : 1 ≤ 95)
        sampleCounter_le := le_refl 95 }
    have hstart : a.sampleCounter = 95 := by rw [← hnew]; rfl
    obtain ⟨_, haudio, -⟩ := (Apu.sampleAudio_total hbounded).exists_ok
    rw [haudio, ok_bind]
    refine (sampleAudio_keeps (p := ⟨a, p.sampleBuffer, p.ticks ++ [a]⟩) hbounded ?_ h.even
      h.batched ?_).imp fun r hr => ?_
    · show 95 ∣ (p.ticks ++ [a]).length + a.sampleCounter
      rw [hlength, hstart]
      omega
    · rw [hstream, if_pos (by omega)]
    · exact ⟨hr.apu, hr.ticks.trans (hlength a), hr.keeps⟩
  · rw [if_neg hlast, if_neg hlast]
    refine ⟨rfl, hlength _, ?_, ?_, h.even, ?_⟩
    · exact { h.apu with
        channel1 := hbounded1, channel2 := hbounded2, channel3 := hbounded3
        channel4 := hbounded4, sampleCounter_pos := Nat.one_le_iff_ne_zero.mpr hlast
        sampleCounter_le := (Nat.sub_le ..).trans hle }
    · rw [hlength]
      dsimp only
      omega
    · rw [List.append_nil, hstream, if_neg (by omega), List.append_nil]
      exact h.batched

/-- **One M-cycle.** -/
theorem clock_keeps (h : p.Keeps batches) :
    Total p.clock (Follows p.apu.clock (p.ticks.length + 4) batches) := by
  obtain ⟨apu, hsequencer, hbounded⟩ := (Apu.clockFrameSequencer_bounded h.apu).exists_ok
  have hstart : Keeps { p with apu } batches := by
    refine { h with apu := hbounded, counter := ?_ }
    rw [p.apu.clockFrameSequencer_sampleCounter.of_ok hsequencer]
    exact h.counter
  rw [clock, Apu.clock, hsequencer, ok_bind, ok_bind]
  refine (clockChannels_keeps hstart).bind fun r1 h1 => ?_
  refine (clockChannels_keeps h1.keeps).bind fun r2 h2 => ?_
  refine (clockChannels_keeps h2.keeps).bind fun r3 h3 => ?_
  refine (clockChannels_keeps h3.keeps).bind fun r4 h4 => ?_
  refine ⟨?_, ?_, ?_⟩
  · rw [h1.apu, ok_bind, h2.apu, ok_bind, h3.apu, ok_bind]
    exact h4.apu
  · rw [h4.ticks, h3.ticks, h2.ticks, h1.ticks]
  · simpa only [List.append_assoc] using h4.keeps

/-- The T-cycles of an operation. -/
def tCycles : Apu.Op → ℕ
  | .clock => 4
  | .write _ _ | .read _ | .writeWaveRam _ _ | .readWaveRam _ => 0

/-- **One operation.** It does to the sound unit what it does without an output, and goes on with
the stream. -/
theorem step_keeps (h : p.Keeps batches) (op : Apu.Op) :
    Total (step op p) (Follows (Apu.step op p.apu) (p.ticks.length + tCycles op) batches) := by
  have hother : op ≠ .clock →
      Total (do return ({ p with apu := ← Apu.step op p.apu }, []))
        (Follows (Apu.step op p.apu) p.ticks.length batches) := by
    intro hop
    obtain ⟨apu, hstep, hbounded⟩ := (Apu.step_bounded h.apu op).exists_ok
    rw [hstep]
    refine ⟨rfl, rfl, hbounded, ?_, h.even, ?_⟩
    · show 95 ∣ p.ticks.length + apu.sampleCounter
      rw [(p.apu.step_sampleCounter hop).of_ok hstep]
      exact h.counter
    · rw [List.append_nil]
      exact h.batched
  cases op with
  | clock =>
    rw [Apu.step_clock]
    exact clock_keeps h
  | write | read | writeWaveRam | readWaveRam => exact hother (by simp)

theorem Keeps.length (h : p.Keeps batches) :
    batches.length * apuSamples + p.sampleBuffer.length = 2 * (p.ticks.length / 95) := by
  have hlength : (batches.flatten ++ p.sampleBuffer).length = p.stream.length := by
    rw [h.batched.all]
  have hflatten : batches.flatten.length = batches.length * apuSamples := by
    rw [List.length_flatten, List.map_congr_left h.batched.batch, List.map_const',
      List.sum_replicate, smul_eq_mul]
  have hstream : p.stream.length = 2 * (p.ticks.length / 95) := by
    rw [stream, List.length_flatMap, List.map_congr_left fun a _ => length_stereo a,
      List.map_const', List.sum_replicate, smul_eq_mul, length_everyNth (by decide), Nat.mul_comm]
  rw [List.length_append, hflatten, hstream] at hlength
  exact hlength

/-- An operation completes one batch at most. -/
theorem Follows.length_le {apu : Checked Apu} {n : ℕ} {r : Player × List (List UInt8)}
    (h : p.Keeps batches) (hn : n ≤ 4) (hr : Follows apu (p.ticks.length + n) batches r) :
    r.2.length ≤ 1 := by
  have hbefore := h.length
  have hafter := hr.keeps.length
  have hroom := h.batched.buffer
  have hticks : r.1.ticks.length / 95 ≤ p.ticks.length / 95 + 1 := by
    rw [hr.ticks]
    omega
  rw [List.length_append, Nat.add_mul] at hafter
  have hsamples : apuSamples = 8192 := rfl
  rw [hsamples] at hbefore hafter hroom
  omega

end Player

end ZenithGb
