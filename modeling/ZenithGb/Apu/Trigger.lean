import ZenithGb.Apu.Sequencer

/-!
# Triggering a channel

An NRx4 write with bit 7 set is to start its channel: an expired length count is loaded again, and
the channel runs if its DAC is on and, for channel 1, the sweep does not overflow at once. The
length counter decides whether the channel gets that far, and it has three ways to take the write.
Two of them load an expired count. The third, for a write that also enables the counter, returns
before that when the copy of the sequencer's step is even, so that the count stays 0 and the
channel is stopped.

## Main results

* `LengthCounter.writeNrx4_trigger` — when the count is 0 after a trigger
* `Apu.trigger_starts_iff` — when a trigger starts its channel
* `Apu.not_trigger_starts` — a trigger that does not
-/

namespace ZenithGb

open Outcome

/-! ### The length counter -/

namespace LengthCounter

/-- The write enables the counter, and returns without a look at its expired count. -/
structure MissesReload (l : LengthCounter) (enableBit : Bool) : Prop where
  disabled : l.enabled = false
  enables : enableBit = true
  even : l.frameSeqStep &&& 1 = 0
  expired : l.count = 0

variable {n : ℕ} {l : LengthCounter}

theorem writeNrx4Enabled_trigger (hn : 2 ≤ n) (h : l.Bounded n) (enableBit : Bool) :
    Total (l.writeNrx4Enabled true enableBit) fun l' => l'.count ≠ 0 := by
  have hbit : l.frameSeqStep &&& 1 ≤ 1 := Nat.and_le_right
  have hinit : 2 ≤ l.initialCount := h.initialCount ▸ hn
  refine Meets.ite (fun hne => by simpa using hne) fun _ => Meets.ite (fun _ => ?_) fun _ => ?_
  · rw [checkedSub_of_le _ (hbit.trans (Nat.le_of_succ_le hinit))]
    show l.initialCount - (l.frameSeqStep &&& 1) ≠ 0
    omega
  · show l.initialCount ≠ 0
    omega

theorem writeNrx4DisabledToEnabled_trigger (hn : 2 ≤ n) (h : l.Bounded n) :
    Total (l.writeNrx4DisabledToEnabled true) fun l' =>
      l'.count = 0 ↔ l.frameSeqStep &&& 1 = 0 ∧ l.count = 0 := by
  have hinit : 2 ≤ l.initialCount := h.initialCount ▸ hn
  refine Meets.ite (fun heven => ?_) fun hodd => Meets.ite (fun _ => ?_) fun hne => ?_
  · exact ⟨fun hzero => ⟨heven, hzero⟩, And.right⟩
  · rw [checkedSub_of_le _ (Nat.le_of_succ_le hinit)]
    show l.initialCount - 1 = 0 ↔ _
    exact iff_of_false (by omega) fun h => hodd h.1
  · exact iff_of_false (fun hzero => hne ⟨hzero, rfl⟩) fun h => hodd h.1

theorem writeNrx4Disabled_trigger (hn : 2 ≤ n) (h : l.Bounded n) :
    (l.writeNrx4Disabled true).count ≠ 0 := by
  have hinit : 2 ≤ l.initialCount := h.initialCount ▸ hn
  rw [writeNrx4Disabled]
  split
  · rename_i hne
    simpa using hne
  · show l.initialCount ≠ 0
    omega

/-- **A trigger leaves the count at 0** exactly when it misses the reload. -/
theorem writeNrx4_trigger (hn : 2 ≤ n) (h : l.Bounded n) (enableBit : Bool) :
    Total (l.writeNrx4 true enableBit) fun l' => l'.enabled = enableBit ∧
      (l'.count = 0 ↔ l.MissesReload enableBit) := by
  refine Meets.ite (fun hon => ?_) fun hoff => Meets.ite (fun henables => ?_) fun hdisables => ?_
  · refine (writeNrx4Enabled_trigger hn h enableBit).bind fun l' hl' => ⟨rfl, ?_⟩
    exact iff_of_false hl' fun hmiss => Bool.noConfusion (hon.symm.trans hmiss.disabled)
  · refine (writeNrx4DisabledToEnabled_trigger hn h).bind fun l' hl' => ⟨rfl, hl'.trans ?_⟩
    have hdisabled : l.enabled = false := by simpa using hoff
    exact ⟨fun hmiss => ⟨hdisabled, henables, hmiss.1, hmiss.2⟩, fun hmiss =>
      ⟨hmiss.even, hmiss.expired⟩⟩
  · refine ⟨rfl, ?_⟩
    exact iff_of_false (writeNrx4Disabled_trigger hn h) fun hmiss => hdisables hmiss.enables

end LengthCounter

/-! ### The channels -/

/-- The length counter takes the write, and the channel is stopped with the count at 0 or
triggered. `f` is the length counter of a channel and `s` the channel with another one. -/
theorem nrx4_trigger {χ : Type} {f : χ → LengthCounter} {s : LengthCounter → χ} {stop : χ → χ}
    {trigger : χ → Checked χ} {Started : χ → Prop} {n : ℕ} {l : LengthCounter} {enableBit : Bool}
    (hn : 2 ≤ n) (h : l.Bounded n) (hstop : ∀ l, f (stop (s l)) = l)
    (htrigger : ∀ l, Total (trigger (s l)) fun c => f c = l ∧ Started c) :
    Total (l.writeNrx4 true enableBit >>= fun l => afterNrx4 l true stop trigger (s l)) fun c =>
      ((f c).count = 0 ↔ l.MissesReload enableBit) ∧ ((f c).count ≠ 0 → Started c) := by
  refine (LengthCounter.writeNrx4_trigger hn h enableBit).bind fun l' ⟨_, hl'⟩ => ?_
  refine Meets.ite (fun hexpired => ?_) fun _ => ?_
  · simp only [Bool.and_eq_true, beq_iff_eq] at hexpired
    rw [meets_ok, hstop]
    exact ⟨hl', absurd hexpired.2⟩
  · refine (htrigger l').imp fun c ⟨hlength, hstarted⟩ => ⟨?_, fun _ => hstarted⟩
    rw [hlength]
    exact hl'

namespace Channel1

variable {c : Channel1}

theorem trigger_started (h : c.sweep.Bounded) : Total c.trigger fun c' =>
    c'.lengthCounter = c.lengthCounter ∧
      (c'.isEnabled = true ↔
        c'.regDacEnable = true ∧ Prod.fst <$> c.sweep.trigger = .ok false) := by
  refine (frequencyPeriod_total h.regFrequency_le le_rfl).bind fun _ _ => ?_
  obtain ⟨⟨isOverflow, s⟩, hs, -⟩ := (Sweep.trigger_bounded h).exists_ok
  rw [hs]
  refine ⟨rfl, ?_⟩
  show (_ && !isOverflow && _) = true ↔ _ ∧ Except.ok isOverflow = .ok false
  cases isOverflow <;> simp

theorem writeNr14_lengthCounter {data : UInt8} {l : LengthCounter}
    (h : c.lengthCounter.writeNrx4 (data &&& 0x80 != 0) (data &&& 0x40 != 0) = .ok l) :
    Yields (c.writeNr14 data) fun c' => c'.lengthCounter = l := by
  simp only [writeNr14, h, ok_bind]
  exact afterNrx4_yields rfl rfl <|
    (yields_any _).bind fun _ _ => (yields_any _).bind fun _ _ => rfl

theorem writeNr14_trigger (h : c.Bounded) {data : UInt8} (hdata : (data &&& 0x80 != 0) = true) :
    Total (c.writeNr14 data) fun c' =>
      (c'.lengthCounter.count = 0 ↔ c.lengthCounter.MissesReload (data &&& 0x40 != 0)) ∧
        (c'.lengthCounter.count ≠ 0 → (c'.isEnabled = true ↔ c'.regDacEnable = true ∧
          Prod.fst <$> (c.sweep.setFrequencyMsb data).trigger = .ok false)) := by
  have hsweep : (c.sweep.setFrequencyMsb data).Bounded :=
    { h.sweep with regFrequency_le := Sweep.frequencyMsb_le .. }
  simp only [writeNr14, hdata]
  exact nrx4_trigger (by decide) h.lengthCounter (fun _ => rfl) fun _ => trigger_started hsweep

end Channel1

namespace Channel2

variable {c : Channel2}

theorem trigger_started (h : c.regFrequency ≤ 2047) : Total c.trigger fun c' =>
    c'.lengthCounter = c.lengthCounter ∧ (c'.isEnabled = true ↔ c'.regDacEnable = true) :=
  (frequencyPeriod_total h le_rfl).bind fun _ _ => ⟨rfl, by simp [isEnabled]⟩

theorem writeNr24_trigger (h : c.Bounded) {data : UInt8} (hdata : (data &&& 0x80 != 0) = true) :
    Total (c.writeNr24 data) fun c' =>
      (c'.lengthCounter.count = 0 ↔ c.lengthCounter.MissesReload (data &&& 0x40 != 0)) ∧
        (c'.lengthCounter.count ≠ 0 → (c'.isEnabled = true ↔ c'.regDacEnable = true)) := by
  simp only [writeNr24, hdata]
  exact nrx4_trigger (by decide) h.lengthCounter (fun _ => rfl)
    fun _ => trigger_started (Sweep.frequencyMsb_le ..)

end Channel2

namespace Channel3

variable {c : Channel3}

theorem trigger_started (h : c.sampleIndex < 32) : Total c.trigger fun c' =>
    c'.lengthCounter = c.lengthCounter ∧ (c'.isEnabled = true ↔ c'.regDacEnable = true) :=
  (triggerCorruption_total h).bind fun _ _ => ⟨rfl, by simp [isEnabled]⟩

theorem writeNr34_trigger (h : c.Bounded) {data : UInt8} (hdata : (data &&& 0x80 != 0) = true) :
    Total (c.writeNr34 data) fun c' =>
      (c'.lengthCounter.count = 0 ↔ c.lengthCounter.MissesReload (data &&& 0x40 != 0)) ∧
        (c'.lengthCounter.count ≠ 0 → (c'.isEnabled = true ↔ c'.regDacEnable = true)) := by
  simp only [writeNr34, hdata]
  exact nrx4_trigger (by decide) h.lengthCounter (fun _ => rfl)
    fun _ => trigger_started h.sampleIndex_lt

end Channel3

namespace Channel4

variable {c : Channel4}

theorem trigger_started (h : Total c.calcFreq fun _ => True) : Total c.trigger fun c' =>
    c'.lengthCounter = c.lengthCounter ∧ (c'.isEnabled = true ↔ c'.regDacEnable = true) :=
  h.bind fun _ _ => ⟨rfl, by simp [isEnabled]⟩

theorem writeNr44_trigger (h : c.Bounded) {data : UInt8} (hdata : (data &&& 0x80 != 0) = true) :
    Total (c.writeNr44 data) fun c' =>
      (c'.lengthCounter.count = 0 ↔ c.lengthCounter.MissesReload (data &&& 0x40 != 0)) ∧
        (c'.lengthCounter.count ≠ 0 → (c'.isEnabled = true ↔ c'.regDacEnable = true)) := by
  have hfreq : Total c.calcFreq fun _ => True := calcFreq_total h
  simp only [writeNr44, hdata]
  exact nrx4_trigger (by decide) h.lengthCounter (fun _ => rfl) fun _ => trigger_started hfreq

end Channel4

/-! ### The unit -/

namespace Apu

variable {a : Apu}

/-- The register that triggers a channel. -/
def nrx4 : ChannelNo → Register
  | .one => .nr14
  | .two => .nr24
  | .three => .nr34
  | .four => .nr44

def dacOf (a : Apu) : ChannelNo → Bool
  | .one => a.channel1.regDacEnable
  | .two => a.channel2.regDacEnable
  | .three => a.channel3.regDacEnable
  | .four => a.channel4.regDacEnable

/-- The sweep's overflow check at a trigger, which only channel 1 has. -/
def sweepCheck (a : Apu) (data : UInt8) : ChannelNo → Checked Bool
  | .one => Prod.fst <$> (a.channel1.sweep.setFrequencyMsb data).trigger
  | _ => .ok false

/-- What a trigger is for: there is some length left, and the channel runs if its DAC is on and the
sweep did not overflow. -/
structure Starts (ch : ChannelNo) (data : UInt8) (a a' : Apu) : Prop where
  count_ne_zero : (a'.lengthCounterOf ch).count ≠ 0
  isEnabled_iff : a'.isEnabledOf ch = true ↔ a'.dacOf ch = true ∧ a.sweepCheck data ch = .ok false

theorem write_trigger (h : a.Bounded) (hon : a.audioEnabled = true) (ch : ChannelNo) {data : UInt8}
    (hdata : data &&& 0x80 ≠ 0) : Total (a.write data (nrx4 ch)) fun a' =>
      ((a'.lengthCounterOf ch).count = 0 ↔
          (a.lengthCounterOf ch).MissesReload (data &&& 0x40 != 0)) ∧
        ((a'.lengthCounterOf ch).count ≠ 0 → Starts ch data a a') := by
  have hbit : (data &&& 0x80 != 0) = true := by simpa using hdata
  have hwhen : ∀ write : Checked Apu, a.whenEnabled write = write := by
    intro write
    rw [whenEnabled, hon]
    rfl
  cases ch with
  | one =>
    rw [show a.write data (nrx4 .one) = _ from hwhen _]
    exact (Channel1.writeNr14_trigger h.channel1 hbit).bind fun _ ⟨hcount, henabled⟩ =>
      ⟨hcount, fun hne => ⟨hne, henabled hne⟩⟩
  | two =>
    rw [show a.write data (nrx4 .two) = _ from hwhen _]
    exact (Channel2.writeNr24_trigger h.channel2 hbit).bind fun _ ⟨hcount, henabled⟩ =>
      ⟨hcount, fun hne => ⟨hne, (henabled hne).trans (and_iff_left rfl).symm⟩⟩
  | three =>
    rw [show a.write data (nrx4 .three) = _ from hwhen _]
    exact (Channel3.writeNr34_trigger h.channel3 hbit).bind fun _ ⟨hcount, henabled⟩ =>
      ⟨hcount, fun hne => ⟨hne, (henabled hne).trans (and_iff_left rfl).symm⟩⟩
  | four =>
    rw [show a.write data (nrx4 .four) = _ from hwhen _]
    exact (Channel4.writeNr44_trigger h.channel4 hbit).bind fun _ ⟨hcount, henabled⟩ =>
      ⟨hcount, fun hne => ⟨hne, (henabled hne).trans (and_iff_left rfl).symm⟩⟩

/-- **When a trigger starts its channel**: unless the write misses the reload of the count. -/
theorem trigger_starts_iff (h : a.Reachable) (hon : a.audioEnabled = true) (ch : ChannelNo)
    {data : UInt8} (hdata : data &&& 0x80 ≠ 0) :
    ∃ a', step (.write (nrx4 ch) data) a = .ok a' ∧
      (Starts ch data a a' ↔ ¬ (a.lengthCounterOf ch).MissesReload (data &&& 0x40 != 0)) := by
  obtain ⟨a', ha', hcount, hstarts⟩ := (write_trigger h.bounded hon ch hdata).exists_ok
  refine ⟨a', (step_write ..).trans ha', fun hs hmiss => ?_, fun hmiss => ?_⟩
  · exact hs.count_ne_zero (hcount.mpr hmiss)
  · exact hstarts fun hzero => hmiss (hcount.mp hzero)

/-- At power-on the count of channel 2 has not expired. -/
theorem trigger_starts_iff_new : ∃ a', step (.write .nr24 0xC0) (new (.ofMode .modeDmg)) = .ok a' ∧
    Starts .two 0xC0 (new (.ofMode .modeDmg)) a' := by
  have hreach : (new (.ofMode .modeDmg)).Reachable := .start ⟨_, rfl⟩
  have hdata : (0xC0 : UInt8) &&& 0x80 ≠ 0 := by decide
  obtain ⟨a', ha', hstarts⟩ := trigger_starts_iff hreach rfl .two hdata
  exact ⟨a', ha', hstarts.mpr fun hmiss => nomatch hmiss.expired⟩

/-! ### A trigger that does not start its channel -/

theorem exec_clock_keepsIdle (n : ℕ) (a : Apu) :
    Yields (Machine.exec step (List.replicate n .clock) a) (KeepsIdle a) := by
  refine Machine.exec_meets (P := (· = .clock)) ?_ _ a (fun _ => List.eq_of_mem_replicate)
    (KeepsIdle.refl a)
  rintro _ b rfl hb
  rw [step_clock]
  exact (clock_keepsIdle b).imp fun _ => hb.trans

theorem copy_of_coherent (h : a.Coherent) (ch : ChannelNo) :
    (a.lengthCounterOf ch).frameSeqStep = a.frameSequencerStep := by
  refine h _ (List.mem_map_of_mem (f := (·.frameSeqStep)) (?_ : _ ∈ a.lengthCounters))
  cases ch <;> simp [lengthCounters, lengthCounterOf]

/-- The sequencer ticks once, and gives a disabled length counter its next step. -/
theorem exec_clock_idle {n : ℕ} {a' : Apu} (hn : a.frameSequencer = n + 1) {ch : ChannelNo}
    (hidle : (a.lengthCounterOf ch).enabled = false)
    (ha : Machine.exec step (List.replicate (n + 1) .clock) a = .ok a') :
    a'.audioEnabled = a.audioEnabled ∧ a'.lengthCounterOf ch =
      (a.lengthCounterOf ch).updateFrameSequencerStep ((a.frameSequencerStep + 1) &&& 0x7) := by
  obtain ⟨hcoherent, haudio, hstep⟩ := (exec_clock_tick hn).of_ok ha
  obtain ⟨copy, hlength⟩ := (exec_clock_keepsIdle (n + 1) a).of_ok ha ch hidle
  have hcopy : copy = (a.frameSequencerStep + 1) &&& 0x7 := by
    rw [← hstep, ← copy_of_coherent hcoherent ch, hlength]
    rfl
  exact ⟨haudio, hcopy ▸ hlength⟩

/-- From power-on on DMG: the sequencer ticks, an NR14 write in its odd step counts the length 1
down without a trigger, and turning the sound off and on leaves the expired count in an even
step. -/
theorem exists_missesReload : ∃ a : Apu, a.Reachable ∧ a.audioEnabled = true ∧
    (a.lengthCounterOf .one).MissesReload true := by
  obtain ⟨s, hs⟩ : ∃ s, s = new (.ofMode .modeDmg) := ⟨_, rfl⟩
  have hstart : s.Reachable := .start ⟨_, hs⟩
  have hidle : (s.lengthCounterOf .one).enabled = false := hs ▸ rfl
  obtain ⟨n, hn⟩ : ∃ n, s.frameSequencer = n + 1 := ⟨2047, hs ▸ rfl⟩
  obtain ⟨a, ha, -⟩ := (exec_total hstart.bounded (List.replicate (n + 1) .clock)).exists_ok
  obtain ⟨haudio, hlength⟩ := exec_clock_idle hn hidle ha
  rw [hs] at haudio hlength
  have hlength : a.channel1.lengthCounter = ⟨1, 64, 1, false, .ofMode .modeDmg⟩ := hlength
  -- NR14 without a trigger, then NR52 twice
  have hreach : a.Reachable := hstart.exec ha
  obtain ⟨c, hc, -⟩ := (Channel1.writeNr14_bounded hreach.bounded.channel1 0x40).exists_ok
  have hcounted : a.channel1.lengthCounter.writeNrx4 false true =
      .ok ⟨1, 64, 0, true, .ofMode .modeDmg⟩ := by rw [hlength]; rfl
  have hexpired := (Channel1.writeNr14_lengthCounter hcounted).of_ok hc
  have hnr14 : step (.write .nr14 0x40) a = .ok { a with channel1 := c } := by
    rw [step_write]
    show a.whenEnabled (do return { a with channel1 := ← a.channel1.writeNr14 0x40 }) = _
    rw [whenEnabled, haudio, hc]
    rfl
  have hoff : step (.write .nr52 0x00) { a with channel1 := c } =
      .ok { Apu.shutdown { a with channel1 := c } with audioEnabled := false } := by
    rw [step_write]
    simp only [write, writeNr52, haudio]
    rfl
  have hon : step (.write .nr52 0x80) { Apu.shutdown { a with channel1 := c } with
      audioEnabled := false } = .ok _ := step_of_enables rfl rfl
  refine ⟨_, .step _ (.step _ (.step _ hreach hnr14) hoff) hon, rfl, ?_⟩
  show c.lengthCounter.shutdown.MissesReload true
  rw [hexpired]
  exact ⟨rfl, rfl, rfl, rfl⟩

theorem not_trigger_starts : ¬ ∀ a : Apu, a.Reachable → a.audioEnabled = true → ∀ ch data,
    data &&& 0x80 ≠ 0 → ∃ a', step (.write (nrx4 ch) data) a = .ok a' ∧ Starts ch data a a' := by
  intro h
  have hdata : (0xC0 : UInt8) &&& 0x80 ≠ 0 := by decide
  obtain ⟨a, hreach, hon, hmiss⟩ := exists_missesReload
  obtain ⟨a', ha', hstarts⟩ := h a hreach hon .one 0xC0 hdata
  obtain ⟨hcount, -⟩ := (write_trigger hreach.bounded hon .one hdata).of_ok
    ((step_write ..).symm.trans ha')
  exact hstarts.count_ne_zero (hcount.mpr hmiss)

end Apu

end ZenithGb
