import ZenithGb.Apu.Bounded

/-!
# The phase of the frame sequencer and its copies

Each length counter holds a copy of the frame sequencer's step, and an NRx4 write decides from the
copy whether the length is clocked once more. The sequencer renews the copies when it ticks, and
turning the sound off clears them. Turning it on sets the sequencer's step to 0 but not the copies,
so that they agree afterwards only if they were clear before: the sequencer keeps ticking while the
sound is off.

## Main results

* `Apu.step_phase` — what one operation does to the step and to its copies
* `Apu.clock_keepsIdle` — clocks do not count down the length counters that are disabled
* `Apu.coherent_exec_iff` — when the copies agree with the step throughout a sequence
* `Apu.not_coherent` — there is a sequence after which they do not
-/

namespace ZenithGb

open Outcome

/-! ### What keeps the copy of a length counter -/

namespace LengthCounter

variable {l : LengthCounter}

theorem clock_frameSeqStep (l : LengthCounter) : l.clock.2.frameSeqStep = l.frameSeqStep := by
  show (if _ then _ else l : LengthCounter).frameSeqStep = _
  split <;> rfl

theorem clock_of_disabled (h : l.enabled = false) : l.clock = (false, l) := by simp [clock, h]

theorem writeNrx4_frameSeqStep (l : LengthCounter) (triggerBit enableBit : Bool) :
    Yields (l.writeNrx4 triggerBit enableBit) fun l' => l'.frameSeqStep = l.frameSeqStep := by
  have hend : ∀ l' : LengthCounter, l'.frameSeqStep = l.frameSeqStep →
      { l' with enabled := enableBit }.frameSeqStep = l.frameSeqStep := fun _ h => h
  refine Meets.ite (fun _ => ?enabled) fun _ => Meets.ite (fun _ => ?toEnabled) fun _ => ?disabled
  case enabled =>
    refine Meets.bind (Q := fun l' => l'.frameSeqStep = l.frameSeqStep) ?_ hend
    refine Meets.ite (fun _ => rfl) fun _ => Meets.ite (fun _ => ?_) fun _ => rfl
    exact (yields_any _).bind fun _ _ => rfl
  case toEnabled =>
    refine Meets.bind (Q := fun l' => l'.frameSeqStep = l.frameSeqStep) ?_ hend
    refine Meets.ite (fun _ => rfl) fun _ => Meets.ite (fun _ => ?_) fun _ => rfl
    exact (yields_any _).bind fun _ _ => rfl
  case disabled =>
    refine hend _ ?_
    rw [writeNrx4Disabled]
    split <;> rfl

end LengthCounter

theorem afterNrx4_yields {χ : Type} {l : LengthCounter} {triggerBit : Bool} {stop : χ → χ}
    {trigger : χ → Checked χ} {c : χ} {I : χ → Prop} (hc : I c) (hstop : I (stop c))
    (htrigger : Yields (trigger c) I) : Yields (afterNrx4 l triggerBit stop trigger c) I :=
  Meets.ite (fun _ => hstop) fun _ => Meets.ite (fun _ => htrigger) fun _ => hc

/-! ### What keeps the copy of a channel -/

namespace Channel1

variable (c : Channel1) (data : UInt8)

theorem clock_lengthCounter :
    Yields c.clock fun c' => c'.lengthCounter = c.lengthCounter := by
  refine Meets.ite (fun _ => rfl) fun _ => (yields_any _).bind fun _ _ => ?_
  exact Meets.ite (fun _ => rfl) fun _ => (yields_any _).bind fun _ _ =>
    (yields_any _).bind fun _ _ => rfl

theorem sweepClock_lengthCounter :
    Yields c.sweepClock fun c' => c'.lengthCounter = c.lengthCounter :=
  (yields_any _).bind fun _ _ => rfl

theorem writeNr11_frameSeqStep : Yields (c.writeNr11 data) fun c' =>
    c'.lengthCounter.frameSeqStep = c.lengthCounter.frameSeqStep :=
  (yields_any _).bind fun _ _ => rfl

theorem writeNr14_frameSeqStep : Yields (c.writeNr14 data) fun c' =>
    c'.lengthCounter.frameSeqStep = c.lengthCounter.frameSeqStep :=
  (LengthCounter.writeNrx4_frameSeqStep ..).bind fun _ hl => afterNrx4_yields hl hl <|
    (yields_any _).bind fun _ _ => (yields_any _).bind fun _ _ => hl

end Channel1

namespace Channel2

variable (c : Channel2) (data : UInt8)

theorem clock_lengthCounter :
    Yields c.clock fun c' => c'.lengthCounter = c.lengthCounter := by
  refine Meets.ite (fun _ => rfl) fun _ => (yields_any _).bind fun _ _ => ?_
  exact Meets.ite (fun _ => rfl) fun _ => (yields_any _).bind fun _ _ =>
    (yields_any _).bind fun _ _ => rfl

theorem writeNr21_frameSeqStep : Yields (c.writeNr21 data) fun c' =>
    c'.lengthCounter.frameSeqStep = c.lengthCounter.frameSeqStep :=
  (yields_any _).bind fun _ _ => rfl

theorem writeNr24_frameSeqStep : Yields (c.writeNr24 data) fun c' =>
    c'.lengthCounter.frameSeqStep = c.lengthCounter.frameSeqStep :=
  (LengthCounter.writeNrx4_frameSeqStep ..).bind fun _ hl => afterNrx4_yields hl hl <|
    (yields_any _).bind fun _ _ => hl

end Channel2

namespace Channel3

variable (c : Channel3) (data : UInt8)

theorem clock_lengthCounter :
    Yields c.clock fun c' => c'.lengthCounter = c.lengthCounter := by
  refine Meets.ite_bind (yields_any _) fun step _ => ?_
  refine Meets.ite (fun _ => rfl) fun _ => (yields_any _).bind fun _ _ => ?_
  refine Meets.ite (fun _ => rfl) fun _ => (yields_any _).bind fun _ _ => ?_
  simp only
  split
  · rfl
  · exact (yields_any _).bind fun _ _ => rfl

theorem writeNr31_frameSeqStep : Yields (c.writeNr31 data) fun c' =>
    c'.lengthCounter.frameSeqStep = c.lengthCounter.frameSeqStep :=
  (yields_any _).bind fun _ _ => rfl

theorem writeNr34_frameSeqStep : Yields (c.writeNr34 data) fun c' =>
    c'.lengthCounter.frameSeqStep = c.lengthCounter.frameSeqStep :=
  (LengthCounter.writeNrx4_frameSeqStep ..).bind fun _ hl => afterNrx4_yields hl hl <|
    (yields_any _).bind fun _ _ => hl

theorem writeWaveRam_lengthCounter (addr : ℕ) : Yields (c.writeWaveRam addr data) fun c' =>
    c'.lengthCounter = c.lengthCounter :=
  Meets.ite (fun _ => Meets.ite (fun _ => (yields_any _).bind fun _ _ => rfl) fun _ => rfl)
    fun _ => (yields_any _).bind fun _ _ => rfl

end Channel3

namespace Channel4

variable (c : Channel4) (data : UInt8)

theorem clock_lengthCounter :
    Yields c.clock fun c' => c'.lengthCounter = c.lengthCounter := by
  refine Meets.ite (fun _ => rfl) fun _ => (yields_any _).bind fun _ _ => ?_
  exact Meets.ite (fun _ => rfl) fun _ => (yields_any _).bind fun _ _ => rfl

theorem writeNr41_frameSeqStep : Yields (c.writeNr41 data) fun c' =>
    c'.lengthCounter.frameSeqStep = c.lengthCounter.frameSeqStep :=
  (yields_any _).bind fun _ _ => rfl

theorem writeNr44_frameSeqStep : Yields (c.writeNr44 data) fun c' =>
    c'.lengthCounter.frameSeqStep = c.lengthCounter.frameSeqStep :=
  (LengthCounter.writeNrx4_frameSeqStep ..).bind fun _ hl => afterNrx4_yields hl hl <|
    (yields_any _).bind fun _ _ => hl

end Channel4

/-! ### The step and its copies -/

namespace Apu

/-- The copies of the frame sequencer's step in the four length counters. -/
def copies (a : Apu) : List ℕ := a.lengthCounters.map (·.frameSeqStep)

/-- Every copy is the frame sequencer's step. -/
def Coherent (a : Apu) : Prop := ∀ step ∈ a.copies, step = a.frameSequencerStep

/-- Every copy is clear: the sequencer did not tick since the sound was turned off, or its last
tick led to step 0. -/
def CopiesClear (a : Apu) : Prop := ∀ step ∈ a.copies, step = 0

instance (a : Apu) : Decidable a.Coherent := List.decidableBAll _ _

instance (a : Apu) : Decidable a.CopiesClear := List.decidableBAll _ _

/-- Neither the step nor its copies nor the sound switch changed. -/
structure SamePhase (a a' : Apu) : Prop where
  copies : a'.copies = a.copies
  frameSequencerStep : a'.frameSequencerStep = a.frameSequencerStep
  audioEnabled : a'.audioEnabled = a.audioEnabled

/-- What one operation does to the step and to its copies. -/
inductive PhaseStep (op : Op) (a a' : Apu) : Prop
  | keeps (same : SamePhase a a')
  | ticks (coherent : a'.Coherent) (audioEnabled : a'.audioEnabled = a.audioEnabled)
  | turnsOff (audioEnabled : a'.audioEnabled = false)
  | turnsOn (enables : op.enables = true) (wasOff : a.audioEnabled = false)
      (copies : a'.copies = a.copies) (step : a'.frameSequencerStep = 0)
      (audioEnabled : a'.audioEnabled = true)

variable {a a' a'' : Apu}

theorem SamePhase.refl (a : Apu) : SamePhase a a := ⟨rfl, rfl, rfl⟩

theorem SamePhase.trans (h : SamePhase a a') (h' : SamePhase a' a'') : SamePhase a a'' :=
  ⟨h'.copies.trans h.copies, h'.frameSequencerStep.trans h.frameSequencerStep,
    h'.audioEnabled.trans h.audioEnabled⟩

/-- Channels are replaced by channels with the same copies. -/
theorem samePhase_of_channels (h1 : a'.channel1.lengthCounter.frameSeqStep =
      a.channel1.lengthCounter.frameSeqStep)
    (h2 : a'.channel2.lengthCounter.frameSeqStep = a.channel2.lengthCounter.frameSeqStep)
    (h3 : a'.channel3.lengthCounter.frameSeqStep = a.channel3.lengthCounter.frameSeqStep)
    (h4 : a'.channel4.lengthCounter.frameSeqStep = a.channel4.lengthCounter.frameSeqStep)
    (hstep : a'.frameSequencerStep = a.frameSequencerStep)
    (haudio : a'.audioEnabled = a.audioEnabled) : SamePhase a a' :=
  ⟨by simp only [Apu.copies, lengthCounters, List.map_cons, List.map_nil, h1, h2, h3, h4],
    hstep, haudio⟩

/-- A T-cycle of the channels changes no length counter and nothing of the sequencer. -/
structure SameLengths (a a' : Apu) : Prop where
  lengthCounterOf : ∀ ch, a'.lengthCounterOf ch = a.lengthCounterOf ch
  frameSequencer : a'.frameSequencer = a.frameSequencer
  frameSequencerStep : a'.frameSequencerStep = a.frameSequencerStep
  audioEnabled : a'.audioEnabled = a.audioEnabled

theorem SameLengths.phase (h : SameLengths a a') : SamePhase a a' :=
  samePhase_of_channels (congrArg _ (h.lengthCounterOf .one)) (congrArg _ (h.lengthCounterOf .two))
    (congrArg _ (h.lengthCounterOf .three)) (congrArg _ (h.lengthCounterOf .four))
    h.frameSequencerStep h.audioEnabled

theorem clockChannels_sameLengths (a : Apu) : Yields a.clockChannels (SameLengths a) := by
  refine (a.channel1.clock_lengthCounter).bind fun c1 h1 => ?_
  refine (a.channel2.clock_lengthCounter).bind fun c2 h2 => ?_
  refine (a.channel3.clock_lengthCounter).bind fun c3 h3 => ?_
  refine (a.channel4.clock_lengthCounter).bind fun c4 h4 => ?_
  have hsame : ∀ n : ℕ, SameLengths a { a with
      channel1 := c1, channel2 := c2, channel3 := c3, channel4 := c4, sampleCounter := n } := by
    refine fun n => ⟨fun ch => ?_, rfl, rfl, rfl⟩
    cases ch with
    | one => exact h1
    | two => exact h2
    | three => exact h3
    | four => exact h4
  refine (yields_any _).bind fun _ _ => Meets.ite (fun _ => ?_) fun _ => hsame _
  exact (yields_any _).bind fun _ _ => hsame _

theorem lengthClocks_phase (a : Apu) : SamePhase a a.lengthClocks :=
  samePhase_of_channels (LengthCounter.clock_frameSeqStep _) (LengthCounter.clock_frameSeqStep _)
    (LengthCounter.clock_frameSeqStep _) (LengthCounter.clock_frameSeqStep _) rfl rfl

theorem frameSequencerTick_phase (a : Apu) : Yields a.frameSequencerTick (SamePhase a) := by
  rw [frameSequencerTick]
  split
  case h_1 | h_2 => exact lengthClocks_phase a
  case h_3 | h_4 =>
    refine (Channel1.sweepClock_lengthCounter _).bind fun c1 h1 => ?_
    exact (lengthClocks_phase a).trans
      (samePhase_of_channels (congrArg _ h1) rfl rfl rfl rfl rfl)
  case h_5 =>
    exact (yields_any _).bind fun _ _ => (yields_any _).bind fun _ _ =>
      (yields_any _).bind fun _ _ => samePhase_of_channels rfl rfl rfl rfl rfl rfl
  case h_6 | h_7 | h_8 => exact SamePhase.refl a
  case h_9 => trivial

theorem coherent_updateFrameSequencerSteps (a : Apu) :
    (a.updateFrameSequencerSteps a.frameSequencerStep).Coherent := by
  simp [Coherent, copies, lengthCounters, updateFrameSequencerSteps,
    LengthCounter.updateFrameSequencerStep]

/-- What a count of the sequencer does: nothing but count, or move to the next step together with
the copies. -/
def Counted (a a' : Apu) : Prop :=
  (a'.frameSequencer + 1 = a.frameSequencer ∧ a'.frameSequencer ≠ 0 ∧ SamePhase a a') ∨
    (a.frameSequencer = 1 ∧ a'.Coherent ∧ a'.audioEnabled = a.audioEnabled ∧
      a'.frameSequencerStep = (a.frameSequencerStep + 1) &&& 0x7)

theorem coherent_congr (h : SamePhase a a') : a'.Coherent ↔ a.Coherent := by
  rw [Coherent, Coherent, h.copies, h.frameSequencerStep]

/-- The rest of an M-cycle does not change what the count did. -/
theorem Counted.trans (h : Counted a a') (hseq : a''.frameSequencer = a'.frameSequencer)
    (hsame : SamePhase a' a'') : Counted a a'' := by
  rcases h with ⟨hcount, hne, hkept⟩ | ⟨hone, hcoherent, haudio, hstep⟩
  · exact .inl ⟨hseq ▸ hcount, hseq ▸ hne, hkept.trans hsame⟩
  · exact .inr ⟨hone, (coherent_congr hsame).mpr hcoherent, hsame.audioEnabled.trans haudio,
      hsame.frameSequencerStep.trans hstep⟩

theorem clockFrameSequencer_counted (a : Apu) : Yields a.clockFrameSequencer (Counted a) := by
  have hsub : Yields (checkedSub .apuFrameSequencer a.frameSequencer 1) fun n =>
      n + 1 = a.frameSequencer :=
    meets_of_ok fun n h => by have := checkedSub_eq_ok.mp h; omega
  refine hsub.bind fun n hn => Meets.ite (fun hne => ?_) fun hzero => ?_
  · exact .inl ⟨hn, hne, ⟨rfl, rfl, rfl⟩⟩
  · refine (frameSequencerTick_phase _).bind fun a' hsame => ?_
    have hadd : Yields (checkedAdd 8 .apuFrameSequencer a'.frameSequencerStep 1) fun n =>
        a'.frameSequencerStep + 1 = n :=
      meets_of_ok fun n h => (checkedAdd_eq_ok.mp h).2
    refine hadd.bind fun next hnext => .inr ⟨?_, coherent_updateFrameSequencerSteps _, ?_, ?_⟩
    · have hzero : n = 0 := not_not.mp hzero
      omega
    · exact hsame.audioEnabled
    · show next &&& 0x7 = _
      rw [← hnext, hsame.frameSequencerStep]

theorem clock_counted (a : Apu) : Yields a.clock (Counted a) := by
  have hchannels : ∀ a' : Apu, Counted a a' → Yields a'.clockChannels (Counted a) :=
    fun a' h => (clockChannels_sameLengths a').imp fun _ hc => h.trans hc.frameSequencer hc.phase
  refine (clockFrameSequencer_counted a).bind fun _ h => (hchannels _ h).bind fun _ h => ?_
  exact (hchannels _ h).bind fun _ h => (hchannels _ h).bind hchannels

/-! ### Length counters that are disabled -/

/-- Of a length counter that was disabled, at most the copy of the sequencer's step changed. -/
def KeepsIdle (a a' : Apu) : Prop :=
  ∀ ch, (a.lengthCounterOf ch).enabled = false →
    ∃ step, a'.lengthCounterOf ch = (a.lengthCounterOf ch).updateFrameSequencerStep step

theorem KeepsIdle.refl (a : Apu) : KeepsIdle a a := fun _ _ => ⟨_, rfl⟩

theorem KeepsIdle.trans (h : KeepsIdle a a') (h' : KeepsIdle a' a'') : KeepsIdle a a'' := by
  intro ch hch
  obtain ⟨step, hstep⟩ := h ch hch
  have hidle : (a'.lengthCounterOf ch).enabled = false := by
    rw [hstep]
    exact hch
  obtain ⟨step', hstep'⟩ := h' ch hidle
  rw [hstep', hstep]
  exact ⟨step', rfl⟩

theorem keepsIdle_of_eq (h : ∀ ch, a'.lengthCounterOf ch = a.lengthCounterOf ch) :
    KeepsIdle a a' :=
  fun ch _ => ⟨_, h ch⟩

theorem lengthClocks_keepsIdle (a : Apu) : KeepsIdle a a.lengthClocks := by
  intro ch hch
  have hsame : a.lengthClocks.lengthCounterOf ch = a.lengthCounterOf ch := by
    cases ch <;> exact congrArg Prod.snd (LengthCounter.clock_of_disabled hch)
  exact ⟨_, hsame⟩

theorem frameSequencerTick_keepsIdle (a : Apu) : Yields a.frameSequencerTick (KeepsIdle a) := by
  rw [frameSequencerTick]
  split
  case h_1 | h_2 => exact lengthClocks_keepsIdle a
  case h_3 | h_4 =>
    refine (Channel1.sweepClock_lengthCounter _).bind fun c1 h1 => ?_
    refine (lengthClocks_keepsIdle a).trans (keepsIdle_of_eq fun ch => ?_)
    cases ch with
    | one => exact h1
    | two | three | four => rfl
  case h_5 =>
    refine (yields_any _).bind fun _ _ => (yields_any _).bind fun _ _ =>
      (yields_any _).bind fun _ _ => keepsIdle_of_eq fun ch => ?_
    cases ch <;> rfl
  case h_6 | h_7 | h_8 => exact KeepsIdle.refl a
  case h_9 => trivial

theorem updateFrameSequencerSteps_keepsIdle (a : Apu) (step : ℕ) :
    KeepsIdle a (a.updateFrameSequencerSteps step) := by
  intro ch _
  cases ch <;> exact ⟨step, rfl⟩

theorem clockFrameSequencer_keepsIdle (a : Apu) : Yields a.clockFrameSequencer (KeepsIdle a) := by
  have hcount : ∀ n m : ℕ, KeepsIdle a { a with frameSequencer := n, frameSequencerStep := m } :=
    fun n m => keepsIdle_of_eq fun ch => by cases ch <;> rfl
  refine (yields_any _).bind fun n _ => Meets.ite (fun _ => hcount n _) fun _ => ?_
  refine (frameSequencerTick_keepsIdle _).bind fun a' h => (yields_any _).bind fun next _ => ?_
  have hstep : KeepsIdle a' { a' with frameSequencerStep := next &&& 0x7 } :=
    keepsIdle_of_eq fun ch => by cases ch <;> rfl
  exact (hcount frameSequencerStart _).trans
    (h.trans (hstep.trans (updateFrameSequencerSteps_keepsIdle _ _)))

/-- An M-cycle does not count down the length counters that are disabled. -/
theorem clock_keepsIdle (a : Apu) : Yields a.clock (KeepsIdle a) := by
  have hchannels : ∀ a' : Apu, KeepsIdle a a' → Yields a'.clockChannels (KeepsIdle a) :=
    fun a' h => (clockChannels_sameLengths a').imp fun _ hc =>
      h.trans (keepsIdle_of_eq hc.lengthCounterOf)
  refine (clockFrameSequencer_keepsIdle a).bind fun _ h => (hchannels _ h).bind fun _ h => ?_
  exact (hchannels _ h).bind fun _ h => (hchannels _ h).bind hchannels

/-! ### Register writes -/

theorem whenEnabled_phase {write : Checked Apu} (hw : Yields write (SamePhase a)) :
    Yields (a.whenEnabled write) (SamePhase a) :=
  Meets.ite (fun _ => SamePhase.refl a) fun _ => hw

theorem whenLengthWritable_phase {write : Checked Apu} (hw : Yields write (SamePhase a)) :
    Yields (a.whenLengthWritable write) (SamePhase a) :=
  Meets.ite (fun _ => SamePhase.refl a) fun _ => hw

theorem bind1_phase {x : Checked Channel1} (hx : Yields x fun c =>
    c.lengthCounter.frameSeqStep = a.channel1.lengthCounter.frameSeqStep) :
    Yields (do return { a with channel1 := ← x }) (SamePhase a) :=
  hx.bind fun _ hc => samePhase_of_channels hc rfl rfl rfl rfl rfl

theorem bind2_phase {x : Checked Channel2} (hx : Yields x fun c =>
    c.lengthCounter.frameSeqStep = a.channel2.lengthCounter.frameSeqStep) :
    Yields (do return { a with channel2 := ← x }) (SamePhase a) :=
  hx.bind fun _ hc => samePhase_of_channels rfl hc rfl rfl rfl rfl

theorem bind3_phase {x : Checked Channel3} (hx : Yields x fun c =>
    c.lengthCounter.frameSeqStep = a.channel3.lengthCounter.frameSeqStep) :
    Yields (do return { a with channel3 := ← x }) (SamePhase a) :=
  hx.bind fun _ hc => samePhase_of_channels rfl rfl hc rfl rfl rfl

theorem bind4_phase {x : Checked Channel4} (hx : Yields x fun c =>
    c.lengthCounter.frameSeqStep = a.channel4.lengthCounter.frameSeqStep) :
    Yields (do return { a with channel4 := ← x }) (SamePhase a) :=
  hx.bind fun _ hc => samePhase_of_channels rfl rfl rfl hc rfl rfl

theorem writeNr50_phase (a : Apu) (data : UInt8) : SamePhase a (a.writeNr50 data) := by
  rw [writeNr50]
  split <;> exact ⟨rfl, rfl, rfl⟩

theorem writeNr51_phase (a : Apu) (data : UInt8) : SamePhase a (a.writeNr51 data) := by
  rw [writeNr51]
  split <;> exact ⟨rfl, rfl, rfl⟩

theorem writeNr52_phase (a : Apu) (data : UInt8) :
    PhaseStep (.write .nr52 data) a (a.writeNr52 data) := by
  cases ha : a.audioEnabled <;> cases hd : (data &&& 0x80 != 0) <;>
    simp only [writeNr52, ha, hd]
  · exact .keeps ⟨rfl, rfl, ha.symm⟩
  · exact .turnsOn hd ha rfl rfl rfl
  · exact .turnsOff rfl
  · exact .keeps ⟨rfl, rfl, ha.symm⟩

theorem write_phase (a : Apu) (data : UInt8) (register : Register) :
    Yields (a.write data register) (PhaseStep (.write register data) a) := by
  cases register with
  | nr52 => exact writeNr52_phase a data
  | nr50 => exact .keeps (writeNr50_phase a data)
  | nr51 => exact .keeps (writeNr51_phase a data)
  | nr11 =>
    exact (whenLengthWritable_phase (bind1_phase (Channel1.writeNr11_frameSeqStep ..))).imp
      fun _ => .keeps
  | nr14 =>
    exact (whenEnabled_phase (bind1_phase (Channel1.writeNr14_frameSeqStep ..))).imp
      fun _ => .keeps
  | nr21 =>
    exact (whenLengthWritable_phase (bind2_phase (Channel2.writeNr21_frameSeqStep ..))).imp
      fun _ => .keeps
  | nr24 =>
    exact (whenEnabled_phase (bind2_phase (Channel2.writeNr24_frameSeqStep ..))).imp
      fun _ => .keeps
  | nr31 =>
    exact (whenLengthWritable_phase (bind3_phase (Channel3.writeNr31_frameSeqStep ..))).imp
      fun _ => .keeps
  | nr34 =>
    exact (whenEnabled_phase (bind3_phase (Channel3.writeNr34_frameSeqStep ..))).imp
      fun _ => .keeps
  | nr41 =>
    exact (whenLengthWritable_phase (bind4_phase (Channel4.writeNr41_frameSeqStep ..))).imp
      fun _ => .keeps
  | nr44 =>
    exact (whenEnabled_phase (bind4_phase (Channel4.writeNr44_frameSeqStep ..))).imp
      fun _ => .keeps
  | nr10 | nr12 | nr13 | nr22 | nr23 | nr30 | nr32 | nr33 | nr42 | nr43 =>
    exact Meets.imp (whenEnabled_phase (samePhase_of_channels rfl rfl rfl rfl rfl rfl))
      fun _ => .keeps

/-- **What one operation does** to the sequencer's step and to its copies. -/
theorem step_phase (op : Op) (a : Apu) : Yields (step op a) (PhaseStep op a) := by
  cases op with
  | clock =>
    rw [step_clock]
    refine (clock_counted a).imp fun a' h => ?_
    rcases h with ⟨-, -, hsame⟩ | ⟨-, hcoherent, haudio, -⟩
    · exact .keeps hsame
    · exact .ticks hcoherent haudio
  | write register data =>
    rw [step_write]
    exact write_phase a data register
  | read register => exact .keeps (SamePhase.refl a)
  | writeWaveRam address data =>
    rw [step_writeWaveRam]
    refine (bind3_phase ?_).imp fun _ => .keeps
    exact (Channel3.writeWaveRam_lengthCounter ..).imp fun _ h => congrArg _ h
  | readWaveRam address =>
    rw [step_readWaveRam]
    exact meets_map.mpr ((yields_any _).imp fun _ _ => .keeps (SamePhase.refl a))

/-! ### Sequences of operations -/

/-- The copies agree with the step whenever the sound is on. -/
def CoherentWhenOn (a : Apu) : Prop := a.audioEnabled = true → a.Coherent

/-- The operation does not turn the sound on, or the copies are clear. -/
def TurnsOnClear (op : Op) (a : Apu) : Prop :=
  op.enables = true → a.audioEnabled = false → a.CopiesClear

theorem new_coherent (ctx : GbCtx) : (new ctx).Coherent := by
  simp [Coherent, copies, lengthCounters, new, Channel1.new, Channel2.new, Channel3.new,
    Channel4.new, LengthCounter.new]

theorem CoherentWhenOn.step {op : Op} (h : a.CoherentWhenOn) (hop : TurnsOnClear op a)
    (hstep : PhaseStep op a a') : a'.CoherentWhenOn := by
  intro hon
  cases hstep with
  | keeps same => exact (coherent_congr same).mpr (h (same.audioEnabled ▸ hon))
  | ticks coherent _ => exact coherent
  | turnsOff off => rw [off] at hon; cases hon
  | turnsOn enables wasOff copies step _ =>
    intro s hs
    rw [step]
    exact hop enables wasOff s (copies ▸ hs)

/-- Turning the sound on only sets the sequencer's step. -/
theorem step_of_enables {op : Op} (henables : op.enables = true) (hoff : a.audioEnabled = false) :
    step op a = .ok { a with frameSequencerStep := 0, audioEnabled := true } := by
  cases op with
  | write register data =>
    cases register with
    | nr52 =>
      have hbit : (data &&& 0x80 != 0) = true := henables
      rw [step_write]
      simp only [write, writeNr52, hoff, hbit]
    | _ => cases henables
  | _ => cases henables

/-- The copies agree with the sequencer's step whenever the sound is on, in every state of a
sequence of operations, exactly when the copies are clear wherever it turns the sound on. -/
theorem coherent_exec_iff (ctx : GbCtx) (ops : List Op) :
    (∀ k ≤ ops.length, ∀ a, Machine.exec step (ops.take k) (new ctx) = .ok a →
        a.audioEnabled = true → a.Coherent) ↔
      ∀ k (hk : k < ops.length) a, Machine.exec step (ops.take k) (new ctx) = .ok a →
        ops[k].enables = true → a.audioEnabled = false → a.CopiesClear := by
  constructor
  · intro h k hk a ha henables hoff s hs
    have hnext := step_of_enables henables hoff
    have hexec : Machine.exec step (ops.take (k + 1)) (new ctx) =
        .ok { a with frameSequencerStep := 0, audioEnabled := true } := by
      rw [List.take_succ_eq_append_getElem hk, Machine.exec_append, ha, ok_bind, Machine.exec_cons,
        hnext]
      rfl
    exact h (k + 1) hk _ hexec rfl s hs
  · intro h k hk a ha
    exact Machine.exec_take_invariant (G := TurnsOnClear) (I := CoherentWhenOn)
      (fun _ => new_coherent ctx) (fun op a a' hI hG hs => hI.step hG ((step_phase op a).of_ok hs))
      ops h k hk a ha

/-! ### A sequence that loses the phase -/

/-- While the sequencer counts down nothing else happens to its phase. -/
theorem exec_clock_countdown : ∀ (n : ℕ) {a : Apu}, n < a.frameSequencer →
    Yields (Machine.exec step (List.replicate n .clock) a) fun a' =>
      SamePhase a a' ∧ a'.frameSequencer + n = a.frameSequencer := by
  intro n
  induction n with
  | zero =>
    intro a _
    exact ⟨SamePhase.refl a, rfl⟩
  | succ n ih =>
    intro a hn
    rw [List.replicate_succ, Machine.exec_cons, step_clock]
    refine (clock_counted a).bind fun b hb => ?_
    rcases hb with ⟨hcount, -, hsame⟩ | ⟨hone, -⟩
    · refine (ih (a := b) (by omega)).imp fun c hc => ⟨hsame.trans hc.1, ?_⟩
      have := hc.2
      omega
    · omega

/-- The count reaches its end: the sequencer moves to its next step, and the copies with it. -/
theorem exec_clock_tick {n : ℕ} (hn : a.frameSequencer = n + 1) :
    Yields (Machine.exec step (List.replicate (n + 1) .clock) a) fun a' =>
      a'.Coherent ∧ a'.audioEnabled = a.audioEnabled ∧
        a'.frameSequencerStep = (a.frameSequencerStep + 1) &&& 0x7 := by
  rw [List.replicate_succ', Machine.exec_append]
  refine (exec_clock_countdown n (by omega)).bind fun b ⟨hsame, hb⟩ => ?_
  rw [Machine.exec_cons, step_clock]
  refine (clock_counted b).bind fun c hc => ?_
  rcases hc with ⟨hc, hne, -⟩ | ⟨-, hcoherent, haudio, hstep⟩
  · omega
  · rw [hsame.frameSequencerStep] at hstep
    exact ⟨hcoherent, haudio.trans hsame.audioEnabled, hstep⟩

/-- The sound is turned off for `n` M-cycles. -/
def offFor (n : ℕ) : List Op :=
  .write .nr52 0x00 :: (List.replicate n .clock ++ [.write .nr52 0x80])

/-- The first tick after power-on comes while the sound is off. -/
theorem offFor_yields (ctx : GbCtx) {n : ℕ} (hn : n = 2048) :
    Yields (Machine.exec step (offFor n) (new ctx)) fun a =>
      a.audioEnabled = true ∧ ¬ a.Coherent := by
  have hwrite : step (.write .nr52 0x00) (new ctx) = .ok ((new ctx).writeNr52 0x00) :=
    step_write ..
  rw [offFor, Machine.exec_cons, hwrite, ok_bind]
  have hoff : ((new ctx).writeNr52 0x00).audioEnabled = false := rfl
  have hcount : ((new ctx).writeNr52 0x00).frameSequencer = 2047 + 1 := rfl
  have hstep : ((new ctx).writeNr52 0x00).frameSequencerStep = 0 := rfl
  generalize (new ctx).writeNr52 0x00 = off at *
  rw [hn, Machine.exec_append]
  -- the sequencer has moved to step 1 and the copies with it
  refine (exec_clock_tick hcount).bind fun b ⟨hcoherent, haudio, hnext⟩ => ?_
  rw [Machine.exec_cons, step_of_enables rfl (haudio.trans hoff)]
  refine ⟨rfl, fun h => ?_⟩
  have hzero : b.channel1.lengthCounter.frameSeqStep = 0 := h _ (List.mem_cons_self ..)
  have hone : b.channel1.lengthCounter.frameSeqStep = b.frameSequencerStep :=
    hcoherent _ (List.mem_cons_self ..)
  rw [hnext, hstep, hzero] at hone
  cases hone

/-- A sequence does return, so what it yields is there. -/
theorem exists_of_yields {ctx : GbCtx} {ops : List Op} {Q : Apu → Prop}
    (h : Yields (Machine.exec step ops (new ctx)) Q) :
    ∃ a, Machine.exec step ops (new ctx) = .ok a ∧ Q a := by
  obtain ⟨a, ha, -⟩ := (exec_total (new_bounded ctx) ops).exists_ok
  exact ⟨a, ha, h.of_ok ha⟩

theorem not_coherent : ¬ ∀ (ctx : GbCtx) (ops : List Op) (a : Apu),
    Machine.exec step ops (new ctx) = .ok a → a.audioEnabled = true → a.Coherent := by
  intro h
  obtain ⟨n, hn⟩ : ∃ n, n = 2048 := ⟨_, rfl⟩
  obtain ⟨a, ha, hon, hincoherent⟩ := exists_of_yields (offFor_yields (.ofMode .modeDmg) hn)
  exact hincoherent (h (.ofMode .modeDmg) (offFor n) a ha hon)

end Apu

end ZenithGb
