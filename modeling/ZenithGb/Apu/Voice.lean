import ZenithGb.Apu.Output

/-!
# One channel among four

The sound unit clocks its channels together, and the frame sequencer clocks units in all of them.
What is proved of one channel needs to know only what of this reaches it. A `Voice` is a property of
one channel, counted in T-cycles, that everything but a write to the channel's own registers keeps.

## Main results

* `Apu.Voice.step`, `Apu.Voice.exec` — a voice is kept while its registers are left alone
-/

namespace ZenithGb

open Outcome

namespace Apu

/-- The channel a register belongs to. -/
def Register.channel : Register → Option ChannelNo
  | .nr10 | .nr11 | .nr12 | .nr13 | .nr14 => some .one
  | .nr21 | .nr22 | .nr23 | .nr24 => some .two
  | .nr30 | .nr31 | .nr32 | .nr33 | .nr34 => some .three
  | .nr41 | .nr42 | .nr43 | .nr44 => some .four
  | .nr50 | .nr51 | .nr52 => none

/-- The operation writes a register of the channel, or wave RAM. -/
def Op.writesTo (ch : ChannelNo) : Op → Bool
  | .write register _ => register.channel = some ch
  | .writeWaveRam _ _ => ch = .three
  | .clock | .read _ | .readWaveRam _ => false

/-- The channel did not change. -/
def SameChannel (ch : ChannelNo) (a a' : Apu) : Prop :=
  match ch with
  | .one => a'.channel1 = a.channel1
  | .two => a'.channel2 = a.channel2
  | .three => a'.channel3 = a.channel3
  | .four => a'.channel4 = a.channel4

/-- A property of one channel after `t` T-cycles, which the unit keeps. -/
structure Voice (ch : ChannelNo) (P : ℕ → Apu → Prop) : Prop where
  same : ∀ {t a a'}, SameChannel ch a a' → P t a → P t a'
  channels : ∀ {t a}, P t a → Yields a.clockChannels (P (t + 1))
  lengths : ∀ {t a}, P t a → P t a.lengthClocks
  sweep : ∀ {t a}, P t a → Yields a.channel1.sweepClock fun c => P t { a with channel1 := c }
  envelopes : ∀ {t a}, P t a → Yields a.envelopeClocks (P t)
  copies : ∀ {t a} step, P t a → P t (a.updateFrameSequencerSteps step)
  shutdown : ∀ {t a}, P t a → P t a.shutdown

variable {ch : ChannelNo} {P : ℕ → Apu → Prop} {a : Apu} {t : ℕ}

/-! ### The clock -/

theorem clockChannels_one {Q : Channel1 → Prop} (h : Yields a.channel1.clock Q) :
    Yields a.clockChannels fun a' => Q a'.channel1 := by
  refine h.bind fun _ h => (yields_any _).bind fun _ _ => (yields_any _).bind fun _ _ => ?_
  refine (yields_any _).bind fun _ _ => (yields_any _).bind fun _ _ => ?_
  exact .ite (fun _ => (yields_any _).bind fun _ _ => h) fun _ => h

theorem clockChannels_two {Q : Channel2 → Prop} (h : Yields a.channel2.clock Q) :
    Yields a.clockChannels fun a' => Q a'.channel2 := by
  refine (yields_any _).bind fun _ _ => h.bind fun _ h => (yields_any _).bind fun _ _ => ?_
  refine (yields_any _).bind fun _ _ => (yields_any _).bind fun _ _ => ?_
  exact .ite (fun _ => (yields_any _).bind fun _ _ => h) fun _ => h

theorem clockChannels_three {Q : Channel3 → Prop} (h : Yields a.channel3.clock Q) :
    Yields a.clockChannels fun a' => Q a'.channel3 := by
  refine (yields_any _).bind fun _ _ => (yields_any _).bind fun _ _ => h.bind fun _ h => ?_
  refine (yields_any _).bind fun _ _ => (yields_any _).bind fun _ _ => ?_
  exact .ite (fun _ => (yields_any _).bind fun _ _ => h) fun _ => h

theorem Voice.frameSequencerTick (h : Voice ch P) (ha : P t a) :
    Yields a.frameSequencerTick (P t) := by
  rw [Apu.frameSequencerTick]
  split
  case h_1 | h_2 => exact h.lengths ha
  case h_3 | h_4 => exact (h.sweep (h.lengths ha)).bind fun _ => id
  case h_5 => exact h.envelopes ha
  case h_6 | h_7 | h_8 => exact ha
  case h_9 => trivial

theorem Voice.clockFrameSequencer (h : Voice ch P) (ha : P t a) :
    Yields a.clockFrameSequencer (P t) := by
  have hcount : ∀ n m, P t { a with frameSequencer := n, frameSequencerStep := m } :=
    fun n m => h.same (by cases ch <;> rfl) ha
  refine (yields_any _).bind fun n _ => .ite (fun _ => hcount n _) fun _ => ?_
  refine (h.frameSequencerTick (hcount frameSequencerStart _)).bind fun a' ha' => ?_
  refine (yields_any _).bind fun next _ => h.copies _ (h.same (a := a') ?_ ha')
  cases ch <;> rfl

/-- An M-cycle is four T-cycles of the channel. -/
theorem Voice.clock (h : Voice ch P) (ha : P t a) : Yields a.clock (P (t + 4)) := by
  refine (h.clockFrameSequencer ha).bind fun a ha => (h.channels ha).bind fun a ha => ?_
  refine (h.channels ha).bind fun a ha => (h.channels ha).bind fun a ha => ?_
  exact h.channels ha

/-! ### The registers of the other channels -/

theorem whenEnabled_same {write : Checked Apu} (hw : Yields write (SameChannel ch a)) :
    Yields (a.whenEnabled write) (SameChannel ch a) :=
  .ite (fun _ => by cases ch <;> rfl) fun _ => hw

theorem whenLengthWritable_same {write : Checked Apu} (hw : Yields write (SameChannel ch a)) :
    Yields (a.whenLengthWritable write) (SameChannel ch a) :=
  .ite (fun _ => by cases ch <;> rfl) fun _ => hw

theorem set1_same (hch : ch ≠ .one) (c : Channel1) : SameChannel ch a { a with channel1 := c } := by
  cases ch with
  | one => exact absurd rfl hch
  | two | three | four => rfl

theorem set2_same (hch : ch ≠ .two) (c : Channel2) : SameChannel ch a { a with channel2 := c } := by
  cases ch with
  | two => exact absurd rfl hch
  | one | three | four => rfl

theorem set3_same (hch : ch ≠ .three) (c : Channel3) :
    SameChannel ch a { a with channel3 := c } := by
  cases ch with
  | three => exact absurd rfl hch
  | one | two | four => rfl

theorem set4_same (hch : ch ≠ .four) (c : Channel4) :
    SameChannel ch a { a with channel4 := c } := by
  cases ch with
  | four => exact absurd rfl hch
  | one | two | three => rfl

/-- A write to a register of another channel, or to a master register that does not turn the sound
off. -/
theorem write_same {register : Register} {data : UInt8} (hch : register.channel ≠ some ch)
    (hnr52 : register ≠ .nr52) : Yields (a.write data register) (SameChannel ch a) := by
  have hne : ∀ n, register.channel = some n → ch ≠ n :=
    fun n hn h => hch (hn.trans (congrArg some h.symm))
  cases register with
  | nr52 => exact absurd rfl hnr52
  | nr50 =>
    show SameChannel ch a (a.writeNr50 data)
    rw [writeNr50]
    split <;> cases ch <;> rfl
  | nr51 =>
    show SameChannel ch a (a.writeNr51 data)
    rw [writeNr51]
    split <;> cases ch <;> rfl
  | nr10 | nr12 | nr13 => exact whenEnabled_same (set1_same (hne _ rfl) _)
  | nr22 | nr23 => exact whenEnabled_same (set2_same (hne _ rfl) _)
  | nr30 | nr32 | nr33 => exact whenEnabled_same (set3_same (hne _ rfl) _)
  | nr42 | nr43 => exact whenEnabled_same (set4_same (hne _ rfl) _)
  | nr14 => exact whenEnabled_same ((yields_any _).bind fun _ _ => set1_same (hne _ rfl) _)
  | nr24 => exact whenEnabled_same ((yields_any _).bind fun _ _ => set2_same (hne _ rfl) _)
  | nr34 => exact whenEnabled_same ((yields_any _).bind fun _ _ => set3_same (hne _ rfl) _)
  | nr44 => exact whenEnabled_same ((yields_any _).bind fun _ _ => set4_same (hne _ rfl) _)
  | nr11 =>
    exact whenLengthWritable_same ((yields_any _).bind fun _ _ => set1_same (hne _ rfl) _)
  | nr21 =>
    exact whenLengthWritable_same ((yields_any _).bind fun _ _ => set2_same (hne _ rfl) _)
  | nr31 =>
    exact whenLengthWritable_same ((yields_any _).bind fun _ _ => set3_same (hne _ rfl) _)
  | nr41 =>
    exact whenLengthWritable_same ((yields_any _).bind fun _ _ => set4_same (hne _ rfl) _)

theorem Voice.writeNr52 (h : Voice ch P) (ha : P t a) (data : UInt8) : P t (a.writeNr52 data) := by
  rw [Apu.writeNr52]
  have hmaster : ∀ a : Apu, P t a → ∀ audioEnabled,
      P t { a with audioEnabled := audioEnabled } :=
    fun a ha _ => h.same (a := a) (by cases ch <;> rfl) ha
  refine hmaster _ ?_ _
  split
  · exact h.shutdown ha
  · exact h.same (a := a) (by cases ch <;> rfl) ha
  · exact ha

/-! ### The operations -/

/-- **One operation** that leaves the channel's registers alone. -/
theorem Voice.step (h : Voice ch P) {op : Op} (hop : op.writesTo ch = false) (ha : P t a) :
    Yields (step op a) (P (t + Player.tCycles op)) := by
  cases op with
  | clock =>
    rw [step_clock]
    exact h.clock ha
  | read register => exact ha
  | readWaveRam address =>
    rw [step_readWaveRam]
    exact meets_map.mpr ((yields_any _).imp fun _ _ => ha)
  | write register data =>
    have hch : register.channel ≠ some ch := by simpa [Op.writesTo] using hop
    rw [step_write]
    by_cases hnr52 : register = .nr52
    · subst hnr52
      exact h.writeNr52 ha data
    · exact (write_same hch hnr52).imp fun _ hsame => h.same hsame ha
  | writeWaveRam address data =>
    have hch : ch ≠ .three := by simpa [Op.writesTo] using hop
    rw [step_writeWaveRam]
    exact (yields_any _).bind fun _ _ => h.same (set3_same hch _) ha

/-- **Any sequence of operations** that leave the channel's registers alone. -/
theorem Voice.exec (h : Voice ch P) {ops : List Op} (hops : ∀ op ∈ ops, op.writesTo ch = false)
    (ha : P t a) :
    Yields (Machine.exec Apu.step ops a) (P (t + (ops.map Player.tCycles).sum)) := by
  have hstep : ∀ n op b, op.writesTo ch = false → P n b →
      Yields (Apu.step op b) (P (n + Player.tCycles op)) := fun _ _ _ hop hb => h.step hop hb
  exact Machine.exec_graded hstep ops t a hops ha

end Apu

end ZenithGb
