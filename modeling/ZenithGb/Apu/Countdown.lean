import ZenithGb.Apu.ChannelBounds
import ZenithGb.Lib.Counter
import ZenithGb.Lib.Run

/-!
# What the countdowns of the sound unit come to

The envelope and the sweep each count a timer down, reload it at its end and take a step. Each is a
divider in the sense of `Divider.step`, so that after `n` clocks it has taken one step for every
full period, and its state is a closed form in `n / period`.

The envelope stops its timer when the volume reaches a limit. The divider does not, but at a limit
its step changes nothing, so the two still show the same volume. The sweep computes the frequency
twice at each step, once to take it and once to look ahead; a step that would overflow leaves the
frequency as it is, and so does every later one.

## Main results

* `Envelope.envelope_closed_form` — the volume after any number of clocks
* `Sweep.sweep_closed_form` — the frequency and the overflows, and what they do to the channel
-/

namespace ZenithGb

open Outcome

/-! ### The envelope -/

namespace Envelope

/-- One step of the volume. -/
def fade (addMode : Bool) (volume : ℕ) : ℕ := if addMode then min 15 (volume + 1) else volume - 1

/-- The volume after `k` steps: a clamp. -/
def faded (addMode : Bool) (k volume : ℕ) : ℕ :=
  if addMode then min 15 (volume + k) else volume - k

theorem fade_iterate (addMode : Bool) {volume : ℕ} (hv : volume ≤ 15) (k : ℕ) :
    (fade addMode)^[k] volume = faded addMode k volume := by
  induction k with
  | zero => cases addMode <;> simp [faded, hv]
  | succ k ih =>
    rw [Function.iterate_succ_apply', ih]
    cases addMode with
    | true => simp only [fade, faded, if_true]; omega
    | false => simp only [fade, faded, Bool.false_eq_true, if_false]; omega

/-- The code's step of the volume is a step. -/
theorem toNat_stepped (addMode : Bool) {volume : UInt8} (hv : volume.toNat ≤ 15) :
    (if addMode then if volume < 15 then volume + 1 else volume
      else if volume > 0 then volume - 1 else volume).toNat = fade addMode volume.toNat := by
  have h15 : (15 : UInt8).toNat = 15 := rfl
  have h0 : (0 : UInt8).toNat = 0 := rfl
  have h1 : (1 : UInt8).toNat = 1 := rfl
  simp only [gt_iff_lt, UInt8.lt_iff_toNat_lt, h15, h0]
  cases addMode with
  | true =>
    simp only [if_true, fade]
    split
    · rw [UInt8.toNat_add, h1]
      omega
    · omega
  | false =>
    simp only [Bool.false_eq_true, if_false, fade]
    split
    · rename_i hpos
      have hle : 1 ≤ volume := UInt8.le_iff_toNat_le.mpr hpos
      rw [UInt8.toNat_sub_of_le _ _ hle, h1]
    · omega

/-- The envelope shows the volume of a divider of its period: with the same count, or stopped at a
volume that no longer moves. -/
structure Shows (e₀ e : Envelope) (x : ℕ × ℕ) : Prop where
  period : e.period = e₀.period
  addMode : e.addMode = e₀.addMode
  volume : e.volume.toNat = x.2 ∧ x.2 ≤ 15
  timer : e.enabled = true ∧ e.periodTimer = x.1 ∧ 1 ≤ x.1 ∨
    e.enabled = false ∧ fade e₀.addMode x.2 = x.2

variable {e₀ e : Envelope} {x : ℕ × ℕ}

theorem fade_le (addMode : Bool) {volume : ℕ} (hv : volume ≤ 15) : fade addMode volume ≤ 15 := by
  rw [fade]
  split <;> omega

/-- A step that ends at a limit ends where the next one changes nothing. -/
theorem fade_fixed {addMode : Bool} {volume : ℕ} (hv : volume ≤ 15)
    (h : fade addMode volume = 0 ∨ fade addMode volume = 15) :
    fade addMode (fade addMode volume) = fade addMode volume := by
  revert h
  cases addMode with
  | true => simp only [fade, if_true]; omega
  | false => simp only [fade, Bool.false_eq_true, if_false]; omega

/-- A clock of a running envelope whose timer is not at its end. -/
theorem clock_of_lt (hon : e.enabled = true) (hp : e.period ≠ 0) (h : 1 < e.periodTimer) :
    e.clock = .ok { e with periodTimer := e.periodTimer - 1 } := by
  rw [clock, if_neg (by simp [hp, hon]), checkedSub_of_le _ h.le, ok_bind]
  exact if_pos (show e.periodTimer - 1 ≠ 0 by omega)

/-- A clock of a running envelope at the end of its timer. -/
theorem clock_of_eq (hon : e.enabled = true) (hp : e.period ≠ 0) (h : e.periodTimer = 1) :
    Total e.clock fun e' => e'.period = e.period ∧ e'.addMode = e.addMode ∧
      e'.periodTimer = e.period ∧
      e'.volume = (if e.addMode then if e.volume < 15 then e.volume + 1 else e.volume
        else if e.volume > 0 then e.volume - 1 else e.volume) ∧
      (e'.enabled = false ↔ e'.volume = 0 ∨ e'.volume = 15) := by
  have hreload : (if e.period = 0 then 8 else e.period) = e.period := if_neg hp
  rw [clock, if_neg (by simp [hp, hon]), checkedSub_of_le _ h.ge, ok_bind]
  refine Meets.ite (fun hne => absurd (by rw [h]) hne) fun _ => ?_
  rw [meets_pure, reloadTimer]
  dsimp only
  rw [hreload]
  generalize (if e.addMode then if e.volume < 15 then e.volume + 1 else e.volume
    else if e.volume > 0 then e.volume - 1 else e.volume) = volume
  split
  · rename_i hlimit
    exact ⟨rfl, rfl, rfl, rfl, iff_of_true rfl hlimit⟩
  · rename_i hlimit
    exact ⟨rfl, rfl, rfl, rfl, iff_of_false (by rw [hon]; decide) hlimit⟩

theorem Shows.clock (hp : e₀.period ≠ 0) (h : Shows e₀ e x) :
    Total e.clock fun e' => Shows e₀ e' (Divider.step e₀.period (fade e₀.addMode) x) := by
  obtain ⟨count, v⟩ := x
  obtain ⟨hvol, hv⟩ := h.volume
  dsimp only at hvol hv
  have hperiod : e.period ≠ 0 := h.period.trans_ne hp
  have hstep : fade e₀.addMode v ≤ 15 := fade_le _ hv
  rw [Divider.step]
  obtain ⟨hon, htimer, hpos⟩ | ⟨hoff, hfixed⟩ := h.timer
  · dsimp only at htimer hpos
    by_cases hlast : count ≤ 1
    · rw [if_pos hlast]
      refine (clock_of_eq hon hperiod (by omega)).imp ?_
      rintro e' ⟨hp', hmode, htimer', hvol', hoff⟩
      have hvolume : e'.volume.toNat = fade e₀.addMode v := by
        rw [hvol', toNat_stepped e.addMode (hvol ▸ hv), hvol, h.addMode]
      refine ⟨hp'.trans h.period, hmode.trans h.addMode, ⟨hvolume, hstep⟩, ?_⟩
      cases hen : e'.enabled with
      | true => exact .inl ⟨rfl, htimer'.trans h.period, Nat.one_le_iff_ne_zero.mpr hp⟩
      | false =>
        refine .inr ⟨rfl, fade_fixed hv ?_⟩
        rw [← hvolume]
        exact (hoff.mp hen).imp (congrArg UInt8.toNat) (congrArg UInt8.toNat)
    · rw [if_neg hlast, clock_of_lt hon hperiod (by omega)]
      have hleft : 1 ≤ count - 1 := by omega
      exact ⟨h.period, h.addMode, h.volume, .inl ⟨hon, by rw [htimer], hleft⟩⟩
  · have hclock : e.clock = .ok e := if_pos (by simp [hoff])
    dsimp only at hfixed
    rw [hclock, hfixed]
    split <;> exact ⟨h.period, h.addMode, h.volume, .inr ⟨hoff, hfixed⟩⟩

/-- A trigger loads the volume and starts a full period. -/
theorem shows_trigger (hp : e.period ≠ 0) (hv : e.initialVolume ≤ 15) :
    Shows e e.trigger (e.period, e.initialVolume.toNat) :=
  ⟨rfl, rfl, ⟨rfl, UInt8.le_iff_toNat_le.mp hv⟩,
    .inl ⟨rfl, if_neg hp, Nat.one_le_iff_ne_zero.mpr hp⟩⟩

/-- With period 0 a clock does nothing. -/
theorem repeated_clock_of_period_zero (hp : e.period = 0) (n : ℕ) :
    Total (Machine.repeated clock n e) fun e' => e' = e := by
  refine Machine.repeated_indexed (I := fun _ e' => e' = e) n ?_ rfl
  rintro _ e' rfl
  have hclock : e'.clock = .ok e' := if_pos (by simp [hp])
  rw [hclock]
  rfl

/-- **The envelope in closed form.** After a trigger and any number of clocks, none of which fails,
the volume is the initial one, moved by one for every full period and held at the limits. -/
theorem envelope_closed_form (hv : e.initialVolume ≤ 15) (n : ℕ) :
    Total (Machine.repeated clock n e.trigger) fun e' =>
      e'.getVolume.toNat =
        if e.period = 0 then e.initialVolume.toNat
        else if e.addMode then min 15 (e.initialVolume.toNat + n / e.period)
        else e.initialVolume.toNat - n / e.period := by
  by_cases hp : e.period = 0
  · have htrigger : e.trigger.period = 0 := hp
    refine (repeated_clock_of_period_zero htrigger n).imp ?_
    rintro _ rfl
    rw [if_pos hp, getVolume, if_pos htrigger]
    rfl
  · have hpos : 1 ≤ e.period := Nat.one_le_iff_ne_zero.mpr hp
    refine (Machine.repeated_refines (fun _ _ h => h.clock hp) n (shows_trigger hp hv)).imp ?_
    intro e' h
    rw [Divider.iterate_full hpos] at h
    have hperiod : e'.period ≠ 0 := h.period.trans_ne hp
    rw [if_neg hp, getVolume, if_neg hperiod, h.volume.1]
    exact fade_iterate e.addMode (UInt8.le_iff_toNat_le.mp hv) _

/-- From 14, counting up every second clock: 15 after two clocks, and held there. -/
theorem envelope_closed_form_up :
    Total (Machine.repeated clock 101 (new 14 true 2).trigger) fun e' =>
      e'.getVolume.toNat = 15 :=
  (envelope_closed_form (e := new 14 true 2) (by decide) 101).imp fun _ h => h.trans rfl

end Envelope

/-! ### The sweep -/

namespace Sweep

/-- What an event makes of the frequency: it moves unless it would leave 11 bits. -/
def advance (s : Sweep) (frequency : ℕ) : ℕ :=
  if s.next frequency ≤ 2047 then s.next frequency else frequency

/-- The frequency after `k` events from the one in the register. -/
def frequencyAfter (s : Sweep) (k : ℕ) : ℕ := s.advance^[k] s.regFrequency

variable {s₀ s : Sweep} {x : ℕ × ℕ}

theorem advance_le {f : ℕ} (h : f ≤ 2047) : s.advance f ≤ 2047 := by
  rw [advance]
  split <;> assumption

theorem frequencyAfter_succ (s : Sweep) (k : ℕ) :
    s.frequencyAfter (k + 1) = s.advance (s.frequencyAfter k) :=
  Function.iterate_succ_apply' ..

theorem frequencyAfter_le (hf : s.regFrequency ≤ 2047) (k : ℕ) : s.frequencyAfter k ≤ 2047 := by
  induction k with
  | zero => exact hf
  | succ k ih =>
    rw [frequencyAfter_succ]
    exact advance_le ih

/-- Counting down never overflows. -/
theorem next_le_of_negate (hnegate : s.negate = true) {f : ℕ} (h : f ≤ 2047) : s.next f ≤ 2047 := by
  rw [next, if_pos hnegate]
  exact (Nat.sub_le ..).trans h

/-- The sweep shows the frequency of a divider of its period, in both its registers. -/
structure Shows (s₀ s : Sweep) (x : ℕ × ℕ) : Prop where
  enabled : s.enabled = true
  period : s.period = s₀.period
  settings : s.negate = s₀.negate ∧ s.shift = s₀.shift
  frequency : s.shadowFrequency = x.2 ∧ s.regFrequency = x.2 ∧ x.2 ≤ 2047
  timer : s.periodTimer = x.1 ∧ 1 ≤ x.1

theorem Shows.next (h : Shows s₀ s x) (f : ℕ) : s.next f = s₀.next f := by
  rw [Sweep.next, Sweep.next, h.settings.1, h.settings.2]

/-- A clock that is not at the end of the timer. -/
theorem clock_of_lt (hon : s.enabled = true) (h : 1 < s.periodTimer) :
    s.clock = .ok (false, { s with periodTimer := s.periodTimer - 1 }) := by
  rw [clock, if_neg (by simp [hon]), checkedSub_of_le _ h.le, ok_bind]
  exact if_pos (show s.periodTimer - 1 ≠ 0 by omega)

/-- A clock at the end of the timer: it takes the next frequency unless that overflows, and looks
ahead to the one after it. -/
theorem clock_of_eq (hon : s.enabled = true) (hp : s.period ≠ 0) (hs : s.shift ≠ 0)
    (hs7 : s.shift ≤ 7) (hf : s.shadowFrequency ≤ 2047) (hreg : s.regFrequency = s.shadowFrequency)
    (h : s.periodTimer = 1) :
    Total s.clock fun r => (r.1 = true ↔ 2047 < s.next (s.advance s.shadowFrequency)) ∧
      ∃ negated, r.2 = { s with
        periodTimer := s.period, negatedSinceTrigger := negated
        shadowFrequency := s.advance s.shadowFrequency
        regFrequency := s.advance s.shadowFrequency } := by
  have hreload : (if s.period = 0 then 8 else s.period) = s.period := if_neg hp
  rw [clock, if_neg (by simp [hon]), checkedSub_of_le _ h.ge, ok_bind]
  refine Meets.ite (fun hne => absurd (by rw [h]) hne) fun _ => ?_
  refine Meets.ite (fun hzero => absurd hzero hp) fun _ => ?_
  rw [reloadTimer]
  dsimp only
  rw [hreload]
  refine (calcFrequency_total (s := { s with periodTimer := s.period }) hs7 hf).bind ?_
  rintro ⟨nextFreq, t⟩ ⟨hnext, negated, rfl⟩
  obtain rfl : nextFreq = s.next s.shadowFrequency := hnext
  by_cases hover : 2047 < s.next s.shadowFrequency
  · have hadvance : s.advance s.shadowFrequency = s.shadowFrequency := if_neg (by omega)
    rw [hadvance]
    refine Meets.ite (fun _ => ⟨iff_of_true rfl hover, negated, ?_⟩) fun hno => ?_
    · rw [← hreg]
    · exact absurd (by simpa [overflowCheck] using hover) hno
  · have hadvance : s.advance s.shadowFrequency = s.next s.shadowFrequency := if_pos (by omega)
    rw [hadvance]
    refine Meets.ite (fun hyes => absurd (by simpa [overflowCheck] using hyes) hover) fun _ => ?_
    refine Meets.ite (fun hzero => absurd hzero hs) fun _ => ?_
    refine Meets.bind (calcFrequency_total hs7 ?_) ?_
    · exact Nat.le_of_not_lt hover
    rintro ⟨checkFreq, t⟩ ⟨hcheck, negated', rfl⟩
    obtain rfl : checkFreq = s.next (s.next s.shadowFrequency) := hcheck
    exact ⟨by simp [overflowCheck], negated', rfl⟩

/-- A clock of a sweep is a step of the divider; the end of the timer is an event, which overflows
when the frequency after it cannot move on. -/
theorem Shows.clock (hp : 1 ≤ s₀.period) (hs : 1 ≤ s₀.shift) (hs7 : s₀.shift ≤ 7)
    (h : Shows s₀ s x) :
    Total s.clock fun r => Shows s₀ r.2 (Divider.step s₀.period s₀.advance x) ∧
      (r.1 = true ↔ x.1 ≤ 1 ∧ 2047 < s₀.next (s₀.advance x.2)) := by
  obtain ⟨count, f⟩ := x
  obtain ⟨hshadow, hreg, hf⟩ := h.frequency
  obtain ⟨htimer, hpos⟩ := h.timer
  dsimp only at hshadow hreg hf htimer hpos
  have hadvance : s.advance f = s₀.advance f := by rw [advance, advance, h.next]
  rw [Divider.step]
  by_cases hlast : count ≤ 1
  · have hshift : s.shift = s₀.shift := h.settings.2
    refine (clock_of_eq h.enabled (by rw [h.period]; omega) (by omega) (by omega) (by omega)
      (hreg.trans hshadow.symm) (by omega)).imp ?_
    rintro ⟨overflow, t⟩ ⟨hoverflow, negated, rfl⟩
    rw [hshadow, h.next, hadvance] at hoverflow
    rw [if_pos hlast]
    refine ⟨⟨h.enabled, h.period, h.settings, ?_, h.period, hp⟩, hoverflow.trans ?_⟩
    · show s.advance s.shadowFrequency = _ ∧ s.advance s.shadowFrequency = _ ∧ _
      rw [hshadow, hadvance]
      exact ⟨rfl, rfl, advance_le hf⟩
    · exact (and_iff_right hlast).symm
  · rw [if_neg hlast, clock_of_lt h.enabled (by omega)]
    refine ⟨⟨h.enabled, h.period, h.settings, h.frequency, ?_, ?_⟩, ?_⟩
    · exact congrArg (· - 1) htimer
    · show 1 ≤ count - 1
      omega
    · exact iff_of_false Bool.false_ne_true fun hevent => hlast hevent.1

/-- A trigger loads the frequency, starts a full period, and looks ahead once. -/
theorem shows_trigger (hf : s.regFrequency ≤ 2047) (hp : 1 ≤ s.period) (hs : 1 ≤ s.shift)
    (hs7 : s.shift ≤ 7) :
    Total s.trigger fun r => Shows s r.2 (s.period, s.regFrequency) ∧
      (r.1 = true ↔ 2047 < s.next s.regFrequency) := by
  have henabled : (s.period != 0 || s.shift != 0) = true := by
    rw [Bool.or_eq_true, bne_iff_ne]
    exact .inl (by omega)
  have hshift : s.shift ≠ 0 := by omega
  have hreload : s.period ≠ 0 := by omega
  refine Meets.ite (fun _ => ?_) fun hno => absurd hshift hno
  refine Meets.bind (calcFrequency_total hs7 ?_) ?_
  · exact hf
  rintro ⟨freq, t⟩ ⟨hfreq, negated, rfl⟩
  obtain rfl : freq = s.next s.regFrequency := hfreq
  refine ⟨⟨henabled, rfl, ⟨rfl, rfl⟩, ⟨rfl, rfl, hf⟩, if_neg hreload, hp⟩, ?_⟩
  exact decide_eq_true_iff

/-! Where the divider is after `n` clocks. -/

/-- The count and the frequency after `n` clocks. -/
def after (s : Sweep) (n : ℕ) : ℕ × ℕ :=
  (Divider.step s.period s.advance)^[n] (s.period, s.regFrequency)

theorem after_succ (s : Sweep) (n : ℕ) :
    s.after (n + 1) = Divider.step s.period s.advance (s.after n) :=
  Function.iterate_succ_apply' ..

theorem after_eq (hp : 1 ≤ s.period) (n : ℕ) :
    s.after n = (s.period - n % s.period, s.frequencyAfter (n / s.period)) :=
  Divider.iterate_full hp ..

/-- The call after `n` others is an event when its number is a multiple of the period. -/
theorem event_iff (hp : 1 ≤ s.period) (n : ℕ) :
    ((s.after n).1 ≤ 1 ∧ 2047 < s.next (s.advance (s.after n).2)) ↔
      s.period ∣ n + 1 ∧ 2047 < s.next (s.frequencyAfter ((n + 1) / s.period)) := by
  rw [after_eq hp, Divider.full_le_one_iff hp]
  refine and_congr_right fun hdvd => ?_
  rw [Nat.succ_div_of_dvd hdvd, frequencyAfter_succ]

/-- No event up to the one after `n` others overflows. -/
theorem forall_le_div_succ {P : ℕ → Prop} {p : ℕ} (n : ℕ) :
    (∀ j ≤ (n + 1) / p, P j) ↔ (∀ j ≤ n / p, P j) ∧ (p ∣ n + 1 → P ((n + 1) / p)) := by
  by_cases hdvd : p ∣ n + 1
  · simp only [Nat.succ_div_of_dvd hdvd, Nat.le_succ_iff, or_imp, forall_and, forall_eq]
    exact and_congr_right fun _ => ⟨fun h _ => h, fun h => h hdvd⟩
  · rw [Nat.succ_div_of_not_dvd hdvd]
    exact ⟨fun h => ⟨h, fun hd => absurd hd hdvd⟩, fun h => h.1⟩

end Sweep

namespace Channel1

variable {s : Sweep} {c : Channel1} {n : ℕ}

/-- The channel runs while no event has overflowed. -/
structure Sweeps (s : Sweep) (dac : Bool) (n : ℕ) (c : Channel1) : Prop where
  shows : s.Shows c.sweep (s.after n)
  running : c.isEnabledFlag = true ↔
    dac = true ∧ ∀ j ≤ n / s.period, s.next (s.frequencyAfter j) ≤ 2047

theorem Sweeps.sweepClock {dac : Bool} (hp : 1 ≤ s.period) (hs : 1 ≤ s.shift) (hs7 : s.shift ≤ 7)
    (h : Sweeps s dac n c) : Total c.sweepClock (Sweeps s dac (n + 1)) := by
  refine (h.shows.clock hp hs hs7).bind ?_
  rintro ⟨isOverflow, sweep⟩ ⟨hshows, hoverflow⟩
  rw [Sweep.event_iff hp] at hoverflow
  rw [meets_pure]
  refine ⟨?_, ?_⟩
  · rw [Sweep.after_succ]
    exact hshows
  · show (c.isEnabledFlag && !isOverflow) = true ↔ _
    rw [Bool.and_eq_true, h.running, Bool.not_eq_true', ← Bool.not_eq_true, hoverflow,
      Sweep.forall_le_div_succ, and_assoc, not_and, Nat.not_lt]

theorem sweeps_trigger (hf : c.sweep.regFrequency ≤ 2047) (hp : 1 ≤ c.sweep.period)
    (hs : 1 ≤ c.sweep.shift) (hs7 : c.sweep.shift ≤ 7) :
    Total c.trigger (Sweeps c.sweep c.regDacEnable 0) := by
  refine (frequencyPeriod_total hf le_rfl).bind fun _ _ => ?_
  refine (Sweep.shows_trigger hf hp hs hs7).bind ?_
  rintro ⟨isOverflow, sweep⟩ ⟨hshows, hoverflow⟩
  rw [meets_pure]
  refine ⟨hshows, ?_⟩
  show (c.regDacEnable && !isOverflow) = true ↔ _
  rw [Bool.and_eq_true, Bool.not_eq_true', ← Bool.not_eq_true, hoverflow, Nat.not_lt, Nat.zero_div]
  refine and_congr_right fun _ => ⟨fun h j hj => ?_, fun h => h 0 le_rfl⟩
  obtain rfl := Nat.le_zero.mp hj
  exact h

end Channel1

namespace Sweep

/-- **The sweep in closed form.** The trigger and every clock return, an overflow is reported at the
trigger and at multiples of the period only, and the frequency after `n` clocks is the one after
`n / period` events. The channel runs until the first event that overflows; counting down, none
does. -/
theorem sweep_closed_form {s : Sweep} (hf : s.regFrequency ≤ 2047) (hp : 1 ≤ s.period)
    (hs : 1 ≤ s.shift) (hs7 : s.shift ≤ 7) :
    (Total s.trigger fun r => (r.1 = true ↔ 2047 < s.next s.regFrequency) ∧
      ∀ n, Total (Machine.repeated (fun t => Prod.snd <$> t.clock) n r.2) fun t =>
        t.getFrequency = s.frequencyAfter (n / s.period) ∧ t.getFrequency ≤ 2047 ∧
        Total t.clock fun r => r.1 = true ↔
          s.period ∣ n + 1 ∧ 2047 < s.next (s.frequencyAfter ((n + 1) / s.period))) ∧
    ∀ c : Channel1, c.sweep = s → Total c.trigger fun c₀ =>
      ∀ n, Total (Machine.repeated Channel1.sweepClock n c₀) fun c' =>
        (c'.isEnabledFlag = true ↔ c.regDacEnable = true ∧
          ∀ j ≤ n / s.period, s.next (s.frequencyAfter j) ≤ 2047) ∧
        (s.negate = true → c'.isEnabledFlag = c.regDacEnable) ∧
        c'.sweep.getFrequency ≤ 2047 := by
  refine ⟨(shows_trigger hf hp hs hs7).imp ?_, ?_⟩
  · intro r ⟨hshows, hoverflow⟩
    refine ⟨hoverflow, fun n => ?_⟩
    refine (Machine.repeated_indexed (I := fun n t => s.Shows t (s.after n)) n ?_ hshows).imp ?_
    · intro n t ht
      rw [after_succ]
      exact meets_map.mpr ((ht.clock hp hs hs7).imp fun _ h => h.1)
    · intro t ht
      have hfreq : t.getFrequency = s.frequencyAfter (n / s.period) := by
        rw [getFrequency, ht.frequency.2.1, after_eq hp]
      refine ⟨hfreq, hfreq ▸ frequencyAfter_le hf _, ?_⟩
      exact (ht.clock hp hs hs7).imp fun _ h => h.2.trans (event_iff hp n)
  · rintro c rfl
    refine (Channel1.sweeps_trigger hf hp hs hs7).imp fun c₀ h₀ n => ?_
    refine (Machine.repeated_indexed n (fun _ _ h => h.sweepClock hp hs hs7) h₀).imp ?_
    intro c' h
    refine ⟨h.running, fun hnegate => ?_, ?_⟩
    · rw [Bool.eq_iff_iff, h.running]
      exact and_iff_left fun j _ => next_le_of_negate hnegate (frequencyAfter_le hf j)
    · rw [getFrequency, h.shows.frequency.2.1]
      exact h.shows.frequency.2.2

/-- From 1024 up by a half every second clock: the first event gives 1536, and overflows. -/
theorem sweep_closed_form_up :
    Total { new with period := 2, shift := 1, regFrequency := 1024 }.trigger fun r =>
      r.1 = false ∧ Total (Machine.repeated (fun t => Prod.snd <$> t.clock) 1 r.2) fun t =>
        Total t.clock fun r => r.1 = true := by
  have h := (sweep_closed_form (s := { new with period := 2, shift := 1, regFrequency := 1024 })
    (by decide) (by decide) (by decide) (by decide)).1
  refine h.imp fun r ⟨hoverflow, hclocks⟩ => ⟨?_, ?_⟩
  · exact Bool.eq_false_iff.mpr (hoverflow.not.mpr (by decide))
  · exact (hclocks 1).imp fun t ht => ht.2.2.imp fun r hr => hr.mpr (by decide)

end Sweep

end ZenithGb
