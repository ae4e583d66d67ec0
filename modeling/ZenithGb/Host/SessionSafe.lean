import ZenithGb.Host.Session
import ZenithGb.Soc.Host

/-!
# A session: nothing gets lost

What goes through the channels keeps its order, and the emulator thread sees no more of the window
thread than the button events it takes at a VBlank. So an interleaving is a run of the emulator by
itself.

## Main results

* `Session.Hosted` — the emulator between two looks at its events
* `Session.session_refines` — what an interleaving does is what the emulator by itself does
-/

namespace ZenithGb

open Outcome Host

namespace Soc

/-! ### Taking the host's events -/

/-- The buttons after some button events. -/
def pressed (inputs : List InputEvent) (buttons : GbButton → Bool) : GbButton → Bool :=
  inputs.foldl (fun buttons input => Function.update buttons input.button input.down) buttons

theorem pressed_append (is js : List InputEvent) (b : GbButton → Bool) :
    pressed (is ++ js) b = pressed js (pressed is b) := List.foldl_append

variable {s : Soc}

theorem inputUpdate_fold (inputs : List InputEvent) : ∀ acc : (GbButton → Bool) × Bool,
    (inputs.foldl (fun acc input => (Function.update acc.1 input.button input.down,
      acc.2 || (!acc.1 input.button && input.down))) acc).1 = pressed inputs acc.1 := by
  induction inputs with
  | nil => exact fun _ => rfl
  | cons input inputs ih => exact fun acc => ih _

theorem inputUpdate_hostSide (s : Soc) (inputs : List InputEvent) :
    (s.inputUpdate inputs).hostSide = { s.hostSide with buttons := pressed inputs s.buttons } := by
  rw [inputUpdate]
  have hfold := inputUpdate_fold inputs (s.buttons, false)
  generalize inputs.foldl _ (s.buttons, false) = acc at hfold ⊢
  obtain ⟨buttons, interrupt⟩ := acc
  cases hfold
  dsimp only
  split <;> rfl

theorem processEvents_eventBits (s : Soc) (inputs : List InputEvent) :
    (s.processEvents inputs).2.eventBits = 0 := by
  rw [processEvents]
  split <;> rfl

/-- Without a frame the button events are left alone. -/
theorem processEvents_quiet (h : s.eventBits &&& socEventVSync = 0) (inputs : List InputEvent) :
    s.processEvents inputs = (false, { s with eventBits := 0 }) := if_pos h

theorem processEvents_frame (h : s.eventBits &&& socEventVSync ≠ 0) (inputs : List InputEvent) :
    (s.processEvents inputs).2.hostSide =
      { s.hostSide with buttons := pressed inputs s.buttons } := by
  rw [processEvents, if_neg h]
  exact inputUpdate_hostSide s inputs

/-- With a frame and no cycle limit, the emulator is to stop if nobody took the frame. -/
theorem processEvents_exit (hlimit : s.runForCycles = none) (hevents : EventsOk s)
    (h : s.eventBits &&& socEventVSync ≠ 0) (inputs : List InputEvent) :
    (s.processEvents inputs).1 = s.ppu.vsync := by
  rw [processEvents, if_neg h]
  show (s.eventBits &&& socEventsVSyncAndExit != 0 || _) = _
  rw [hlimit]
  obtain hnone | hsome := hevents
  · rw [hnone] at h
    exact absurd rfl h
  · rw [hsome]
    cases s.ppu.vsync <;> rfl

end Soc

namespace Gameboy

/-- `Gameboy::run` by itself: the button events it was given and the pictures it made. -/
inductive Plays (m0 : Machine) : List Soc.InputEvent → List FrameBuffer → Machine → Prop
  | start : Plays m0 [] [] m0
  /-- A round without a VBlank. -/
  | quiet {inputs frames m n t} : Plays m0 inputs frames m → Exec.step m = .ok (n, t) →
      t.soc.eventBits &&& socEventVSync = 0 →
      Plays m0 inputs frames { t with soc := (t.soc.processEvents []).2 }
  /-- A round with one. -/
  | frame {inputs frames m n t} (got : List Soc.InputEvent) : Plays m0 inputs frames m →
      Exec.step m = .ok (n, t) → t.soc.eventBits &&& socEventVSync ≠ 0 →
      Plays m0 (inputs ++ got) (frames ++ [t.soc.ppu.screen.rt])
        { t with soc := (t.soc.processEvents got).2 }

variable {m0 m : Machine} {inputs : List Soc.InputEvent} {frames : List FrameBuffer}

/-- It goes through the states of the running emulator. -/
theorem Plays.reachable (h : Plays m0 inputs frames m) (h0 : Reachable m0) : Reachable m := by
  have hround : ∀ {got m n t}, Exec.step m = .ok (n, t) →
      round got m = .ok { t with soc := (t.soc.processEvents got).2 } := by
    intro got m n t hstep
    rw [round, hstep]
    rfl
  induction h with
  | start => exact h0
  | quiet _ hstep _ ih => exact .step [] ih (hround hstep)
  | frame got _ hstep _ ih => exact .step got ih (hround hstep)

end Gameboy

namespace Session

/-! ### What a step can do -/

/-- A picture is handed over, from `s` on. -/
inductive HandsOver (syncVideo : Bool) (rt : FrameBuffer) (s : Session) : Session → Prop
  /-- Nobody is waiting for it any more. -/
  | unseen : s.receiver = false → HandsOver syncVideo rt s s
  | sent {frames} : s.receiver = true → s.frames.send rt = some frames →
      HandsOver syncVideo rt s { s with frames, log.framesMade := s.log.framesMade ++ [rt] }
  | dropped : s.receiver = true → syncVideo = false →
      HandsOver syncVideo rt s { s with log.framesMade := s.log.framesMade ++ [rt] }

/-- The steps of the two threads, case by case. -/
inductive Moves (lastPicture : Machine → Option FrameBuffer) (syncVideo : Bool) (s : Session) :
    Action → Session → Prop
  /-- A round without a VBlank. -/
  | round {n m} : s.emu = .running → Exec.step s.attached = .ok (n, m) →
      m.soc.eventBits &&& socEventVSync = 0 →
      Moves lastPicture syncVideo s .emulate
        { s with machine := { m with soc := (m.soc.processEvents []).2 } }
  | vblank {n m t} : s.emu = .running → Exec.step s.attached = .ok (n, m) →
      m.soc.eventBits &&& socEventVSync ≠ 0 →
      HandsOver syncVideo m.soc.ppu.screen.rt { s with machine := m, emu := .polling [] } t →
      Moves lastPicture syncVideo s .emulate t
  /-- A step that panics. -/
  | crashed {p} : s.emu = .running → Exec.step s.attached = .error p →
      lastPicture s.attached = none →
      Moves lastPicture syncVideo s .emulate { s with emu := .dead p }
  /-- A step that panics after a VBlank. -/
  | crashedLate {p rt t} : s.emu = .running → Exec.step s.attached = .error p →
      lastPicture s.attached = some rt → HandsOver syncVideo rt { s with emu := .dead p } t →
      Moves lastPicture syncVideo s .emulate t
  | took {got input inputs} : s.emu = .polling got → s.inputs.receive = some (input, inputs) →
      Moves lastPicture syncVideo s .takeInput { s with inputs, emu := .polling (got ++ [input]) }
  | applied {got} : s.emu = .polling got → s.inputs.queue = [] →
      Moves lastPicture syncVideo s .takeInput { s with
        machine := { s.machine with soc := (s.machine.soc.processEvents got).2 }
        emu := if (s.machine.soc.processEvents got).1 then .exited else .running
        log.inputsApplied := s.log.inputsApplied ++ got }
  /-- An event that ends the session. -/
  | closed {event ui} : s.ui = .polling [] → ui = .joining ∨ ui = .left →
      Moves lastPicture syncVideo s (.event event) { s with ui, receiver := false }
  | event (event : Event) : s.ui = .polling [] →
      Moves lastPicture syncVideo s (.event event) { s with ui := .polling event.sends }
  | sent {input pending inputs} : s.ui = .polling (input :: pending) → s.emu.gone = false →
      s.inputs.send input = some inputs →
      Moves lastPicture syncVideo s .sendInput { s with
        inputs, ui := .polling pending, log.inputsSent := s.log.inputsSent ++ [input]
        log.batch := s.log.batch + 1 }
  /-- The window thread sends to an emulator that is gone. -/
  | refused {input pending} : s.ui = .polling (input :: pending) → s.emu.gone = true →
      Moves lastPicture syncVideo s .sendInput { s with ui := .dead, receiver := false }
  | awaits : s.ui = .polling [] →
      Moves lastPicture syncVideo s .awaitFrame { s with ui := .receiving }
  | shown {rt frames} : s.ui = .receiving → s.frames.receive = some (rt, frames) →
      Moves lastPicture syncVideo s .receiveFrame { s with
        frames, ui := .polling [], log.framesShown := s.log.framesShown ++ [rt], log.batch := 0 }
  | joined : s.ui = .joining → s.emu.gone = true →
      Moves lastPicture syncVideo s .join { s with ui := .left }

variable {lastPicture : Machine → Option FrameBuffer} {syncVideo : Bool} {s s' : Session}
  {action : Action}

theorem handsOver_of_handOver {rt : FrameBuffer} (h : s.handOver syncVideo rt = .ok s') :
    HandsOver syncVideo rt s s' := by
  rw [handOver] at h
  split at h
  · rename_i hgone
    cases h
    exact .unseen (Bool.not_eq_true' _ ▸ hgone)
  · rename_i hthere
    have hreceiver : s.receiver = true := by simpa using hthere
    dsimp only at h
    split at h
    · rename_i frames hsend
      cases h
      exact .sent hreceiver hsend
    · split at h
      · cases h
      · rename_i hsync
        cases h
        exact .dropped hreceiver (Bool.not_eq_true _ ▸ hsync)

theorem moves_of_emulate (h : s.emulate lastPicture syncVideo = .ok s') :
    Moves lastPicture syncVideo s .emulate s' := by
  rw [emulate] at h
  split at h
  · rename_i hemu
    split at h
    · rename_i p hpanic
      split at h
      · rename_i hnone
        cases h
        exact .crashed hemu hpanic hnone
      · rename_i rt hsome
        exact .crashedLate hemu hpanic hsome (handsOver_of_handOver h)
    · rename_i n m hstep
      split at h
      · rename_i hquiet
        cases h
        exact .round hemu hstep hquiet
      · rename_i hframe
        exact .vblank hemu hstep hframe (handsOver_of_handOver h)
  all_goals cases h

theorem moves_of_takeInput (h : s.takeInput = .ok s') :
    Moves lastPicture syncVideo s .takeInput s' := by
  rw [takeInput] at h
  split at h
  · rename_i got hemu
    split at h
    · rename_i input inputs hreceive
      cases h
      exact .took hemu hreceive
    · rename_i hreceive
      cases h
      exact .applied hemu (Channel.receive_eq_none.mp hreceive)
  all_goals cases h

theorem moves_of_handleEvent {event : Event} (h : s.handleEvent event = .ok s') :
    Moves lastPicture syncVideo s (.event event) s' := by
  unfold handleEvent at h
  cases hui : s.ui with
  | polling pending =>
    rw [hui] at h
    cases pending with
    | nil =>
      cases event with
      | dropFile filename => cases h; exact .closed hui (.inl rfl)
      | quit => cases h; exact .closed hui (.inr rfl)
      | _ => cases h; exact .event _ hui
    | cons input pending => cases h
  | receiving | joining | left | dead =>
    rw [hui] at h
    cases h

theorem moves_of_step (h : step lastPicture syncVideo action s = .ok s') :
    Moves lastPicture syncVideo s action s' := by
  cases action with
  | emulate => exact moves_of_emulate h
  | takeInput => exact moves_of_takeInput h
  | event event => exact moves_of_handleEvent h
  | sendInput =>
    rw [step, sendInput] at h
    split at h
    · rename_i input pending hui
      split at h
      · rename_i hgone
        cases h
        exact .refused hui hgone
      · rename_i hthere
        split at h
        · rename_i inputs hsend
          cases h
          exact .sent hui (Bool.not_eq_true _ ▸ hthere) hsend
        · cases h
    all_goals cases h
  | awaitFrame =>
    rw [step, awaitFrame] at h
    split at h
    · rename_i hui
      cases h
      exact .awaits hui
    all_goals cases h
  | receiveFrame =>
    rw [step, receiveFrame] at h
    split at h
    · rename_i hui
      split at h
      · rename_i rt frames hreceive
        cases h
        exact .shown hui hreceive
      · cases h
    all_goals cases h
  | join =>
    rw [step, join] at h
    split at h
    · rename_i hui
      split at h
      · rename_i hemu
        cases h
        exact .joined hui hemu
      · cases h
    all_goals cases h

/-- An invariant of the moves holds of every session. -/
theorem Reachable.invariant {I : Session → Prop} (h : Reachable lastPicture syncVideo s)
    (hstart : ∀ m, Boots m → I (start m))
    (hmoves : ∀ action s s', I s → Moves lastPicture syncVideo s action s' → I s') : I s := by
  refine Machine.Reachable.induction (I := I) ?_
    (fun action s s' hs hstep => hmoves action s s' hs (moves_of_step hstep)) h
  rintro _ ⟨m, hm, rfl⟩
  exact hstart m hm

theorem pacedStep_eq_ok {limit : ℕ} (h : pacedStep lastPicture limit syncVideo action s = .ok s') :
    step lastPicture syncVideo action s = .ok s' ∧
      ∀ event, action = .event event → s.log.batch + event.sends.length ≤ limit := by
  cases action with
  | event event =>
    rw [pacedStep] at h
    split at h
    · rename_i hpace
      refine ⟨h, fun event' heq => ?_⟩
      cases heq
      exact hpace
    · cases h
  | _ => exact ⟨h, fun _ => Action.noConfusion⟩

/-- A host that delivers few events is a host. -/
theorem Paced.reachable {limit : ℕ} (h : Paced lastPicture limit syncVideo s) :
    Reachable lastPicture syncVideo s :=
  Machine.Reachable.induction (I := fun s => Reachable lastPicture syncVideo s) (fun _ => .start)
    (fun action _ _ hs hstep => .step action hs (pacedStep_eq_ok hstep).1) h

/-! ### What goes through the channels -/

/-- The button events the emulator has taken and not yet made its own. -/
def got (s : Session) : List Soc.InputEvent :=
  match s.emu with
  | .polling got => got
  | .running | .exited | .dead _ => []

theorem got_of_polling {got : List Soc.InputEvent} (h : s.emu = .polling got) : s.got = got := by
  rw [Session.got, h]

theorem got_of_idle (h : ∀ got, s.emu ≠ .polling got) : s.got = [] := by
  rw [Session.got]
  split
  · exact absurd ‹_› (h _)
  all_goals rfl

theorem got_of_running (h : s.emu = .running) : s.got = [] := by rw [Session.got, h]

/-- Nothing is lost, doubled or reordered, except that without `sync_video` pictures may be. -/
structure Conserves (syncVideo : Bool) (s : Session) : Prop where
  inputs : s.inputs.Carries s.log.inputsSent (s.log.inputsApplied ++ s.got)
  frames : (s.log.framesShown ++ s.frames.queue).Sublist s.log.framesMade
  framesSync : syncVideo = true → s.frames.Carries s.log.framesMade s.log.framesShown

/-- The emulator thread goes on, with no button events in its hands. -/
theorem Conserves.withEmu (h : Conserves syncVideo s) (hgot : s.got = []) {emu : EmuThread}
    (machine : Machine) (hgot' : { s with machine, emu }.got = []) :
    Conserves syncVideo { s with machine, emu } := by
  have hinputs := h.inputs
  rw [hgot] at hinputs
  refine ⟨?_, h.frames, h.framesSync⟩
  rw [hgot']
  exact hinputs

theorem Conserves.handsOver {rt : FrameBuffer} (h : Conserves syncVideo s)
    (ho : HandsOver syncVideo rt s s') : Conserves syncVideo s' := by
  cases ho with
  | unseen => exact h
  | sent _ hsend =>
    refine ⟨h.inputs, ?_, fun hsync => (h.framesSync hsync).send hsend⟩
    show (s.log.framesShown ++ _).Sublist (_ ++ _)
    rw [(Channel.send_eq_some.mp hsend).2, ← List.append_assoc]
    exact h.frames.append_right _
  | dropped _ hsync =>
    refine ⟨h.inputs, h.frames.trans (List.sublist_append_left _ _), fun h => ?_⟩
    rw [hsync] at h
    cases h

theorem Conserves.moves (h : Conserves syncVideo s) (hm : Moves lastPicture syncVideo s action s') :
    Conserves syncVideo s' := by
  have hinputs := h.inputs
  cases hm with
  | round hemu | closed hui | event _ hui | awaits hui | joined hui | refused hui =>
    exact ⟨h.inputs, h.frames, h.framesSync⟩
  | vblank hemu _ _ hover => exact (h.withEmu (got_of_running hemu) _ rfl).handsOver hover
  | crashed hemu => exact h.withEmu (got_of_running hemu) _ rfl
  | crashedLate hemu _ _ hover => exact (h.withEmu (got_of_running hemu) _ rfl).handsOver hover
  | took hemu hreceive =>
    rw [got_of_polling hemu] at hinputs
    refine ⟨?_, h.frames, h.framesSync⟩
    have htook := hinputs.receive hreceive
    rwa [List.append_assoc] at htook
  | @applied got hemu hnone =>
    rw [got_of_polling hemu] at hinputs
    refine ⟨?_, h.frames, h.framesSync⟩
    have hidle : ∀ got', (if (s.machine.soc.processEvents got).1 then EmuThread.exited
        else .running) ≠ .polling got' := by
      intro got'
      split <;> exact EmuThread.noConfusion
    show s.inputs.Carries _ (_ ++ Session.got _)
    rw [got_of_idle hidle, List.append_nil]
    exact hinputs
  | sent hui _ hsend => exact ⟨h.inputs.send hsend, h.frames, h.framesSync⟩
  | shown hui hreceive =>
    refine ⟨h.inputs, ?_, fun hsync => (h.framesSync hsync).receive hreceive⟩
    have hframes := h.frames
    rw [Channel.receive_eq_some.mp hreceive] at hframes
    show ((_ ++ [_]) ++ _).Sublist _
    rwa [List.append_assoc]

theorem Reachable.conserves (h : Reachable lastPicture syncVideo s) : Conserves syncVideo s :=
  h.invariant (fun _ _ => ⟨Channel.carries_empty, .slnil, fun _ => Channel.carries_empty⟩)
    fun _ _ _ hs hm => hs.moves hm

/-! ### The emulator thread -/

/-- What a CPU step finds and leaves of the host's side. -/
structure Emulated (s : Session) (m : Machine) : Prop where
  buttons : m.soc.buttons = s.machine.soc.buttons
  runForCycles : m.soc.runForCycles = s.machine.soc.runForCycles
  frameChan : m.soc.ppu.frameChan = if s.receiver then .connected else .disconnected
  events : s.machine.soc.eventBits = 0 → m.soc.EventsOk

theorem emulated_of_step {n : ℕ} {m : Machine} (h : Exec.step s.attached = .ok (n, m)) :
    Emulated s m := by
  obtain ⟨hside, hevents⟩ := Soc.host_of_leads (Exec.drives_step _ _ _ h)
  exact ⟨congrArg Soc.HostSide.buttons hside, congrArg Soc.HostSide.runForCycles hside,
    congrArg Soc.HostSide.frameChan hside, fun hnone => hevents (.inl hnone)⟩

theorem Emulated.vsync {m : Machine} (h : Emulated s m) :
    m.soc.ppu.vsync = !s.receiver := by
  rw [Ppu.vsync, h.frameChan]
  cases s.receiver <;> rfl

/-- Where the window thread still takes pictures. -/
def watching : UiThread → Bool
  | .polling _ | .receiving => true
  | .joining | .left | .dead => false

/-- The emulator between two looks at its events, and while it looks. -/
structure Hosted (s : Session) : Prop where
  unlimited : s.machine.soc.runForCycles = none
  buttons : s.machine.soc.buttons = Soc.pressed s.log.inputsApplied fun _ => false
  receiver : s.receiver = watching s.ui
  running : s.emu = .running → s.machine.soc.eventBits = 0
  polling : ∀ got, s.emu = .polling got → s.machine.soc.eventBits &&& socEventVSync ≠ 0 ∧
    s.machine.soc.EventsOk ∧ (s.machine.soc.ppu.vsync = true → s.receiver = false)
  exited : s.emu = .exited → s.receiver = false
  /-- The window thread panics after the emulator thread only. -/
  dead : s.ui = .dead → ∃ p, s.emu = .dead p

/-- While the emulator thread lives, so does the window thread. -/
theorem Hosted.ui_ne_dead (h : Hosted s) (hemu : s.emu.gone = false) : s.ui ≠ .dead := by
  intro hdead
  obtain ⟨p, hp⟩ := h.dead hdead
  rw [hp] at hemu
  cases hemu

/-- The emulator comes to a VBlank. -/
theorem Hosted.vblank {n : ℕ} {m : Machine} (h : Hosted s) (hemu : s.emu = .running)
    (hstep : Exec.step s.attached = .ok (n, m)) (hframe : m.soc.eventBits &&& socEventVSync ≠ 0) :
    Hosted { s with machine := m, emu := .polling [] } := by
  have hdone := emulated_of_step hstep
  refine ⟨hdone.runForCycles.trans h.unlimited, hdone.buttons.trans h.buttons, h.receiver,
    EmuThread.noConfusion, fun got _ => ?_, EmuThread.noConfusion,
    fun hdead => absurd hdead (h.ui_ne_dead (by rw [hemu]; rfl))⟩
  dsimp only
  rw [hdone.vsync]
  exact ⟨hframe, hdone.events (h.running hemu), fun hgone => by simpa using hgone⟩

/-- The emulator panics. -/
theorem Hosted.crashed (h : Hosted s) (p : Panic) : Hosted { s with emu := .dead p } :=
  ⟨h.unlimited, h.buttons, h.receiver, EmuThread.noConfusion, fun _ => EmuThread.noConfusion,
    EmuThread.noConfusion, fun _ => ⟨p, rfl⟩⟩

theorem Hosted.handsOver {rt : FrameBuffer} (h : Hosted s) (ho : HandsOver syncVideo rt s s') :
    Hosted s' := by
  cases ho with
  | unseen => exact h
  | sent | dropped =>
    exact ⟨h.unlimited, h.buttons, h.receiver, h.running, h.polling, h.exited, h.dead⟩

/-- While the window thread takes pictures, the emulator's loop does not come to its end. -/
theorem Hosted.dead_of_gone (h : Hosted s) (hwatch : watching s.ui = true)
    (hgone : s.emu.gone = true) : ∃ p, s.emu = .dead p := by
  cases hemu : s.emu with
  | dead p => exact ⟨p, rfl⟩
  | exited =>
    have hreceiver := h.receiver
    rw [h.exited hemu, hwatch] at hreceiver
    cases hreceiver
  | running | polling got =>
    rw [hemu] at hgone
    cases hgone

/-- A step of the window thread that goes on watching. -/
theorem Hosted.watches (h : Hosted s) {ui ui' : UiThread} (hui : s.ui = ui)
    (hs' : s'.machine = s.machine ∧ s'.emu = s.emu ∧ s'.ui = ui' ∧ s'.receiver = s.receiver ∧
      s'.log.inputsApplied = s.log.inputsApplied) (hwatch : watching ui' = watching ui)
    (halive : ui' ≠ .dead) : Hosted s' := by
  obtain ⟨hmachine, hemu, hui', hreceiver, happlied⟩ := hs'
  refine ⟨?_, ?_, ?_, ?_, ?_, ?_, fun hdead => absurd (hui'.symm.trans hdead) halive⟩
  · rw [hmachine, h.unlimited]
  · rw [hmachine, happlied, h.buttons]
  · rw [hreceiver, hui', hwatch, ← hui, h.receiver]
  · rw [hmachine, hemu]
    exact h.running
  · rw [hmachine, hemu, hreceiver]
    exact h.polling
  · rw [hemu, hreceiver]
    exact h.exited

theorem Hosted.moves (h : Hosted s) (hm : Moves lastPicture syncVideo s action s') :
    Hosted s' := by
  cases hm with
  | @round n m hemu hstep hquiet =>
    have hdone := emulated_of_step hstep
    rw [Soc.processEvents_quiet hquiet]
    refine ⟨hdone.runForCycles.trans h.unlimited, hdone.buttons.trans h.buttons, h.receiver,
      fun _ => rfl, fun got hpolling => ?_, h.exited, h.dead⟩
    cases hemu.symm.trans hpolling
  | vblank hemu hstep hframe hover => exact (h.vblank hemu hstep hframe).handsOver hover
  | crashed => exact h.crashed _
  | crashedLate _ _ _ hover => exact (h.crashed _).handsOver hover
  | took hemu =>
    obtain hpolling := h.polling _ hemu
    exact ⟨h.unlimited, h.buttons, h.receiver, EmuThread.noConfusion, fun _ _ => hpolling,
      EmuThread.noConfusion, fun hdead => absurd hdead (h.ui_ne_dead (by rw [hemu]; rfl))⟩
  | @applied got hemu hnone =>
    obtain ⟨hframe, hevents, hgone⟩ := h.polling _ hemu
    have hside := Soc.processEvents_frame hframe got
    have hexit := Soc.processEvents_exit h.unlimited hevents hframe got
    refine ⟨(congrArg Soc.HostSide.runForCycles hside).trans h.unlimited, ?_, h.receiver,
      fun _ => Soc.processEvents_eventBits _ _, fun got' hpolling => ?_, fun hexited => ?_,
      fun hdead => absurd hdead (h.ui_ne_dead (by rw [hemu]; rfl))⟩
    · show (s.machine.soc.processEvents got).2.buttons = Soc.pressed (_ ++ _) _
      rw [Soc.pressed_append, ← h.buttons]
      exact congrArg Soc.HostSide.buttons hside
    · dsimp only at hpolling
      split at hpolling <;> cases hpolling
    · dsimp only at hexited
      split at hexited
      · rename_i hstop
        exact hgone (hexit ▸ hstop)
      · cases hexited
  | closed hui hend =>
    refine ⟨h.unlimited, h.buttons, ?_, h.running, fun got hemu => ?_, fun _ => rfl,
      fun hdead => ?_⟩
    · obtain rfl | rfl := hend <;> rfl
    · obtain ⟨hframe, hevents, -⟩ := h.polling got hemu
      exact ⟨hframe, hevents, fun _ => rfl⟩
    · obtain rfl | rfl := hend <;> cases hdead
  | refused hui hgone =>
    refine ⟨h.unlimited, h.buttons, rfl, h.running, fun got hemu => ?_, fun _ => rfl, fun _ => ?_⟩
    · obtain ⟨hframe, hevents, -⟩ := h.polling got hemu
      exact ⟨hframe, hevents, fun _ => rfl⟩
    · exact h.dead_of_gone (by rw [hui]; rfl) hgone
  | event _ hui | sent hui | awaits hui | shown hui | joined hui =>
    exact h.watches hui ⟨rfl, rfl, rfl, rfl, rfl⟩ rfl UiThread.noConfusion

theorem hosted_start {m : Machine} (hm : Boots m) : Hosted (start m) := by
  obtain ⟨cartridge, config, -, hlimit, hboot⟩ := hm
  obtain ⟨mbc, -, hsoc⟩ := bind_eq_ok.mp (Gameboy.boot_eq_ok hboot)
  have hsoc := ok_inj.mp hsoc
  refine ⟨?_, ?_, rfl, fun _ => ?_, fun _ => EmuThread.noConfusion, EmuThread.noConfusion,
    UiThread.noConfusion⟩
  · show m.soc.runForCycles = none
    rw [← hsoc, ← hlimit]
  · show m.soc.buttons = _
    rw [← hsoc]
    rfl
  · show m.soc.eventBits = 0
    rw [← hsoc]

theorem Reachable.hosted (h : Reachable lastPicture syncVideo s) : Hosted s :=
  h.invariant (fun _ hm => hosted_start hm) fun _ _ _ hs hm => hs.moves hm

/-! ### The emulator by itself -/

/-- Where the emulator thread is in a run of `Gameboy::run`. -/
def Playing (lastPicture : Machine → Option FrameBuffer) (s : Session) (frames : List FrameBuffer)
    (m : Machine) : Prop :=
  match s.emu with
  | .running => s.machine = m ∧ s.log.framesMade = frames
  | .polling _ => (∃ n, Exec.step m = .ok (n, s.machine)) ∧
      s.machine.soc.eventBits &&& socEventVSync ≠ 0 ∧
      s.log.framesMade = frames ++ [s.machine.soc.ppu.screen.rt]
  | .dead p => s.machine = m ∧ Exec.step m = .error p ∧
      s.log.framesMade = frames ++ (lastPicture m).toList
  | .exited => False

/-- As long as the window thread is there, the emulator thread is a run of `Gameboy::run` by
itself. -/
def Sequential (lastPicture : Machine → Option FrameBuffer) (s : Session) : Prop :=
  s.receiver = true → ∃ m0 frames m, Boots m0 ∧ m.soc.ppu.frameChan = .connected ∧
    Gameboy.Plays m0 s.log.inputsApplied frames m ∧ s.Playing lastPicture frames m

theorem attached_of_connected (hreceiver : s.receiver = true)
    (h : s.machine.soc.ppu.frameChan = .connected) : s.attached = s.machine := by
  rw [attached, if_pos hreceiver, ← h]

/-- A step of the emulator from a session that is at `m`. -/
theorem Playing.attached {frames : List FrameBuffer} {m : Machine}
    (h : s.Playing lastPicture frames m)
    (hemu : s.emu = .running) (hreceiver : s.receiver = true)
    (hchan : m.soc.ppu.frameChan = .connected) :
    s.attached = m ∧ s.machine = m ∧ s.log.framesMade = frames := by
  rw [Playing, hemu] at h
  obtain ⟨rfl, hframes⟩ := h
  exact ⟨attached_of_connected hreceiver hchan, rfl, hframes⟩

/-- A step of the window thread. -/
theorem Sequential.watches (h : Sequential lastPicture s)
    (hs' : s'.receiver = s.receiver ∧ s'.emu = s.emu ∧ s'.machine = s.machine ∧
      s'.log.inputsApplied = s.log.inputsApplied ∧ s'.log.framesMade = s.log.framesMade) :
    Sequential lastPicture s' := by
  obtain ⟨hreceiver, hemu, hmachine, happlied, hframes⟩ := hs'
  rw [Sequential, hreceiver, happlied]
  intro hthere
  obtain ⟨m0, frames, m, hboots, hchan, hplays, hplaying⟩ := h hthere
  rw [Playing, ← hemu, ← hmachine, ← hframes] at hplaying
  exact ⟨m0, frames, m, hboots, hchan, hplays, hplaying⟩

/-- What handing over does to a session whose receiver is there. -/
theorem HandsOver.frame {rt : FrameBuffer} (h : HandsOver syncVideo rt s s') :
    s'.machine = s.machine ∧ s'.emu = s.emu ∧ s'.receiver = s.receiver ∧
      s'.log.inputsApplied = s.log.inputsApplied ∧
      (s.receiver = true → s'.log.framesMade = s.log.framesMade ++ [rt]) := by
  cases h with
  | unseen hgone => exact ⟨rfl, rfl, rfl, rfl, fun hthere => by cases hgone.symm.trans hthere⟩
  | sent | dropped => exact ⟨rfl, rfl, rfl, rfl, fun _ => rfl⟩

/-- The emulator comes to a VBlank. -/
theorem Sequential.vblank {n : ℕ} {m : Machine} (h : Sequential lastPicture s)
    (hemu : s.emu = .running) (hstep : Exec.step s.attached = .ok (n, m))
    (hframe : m.soc.eventBits &&& socEventVSync ≠ 0)
    (hover : HandsOver syncVideo m.soc.ppu.screen.rt { s with machine := m, emu := .polling [] }
      s') : Sequential lastPicture s' := by
  obtain ⟨hmachine, hemu', hthere, happlied, hframes⟩ := hover.frame
  intro hreceiver
  have hreceiver' : s.receiver = true := hthere.symm.trans hreceiver
  obtain ⟨m0, frames, t, hboots, hchan, hplays, hplaying⟩ := h hreceiver'
  obtain ⟨hattached, hat, hmade⟩ := hplaying.attached hemu hreceiver' hchan
  refine ⟨m0, frames, t, hboots, hchan, happlied ▸ hplays, ?_⟩
  rw [Playing, hemu', hmachine, hframes hreceiver', ← hattached]
  exact ⟨⟨n, hstep⟩, hframe, congrArg (· ++ _) hmade⟩

/-- The emulator panics, with the pictures it has made by then. -/
theorem Sequential.crashed {p : Panic} (h : Sequential lastPicture s) (hemu : s.emu = .running)
    (hpanic : Exec.step s.attached = .error p)
    (hs' : s'.machine = s.machine ∧ s'.emu = .dead p ∧ s'.receiver = s.receiver ∧
      s'.log.inputsApplied = s.log.inputsApplied ∧ (s.receiver = true →
        s'.log.framesMade = s.log.framesMade ++ (lastPicture s.attached).toList)) :
    Sequential lastPicture s' := by
  obtain ⟨hmachine, hemu', hthere, happlied, hframes⟩ := hs'
  intro hreceiver
  have hreceiver' : s.receiver = true := hthere ▸ hreceiver
  obtain ⟨m0, frames, t, hboots, hchan, hplays, hplaying⟩ := h hreceiver'
  obtain ⟨hattached, hat, hmade⟩ := hplaying.attached hemu hreceiver' hchan
  refine ⟨m0, frames, t, hboots, hchan, happlied ▸ hplays, ?_⟩
  rw [Playing, hemu', hmachine, hframes hreceiver', hattached, hmade, ← hattached]
  exact ⟨hat.trans hattached.symm, hpanic, rfl⟩

theorem Sequential.moves (h : Sequential lastPicture s) (hs : Hosted s)
    (hm : Moves lastPicture syncVideo s action s') : Sequential lastPicture s' := by
  cases hm with
  | @round n m hemu hstep hquiet =>
    intro hreceiver
    obtain ⟨m0, frames, t, hboots, hchan, hplays, hplaying⟩ := h hreceiver
    obtain ⟨hattached, hat, hmade⟩ := hplaying.attached hemu hreceiver hchan
    have hconnected : m.soc.ppu.frameChan = .connected := by
      rw [(emulated_of_step hstep).frameChan, if_pos hreceiver]
    rw [hattached] at hstep
    refine ⟨m0, frames, _, hboots, ?_, hplays.quiet hstep hquiet, ?_⟩
    · rw [Soc.processEvents_quiet hquiet]
      exact hconnected
    · rw [Playing]
      dsimp only
      rw [hemu]
      exact ⟨rfl, hmade⟩
  | vblank hemu hstep hframe hover => exact h.vblank hemu hstep hframe hover
  | crashed hemu hpanic hnone =>
    refine h.crashed hemu hpanic ⟨rfl, rfl, rfl, rfl, fun _ => ?_⟩
    rw [hnone]
    exact (List.append_nil _).symm
  | crashedLate hemu hpanic hsome hover =>
    obtain ⟨hmachine, hemu', hthere, happlied, hframes⟩ := hover.frame
    refine h.crashed hemu hpanic ⟨hmachine, hemu', hthere, happlied, fun hreceiver => ?_⟩
    rw [hframes hreceiver, hsome]
    rfl
  | took hemu =>
    intro hreceiver
    obtain ⟨m0, frames, t, hboots, hchan, hplays, hplaying⟩ := h hreceiver
    rw [Playing, hemu] at hplaying
    exact ⟨m0, frames, t, hboots, hchan, hplays, hplaying⟩
  | @applied got hemu hnone =>
    intro hreceiver
    obtain ⟨m0, frames, t, hboots, hchan, hplays, hplaying⟩ := h hreceiver
    rw [Playing, hemu] at hplaying
    obtain ⟨⟨n, hstep⟩, hframe, hmade⟩ := hplaying
    obtain ⟨-, hevents, hgone⟩ := hs.polling got hemu
    have hexit : (s.machine.soc.processEvents got).1 = false := by
      rw [Soc.processEvents_exit hs.unlimited hevents hframe]
      by_contra hstop
      cases (hgone (Bool.not_eq_false _ ▸ hstop)).symm.trans hreceiver
    have hside : s.machine.soc.hostSide = t.soc.hostSide :=
      (Soc.host_of_leads (Exec.drives_step _ _ _ hstep)).1
    refine ⟨m0, _, _, hboots, ?_, hplays.frame got hstep hframe, ?_⟩
    · have hchan' := congrArg Soc.HostSide.frameChan (Soc.processEvents_frame hframe got)
      exact hchan'.trans ((congrArg Soc.HostSide.frameChan hside).trans hchan)
    · rw [Playing]
      dsimp only
      rw [hexit]
      exact ⟨rfl, hmade⟩
  | closed | refused => exact Bool.noConfusion
  | event | sent | awaits | shown | joined => exact h.watches ⟨rfl, rfl, rfl, rfl, rfl⟩

variable (lastPicture) in
theorem sequential_start {m : Machine} (hm : Boots m) : Sequential lastPicture (start m) := by
  intro _
  refine ⟨m, [], m, hm, ?_, .start, rfl, rfl⟩
  obtain ⟨cartridge, config, hchan, -, hboot⟩ := hm
  obtain ⟨mbc, -, hsoc⟩ := bind_eq_ok.mp (Gameboy.boot_eq_ok hboot)
  rw [← ok_inj.mp hsoc, ← hchan]
  rfl

theorem Reachable.sequential (h : Reachable lastPicture syncVideo s) :
    Sequential lastPicture s := by
  have hboth : Hosted s ∧ Sequential lastPicture s :=
    h.invariant (I := fun s => Hosted s ∧ Sequential lastPicture s)
      (fun _ hm => ⟨hosted_start hm, sequential_start _ hm⟩)
      fun _ _ _ hs hm => ⟨hs.1.moves hm, hs.2.moves hs.1 hm⟩
  exact hboth.2

/-- What holds of the running emulator holds of the emulator thread. -/
theorem Reachable.machine (h : Reachable lastPicture syncVideo s) (hreceiver : s.receiver = true)
    (hemu : s.emu = .running) : Gameboy.Reachable s.machine := by
  obtain ⟨m0, frames, m, ⟨cartridge, config, -, -, hboot⟩, -, hplays, hplaying⟩ :=
    h.sequential hreceiver
  rw [Playing, hemu] at hplaying
  obtain ⟨rfl, -⟩ := hplaying
  exact hplays.reachable (.start ⟨cartridge, config, hboot⟩)

/-- **Nothing is lost, and the threads do not matter.** In any interleaving of the two threads the
button events arrive once and in order, and so do the pictures if the emulator waits for them; the
buttons are what the events say; and as long as the window thread takes pictures, what the emulator
thread has done is what `Gameboy::run` does by itself when it is given these events and makes these
pictures, up to the panic that ends it if one does. -/
theorem session_refines (h : Reachable lastPicture syncVideo s) :
    s.log.inputsSent = s.log.inputsApplied ++ s.got ++ s.inputs.queue ∧
    (s.log.framesShown ++ s.frames.queue).Sublist s.log.framesMade ∧
    (syncVideo = true → s.log.framesMade = s.log.framesShown ++ s.frames.queue) ∧
    s.machine.soc.buttons = Soc.pressed s.log.inputsApplied (fun _ => false) ∧
    (s.receiver = true → s.emu = .running → ∃ m0, Boots m0 ∧
      Gameboy.Plays m0 s.log.inputsApplied s.log.framesMade s.machine) ∧
    ∀ p, s.receiver = true → s.emu = .dead p → ∃ m0 frames, Boots m0 ∧
      Gameboy.Plays m0 s.log.inputsApplied frames s.machine ∧ Exec.step s.machine = .error p ∧
      s.log.framesMade = frames ++ (lastPicture s.machine).toList := by
  have hlists := h.conserves
  refine ⟨hlists.inputs, hlists.frames, hlists.framesSync, h.hosted.buttons, ?_, ?_⟩
  · intro hreceiver hemu
    obtain ⟨m0, frames, m, hboots, -, hplays, hplaying⟩ := h.sequential hreceiver
    rw [Playing, hemu] at hplaying
    obtain ⟨rfl, rfl⟩ := hplaying
    exact ⟨m0, hboots, hplays⟩
  · intro p hreceiver hemu
    obtain ⟨m0, frames, m, hboots, -, hplays, hplaying⟩ := h.sequential hreceiver
    rw [Playing, hemu] at hplaying
    obtain ⟨rfl, hpanic, hframes⟩ := hplaying
    exact ⟨m0, frames, hboots, hplays, hpanic, hframes⟩

theorem exists_boots : ∃ m, Boots m := by
  obtain ⟨m, hboot⟩ := exists_of_isOk
    (x := Gameboy.boot (Cartridge.blank 0 0 0xE7) ⟨.connected, none, none⟩) (by decide +kernel)
  exact ⟨m, _, _, rfl, rfl, hboot⟩

/-- A key is pressed, and its event is on its way. -/
theorem session_refines_keyDown : ∃ s, Reachable (fun _ => none) true s ∧
    s.inputs.queue = [⟨true, .up⟩] ∧
    s.log.inputsSent = s.log.inputsApplied ++ s.got ++ [⟨true, .up⟩] ∧
    s.log.framesMade = s.log.framesShown ++ s.frames.queue ∧
    ∃ m0, Boots m0 ∧ Gameboy.Plays m0 s.log.inputsApplied s.log.framesMade s.machine := by
  obtain ⟨m, hm⟩ := exists_boots
  have hreach : Reachable (fun _ => none) true (start m) := .start ⟨m, hm, rfl⟩
  have hkey := hreach.exec (rfl : Machine.exec (step (fun _ => none) true)
    [.event (.keyDown (some .w) false), .sendInput] (start m) = .ok _)
  obtain ⟨hinputs, -, hframes, -, hplays, -⟩ := session_refines hkey
  exact ⟨_, hkey, rfl, hinputs, hframes rfl, hplays rfl rfl⟩

end Session

end ZenithGb
