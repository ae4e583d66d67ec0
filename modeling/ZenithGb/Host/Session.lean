import ZenithGb.Gameboy
import ZenithGb.Lib.Channel
import ZenithGb.Lib.Run

/-!
# A session: the emulator thread and the window thread

`state_running` of `lib.rs`, against the thread that `run_emulator` starts. The threads share two
bounded channels and nothing else. The window thread sends button events, ten at most waiting, and
takes pictures; the emulator thread hands over a picture at every VBlank, one at most waiting, and
then takes all the button events there are. Sends wait for room, except that without `sync_video`
a picture that finds no room is dropped. Dropping the receiver of the pictures is how the window
thread ends the emulator.

A step of the CPU reaches a channel once at most, in the middle, when it enters VBlank, and what it
does before and after that no other thread sees; so it is one action here. With `sync_video` the
action is not possible while there is a picture to hand over and no room for it. Sound, screenshots
and the wall clock are left out.

A panic ends the thread it happens in, and drops its ends of the channels. When the emulator thread
is gone, the next button event makes the window thread panic, since it unwraps the result of its
send; but waiting for a picture it notices nothing, since it keeps a sender of pictures of its own.
A step that panics may have handed over a picture before. Which one is left open: it is a parameter,
`lastPicture`.

`Log` is not part of the program: it records what went through the channels.
-/

namespace ZenithGb

namespace Host

/-! ### Host events -/

/-- The scan codes the source looks for. -/
inductive Scancode
  | up | w | left | a | down | s | right | d | c | o | v | p | n | m | f12 | other
  deriving DecidableEq, Repr

/-- The controller buttons the source looks for. -/
inductive ControllerButton
  | dPadUp | dPadLeft | dPadDown | dPadRight | a | b | guide | start | other
  deriving DecidableEq, Repr

inductive Axis
  | leftX | leftY | other
  deriving DecidableEq, Repr

/-- What the event pump delivers. -/
inductive Event
  | dropFile (filename : String)
  | quit
  | keyDown (scancode : Option Scancode) («repeat» : Bool)
  | keyUp (scancode : Option Scancode)
  | controllerButtonDown (button : ControllerButton)
  | controllerButtonUp (button : ControllerButton)
  | controllerAxisMotion (axis : Axis) (value : ℤ)
  | other
  deriving DecidableEq, Repr

def scancodeToGbBtn : Option Scancode → Option GbButton
  | some .up | some .w => some .up
  | some .left | some .a => some .left
  | some .down | some .s => some .down
  | some .right | some .d => some .right
  | some .c | some .o => some .a
  | some .v | some .p => some .b
  | some .n => some .select
  | some .m => some .start
  | _ => none

def controllerBtnToGbBtn : ControllerButton → Option GbButton
  | .dPadUp => some .up
  | .dPadLeft => some .left
  | .dPadDown => some .down
  | .dPadRight => some .right
  | .a => some .a
  | .b => some .b
  | .guide => some .select
  | .start => some .start
  | .other => none

/-- The buttons at the negative and the positive end of an axis. -/
def controllerAxisGbBtn : Axis → Option (GbButton × GbButton)
  | .leftX => some (.left, .right)
  | .leftY => some (.up, .down)
  | .other => none

def deadZone : ℤ := 10000

/-- A button event, if the key or button is one of the source's. -/
def press (down : Bool) (button : Option GbButton) : List Soc.InputEvent :=
  match button with
  | some button => [⟨down, button⟩]
  | none => []

/-- The button events an event makes. -/
def Event.sends : Event → List Soc.InputEvent
  | .keyDown scancode «repeat» => if «repeat» then [] else press true (scancodeToGbBtn scancode)
  | .keyUp scancode => press false (scancodeToGbBtn scancode)
  | .controllerButtonDown button => press true (controllerBtnToGbBtn button)
  | .controllerButtonUp button => press false (controllerBtnToGbBtn button)
  | .controllerAxisMotion axis value =>
    match controllerAxisGbBtn axis with
    | some (btnNeg, btnPos) => [⟨value < -deadZone, btnNeg⟩, ⟨value > deadZone, btnPos⟩]
    | none => []
  | .dropFile _ | .quit | .other => []

/-! ### The threads -/

/-- Where the emulator thread is. -/
inductive EmuThread
  /-- Before a round of `Gameboy::run`. -/
  | running
  /-- In `input_update`, with the events taken so far. -/
  | polling (got : List Soc.InputEvent)
  /-- The loop of `Gameboy::run` has come to its end. -/
  | exited
  | dead (p : Panic)
  deriving DecidableEq

/-- The thread has dropped its ends of the channels. -/
def EmuThread.gone : EmuThread → Bool
  | .running | .polling _ => false
  | .exited | .dead _ => true

/-- Where the window thread is. -/
inductive UiThread
  /-- In the event loop, with the sends still to make for the current event. -/
  | polling (pending : List Soc.InputEvent)
  /-- In `frame_recv.recv()`. -/
  | receiving
  /-- In `ctx.handle.join()`, after a file was dropped. -/
  | joining
  | left
  /-- Its send has met a dropped channel. -/
  | dead
  deriving DecidableEq

/-- What went through the channels. -/
structure Log where
  /-- The button events that were sent, and those the emulator has made its own. -/
  inputsSent : List Soc.InputEvent
  inputsApplied : List Soc.InputEvent
  /-- The pictures of all VBlanks, and those that were shown. -/
  framesMade : List FrameBuffer
  framesShown : List FrameBuffer
  /-- How many button events were sent since the last picture was taken. -/
  batch : ℕ

end Host

open Host

structure Session where
  machine : Machine
  emu : EmuThread
  ui : UiThread
  frames : Channel 1 FrameBuffer
  inputs : Channel 10 Soc.InputEvent
  /-- `frame_recv` has not been dropped. -/
  receiver : Bool
  log : Log

namespace Session

/-- Why a thread does not go on: it waits, or is not at this point. -/
inductive Stop
  | blocked
  deriving DecidableEq

/-- The session `run_emulator` and `state_running` start with. -/
def start (machine : Machine) : Session :=
  { machine, emu := .running, ui := .polling [], frames := .empty, inputs := .empty
    receiver := true, log := ⟨[], [], [], [], 0⟩ }

/-- The machine, seeing the frame channel as it is. -/
def attached (s : Session) : Machine :=
  { s.machine with
    soc.ppu.frameChan := if s.receiver then .connected else .disconnected }

/-! ### The emulator thread -/

/-- `vsync`: send the picture. -/
def handOver (syncVideo : Bool) (rt : FrameBuffer) (s : Session) : Except Stop Session :=
  if !s.receiver then .ok s
  else
    let s := { s with log.framesMade := s.log.framesMade ++ [rt] }
    match s.frames.send rt with
    | some frames => .ok { s with frames }
    | none => if syncVideo then .error .blocked else .ok s

/-- A CPU step, and the events if there is no VBlank among them. -/
def emulate (lastPicture : Machine → Option FrameBuffer) (syncVideo : Bool) (s : Session) :
    Except Stop Session :=
  match s.emu with
  | .running =>
    match Exec.step s.attached with
    | .error p =>
      match lastPicture s.attached with
      | none => .ok { s with emu := .dead p }
      | some rt => handOver syncVideo rt { s with emu := .dead p }
    | .ok (_, machine) =>
      if machine.soc.eventBits &&& socEventVSync = 0 then
        .ok { s with machine := { machine with soc := (machine.soc.processEvents []).2 } }
      else handOver syncVideo machine.soc.ppu.screen.rt { s with machine, emu := .polling [] }
  | .polling _ | .exited | .dead _ => .error .blocked

/-- `try_recv` in `input_update`, and what follows when there is nothing left. -/
def takeInput (s : Session) : Except Stop Session :=
  match s.emu with
  | .polling got =>
    match s.inputs.receive with
    | some (input, inputs) => .ok { s with inputs, emu := .polling (got ++ [input]) }
    | none =>
      let (exit, soc) := s.machine.soc.processEvents got
      .ok { s with
        machine := { s.machine with soc }
        emu := if exit then .exited else .running
        log.inputsApplied := s.log.inputsApplied ++ got }
  | .running | .exited | .dead _ => .error .blocked

/-! ### The window thread -/

/-- An event of the event loop. Dropping a file loads it, once the emulator has come to its end; on
`Quit` the main function returns, and does not wait for the emulator. -/
def handleEvent (event : Event) (s : Session) : Except Stop Session :=
  match s.ui with
  | .polling [] =>
    match event with
    | .dropFile _ => .ok { s with ui := .joining, receiver := false }
    | .quit => .ok { s with ui := .left, receiver := false }
    | event => .ok { s with ui := .polling event.sends }
  | .polling (_ :: _) | .receiving | .joining | .left | .dead => .error .blocked

/-- `input_send.send(..).unwrap()` -/
def sendInput (s : Session) : Except Stop Session :=
  match s.ui with
  | .polling (input :: pending) =>
    if s.emu.gone then .ok { s with ui := .dead, receiver := false }
    else match s.inputs.send input with
      | some inputs => .ok { s with
          inputs, ui := .polling pending, log.inputsSent := s.log.inputsSent ++ [input]
          log.batch := s.log.batch + 1 }
      | none => .error .blocked
  | .polling [] | .receiving | .joining | .left | .dead => .error .blocked

/-- The event queue is empty. -/
def awaitFrame (s : Session) : Except Stop Session :=
  match s.ui with
  | .polling [] => .ok { s with ui := .receiving }
  | .polling (_ :: _) | .receiving | .joining | .left | .dead => .error .blocked

/-- `frame_recv.recv()`, and the next turn of the loop. It never fails: the main thread keeps a
sender of its own. -/
def receiveFrame (s : Session) : Except Stop Session :=
  match s.ui with
  | .receiving =>
    match s.frames.receive with
    | some (rt, frames) => .ok { s with
        frames, ui := .polling [], log.framesShown := s.log.framesShown ++ [rt], log.batch := 0 }
    | none => .error .blocked
  | .polling _ | .joining | .left | .dead => .error .blocked

/-- `ctx.handle.join()`, whose result is ignored. -/
def join (s : Session) : Except Stop Session :=
  match s.ui with
  | .joining => if s.emu.gone then .ok { s with ui := .left } else .error .blocked
  | .polling _ | .receiving | .left | .dead => .error .blocked

/-! ### Interleavings -/

/-- What can happen next. -/
inductive Action
  | emulate
  | takeInput
  | event (event : Event)
  | sendInput
  | awaitFrame
  | receiveFrame
  | join
  deriving DecidableEq

def step (lastPicture : Machine → Option FrameBuffer) (syncVideo : Bool) :
    Action → Session → Except Stop Session
  | .emulate, s => s.emulate lastPicture syncVideo
  | .takeInput, s => s.takeInput
  | .event event, s => s.handleEvent event
  | .sendInput, s => s.sendInput
  | .awaitFrame, s => s.awaitFrame
  | .receiveFrame, s => s.receiveFrame
  | .join, s => s.join

/-- What the main program boots: it takes the pictures, and sets no cycle limit. -/
def Boots (machine : Machine) : Prop :=
  ∃ cartridge config, config.frameChan = .connected ∧ config.maxCycles = none ∧
    Gameboy.boot cartridge config = .ok machine

/-- The sessions of the main program with a cartridge. -/
def Starts (s : Session) : Prop := ∃ machine, Boots machine ∧ s = start machine

/-- What any interleaving of the two threads can lead to. -/
abbrev Reachable (lastPicture : Machine → Option FrameBuffer) (syncVideo : Bool) :
    Session → Prop :=
  Machine.Reachable Starts (step lastPicture syncVideo)

/-- A host that delivers at most `limit` button events between two pictures. -/
def pacedStep (lastPicture : Machine → Option FrameBuffer) (limit : ℕ) (syncVideo : Bool)
    (action : Action) (s : Session) : Except Stop Session :=
  match action with
  | .event event =>
    if s.log.batch + event.sends.length ≤ limit then step lastPicture syncVideo (.event event) s
    else .error .blocked
  | action => step lastPicture syncVideo action s

abbrev Paced (lastPicture : Machine → Option FrameBuffer) (limit : ℕ) (syncVideo : Bool) :
    Session → Prop :=
  Machine.Reachable Starts (pacedStep lastPicture limit syncVideo)

end Session

end ZenithGb
