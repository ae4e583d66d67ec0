import Mathlib.Data.List.ReduceOption
import ZenithGb.Apu.Output
import ZenithGb.Lib.Channel

/-!
# The sound of a session: the emulator thread and the audio device

`sample_audio` hands a batch over to `GbAudio::callback`, which runs on a thread of the audio
device. They share a channel for one batch. With `sync_audio` the emulator waits until there is room
for the next batch, and that is what keeps it at the speed of the hardware; otherwise a batch that
finds no room is dropped. A callback waits for a batch for 15 milliseconds, and then plays silence.
Time is left out: a callback that waits may give up whenever there is no batch.

The conversion of the bytes to `i16` is SDL's, and a parameter here. That it gives one sample for
each byte is what the source asserts, and what a conversion between two formats of the same rate and
the same number of channels does.

`AudioLog` is not part of the program: it records what was done and what went through the channel.

## Main results

* `Playback.audio_stream` — what is played is what the sound unit makes, in order
* `Playback.audio_flows` — the emulator waits for the device only, and for one callback at most
* `Playback.exists_blocked` — with `sync_audio` it does come to wait
-/

namespace ZenithGb

open Outcome Sampling

/-- What the host sets up. -/
structure AudioConfig where
  syncAudio : Bool
  /-- SDL's conversion from `S8` to `S16`. -/
  cvt : List UInt8 → List Int16

structure AudioLog where
  /-- The operations of the sound unit. -/
  ops : List Apu.Op
  /-- The batches that were complete. -/
  batches : List (List UInt8)
  /-- What each callback took from the channel. -/
  callbacks : List (Option (List Int16))

/-- Where the thread of the audio device is. -/
inductive AudioDevice
  /-- Between two callbacks. -/
  | idle
  /-- In `recv_timeout`. -/
  | waiting
  deriving DecidableEq

structure Playback where
  player : Player
  chan : Channel 1 (List Int16)
  device : AudioDevice
  log : AudioLog

namespace Playback

/-- Why a thread does not go on. -/
inductive Stop
  | blocked
  /-- The emulator thread panics. -/
  | emulator (p : Panic)
  /-- The callback panics. -/
  | device
  deriving DecidableEq

def start (ctx : GbCtx) : Playback :=
  { player := .new ctx, chan := .empty, device := .idle, log := ⟨[], [], []⟩ }

/-! ### The emulator thread -/

/-- `convert_u8_i16` -/
def convertU8I16 (c : AudioConfig) (src : List UInt8) : Checked (List Int16) := do
  let convertedAudio := c.cvt src
  assert .apuSample (convertedAudio.length = apuSamples)
  return convertedAudio

/-- The end of `sample_audio`. -/
def sendBatch (c : AudioConfig) (s : Playback) (batch : List UInt8) : Except Stop Playback :=
  let s := { s with log.batches := s.log.batches ++ [batch] }
  match convertU8I16 c batch with
  | .error p => .error (.emulator p)
  | .ok cvtAudio =>
    match s.chan.send cvtAudio with
    | some chan => .ok { s with chan }
    | none => if c.syncAudio then .error .blocked else .ok s

/-- An operation of the sound unit. -/
def perform (c : AudioConfig) (op : Apu.Op) (s : Playback) : Except Stop Playback :=
  match Player.step op s.player with
  | .error p => .error (.emulator p)
  | .ok (player, batches) =>
    batches.foldlM (sendBatch c) { s with player, log.ops := s.log.ops ++ [op] }

/-! ### The audio device -/

/-- `GbAudio::callback` is called. -/
def callback (s : Playback) : Except Stop Playback :=
  match s.device with
  | .idle => .ok { s with device := .waiting }
  | .waiting => .error .blocked

/-- A batch arrives in time, for an output of the length the device was opened with. -/
def receive (s : Playback) : Except Stop Playback :=
  match s.device with
  | .waiting =>
    match s.chan.receive with
    | some (samples, chan) =>
      if samples.length = apuSamples then
        .ok { s with chan, device := .idle, log.callbacks := s.log.callbacks ++ [some samples] }
      else .error .device
    | none => .error .blocked
  | .idle => .error .blocked

/-- The 15 milliseconds are over, and there is no batch. -/
def timeout (s : Playback) : Except Stop Playback :=
  match s.device with
  | .waiting =>
    match s.chan.receive with
    | some _ => .error .blocked
    | none => .ok { s with device := .idle, log.callbacks := s.log.callbacks ++ [none] }
  | .idle => .error .blocked

/-- What is heard: a callback that got nothing plays `SILENCE`. -/
def heard (s : Playback) : List Int16 :=
  s.log.callbacks.flatMap (·.getD (List.replicate apuSamples 0))

/-! ### Interleavings -/

inductive Action
  | apu (op : Apu.Op)
  | callback
  | receive
  | timeout
  deriving DecidableEq

def step (c : AudioConfig) : Action → Playback → Except Stop Playback
  | .apu op, s => perform c op s
  | .callback, s => s.callback
  | .receive, s => s.receive
  | .timeout, s => s.timeout

/-- What any interleaving of the two threads can lead to. -/
abbrev Reachable (c : AudioConfig) (ctx : GbCtx) : Playback → Prop :=
  Machine.Reachable (fun s => s = start ctx) (step c)

/-! ### The stream -/

variable {c : AudioConfig} {ctx : GbCtx} {s s' : Playback}

/-- The stream is in the batches, and the batches go through the channel. -/
structure Streams (c : AudioConfig) (ctx : GbCtx) (s : Playback) : Prop where
  apu : Machine.exec Apu.step s.log.ops (Apu.new ctx) = .ok s.player.apu
  ticks : s.player.ticks.length = (s.log.ops.map Player.tCycles).sum
  keeps : s.player.Keeps s.log.batches
  chan : (s.log.callbacks.reduceOption ++ s.chan.queue).Sublist (s.log.batches.map c.cvt)
  sync : c.syncAudio = true →
    s.log.batches.map c.cvt = s.log.callbacks.reduceOption ++ s.chan.queue

theorem streams_start : Streams c ctx (start ctx) where
  apu := rfl
  ticks := rfl
  keeps := Player.new_keeps ctx
  chan := List.Sublist.refl []
  sync := fun _ => rfl

/-- What is waiting in the channel has the length of a batch. -/
theorem Streams.length (hcvt : ∀ src, (c.cvt src).length = src.length) (h : Streams c ctx s)
    {samples : List Int16} (hsamples : samples ∈ s.chan.queue) : samples.length = apuSamples := by
  obtain ⟨batch, hbatch, rfl⟩ :=
    List.mem_map.mp (h.chan.subset (List.mem_append_right _ hsamples))
  rw [hcvt]
  exact h.keeps.batched.batch batch hbatch

/-- A batch is sent, or has to wait. -/
theorem sendBatch_eq (hcvt : ∀ src, (c.cvt src).length = src.length) (s : Playback)
    {batch : List UInt8} (hbatch : batch.length = apuSamples) :
    sendBatch c s batch =
      match s.chan.send (c.cvt batch) with
      | some chan => .ok { s with chan, log.batches := s.log.batches ++ [batch] }
      | none => if c.syncAudio then .error .blocked
        else .ok { s with log.batches := s.log.batches ++ [batch] } := by
  have hconvert : convertU8I16 c batch = .ok (c.cvt batch) := by
    rw [convertU8I16, assert_of _ ((hcvt batch).trans hbatch)]
    rfl
  rw [sendBatch]
  dsimp only
  rw [hconvert]

theorem tCycles_le (op : Apu.Op) : Player.tCycles op ≤ 4 := by
  cases op with
  | clock => exact Nat.le_refl 4
  | write | read | writeWaveRam | readWaveRam => exact Nat.zero_le 4

/-- The sound unit has performed one operation more, and its batches, if any, are complete. -/
theorem Streams.performed (h : Streams c ctx s) {op : Apu.Op} {player : Player}
    {out : List (List UInt8)}
    (hfollows : Player.Follows (Apu.step op s.player.apu)
      (s.player.ticks.length + Player.tCycles op) s.log.batches (player, out))
    {chan : Channel 1 (List Int16)}
    (hchan : (s.log.callbacks.reduceOption ++ chan.queue).Sublist
      ((s.log.batches ++ out).map c.cvt))
    (hsync : c.syncAudio = true →
      (s.log.batches ++ out).map c.cvt = s.log.callbacks.reduceOption ++ chan.queue) :
    Streams c ctx
      ⟨player, chan, s.device, ⟨s.log.ops ++ [op], s.log.batches ++ out, s.log.callbacks⟩⟩ where
  apu := by
    rw [Machine.exec_append, h.apu, ok_bind, Machine.exec_cons, hfollows.apu]
    rfl
  ticks := by
    rw [List.map_append, List.sum_append, ← h.ticks]
    exact hfollows.ticks
  keeps := hfollows.keeps
  chan := hchan
  sync := hsync

/-- What an operation of the emulator thread does not touch, and what it records. -/
structure Performed (op : Apu.Op) (s s' : Playback) : Prop where
  device : s'.device = s.device
  ops : s'.log.ops = s.log.ops ++ [op]
  callbacks : s'.log.callbacks = s.log.callbacks

/-- **The emulator thread.** An operation goes on with the stream, or waits. -/
theorem Streams.perform (hcvt : ∀ src, (c.cvt src).length = src.length) (h : Streams c ctx s)
    (op : Apu.Op) :
    Meets (perform c op s) (fun s' => Streams c ctx s' ∧ Performed op s s') (· = .blocked) := by
  obtain ⟨⟨player, out⟩, hstep, hfollows⟩ := (Player.step_keeps h.keeps op).exists_ok
  have hone := hfollows.length_le h.keeps (tCycles_le op)
  rw [Playback.perform, hstep]
  dsimp only
  cases out with
  | nil =>
    have hchan : (s.log.callbacks.reduceOption ++ s.chan.queue).Sublist
        ((s.log.batches ++ []).map c.cvt) := by simpa using h.chan
    have hdone := h.performed hfollows hchan (by simpa using h.sync)
    rw [List.append_nil] at hdone
    exact ⟨hdone, rfl, rfl, rfl⟩
  | cons batch rest =>
    obtain rfl : rest = [] := List.length_eq_zero_iff.mp (by simpa using hone)
    have hbatch : batch.length = apuSamples := hfollows.keeps.batched.batch batch (by simp)
    have hmap : (s.log.batches ++ [batch]).map c.cvt = s.log.batches.map c.cvt ++ [c.cvt batch] :=
      List.map_append
    rw [List.foldlM_cons, sendBatch_eq hcvt _ hbatch]
    cases hsend : s.chan.send (c.cvt batch) with
    | some chan =>
      have hqueue := (Channel.send_eq_some.mp hsend).2
      refine ⟨h.performed hfollows ?_ fun hsync => ?_, rfl, rfl, rfl⟩
      · rw [hmap, hqueue, ← List.append_assoc]
        exact h.chan.append_right _
      · rw [hmap, hqueue, h.sync hsync, List.append_assoc]
    | none =>
      cases hsync : c.syncAudio with
      | true => rfl
      | false =>
        refine ⟨h.performed hfollows ?_ fun hsync' => ?_, rfl, rfl, rfl⟩
        · rw [hmap]
          exact h.chan.trans (List.sublist_append_left _ _)
        · rw [hsync] at hsync'
          cases hsync'

/-- The device is called, or waits for a batch, and nothing else changes. -/
theorem Streams.withDevice (h : Streams c ctx s) (device : AudioDevice) :
    Streams c ctx { s with device } :=
  ⟨h.apu, h.ticks, h.keeps, h.chan, h.sync⟩

/-- **The audio device** takes the batch that waits. -/
theorem Streams.receive (hcvt : ∀ src, (c.cvt src).length = src.length) (h : Streams c ctx s)
    (hdevice : s.device = .waiting) (hfull : s.chan.queue ≠ []) :
    ∃ s', s.receive = .ok s' ∧ Streams c ctx s' ∧ s'.player = s.player ∧ s'.device = .idle ∧
      s'.chan.queue = [] ∧ s'.log.batches = s.log.batches ∧
      s'.log.callbacks = s.log.callbacks ++ s.chan.queue.map some := by
  rw [Playback.receive, hdevice]
  dsimp only
  cases hreceive : s.chan.receive with
  | none => exact absurd (Channel.receive_eq_none.mp hreceive) hfull
  | some received =>
    obtain ⟨samples, chan⟩ := received
    have hqueue := Channel.receive_eq_some.mp hreceive
    have hlength : samples.length = apuSamples :=
      h.length hcvt (by rw [hqueue]; exact List.mem_cons_self)
    have hempty : chan.queue = [] := by
      have hbounded := s.chan.bounded
      rw [hqueue, List.length_cons] at hbounded
      exact List.length_eq_zero_iff.mp (by omega)
    have hsome : (s.log.callbacks ++ [some samples]).reduceOption ++ chan.queue =
        s.log.callbacks.reduceOption ++ s.chan.queue := by
      rw [List.reduceOption_append, hqueue, List.append_assoc]
      rfl
    dsimp only
    rw [if_pos hlength]
    refine ⟨_, rfl, ⟨h.apu, h.ticks, h.keeps, ?_, ?_⟩, rfl, rfl, hempty, rfl, ?_⟩
    · rw [hsome]
      exact h.chan
    · rw [hsome]
      exact h.sync
    · rw [hqueue, hempty]
      rfl

/-- Without a batch it gives up. -/
theorem Streams.timeout (h : Streams c ctx s) (hdevice : s.device = .waiting)
    (hempty : s.chan.queue = []) :
    ∃ s', s.timeout = .ok s' ∧ Streams c ctx s' ∧ s'.device = .idle := by
  rw [Playback.timeout, hdevice]
  dsimp only
  rw [Channel.receive_eq_none.mpr hempty]
  have hnone : (s.log.callbacks ++ [none]).reduceOption = s.log.callbacks.reduceOption := by
    rw [List.reduceOption_append]
    exact List.append_nil _
  refine ⟨_, rfl, ⟨h.apu, h.ticks, h.keeps, ?_, ?_⟩, rfl⟩
  · rw [hnone]
    exact h.chan
  · rw [hnone]
    exact h.sync

theorem Streams.step (hcvt : ∀ src, (c.cvt src).length = src.length) (h : Streams c ctx s)
    (action : Action) : Meets (step c action s) (Streams c ctx) (· = .blocked) := by
  cases action with
  | apu op => exact (h.perform hcvt op).imp fun _ => And.left
  | callback =>
    rw [Playback.step, Playback.callback]
    cases s.device with
    | idle => exact h.withDevice .waiting
    | waiting => rfl
  | receive =>
    cases hdevice : s.device with
    | idle =>
      rw [Playback.step, Playback.receive, hdevice]
      rfl
    | waiting =>
      by_cases hempty : s.chan.queue = []
      · rw [Playback.step, Playback.receive, hdevice]
        dsimp only
        rw [Channel.receive_eq_none.mpr hempty]
        rfl
      · obtain ⟨s', hs', hstreams, -⟩ := h.receive hcvt hdevice hempty
        rw [Playback.step, hs']
        exact hstreams
  | timeout =>
    cases hdevice : s.device with
    | idle =>
      rw [Playback.step, Playback.timeout, hdevice]
      rfl
    | waiting =>
      by_cases hempty : s.chan.queue = []
      · obtain ⟨s', hs', hstreams, -⟩ := h.timeout hdevice hempty
        rw [Playback.step, hs']
        exact hstreams
      · rw [Playback.step, Playback.timeout, hdevice]
        dsimp only
        cases hreceive : s.chan.receive with
        | none => exact absurd (Channel.receive_eq_none.mp hreceive) hempty
        | some next => rfl

theorem Reachable.streams (hcvt : ∀ src, (c.cvt src).length = src.length)
    (h : Reachable c ctx s) : Streams c ctx s := by
  refine Machine.Reachable.induction ?_ (fun action _ _ hs hstep =>
    (hs.step hcvt action).of_ok hstep) h
  rintro _ rfl
  exact streams_start

/-- What an operation of the emulator thread waits for. -/
theorem Streams.waits (hcvt : ∀ src, (c.cvt src).length = src.length) (h : Streams c ctx s)
    {op : Apu.Op} (hblocked : Playback.perform c op s = .error .blocked) :
    c.syncAudio = true ∧ s.chan.queue.length = 1 := by
  obtain ⟨⟨player, out⟩, hstep, hfollows⟩ := (Player.step_keeps h.keeps op).exists_ok
  have hone := hfollows.length_le h.keeps (tCycles_le op)
  rw [Playback.perform, hstep] at hblocked
  dsimp only at hblocked
  cases out with
  | nil => cases hblocked
  | cons batch rest =>
    obtain rfl : rest = [] := List.length_eq_zero_iff.mp (by simpa using hone)
    have hbatch : batch.length = apuSamples := hfollows.keeps.batched.batch batch (by simp)
    rw [List.foldlM_cons, sendBatch_eq hcvt _ hbatch] at hblocked
    cases hsend : s.chan.send (c.cvt batch) with
    | some chan =>
      dsimp only at hblocked
      rw [hsend] at hblocked
      cases hblocked
    | none =>
      refine ⟨?_, Channel.send_eq_none.mp hsend⟩
      dsimp only at hblocked
      rw [hsend] at hblocked
      cases hsync : c.syncAudio with
      | true => rfl
      | false =>
        rw [hsync] at hblocked
        cases hblocked

/-- The bytes as signed numbers, at the scale of sixteen bits. -/
def signedAudio : AudioConfig :=
  ⟨true, fun src => src.map fun byte => Int16.ofInt (byte.toInt8.toInt * 256)⟩

theorem signedAudio_length (src : List UInt8) : (signedAudio.cvt src).length = src.length :=
  List.length_map _

/-- With `sync_audio` and nothing taken, one batch at most is complete. -/
theorem Streams.ticks_lt (h : Streams c ctx s) (hsync : c.syncAudio = true)
    (hnone : s.log.callbacks = []) : s.player.ticks.length < 95 * apuSamples := by
  have hbatches : s.log.batches.map c.cvt = s.chan.queue := by
    rw [h.sync hsync, hnone]
    rfl
  have hone : s.log.batches.length ≤ 1 := by
    rw [← List.length_map (f := c.cvt), hbatches]
    exact s.chan.bounded
  have hlength := h.keeps.length
  have hroom := h.keeps.batched.buffer
  have hle : s.log.batches.length * apuSamples ≤ 1 * apuSamples := Nat.mul_le_mul_right _ hone
  omega

/-- **Waiting.** With `sync_audio`, an emulator that goes on while nothing is taken comes to a batch
that it cannot send. -/
theorem exists_blocked (hcvt : ∀ src, (c.cvt src).length = src.length) (hsync : c.syncAudio = true)
    (n : ℕ) : ∀ {s : Playback}, Reachable c ctx s → s.log.callbacks = [] →
      95 * apuSamples ≤ s.player.ticks.length + 4 * n →
      ∃ t, Reachable c ctx t ∧ t.log.callbacks = [] ∧ t.device = s.device ∧
        step c (.apu .clock) t = .error .blocked := by
  induction n with
  | zero =>
    intro s h hnone hticks
    have hlt := (h.streams hcvt).ticks_lt hsync hnone
    omega
  | succ n ih =>
    intro s h hnone hticks
    have hs := h.streams hcvt
    have hmeets := hs.perform hcvt .clock
    cases hstep : Playback.perform c .clock s with
    | error e =>
      obtain rfl : e = .blocked := hmeets.of_error hstep
      exact ⟨s, h, hnone, rfl, hstep⟩
    | ok s' =>
      obtain ⟨hs', hperformed⟩ := hmeets.of_ok hstep
      have hgrown : s'.player.ticks.length = s.player.ticks.length + 4 := by
        rw [hs'.ticks, hs.ticks, hperformed.ops, List.map_append, List.sum_append]
        rfl
      obtain ⟨t, ht, hnone', hdevice, hblocked⟩ := ih (h.step (.apu .clock) hstep)
        (hperformed.callbacks.trans hnone) (by omega)
      exact ⟨t, ht, hnone', hdevice.trans hperformed.device, hblocked⟩

/-- Channel 1 is switched on, at full volume on both sides. -/
def channelOn : List Action :=
  [.apu (.write .nr52 0x80), .apu (.write .nr50 0x77), .apu (.write .nr51 0xFF),
    .apu (.write .nr12 0xF0), .apu (.write .nr14 0x87)]

/-- With the channel on, the emulator comes to wait for the device. -/
theorem exists_blocked_channelOn : ∃ s batch, Reachable signedAudio (.ofMode .modeCgb) s ∧
    step signedAudio (.apu .clock) s = .error .blocked ∧ s.device = .idle ∧
    s.log.callbacks = [] ∧ s.log.batches = [batch] ∧
    s.chan.queue = [signedAudio.cvt batch] := by
  obtain ⟨s0, hon⟩ := exists_of_isOk
    (x := Machine.exec (step signedAudio) channelOn (start (.ofMode .modeCgb))) (by decide +kernel)
  have hchecks : (Machine.exec (step signedAudio) channelOn
      (start (.ofMode .modeCgb))).toOption.map (fun s => (s.log.callbacks, s.device)) =
      some ([], .idle) := by decide +kernel
  rw [hon] at hchecks
  simp only [Except.toOption, Option.map_some, Option.some.injEq, Prod.mk.injEq] at hchecks
  have hstart : Reachable signedAudio (.ofMode .modeCgb) (start (.ofMode .modeCgb)) := .start rfl
  obtain ⟨s, hreach, hnone, hdevice, hblocked⟩ := exists_blocked signedAudio_length rfl
    (95 * apuSamples) (hstart.exec hon) hchecks.1 (by omega)
  have hs := hreach.streams signedAudio_length
  have hqueue : s.log.batches.map signedAudio.cvt = s.chan.queue := by
    rw [hs.sync rfl, hnone]
    rfl
  obtain ⟨-, hfull⟩ := hs.waits signedAudio_length hblocked
  obtain ⟨batch, hbatch⟩ : ∃ batch, s.log.batches = [batch] := by
    refine List.length_eq_one_iff.mp ?_
    rw [← List.length_map (f := signedAudio.cvt), hqueue, hfull]
  refine ⟨s, batch, hreach, hblocked, hdevice.trans hchecks.2, hnone, hbatch, ?_⟩
  rw [← hqueue, hbatch]
  rfl

/-! ### The two threads -/

/-- **The stream.** In any interleaving of the two threads, the sound unit is in the state that its
operations lead to by themselves. Every 95 T-cycles it gives a left and a right byte, the four
channels mixed, and these bytes are, in order, in the batches of 8192 so far and in the buffer. With
`sync_audio` every batch was played or is waiting to be, in order; otherwise some were dropped
whole. Neither thread panics. -/
theorem audio_stream (hcvt : ∀ src, (c.cvt src).length = src.length) (h : Reachable c ctx s) :
    Machine.exec Apu.step s.log.ops (Apu.new ctx) = .ok s.player.apu ∧
    s.player.ticks.length = (s.log.ops.map Player.tCycles).sum ∧
    s.log.batches.flatten ++ s.player.sampleBuffer =
      (everyNth 95 s.player.ticks).flatMap Apu.stereo ∧
    (∀ batch ∈ s.log.batches, batch.length = 8192) ∧ s.player.sampleBuffer.length < 8192 ∧
    (s.log.callbacks.reduceOption ++ s.chan.queue).Sublist (s.log.batches.map c.cvt) ∧
    (c.syncAudio = true →
      s.log.batches.map c.cvt = s.log.callbacks.reduceOption ++ s.chan.queue) ∧
    ∀ action e, step c action s = .error e → e = .blocked := by
  have hs := h.streams hcvt
  have hbatched := hs.keeps.batched
  exact ⟨hs.apu, hs.ticks, hbatched.all, hbatched.batch, hbatched.buffer, hs.chan, hs.sync,
    fun action e he => (hs.step hcvt action).of_error he⟩

/-- The batch that waits is played. -/
theorem audio_stream_played : ∃ s batch, Reachable signedAudio (.ofMode .modeCgb) s ∧
    batch.length = 8192 ∧ s.heard = signedAudio.cvt batch ∧
    batch ++ s.player.sampleBuffer = (everyNth 95 s.player.ticks).flatMap Apu.stereo := by
  obtain ⟨s, batch, hreach, -, hdevice, hnone, hbatch, hqueue⟩ := exists_blocked_channelOn
  have hcall : step signedAudio .callback s = .ok { s with device := .waiting } := by
    rw [step, callback, hdevice]
  have hcalled : Reachable signedAudio (.ofMode .modeCgb) { s with device := .waiting } :=
    hreach.step _ hcall
  have hstreams := hcalled.streams signedAudio_length
  obtain ⟨s', hs', -, hplayer, -, -, hbatches, hcallbacks⟩ :=
    hstreams.receive signedAudio_length rfl (by rw [hqueue]; exact List.cons_ne_nil _ _)
  have hplayed : Reachable signedAudio (.ofMode .modeCgb) s' := hcalled.step .receive hs'
  obtain ⟨-, -, hall, hlength, -⟩ := audio_stream signedAudio_length hplayed
  have hone : s'.log.batches = [batch] := hbatches.trans hbatch
  have hheard : s'.log.callbacks = [some (signedAudio.cvt batch)] := by
    rw [hcallbacks]
    show s.log.callbacks ++ s.chan.queue.map some = _
    rw [hnone, hqueue]
    rfl
  rw [hone] at hall hlength
  refine ⟨s', batch, hplayed, hlength batch List.mem_cons_self, ?_, ?_⟩
  · rw [heard, hheard]
    exact List.append_nil _
  · rwa [List.flatten_cons, List.flatten_nil, List.append_nil] at hall

/-- What the device does to take the batch that waits. -/
def taking (s : Playback) : List Action :=
  match s.device with
  | .idle => [.callback, .receive]
  | .waiting => [.receive]

theorem Streams.taking (hcvt : ∀ src, (c.cvt src).length = src.length) (h : Streams c ctx s)
    (hfull : s.chan.queue ≠ []) : ∃ s', Machine.exec (Playback.step c) s.taking s = .ok s' ∧
      Streams c ctx s' ∧ s'.player = s.player ∧ s'.chan.queue = [] := by
  cases hdevice : s.device with
  | waiting =>
    obtain ⟨s', hs', hstreams, hplayer, -, hempty, -⟩ := h.receive hcvt hdevice hfull
    refine ⟨s', ?_, hstreams, hplayer, hempty⟩
    rw [Playback.taking, hdevice]
    dsimp only
    rw [Machine.exec_singleton]
    exact hs'
  | idle =>
    obtain ⟨s', hs', hstreams, hplayer, -, hempty, -⟩ :=
      (h.withDevice .waiting).receive hcvt rfl hfull
    have hcall : Playback.step c .callback s = .ok { s with device := .waiting } := by
      rw [Playback.step, Playback.callback, hdevice]
    refine ⟨s', ?_, hstreams, hplayer, hempty⟩
    rw [Playback.taking, hdevice]
    dsimp only
    rw [Machine.exec_cons, hcall, ok_bind, Machine.exec_singleton]
    exact hs'

/-- **The flow.** A callback can always begin, and one that waits takes the batch there is or gives
up; the emulator thread waits only with `sync_audio`, for a batch that has not been taken; then the
device can take it, and the emulator goes on. -/
theorem audio_flows (hcvt : ∀ src, (c.cvt src).length = src.length) (h : Reachable c ctx s) :
    (s.device = .idle → ∃ s', step c .callback s = .ok s' ∧ s'.device = .waiting) ∧
    (s.device = .waiting → ∃ s', s'.device = .idle ∧
      (s.chan.queue ≠ [] ∧ step c .receive s = .ok s' ∨
        s.chan.queue = [] ∧ step c .timeout s = .ok s')) ∧
    ∀ op, step c (.apu op) s = .error .blocked →
      c.syncAudio = true ∧ s.chan.queue.length = 1 ∧
        ∃ s' s'', Machine.exec (step c) s.taking s = .ok s' ∧ step c (.apu op) s' = .ok s'' := by
  have hs := h.streams hcvt
  refine ⟨fun hidle => ?_, fun hwaiting => ?_, fun op hblocked => ?_⟩
  · refine ⟨{ s with device := .waiting }, ?_, rfl⟩
    rw [step, callback, hidle]
  · by_cases hempty : s.chan.queue = []
    · obtain ⟨s', hs', -, hidle⟩ := hs.timeout hwaiting hempty
      exact ⟨s', hidle, .inr ⟨hempty, hs'⟩⟩
    · obtain ⟨s', hs', -, -, hidle, -⟩ := hs.receive hcvt hwaiting hempty
      exact ⟨s', hidle, .inl ⟨hempty, hs'⟩⟩
  · obtain ⟨hsync, hfull⟩ := hs.waits hcvt hblocked
    have hsome : s.chan.queue ≠ [] := by
      intro hempty
      rw [hempty] at hfull
      cases hfull
    obtain ⟨s', hs', hstreams, -, hempty⟩ := hs.taking hcvt hsome
    refine ⟨hsync, hfull, s', ?_⟩
    cases hagain : step c (.apu op) s' with
    | ok s'' => exact ⟨s'', hs', rfl⟩
    | error e =>
      obtain rfl : e = .blocked := (hstreams.perform hcvt op).of_error hagain
      have hwaits := (hstreams.waits hcvt hagain).2
      rw [hempty] at hwaits
      cases hwaits

/-- The emulator waits with its second batch, and goes on when the first one is taken. -/
theorem audio_flows_blocked : ∃ s s' s'', Reachable signedAudio (.ofMode .modeCgb) s ∧
    step signedAudio (.apu .clock) s = .error .blocked ∧ s.chan.queue.length = 1 ∧
    Machine.exec (step signedAudio) [.callback, .receive] s = .ok s' ∧
    step signedAudio (.apu .clock) s' = .ok s'' := by
  obtain ⟨s, batch, hreach, hblocked, hdevice, -⟩ := exists_blocked_channelOn
  obtain ⟨-, hfull, s', s'', htaken, hagain⟩ :=
    (audio_flows signedAudio_length hreach).2.2 .clock hblocked
  rw [taking, hdevice] at htaken
  exact ⟨s, s', s'', hreach, hblocked, hfull, htaken, hagain⟩

end Playback

end ZenithGb
