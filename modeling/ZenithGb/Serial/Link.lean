import ZenithGb.Serial.PrintJob
import ZenithGb.Serial.Transfer

/-!
# The link to the printer

To a program the serial port is a few registers and a wait: it writes the byte to SB, starts the
transfer, waits until it is over and finds the reply in SB. To the printer it is a sequence of
bytes, each answered at once. This file says that these are the same: the port, driven that way, is
a channel that neither loses, changes nor repeats a byte in either direction, however long the
program waits beyond the nine clocks of a transfer. So a program can print through it.

## Main results

* `Serial.send_of_exchange` — one byte
* `Serial.sends_refine` — any number of them, up to the first one the printer panics on
* `Serial.jobs_sent` — print jobs
-/

namespace ZenithGb

open Outcome

namespace Serial

variable {s : Serial}

/-- A byte to send, and the clocks the program waits after the transfer is over. -/
structure Send where
  byte : UInt8
  wait : ℕ

/-- What the program does to send a byte. -/
def Send.ops (x : Send) : List Op :=
  [.writeSb x.byte, .writeSc 0x81] ++ (List.replicate 9 .clock ++ List.replicate x.wait .clock)

/-- It sends the byte and reads the reply; the replies are collected. -/
def send (x : Send) (y : Serial × List (Option UInt8)) :
    Checked (Serial × List (Option UInt8)) := do
  let r ← Machine.exec step x.ops (y.1, [])
  return (r.1, y.2 ++ [some r.1.readSb])

/-- A port without a transfer waits. -/
theorem exec_idle (h : ¬ s.Enabled) (n : ℕ) : ∀ log : List UInt8, ∃ log',
    Machine.exec step (List.replicate n .clock) (s, log) = .ok (s, log') := by
  induction n with
  | zero => exact fun log => ⟨log, rfl⟩
  | succ n ih =>
    intro log
    obtain ⟨log', hrest⟩ := ih (log ++ [0])
    refine ⟨log', ?_⟩
    rw [List.replicate_succ, Machine.exec_cons, step, clock_idle h]
    exact hrest

/-- The port when a byte has been written and the transfer has been started. -/
def started (s : Serial) (byte : UInt8) : Serial := (s.writeSb byte).writeSc 0x81

theorem enabled_started (s : Serial) (byte : UInt8) : (s.started byte).Enabled :=
  ⟨(by decide : ((0x81 : UInt8) &&& 0x80 != 0) = true),
    (by decide : ((0x81 : UInt8) &&& 0x1 != 0) = true)⟩

theorem exec_ops (s : Serial) (x : Send) : Machine.exec step x.ops (s, []) =
    Machine.exec step (List.replicate 9 .clock ++ List.replicate x.wait .clock)
      (s.started x.byte, []) := rfl

variable {p : Printer} {rs rs' : List (Option UInt8)} {x : Send}

/-- **One byte** goes to the printer, and its reply comes back. -/
theorem send_of_exchange (h0 : s.shiftCounter = 0)
    (h : Printer.exchange x.byte (s.printer, rs) = .ok (p, rs')) :
    ∃ s', send x (s, rs) = .ok (s', rs') ∧ s'.printer = p ∧ s'.shiftCounter = 0 := by
  obtain ⟨q, hsend, htake⟩ := bind_eq_ok.mp h
  cases htake
  obtain ⟨reply, hreply⟩ := Printer.output_of_sendByte hsend
  have hexec := exec_nine (s.enabled_started x.byte) h0 hsend hreply []
  obtain ⟨log, hidle⟩ := exec_idle
    (s := (((s.started x.byte).transferring q reply reply 8).finishTransmission ⟨0, 0⟩).1)
    (fun henabled => Bool.false_ne_true henabled.1) x.wait
    ([] ++ (List.replicate 8 0 ++ [interruptBitSerial]))
  refine ⟨(((s.started x.byte).transferring q reply reply 8).finishTransmission ⟨0, 0⟩).1, ?_, rfl,
    rfl⟩
  rw [send, exec_ops, Machine.exec_append, hexec, ok_bind, hidle]
  show Except.ok (_, rs ++ [some reply]) = Except.ok (_, rs ++ [q.output])
  rw [hreply]

/-- A byte the printer panics on is one the port panics on. -/
theorem send_of_exchange_error (h0 : s.shiftCounter = 0) {e : Panic}
    (h : Printer.exchange x.byte (s.printer, rs) = .error e) : send x (s, rs) = .error e := by
  have hsend : s.printer.sendByte x.byte = .error e := by
    cases hsend : s.printer.sendByte x.byte with
    | error e' =>
      rw [Printer.exchange, hsend] at h
      cases h
      rfl
    | ok q =>
      rw [Printer.exchange, hsend] at h
      cases h
  have hclock : (s.started x.byte).clock ⟨0, 0⟩ = .error e :=
    clock_start_error (s.enabled_started x.byte) h0 hsend
  rw [send, exec_ops, List.replicate_succ, List.cons_append, Machine.exec_cons, step, hclock]
  rfl

/-- **The link.** Sending bytes through the port is exchanging them with the printer. -/
theorem sends_refine (sends : List Send) : ∀ (s : Serial) (rs : List (Option UInt8)),
    s.shiftCounter = 0 →
      (fun y => (y.1.printer, y.2)) <$> Machine.exec send sends (s, rs) =
        Machine.exec Printer.exchange (sends.map Send.byte) (s.printer, rs) := by
  induction sends with
  | nil => exact fun s rs _ => rfl
  | cons x sends ih =>
    intro s rs h0
    rw [List.map_cons, Machine.exec_cons, Machine.exec_cons]
    cases hexchange : Printer.exchange x.byte (s.printer, rs) with
    | error e =>
      rw [send_of_exchange_error h0 hexchange]
      rfl
    | ok r =>
      obtain ⟨s', hsend, hprinter, h0'⟩ := send_of_exchange h0 hexchange
      rw [hsend, ok_bind, ok_bind, ih s' r.2 h0', hprinter]

/-- **Printing through the port.** A program that sends print jobs byte by byte, however long it
waits after each, gets all of them through, and what the printer draws are their pictures: what is
recorded when a byte orders a print is what taking that byte draws, or panics on. -/
theorem jobs_sent (h0 : s.shiftCounter = 0) (hp : s.printer.Awaits) (jobs : List Printer.Job)
    (sends : List Send) (hbytes : sends.map Send.byte = jobs.flatMap Printer.Job.bytes) :
    (∃ s' replies printed, Machine.exec send sends (s, []) = .ok (s', replies) ∧
      Machine.exec Printer.watch (sends.map Send.byte) (s.printer, []) = .ok (s'.printer, printed) ∧
      s'.printer.Awaits ∧
      printed.map Printer.drawn = jobs.map fun job => .ok (job.picture.onPaper job.palette)) ∧
    ∀ q : Printer, q.OrdersPrint → ∀ byte, q.prints byte = [q.received byte] ∧
      q.sendByte byte = (fun _ =>
        { (q.received byte).goto .recvWaitChecksum with output := some 0x0 }) <$>
          (q.received byte).drawn := by
  refine ⟨?_, fun _ h => Printer.sendByte_ordersPrint h⟩
  obtain ⟨q, replies, printed, hsession, hq, hdrawn⟩ := Printer.session_jobs jobs s.printer hp
  have hrefine := sends_refine sends s [] h0
  rw [hbytes, hsession.exchanges []] at hrefine
  obtain ⟨⟨s', replies'⟩, hexec, heq⟩ := map_eq_ok.mp hrefine
  obtain ⟨rfl, rfl⟩ := Prod.mk.inj heq
  refine ⟨s', _, printed, hexec, ?_, hq, hdrawn⟩
  rw [hbytes]
  exact hsession.watched []

/-- The bytes of the stripes, sent without waiting any longer than a transfer takes. -/
def stripesSends : List Send :=
  (Printer.stripes.job 1 0 0xE4 0x40).bytes.map fun byte => ⟨byte, 0⟩

/-- They come through a new port. -/
theorem jobs_sent_stripes : new.shiftCounter = 0 ∧ new.printer.Awaits ∧ ∃ s' replies printed,
    Machine.exec send stripesSends (new, []) = .ok (s', replies) ∧
      Machine.exec Printer.watch (stripesSends.map Send.byte) (new.printer, []) =
        .ok (s'.printer, printed) ∧
      printed.map Printer.drawn = [.ok (Printer.stripes.onPaper 0xE4)] := by
  obtain ⟨⟨s', replies, printed, hexec, hwatch, -, hdrawn⟩, -⟩ :=
    jobs_sent (s := new) rfl ⟨rfl, rfl⟩
      [Printer.stripes.job 1 0 0xE4 0x40] stripesSends (by
      rw [stripesSends, List.map_map, List.flatMap_singleton]
      exact List.map_id _)
  exact ⟨rfl, ⟨rfl, rfl⟩, s', replies, printed, hexec, hwatch, hdrawn⟩

end Serial

end ZenithGb
