import ZenithGb.Lib.Run
import ZenithGb.Serial.Printer

/-!
# When the printer panics

The bytes a game shifts out reach the packet parser unfiltered. Its explicit panics refuse an
unknown command, a nonzero keep-alive byte and a print order whose payload is not four bytes
long. One more panic is possible: `print` indexes the buffer by tiles, and so fails on a buffer
that ends inside a row of tiles it has to draw.

## Main results

* `Printer.succeeds_print` — the buffer lengths `print` accepts
* `Printer.succeeds_sendByte` — which bytes a printer between packets or inside one accepts
* `Printer.sendBytes_safe` — and so which sequences of bytes a new printer accepts
-/

namespace ZenithGb

open Outcome

namespace Printer

variable {p : Printer}

/-! ### What a byte does

One equation for each state of the parser, with the bytes received so far.
-/

/-- The first thing a packet does: finished printing is noticed, and then forgotten with the
picture. -/
def afterMagic (p : Printer) : Printer :=
  let p := if p.status = .printerDone then p.reset else p
  if p.status = .printerPrinting then { p with status := .printerDone } else p

/-- What the four implemented commands do when they are received. -/
def obey (p : Printer) (command : UInt8) : Printer :=
  if command = 0x1 then { p with ram := [] }
  else if command = 0x2 then { p with status := .printerPrinting }
  else if command = 0x4 then { p with status := .printerReady }
  else p

section

variable {q : Printer}

theorem receive_magic (h : q.recvState = .recvWaitMagic) (hdata : q.recvData = [0x88, 0x33]) :
    q.receive = .ok (q.afterMagic.goto .recvWaitCommand, 0x0) := by
  obtain ⟨s, data⟩ := q
  cases h
  cases hdata
  rfl

theorem receive_noMagic (h : q.recvState = .recvWaitMagic) (hdata : q.recvData ≠ [0x88, 0x33]) :
    q.receive = .ok (q, 0x0) := by
  obtain ⟨s, data⟩ := q
  cases h
  rw [receive]
  split <;> first | rfl | contradiction

theorem receive_command {command : UInt8} (h : q.recvState = .recvWaitCommand)
    (hdata : q.recvData = [command]) (hc : command ∈ [0x1, 0x2, 0x4, 0xF]) :
    q.receive = .ok ((q.obey command).goto .recvWaitCompression, 0x0) := by
  obtain ⟨s, data⟩ := q
  cases h
  cases hdata
  simp only [List.mem_cons, List.not_mem_nil, or_false] at hc
  rcases hc with rfl | rfl | rfl | rfl <;> rfl

theorem receive_unknown {command : UInt8} (h : q.recvState = .recvWaitCommand)
    (hdata : q.recvData = [command]) (hc : command ∉ [0x1, 0x2, 0x4, 0xF]) :
    q.receive = .error (.unreachable .printerSend) := by
  obtain ⟨s, data⟩ := q
  cases h
  cases hdata
  simp only [List.mem_cons, List.not_mem_nil, or_false, not_or] at hc
  rw [receive]
  split <;> simp_all

theorem receive_compression {byte : UInt8} (h : q.recvState = .recvWaitCompression)
    (hdata : q.recvData = [byte]) :
    q.receive = .ok ({ q with compression := byte != 0 }.goto .recvWaitLength, 0x0) := by
  obtain ⟨s, data⟩ := q
  cases h
  cases hdata
  rfl

theorem receive_length {lsb msb : UInt8} (h : q.recvState = .recvWaitLength)
    (hdata : q.recvData = [lsb, msb]) :
    q.receive = .ok ({ q with recvDataLength := (value msb lsb).toNat }.goto
      (if (value msb lsb).toNat = 0 then .recvWaitChecksum else .recvWaitData), 0x0) := by
  obtain ⟨s, data⟩ := q
  cases h
  cases hdata
  rfl

theorem receive_data (h : q.recvState = .recvWaitData)
    (hlt : q.recvData.length < q.recvDataLength) : q.receive = .ok (q, 0x0) := by
  obtain ⟨s, data⟩ := q
  cases h
  exact if_pos hlt

theorem receive_payload (h : q.recvState = .recvWaitData)
    (hle : q.recvDataLength ≤ q.recvData.length) :
    q.receive = do
      let q ← q.receivePayload
      return (q.goto .recvWaitChecksum, 0x0) := by
  obtain ⟨s, data⟩ := q
  cases h
  exact if_neg (Nat.not_lt.mpr hle)

theorem receive_checksum {lsb msb : UInt8} (h : q.recvState = .recvWaitChecksum)
    (hdata : q.recvData = [lsb, msb]) : q.receive = .ok (q.goto .recvWaitKeepAlive, 0x0) := by
  obtain ⟨s, data⟩ := q
  cases h
  cases hdata
  rfl

/-- Half of a length or of a checksum. -/
theorem receive_half {byte : UInt8}
    (h : q.recvState = .recvWaitLength ∨ q.recvState = .recvWaitChecksum)
    (hdata : q.recvData = [byte]) : q.receive = .ok (q, 0x0) := by
  obtain ⟨s, data⟩ := q
  rcases h with h | h <;> cases h <;> cases hdata <;> rfl

theorem receive_keepAlive {byte : UInt8} (h : q.recvState = .recvWaitKeepAlive)
    (hdata : q.recvData = [byte]) :
    q.receive = if byte = 0x0 then .ok (q.goto .recvWaitStatus, 0x81)
      else .error (.unreachable .printerSend) := by
  obtain ⟨s, data⟩ := q
  cases h
  cases hdata
  rw [receive]
  split <;> simp_all

theorem receive_status (h : q.recvState = .recvWaitStatus) :
    q.receive = .ok (q.goto .recvWaitMagic, q.status.code) := by
  obtain ⟨s, data⟩ := q
  cases h
  rfl

end

/-! ### Printing -/

/-- The length of a buffer `print` can draw: it ends with a row of tiles, or less than a line
after one, or all but the last bit of a row is there, or there are at least 18 rows of tiles. -/
def Printable (length : ℕ) : Prop :=
  5760 ≤ length ∨ length % 320 < 40 ∨ 318 ≤ length % 320

instance (length : ℕ) : Decidable (Printable length) :=
  inferInstanceAs (Decidable (_ ∨ _ ∨ _))

theorem succeeds_ramGet {i : ℕ} : Succeeds (p.ramGet i) ↔ i < p.ram.length := by
  rw [ramGet]
  split
  · rename_i b hb
    exact iff_of_true (succeeds_ok b) (List.getElem?_eq_some_iff.mp hb).1
  · rename_i hnone
    exact iff_of_false (not_succeeds_error _) (Nat.not_lt.mpr (List.getElem?_eq_none_iff.mp hnone))

/-- Drawing reads one tile line, two bytes, for every eight pixels. -/
theorem succeeds_print_iff {numSheets margins palette exposure : UInt8} :
    Succeeds (p.print numSheets margins palette exposure) ↔
      ∀ y < p.ram.length / 40, ∀ xCoord < 20,
        (xCoord + 20 * (y / 8)) % 360 * 16 + 2 * (y % 8) + 1 < p.ram.length := by
  rw [print, succeeds_mapM]
  simp only [List.mem_range]
  refine forall₂_congr fun y _ => ?_
  rw [succeeds_bind_of_succeeds fun _ => succeeds_pure _, succeeds_mapM]
  simp only [List.mem_range]
  refine forall₂_congr fun xCoord _ => ?_
  rw [succeeds_bind]
  constructor
  · rintro ⟨_, -, hmsb⟩
    exact succeeds_ramGet.mp ((succeeds_bind_of_succeeds fun _ => succeeds_pure _).mp hmsb)
  · intro h
    obtain ⟨lsb, hlsb⟩ := succeeds_ramGet.mpr (Nat.lt_of_succ_lt h)
    exact ⟨lsb, hlsb,
      (succeeds_bind_of_succeeds fun _ => succeeds_pure _).mpr (succeeds_ramGet.mpr h)⟩

/-- **Printing.** The length of the buffer decides. -/
theorem succeeds_print {numSheets margins palette exposure : UInt8} :
    Succeeds (p.print numSheets margins palette exposure) ↔ Printable p.ram.length := by
  rw [succeeds_print_iff]
  generalize p.ram.length = n
  rw [Printable]
  constructor
  · intro h
    by_contra hn
    -- The last tile of the last line is beyond the end.
    have hlast := h (n / 40 - 1) (by omega) 19 (by omega)
    omega
  · intro h y hy xCoord hx
    by_cases hlong : 5760 ≤ n
    · omega
    · have hrow : (xCoord + 20 * (y / 8)) % 360 = xCoord + 20 * (y / 8) :=
        Nat.mod_eq_of_lt (by omega)
      omega

/-! ### Which bytes are accepted -/

/-- The bytes received and not yet used fit the state: there are none where one is awaited, at most
one where two are, and fewer than announced inside a payload. -/
def Framed (p : Printer) : Prop :=
  match p.recvState with
  | .recvWaitMagic => True
  | .recvWaitLength | .recvWaitChecksum => p.recvData.length ≤ 1
  | .recvWaitData => p.recvData.length < p.recvDataLength
  | .recvWaitCommand | .recvWaitCompression | .recvWaitKeepAlive | .recvWaitStatus =>
    p.recvData = []

/-- The next byte completes the payload of a print order. -/
def OrdersPrint (p : Printer) : Prop :=
  p.recvState = .recvWaitData ∧ p.status = .printerPrinting ∧
    p.recvDataLength ≤ p.recvData.length + 1

/-- The bytes refused by an explicit panic: an unimplemented command, a nonzero keep-alive byte,
and the end of a print order that is not four bytes long. -/
def Rejects (p : Printer) (byte : UInt8) : Prop :=
  p.recvState = .recvWaitCommand ∧ byte ∉ [0x1, 0x2, 0x4, 0xF] ∨
    p.recvState = .recvWaitKeepAlive ∧ byte ≠ 0x0 ∨
    p.OrdersPrint ∧ p.recvData.length + 1 ≠ 4

/-- Every other byte is accepted, if there is a picture to print when it orders one. -/
def Accepts (p : Printer) (byte : UInt8) : Prop :=
  ¬ p.Rejects byte ∧ (p.OrdersPrint → Printable p.ram.length)

/-- The printer with one more byte received. -/
def received (p : Printer) (byte : UInt8) : Printer := { p with recvData := p.recvData ++ [byte] }

theorem sendByte_eq (p : Printer) (byte : UInt8) :
    p.sendByte byte = do
      let r ← (p.received byte).receive
      return { r.1 with output := some r.2 } := rfl

theorem framed_new : new.Framed := trivial

theorem framed_goto {q : Printer} {s : PrinterRecvState}
    (h : s = .recvWaitData → 0 < q.recvDataLength) : (q.goto s).Framed := by
  cases s with
  | recvWaitMagic => trivial
  | recvWaitData => exact h rfl
  | recvWaitLength => exact Nat.zero_le 1
  | recvWaitChecksum => exact Nat.zero_le 1
  | _ => rfl

variable {byte : UInt8}

/-- Outside the three states that can refuse a byte, every byte is accepted. -/
theorem accepts_of_state
    (h : p.recvState ∉ [.recvWaitCommand, .recvWaitKeepAlive, .recvWaitData]) :
    p.Accepts byte := by
  simp only [List.mem_cons, List.not_mem_nil, or_false, not_or] at h
  refine ⟨?_, fun ho => absurd ho.1 h.2.2⟩
  rintro (hr | hr | hr)
  · exact h.1 hr.1
  · exact h.2.1 hr.1
  · exact h.2.2 hr.1.1

theorem accepts_command (hs : p.recvState = .recvWaitCommand) :
    p.Accepts byte ↔ byte ∈ [0x1, 0x2, 0x4, 0xF] := by
  simp only [Accepts, Rejects, OrdersPrint, hs, reduceCtorEq, true_and, false_and, or_false,
    false_imp_iff, and_true, not_not]

theorem accepts_keepAlive (hs : p.recvState = .recvWaitKeepAlive) :
    p.Accepts byte ↔ byte = 0x0 := by
  simp only [Accepts, Rejects, OrdersPrint, hs, reduceCtorEq, true_and, false_and, or_false,
    false_or, false_imp_iff, and_true, not_not]

theorem accepts_data (hs : p.recvState = .recvWaitData) :
    p.Accepts byte ↔ (p.OrdersPrint → p.recvData.length + 1 = 4 ∧ Printable p.ram.length) := by
  simp only [Accepts, Rejects, hs, reduceCtorEq, false_and, false_or, not_and, not_not]
  exact ⟨fun h ho => ⟨h.1 ho, h.2 ho⟩, fun h => ⟨fun ho => (h ho).1, fun ho => (h ho).2⟩⟩

/-- The payload of a packet is stored or dropped, or it is a print order. -/
theorem meets_receivePayload (q : Printer) :
    Meets q.receivePayload
      (fun _ => q.status = .printerPrinting → q.recvData.length = 4 ∧ Printable q.ram.length)
      fun e => q.status = .printerPrinting ∧
        (q.recvData.length = 4 ∧ ¬ Printable q.ram.length ∨
          q.recvData.length ≠ 4 ∧ e = .unreachable .printerSend) := by
  rw [receivePayload]
  split
  · rename_i hstatus
    rw [hstatus]
    split
    · rename_i numSheets margins palette exposure hdata
      rw [hdata]
      cases hprint : q.print numSheets margins palette exposure with
      | ok picture => exact fun _ => ⟨rfl, succeeds_print.mp ⟨_, hprint⟩⟩
      | error e =>
        refine ⟨rfl, .inl ⟨rfl, fun h => ?_⟩⟩
        exact not_succeeds_error e (hprint ▸ succeeds_print.mpr h)
    · rename_i hfour
      refine ⟨rfl, .inr ⟨fun hlen => ?_, rfl⟩⟩
      match hdata : q.recvData, hlen with
      | [a, b, c, d], _ => exact hfour a b c d hdata
  · rename_i hstatus
    exact fun h => by rw [hstatus] at h; cases h
  · rename_i hstatus _
    exact fun h => absurd h hstatus

/-- Two bytes are received in two steps. -/
theorem received_pair (h : p.recvData.length ≤ 1) (byte : UInt8) :
    (p.received byte).recvData = [byte] ∨
      ∃ first, p.recvData = [first] ∧ (p.received byte).recvData = [first, byte] := by
  rw [received]
  match hdata : p.recvData, h with
  | [], _ => exact .inl rfl
  | [first], _ => exact .inr ⟨first, rfl, rfl⟩

/-- The last byte of a payload is where a PRINT packet prints. -/
theorem meets_receive_payload (hs : p.recvState = .recvWaitData)
    (hp : p.recvData.length < p.recvDataLength) {byte : UInt8}
    (hge : p.recvDataLength ≤ (p.received byte).recvData.length) :
    Meets (p.received byte).receive (fun r => r.1.Framed ∧ p.Accepts byte)
      fun e => ¬ p.Accepts byte ∧ (p.Rejects byte → e = .unreachable .printerSend) := by
  have hlen : (p.received byte).recvData.length = p.recvData.length + 1 := List.length_append
  have hstate : (p.received byte).recvState = .recvWaitData := hs
  have ho : p.OrdersPrint ↔ p.status = .printerPrinting :=
    ⟨fun h => h.2.1, fun h => ⟨hs, h, by omega⟩⟩
  rw [accepts_data hs, receive_payload hstate hge, ho]
  refine ((meets_receivePayload _).mono (fun _ hq => hq) fun e he => ?_).bind fun q hq =>
    ⟨framed_goto nofun, fun h => ⟨hlen ▸ (hq h).1, (hq h).2⟩⟩
  obtain ⟨hprint, ⟨hfour, hno⟩ | ⟨hfour, rfl⟩⟩ := he
  · refine ⟨fun h => hno (h hprint).2, ?_⟩
    rintro (hr | hr | hr)
    · exact absurd (hs.symm.trans hr.1) nofun
    · exact absurd (hs.symm.trans hr.1) nofun
    · exact absurd (hlen.symm.trans hfour) hr.2
  · exact ⟨fun h => hfour (hlen.trans (h hprint).1), fun _ => rfl⟩

/-- **One byte.** Under the invariant exactly the accepted bytes are taken, and the invariant is
kept. -/
theorem meets_receive (hp : p.Framed) (byte : UInt8) :
    Meets (p.received byte).receive (fun r => r.1.Framed ∧ p.Accepts byte)
      fun e => ¬ p.Accepts byte ∧ (p.Rejects byte → e = .unreachable .printerSend) := by
  have hstate : (p.received byte).recvState = p.recvState := rfl
  have hone : p.recvData = [] → (p.received byte).recvData = [byte] := fun h => by
    rw [received, h]
    rfl
  rw [Framed] at hp
  cases hs : p.recvState <;> rw [hs] at hp hstate
  case recvWaitMagic =>
    have hacc : p.Accepts byte := accepts_of_state (by rw [hs]; decide)
    by_cases hdata : (p.received byte).recvData = [0x88, 0x33]
    · rw [receive_magic hstate hdata]
      exact ⟨framed_goto nofun, hacc⟩
    · rw [receive_noMagic hstate hdata]
      exact ⟨by rw [Framed, hstate]; trivial, hacc⟩
  case recvWaitCommand =>
    rw [accepts_command hs]
    by_cases hc : byte ∈ [0x1, 0x2, 0x4, 0xF]
    · rw [receive_command hstate (hone hp) hc]
      exact ⟨framed_goto nofun, hc⟩
    · rw [receive_unknown hstate (hone hp) hc]
      exact ⟨hc, fun _ => rfl⟩
  case recvWaitCompression =>
    rw [receive_compression hstate (hone hp)]
    exact ⟨framed_goto nofun, accepts_of_state (by rw [hs]; decide)⟩
  case recvWaitLength =>
    have hacc : p.Accepts byte := accepts_of_state (by rw [hs]; decide)
    rcases received_pair hp byte with hdata | ⟨lsb, -, hdata⟩
    · rw [receive_half (.inl hstate) hdata]
      exact ⟨by rw [Framed, hstate, hdata]; exact Nat.le_refl 1, hacc⟩
    · rw [receive_length hstate hdata]
      refine ⟨framed_goto fun h => Nat.pos_of_ne_zero fun h0 => ?_, hacc⟩
      rw [if_pos h0] at h
      cases h
  case recvWaitData =>
    have hlen : (p.received byte).recvData.length = p.recvData.length + 1 := List.length_append
    rcases Nat.lt_or_ge (p.received byte).recvData.length p.recvDataLength with hlt | hge
    · rw [receive_data hstate hlt, accepts_data hs]
      refine ⟨by rw [Framed, hstate]; exact hlt, fun ho => ?_⟩
      have := ho.2.2
      omega
    · exact meets_receive_payload hs hp hge
  case recvWaitChecksum =>
    have hacc : p.Accepts byte := accepts_of_state (by rw [hs]; decide)
    rcases received_pair hp byte with hdata | ⟨lsb, -, hdata⟩
    · rw [receive_half (.inr hstate) hdata]
      exact ⟨by rw [Framed, hstate, hdata]; exact Nat.le_refl 1, hacc⟩
    · rw [receive_checksum hstate hdata]
      exact ⟨framed_goto nofun, hacc⟩
  case recvWaitKeepAlive =>
    rw [accepts_keepAlive hs, receive_keepAlive hstate (hone hp)]
    by_cases hb : byte = 0x0
    · rw [if_pos hb]
      exact ⟨framed_goto nofun, hb⟩
    · rw [if_neg hb]
      exact ⟨hb, fun _ => rfl⟩
  case recvWaitStatus =>
    rw [receive_status hstate]
    exact ⟨framed_goto nofun, accepts_of_state (by rw [hs]; decide)⟩

theorem meets_sendByte (hp : p.Framed) (byte : UInt8) :
    Meets (p.sendByte byte) (fun q => q.Framed ∧ p.Accepts byte)
      fun e => ¬ p.Accepts byte ∧ (p.Rejects byte → e = .unreachable .printerSend) := by
  rw [sendByte_eq]
  exact (meets_receive hp byte).bind fun r hr => hr

theorem Framed.sendByte {q : Printer} (hp : p.Framed) (h : p.sendByte byte = .ok q) : q.Framed :=
  ((meets_sendByte hp byte).of_ok h).1

theorem succeeds_sendByte (hp : p.Framed) : Succeeds (p.sendByte byte) ↔ p.Accepts byte := by
  have hmeets := meets_sendByte hp byte
  constructor
  · rintro ⟨q, hq⟩
    exact (hmeets.of_ok hq).2
  · intro hacc
    by_contra hfail
    obtain ⟨e, he⟩ := not_succeeds_iff.mp hfail
    exact (hmeets.of_error he).1 hacc

/-! ### Sequences of bytes -/

/-- Send the bytes one after the other. -/
abbrev sendBytes (bytes : List UInt8) (p : Printer) : Checked Printer :=
  Machine.exec (fun byte p => p.sendByte byte) bytes p

/-- A printer that has received bytes without panicking is framed. -/
theorem framed_of_exec {bytes : List UInt8} {q : Printer}
    (h : sendBytes bytes new = .ok q) : q.Framed :=
  (Machine.exec_meets (E := fun _ => True) (P := fun _ => True)
    (fun byte _ _ hp => (meets_sendByte hp byte).mono (fun _ hq => hq.1) fun _ _ => trivial)
    bytes new (fun _ _ => trivial) framed_new).of_ok h

/-- **The printer refuses bytes only where it says so.** A new printer that gets only bytes it
accepts in the state they find it in returns on all of them, however many there are; and a byte it
refuses is refused by its explicit panic. -/
theorem sendBytes_safe (bytes : List UInt8) :
    ((∀ k (hk : k < bytes.length) q, sendBytes (bytes.take k) new = .ok q →
        ¬ q.Rejects bytes[k] ∧ (q.OrdersPrint → Printable q.ram.length)) →
      ∃ q, sendBytes bytes new = .ok q) ∧
    ∀ k (hk : k < bytes.length) q, sendBytes (bytes.take k) new = .ok q → q.Rejects bytes[k] →
      sendBytes bytes new = .error (.unreachable .printerSend) := by
  constructor
  · intro hacc
    refine (Machine.exec_succeeds bytes new).mpr fun k hk q hq => ?_
    exact (succeeds_sendByte (framed_of_exec hq)).mpr (hacc k hk q hq)
  · intro k hk q hq hrej
    have hframed := framed_of_exec hq
    obtain ⟨e, he⟩ := not_succeeds_iff.mp fun h =>
      ((succeeds_sendByte hframed).mp h).1 hrej
    have hsite := ((meets_sendByte hframed bytes[k]).of_error he).2 hrej
    exact Machine.exec_eq_error hk hq (hsite ▸ he)

/-- A packet with a command the printer does not implement is refused: not every sequence of bytes
is accepted. -/
theorem sendBytes_unknownCommand :
    sendBytes [0x88, 0x33, 0x00] new = .error (.unreachable .printerSend) ∧
      ¬ ∀ bytes : List UInt8, ∃ q, sendBytes bytes new = .ok q := by
  have hfail : sendBytes [0x88, 0x33, 0x00] new = .error (.unreachable .printerSend) := rfl
  refine ⟨hfail, fun hall => ?_⟩
  obtain ⟨q, hq⟩ := hall [0x88, 0x33, 0x00]
  cases hfail.symm.trans hq

end Printer

end ZenithGb
