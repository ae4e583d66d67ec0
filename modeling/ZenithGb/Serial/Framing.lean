import ZenithGb.Serial.PrinterPanics

/-!
# The packets of the printer

A packet is `88 33`, a command, a compression byte, a length, as many bytes of payload, a checksum,
a keep-alive byte and one more byte that fetches the status. This file follows the parser through
whole packets, and through what precedes a packet that is not one.

## Main results

* `Printer.session_packet` — a packet leads from waiting for magic to waiting for magic
* `Printer.packets_framed` — and so does every sequence of them, with the buffer it leaves behind
* `Printer.resync_iff` — bytes before the magic are skipped only when there are none
-/

namespace ZenithGb

open Outcome

namespace Printer

/-! ### Exchanging bytes -/

/-- Shift a byte out and take the reply, as the serial port does; the replies are collected. -/
def exchange (byte : UInt8) (s : Printer × List (Option UInt8)) :
    Checked (Printer × List (Option UInt8)) := do
  let p ← s.1.sendByte byte
  let (reply, p) := p.take
  return (p, s.2 ++ [reply])

/-- The printer in a state, with nothing received and no reply pending. -/
def waiting (p : Printer) (s : PrinterRecvState) : Printer :=
  { p with recvState := s, recvData := [], output := none }

/-- The printer waits for a packet. -/
structure Awaits (p : Printer) : Prop where
  recvState : p.recvState = .recvWaitMagic
  recvData : p.recvData = []

theorem awaits_waiting (p : Printer) : (p.waiting .recvWaitMagic).Awaits := ⟨rfl, rfl⟩

variable {p : Printer} {rs : List (Option UInt8)}

theorem exchange_of_receive {q : Printer} {byte reply : UInt8}
    (h : (p.received byte).receive = .ok (q, reply)) :
    exchange byte (p, rs) = .ok ({ q with output := none }, rs ++ [some reply]) := by
  rw [exchange, sendByte_eq, h]
  rfl

/-- The bytes are all taken, with these replies. -/
def Exchanges (p : Printer) (bytes : List UInt8) (replies : List (Option UInt8)) (q : Printer) :
    Prop :=
  ∀ rs, Machine.exec exchange bytes (p, rs) = .ok (q, rs ++ replies)

instance (p : Printer) : Decidable p.OrdersPrint := inferInstanceAs (Decidable (_ ∧ _ ∧ _))

/-- The printer as it prints, if the byte completes an order. -/
def prints (p : Printer) (byte : UInt8) : List Printer :=
  if p.OrdersPrint then [p.received byte] else []

/-- Shift a byte out, drop the reply, and watch what is printed. -/
def watch (byte : UInt8) (s : Printer × List Printer) : Checked (Printer × List Printer) := do
  let p ← s.1.sendByte byte
  return (p.take.2, s.2 ++ s.1.prints byte)

/-- The bytes are all taken, with these replies, and this is printed. -/
structure Session (p : Printer) (bytes : List UInt8) (replies : List (Option UInt8))
    (printed : List Printer) (q : Printer) : Prop where
  exchanges : p.Exchanges bytes replies q
  watched : ∀ ps, Machine.exec watch bytes (p, ps) = .ok (q, ps ++ printed)

namespace Session

variable {q r : Printer} {bytes bytes' : List UInt8} {replies replies' : List (Option UInt8)}
  {printed printed' : List Printer}

theorem one {byte reply : UInt8} (h : (p.received byte).receive = .ok (q, reply)) :
    p.Session [byte] [some reply] (p.prints byte) { q with output := none } where
  exchanges := fun rs => by
    rw [Machine.exec_cons, exchange_of_receive h]
    rfl
  watched := fun ps => by
    rw [Machine.exec_cons, watch, sendByte_eq, h]
    rfl

/-- Only the payload of a packet can order a print. -/
theorem idle {byte reply : UInt8} (s : PrinterRecvState) (hs : p.recvState = s)
    (hne : s ≠ .recvWaitData) (h : (p.received byte).receive = .ok (q, reply)) :
    p.Session [byte] [some reply] [] { q with output := none } := by
  have hnone : p.prints byte = [] := if_neg fun ho => hne (hs.symm.trans ho.1)
  rw [← hnone]
  exact .one h

theorem refl (p : Printer) : p.Session [] [] [] p where
  exchanges := fun rs => by rw [Machine.exec_nil, List.append_nil]
  watched := fun ps => by rw [Machine.exec_nil, List.append_nil]

theorem append (h : p.Session bytes replies printed q) (h' : q.Session bytes' replies' printed' r) :
    p.Session (bytes ++ bytes') (replies ++ replies') (printed ++ printed') r where
  exchanges := fun rs => by
    rw [Machine.exec_append, h.exchanges rs, ← List.append_assoc]
    exact h'.exchanges (rs ++ replies)
  watched := fun ps => by
    rw [Machine.exec_append, h.watched ps, ← List.append_assoc]
    exact h'.watched (ps ++ printed)

end Session

/-! ### The parts of a packet -/

theorem session_magic (hp : p.Awaits) :
    p.Session [0x88, 0x33] [some 0x0, some 0x0] [] (p.afterMagic.waiting .recvWaitCommand) := by
  obtain ⟨s, data, status, n, ram, compression, output⟩ := p
  obtain ⟨rfl, rfl⟩ := hp
  have hfirst := Session.idle (p := ⟨.recvWaitMagic, [], status, n, ram, compression, output⟩)
    .recvWaitMagic rfl (by decide) (receive_noMagic
      (q := received ⟨.recvWaitMagic, [], status, n, ram, compression, output⟩ 0x88)
      rfl (show [0x88] ≠ [0x88, 0x33] by decide))
  cases status <;>
    exact hfirst.append (.idle .recvWaitMagic rfl (by decide) (receive_magic rfl rfl))

theorem session_command {command : UInt8} (hc : command ∈ [0x1, 0x2, 0x4, 0xF]) :
    (p.waiting .recvWaitCommand).Session [command] [some 0x0] []
      ((p.obey command).waiting .recvWaitCompression) := by
  have h := Session.idle (p := p.waiting .recvWaitCommand) .recvWaitCommand rfl (by decide)
    (receive_command (q := (p.waiting .recvWaitCommand).received command) rfl rfl hc)
  simp only [List.mem_cons, List.not_mem_nil, or_false] at hc
  rcases hc with rfl | rfl | rfl | rfl <;> exact h

theorem session_header (comp lsb msb : UInt8) :
    (p.waiting .recvWaitCompression).Session [comp, lsb, msb] [some 0x0, some 0x0, some 0x0] []
      ({ p with compression := comp != 0, recvDataLength := (value msb lsb).toNat }.waiting
        (if (value msb lsb).toNat = 0 then .recvWaitChecksum else .recvWaitData)) :=
  (Session.idle .recvWaitCompression rfl (by decide) (receive_compression rfl rfl)).append
    ((Session.idle .recvWaitLength rfl (by decide) (receive_half (.inl rfl) rfl)).append
      (.idle .recvWaitLength rfl (by decide) (receive_length rfl rfl)))

theorem session_trailer (lsb msb last : UInt8) :
    (p.waiting .recvWaitChecksum).Session [lsb, msb, 0x0, last]
      [some 0x0, some 0x0, some 0x81, some p.status.code] [] (p.waiting .recvWaitMagic) :=
  (Session.idle .recvWaitChecksum rfl (by decide) (receive_half (.inr rfl) rfl)).append
    ((Session.idle .recvWaitChecksum rfl (by decide) (receive_checksum rfl rfl)).append
      ((Session.idle .recvWaitKeepAlive rfl (by decide)
          ((receive_keepAlive rfl rfl).trans (if_pos rfl))).append
        (.idle .recvWaitStatus rfl (by decide) (receive_status rfl))))

/-- A payload on its way, with the bytes collected so far. -/
def collecting (p : Printer) (buf : List UInt8) : Printer :=
  { p with recvState := .recvWaitData, recvData := buf, output := none }

/-- The bytes of a payload are collected until the last one comes. -/
theorem session_payload {q : Printer} (rest : List UInt8) (hrest : rest ≠ []) :
    ∀ buf : List UInt8, p.recvDataLength = buf.length + rest.length →
      (p.collecting (buf ++ rest)).receivePayload = .ok q →
      (p.collecting buf).Session rest (List.replicate rest.length (some 0x0))
        (if p.status = .printerPrinting then [p.collecting (buf ++ rest)] else [])
        (q.waiting .recvWaitChecksum) := by
  induction rest with
  | nil => exact absurd rfl hrest
  | cons byte rest ih =>
    intro buf hlen hq
    have hlen' : (buf ++ [byte]).length = buf.length + 1 := List.length_append
    rw [List.length_cons] at hlen
    by_cases hlast : rest = []
    · subst hlast
      rw [List.length_nil] at hlen
      have hlen : p.recvDataLength ≤ (buf ++ [byte]).length := by omega
      have hreceive : ((p.collecting buf).received byte).receive =
          .ok (q.goto .recvWaitChecksum, 0x0) := by
        rw [receive_payload rfl hlen]
        show Printer.receivePayload (p.collecting (buf ++ [byte])) >>= _ = _
        rw [hq]
        rfl
      have hprints : (p.collecting buf).prints byte =
          if p.status = .printerPrinting then [p.collecting (buf ++ [byte])] else [] :=
        if_congr ⟨fun ho => ho.2.1, fun hs => ⟨rfl, hs, Nat.le_trans hlen hlen'.le⟩⟩ rfl rfl
      rw [← hprints]
      exact .one hreceive
    · have hmore : 0 < rest.length := List.length_pos_iff.mpr hlast
      have hlt : (buf ++ [byte]).length < p.recvDataLength := by omega
      have hreceive : ((p.collecting buf).received byte).receive =
          .ok (p.collecting (buf ++ [byte]), 0x0) := receive_data rfl hlt
      have hnone : (p.collecting buf).prints byte = [] :=
        if_neg fun ho => Nat.not_le.mpr hlt (hlen'.symm ▸ ho.2.2)
      have hrest := ih hlast (buf ++ [byte]) (by omega) (by rwa [List.append_assoc])
      have hfirst := Session.one hreceive
      rw [hnone] at hfirst
      rw [List.append_assoc] at hrest
      exact hfirst.append hrest

/-! ### Packets -/

/-- A packet with one of the four commands the printer implements and the payload that goes with
it: any for command 4, none for commands 1 and 15, four bytes for command 2. -/
structure Packet where
  cmd : UInt8
  comp : UInt8
  lenLo : UInt8
  lenHi : UInt8
  data : List UInt8
  checksumLo : UInt8
  checksumHi : UInt8
  last : UInt8
  /-- The announced length is the length of the payload. -/
  length_data : data.length = (value lenHi lenLo).toNat
  wellFormed : cmd = 0x4 ∨ (cmd = 0x1 ∨ cmd = 0xF) ∧ data.length = 0 ∨ cmd = 0x2 ∧ data.length = 4

namespace Packet

/-- The packet as it is sent. -/
def bytes (pkt : Packet) : List UInt8 :=
  [0x88, 0x33, pkt.cmd, pkt.comp, pkt.lenLo, pkt.lenHi] ++ pkt.data ++
    [pkt.checksumLo, pkt.checksumHi, 0x0, pkt.last]

theorem cmd_mem (pkt : Packet) : pkt.cmd ∈ [0x1, 0x2, 0x4, 0xF] := by
  rcases pkt.wellFormed with h | ⟨h | h, -⟩ | ⟨h, -⟩ <;> rw [h] <;> decide

/-- The printer with the command obeyed and the length announced. -/
def announce (pkt : Packet) (p : Printer) : Printer :=
  { p.obey pkt.cmd with compression := pkt.comp != 0, recvDataLength := pkt.data.length }

/-- The printer with the payload stored, if there is one to store. -/
def store (pkt : Packet) (p : Printer) : Printer :=
  { p with ram := if pkt.cmd = 0x4 then p.ram ++ pkt.data else p.ram }

/-- What is printed while a packet is taken: command 2 prints, with the payload as parameters. -/
def printed (pkt : Packet) (p : Printer) : List Printer :=
  if pkt.cmd = 0x2 then [(pkt.announce p).collecting pkt.data] else []

/-- What a packet does to a printer that waits for one. -/
def process (pkt : Packet) (p : Printer) : Printer :=
  (pkt.store (pkt.announce p.afterMagic)).waiting .recvWaitMagic

/-- The replies to a packet: zeros, the keep-alive answer, and the status it leaves behind. -/
def replies (pkt : Packet) (p : Printer) : List (Option UInt8) :=
  List.replicate (8 + pkt.data.length) (some 0x0) ++
    [some 0x81, some (pkt.process p).status.code]

end Packet

theorem receivePayload_ready (h : p.status = .printerReady) :
    p.receivePayload = .ok { p with ram := p.ram ++ p.recvData } := by
  rw [receivePayload, h]
  rfl

theorem receivePayload_printing (h : p.status = .printerPrinting) (hlen : p.recvData.length = 4)
    (hram : Printable p.ram.length) : p.receivePayload = .ok p := by
  obtain ⟨numSheets, margins, palette, exposure, hdata⟩ := List.length_eq_four.mp hlen
  obtain ⟨picture, hpicture⟩ := succeeds_print.mpr hram
  rw [receivePayload, h, hdata]
  show (do let _ ← p.print numSheets margins palette exposure; return p) = _
  rw [hpicture]
  rfl

/-- The payload of a packet is stored by command 4 and printed by command 2. -/
theorem session_data (pkt : Packet) (hdata : pkt.data ≠ [])
    (hprint : pkt.cmd = 0x2 → Printable p.ram.length) :
    ((pkt.announce p).collecting []).Session pkt.data
      (List.replicate pkt.data.length (some 0x0)) (pkt.printed p)
      ((pkt.store (pkt.announce p)).waiting .recvWaitChecksum) := by
  have hlen : (pkt.announce p).recvDataLength = ([] : List UInt8).length + pkt.data.length :=
    (Nat.zero_add _).symm
  rw [Packet.store]
  rcases pkt.wellFormed with hc | ⟨-, hzero⟩ | ⟨hc, hfour⟩
  · have hstatus : ((pkt.announce p).collecting pkt.data).status = .printerReady := by
      show (p.obey pkt.cmd).status = _
      rw [hc]
      rfl
    rw [if_pos hc]
    have hstored := session_payload pkt.data hdata [] hlen (receivePayload_ready hstatus)
    rw [if_neg (by rw [show (pkt.announce p).status = _ from hstatus]; decide)] at hstored
    rw [Packet.printed, if_neg (by rw [hc]; decide)]
    exact hstored
  · exact absurd (List.length_eq_zero_iff.mp hzero) hdata
  · have hstatus : ((pkt.announce p).collecting pkt.data).status = .printerPrinting := by
      show (p.obey pkt.cmd).status = _
      rw [hc]
      rfl
    have hram : (pkt.announce p).ram = p.ram := by
      show (p.obey pkt.cmd).ram = _
      rw [hc]
      rfl
    rw [if_neg (by rw [hc]; decide)]
    have hprinted := session_payload pkt.data hdata [] hlen
      (receivePayload_printing hstatus hfour (hram ▸ hprint hc))
    rw [if_pos (show (pkt.announce p).status = _ from hstatus)] at hprinted
    rw [Packet.printed, if_pos hc]
    exact hprinted

/-- The part of a packet that depends on its length. -/
theorem session_body (pkt : Packet) (hprint : pkt.cmd = 0x2 → Printable p.ram.length) :
    ((p.obey pkt.cmd).waiting .recvWaitCompression).Session
      ([pkt.comp, pkt.lenLo, pkt.lenHi] ++ pkt.data)
      (List.replicate (3 + pkt.data.length) (some 0x0)) (pkt.printed p)
      ((pkt.store (pkt.announce p)).waiting .recvWaitChecksum) := by
  rw [← List.replicate_append_replicate, ← List.nil_append (pkt.printed p)]
  have hheader := session_header (p := p.obey pkt.cmd) pkt.comp pkt.lenLo pkt.lenHi
  rw [← pkt.length_data] at hheader
  refine hheader.append ?_
  by_cases hdata : pkt.data = []
  · have hnone : pkt.printed p = [] := by
      refine if_neg fun hc => ?_
      rcases pkt.wellFormed with h | ⟨h | h, -⟩ | ⟨-, h⟩
      · exact absurd (h.symm.trans hc) (by decide)
      · exact absurd (h.symm.trans hc) (by decide)
      · exact absurd (h.symm.trans hc) (by decide)
      · rw [hdata] at h
        cases h
    rw [hnone, Packet.store, hdata, List.append_nil, ite_self, Packet.announce, hdata]
    exact .refl _
  · rw [if_neg (mt List.length_eq_zero_iff.mp hdata)]
    exact session_data pkt hdata hprint

/-- **A packet.** It is taken whole, and the printer waits for the next one. -/
theorem session_packet (pkt : Packet) (hp : p.Awaits)
    (hprint : pkt.cmd = 0x2 → Printable p.afterMagic.ram.length) :
    p.Session pkt.bytes (pkt.replies p) (pkt.printed p.afterMagic) (pkt.process p) := by
  have h := (session_magic hp).append ((session_command pkt.cmd_mem).append
    ((session_body pkt hprint).append
      (session_trailer pkt.checksumLo pkt.checksumHi pkt.last)))
  rw [List.nil_append, List.nil_append, List.append_nil] at h
  have hbytes : pkt.bytes = [0x88, 0x33] ++ ([pkt.cmd] ++
      ([pkt.comp, pkt.lenLo, pkt.lenHi] ++ pkt.data ++
        [pkt.checksumLo, pkt.checksumHi, 0x0, pkt.last])) := by
    simp [Packet.bytes]
  have hreplies : pkt.replies p = [some 0x0, some 0x0] ++ ([some 0x0] ++
      (List.replicate (3 + pkt.data.length) (some 0x0) ++ [some 0x0, some 0x0, some 0x81,
        some (pkt.process p).status.code])) := by
    rw [Packet.replies, show 8 + pkt.data.length = 2 + (1 + (3 + pkt.data.length + 2)) by omega]
    simp only [← List.replicate_append_replicate, List.append_assoc]
    rfl
  rw [hbytes, hreplies]
  exact h

/-! ### The buffer -/

namespace Packet

/-- The packet empties the buffer: command 1 does, and so does the magic after a finished print. -/
def Empties (pkt : Packet) (status : PrinterStatus) : Prop :=
  pkt.cmd = 0x1 ∨ status = .printerDone

instance (pkt : Packet) (status : PrinterStatus) : Decidable (pkt.Empties status) :=
  inferInstanceAs (Decidable (_ ∨ _))

/-- The payloads of the packets with command 4, in order. -/
def payloads (pkts : List Packet) : List UInt8 :=
  (pkts.filter fun pkt => pkt.cmd = 0x4).flatMap fun pkt => pkt.data

theorem payloads_append (pkts pkts' : List Packet) :
    payloads (pkts ++ pkts') = payloads pkts ++ payloads pkts' := by
  rw [payloads, List.filter_append, List.flatMap_append]
  rfl

theorem payloads_singleton (pkt : Packet) :
    payloads [pkt] = if pkt.cmd = 0x4 then pkt.data else [] := by
  by_cases hc : pkt.cmd = 0x4
  · simp [payloads, hc]
  · simp [payloads, hc]

theorem awaits_process (pkt : Packet) (p : Printer) : (pkt.process p).Awaits := awaits_waiting _

theorem ram_afterMagic (p : Printer) :
    p.afterMagic.ram = if p.status = .printerDone then [] else p.ram := by
  obtain ⟨s, data, status⟩ := p
  cases status <;> rfl

theorem ram_obey (p : Printer) (command : UInt8) :
    (p.obey command).ram = if command = 0x1 then [] else p.ram := by
  rw [obey]
  split
  · rfl
  · split
    · rfl
    · split <;> rfl

theorem ram_process (pkt : Packet) (p : Printer) :
    (pkt.process p).ram =
      (if pkt.Empties p.status then [] else p.ram) ++ payloads [pkt] := by
  have hram : (pkt.announce p.afterMagic).ram = if pkt.Empties p.status then [] else p.ram := by
    show (p.afterMagic.obey pkt.cmd).ram = _
    rw [ram_obey, ram_afterMagic, ← ite_or]
    rfl
  show (if pkt.cmd = 0x4 then _ else _) = _
  rw [payloads_singleton, hram]
  split
  · rfl
  · rw [List.append_nil]

end Packet

/-! ### Sequences of packets -/

/-- The printer after `k` of the packets. -/
def afterPackets (p : Printer) (pkts : List Packet) (k : ℕ) : Printer :=
  (pkts.take k).foldl (fun p pkt => pkt.process p) p

theorem afterPackets_succ (p : Printer) {pkts : List Packet} {k : ℕ} (hk : k < pkts.length) :
    p.afterPackets pkts (k + 1) = pkts[k].process (p.afterPackets pkts k) := by
  rw [afterPackets, List.take_succ_eq_append_getElem hk, List.foldl_append]
  rfl

theorem awaits_afterPackets (hp : p.Awaits) (pkts : List Packet) (k : ℕ) :
    (p.afterPackets pkts k).Awaits := by
  rw [afterPackets]
  induction pkts.take k generalizing p with
  | nil => exact hp
  | cons pkt _ ih => exact ih (pkt.awaits_process p)

/-- While no packet empties it, the buffer grows by the payloads. -/
theorem ram_afterPackets (p : Printer) (pkts : List Packet) {i k : ℕ} (hik : i ≤ k)
    (hk : k ≤ pkts.length)
    (h : ∀ j (hj : j < pkts.length), i ≤ j → j < k →
      ¬ pkts[j].Empties (p.afterPackets pkts j).status) :
    (p.afterPackets pkts k).ram =
      (p.afterPackets pkts i).ram ++ Packet.payloads ((pkts.take k).drop i) := by
  induction k, hik using Nat.le_induction with
  | base => rw [List.drop_eq_nil_of_le (List.length_take_le i pkts)]; exact (List.append_nil _).symm
  | succ k hik ih =>
    have hkeep := h k (by omega) hik (Nat.lt_succ_self k)
    rw [afterPackets_succ p (by omega), Packet.ram_process, if_neg hkeep,
      ih (by omega) fun j hj hij hjk => h j hj hij (by omega), List.append_assoc,
      ← Packet.payloads_append, List.take_succ_eq_append_getElem (by omega),
      List.drop_append_of_le_length (by rw [List.length_take]; omega)]

/-- **Sequences of packets.** All of them are taken, with their replies. -/
theorem exchanges_packets (hp : p.Awaits) (pkts : List Packet)
    (hprint : ∀ k (hk : k < pkts.length) q replies, pkts[k].cmd = 0x2 →
      Machine.exec exchange ((pkts.take k).flatMap Packet.bytes) (p, []) = .ok (q, replies) →
        Printable q.afterMagic.ram.length) :
    ∀ k ≤ pkts.length,
      (∃ replies, Machine.exec exchange ((pkts.take k).flatMap Packet.bytes) (p, []) =
        .ok (p.afterPackets pkts k, replies)) ∧
      ∀ hk : k < pkts.length, (p.afterPackets pkts k).Exchanges pkts[k].bytes
        (pkts[k].replies (p.afterPackets pkts k)) (p.afterPackets pkts (k + 1)) := by
  have hnext : ∀ k (hk : k < pkts.length),
      (∃ replies, Machine.exec exchange ((pkts.take k).flatMap Packet.bytes) (p, []) =
        .ok (p.afterPackets pkts k, replies)) →
      (p.afterPackets pkts k).Exchanges pkts[k].bytes
        (pkts[k].replies (p.afterPackets pkts k)) (p.afterPackets pkts (k + 1)) := by
    rintro k hk ⟨replies, h⟩
    rw [afterPackets_succ p hk]
    exact (session_packet pkts[k] (awaits_afterPackets hp pkts k)
      fun hc => hprint k hk _ replies hc h).exchanges
  intro k
  induction k with
  | zero => exact fun _ => ⟨⟨[], rfl⟩, fun hk => hnext 0 hk ⟨[], rfl⟩⟩
  | succ k ih =>
    intro hk
    obtain ⟨⟨replies, h⟩, hpkt⟩ := ih (Nat.le_of_lt hk)
    have hdone : ∃ replies, Machine.exec exchange ((pkts.take (k + 1)).flatMap Packet.bytes)
        (p, []) = .ok (p.afterPackets pkts (k + 1), replies) := by
      rw [List.take_succ_eq_append_getElem hk, List.flatMap_append, Machine.exec_append, h]
      exact ⟨_, by rw [List.flatMap_singleton]; exact hpkt hk replies⟩
    exact ⟨hdone, fun hk' => hnext (k + 1) hk' hdone⟩

/-- **Framing.** Well-formed packets sent to a printer that waits for one are all taken, if print
orders find a buffer of whole rows of tiles, at most 18 of them. -/
theorem packets_framed (hp : p.Awaits) (pkts : List Packet)
    (hprint : ∀ k (hk : k < pkts.length) q replies, pkts[k].cmd = 0x2 →
      Machine.exec exchange ((pkts.take k).flatMap Packet.bytes) (p, []) = .ok (q, replies) →
        320 ∣ q.afterMagic.ram.length ∧ q.afterMagic.ram.length ≤ 5760) :
    ∃ state : ℕ → Printer, state 0 = p ∧
      (∀ k ≤ pkts.length, ∃ replies,
        Machine.exec exchange ((pkts.take k).flatMap Packet.bytes) (p, []) =
          .ok (state k, replies)) ∧
      (∀ k (hk : k < pkts.length), (state (k + 1)).Awaits ∧
        ∀ replies, Machine.exec exchange pkts[k].bytes (state k, replies) =
          .ok (state (k + 1),
            replies ++ (List.replicate (8 + pkts[k].data.length) (some 0x0) ++
              [some 0x81, some (state (k + 1)).status.code]))) ∧
      ∀ k ≤ pkts.length,
        ((∀ j (hj : j < pkts.length), j < k → ¬ pkts[j].Empties (state j).status) →
          (state k).ram = p.ram ++ Packet.payloads (pkts.take k)) ∧
        ∀ i (hi : i < pkts.length), i < k → pkts[i].Empties (state i).status →
          (∀ j (hj : j < pkts.length), i < j → j < k → ¬ pkts[j].Empties (state j).status) →
            (state k).ram = Packet.payloads ((pkts.take k).drop i) := by
  have hall := exchanges_packets hp pkts fun k hk q replies hc hq =>
    .inr (.inl (by have := (hprint k hk q replies hc hq).1; omega))
  refine ⟨p.afterPackets pkts, rfl, fun k hk => (hall k hk).1, fun k hk => ⟨?_, fun replies => ?_⟩,
    fun k hk => ⟨fun hkeep => ?_, fun i hi hik hempty hkeep => ?_⟩⟩
  · exact awaits_afterPackets hp pkts (k + 1)
  · have hpkt := (hall k (Nat.le_of_lt hk)).2 hk replies
    rwa [Packet.replies, ← afterPackets_succ p hk] at hpkt
  · exact ram_afterPackets p pkts (Nat.zero_le k) hk fun j hj _ => hkeep j hj
  · have hdrop : (pkts.take k).drop i = [pkts[i]] ++ (pkts.take k).drop (i + 1) := by
      rw [List.drop_eq_getElem_cons (by rw [List.length_take]; omega), List.getElem_take]
      rfl
    rw [ram_afterPackets p pkts (Nat.succ_le_of_lt hik) hk fun j hj hij => hkeep j hj hij,
      afterPackets_succ p hi, Packet.ram_process, if_pos hempty, hdrop, Packet.payloads_append]
    rfl

/-- Two bytes into the buffer, a command that empties it, and a print order for what is left. -/
theorem packets_framed_three :
    ∃ state : ℕ → Printer, state 0 = new ∧ (state 1).ram = [0x12, 0x34] ∧
      (state 2).ram = [] ∧ (state 3).Awaits := by
  let pkts : List Packet :=
    [⟨0x4, 0, 2, 0, [0x12, 0x34], 0x4C, 0, 0, rfl, by decide⟩,
      ⟨0x1, 0, 0, 0, [], 1, 0, 0, rfl, by decide⟩,
      ⟨0x2, 0, 4, 0, [1, 0, 0xE4, 0x40], 0x2B, 1, 0, rfl, by decide⟩]
  obtain ⟨state, h0, -, hpkt, hram⟩ := packets_framed (p := new) ⟨rfl, rfl⟩ pkts (by
    intro k hk q replies hc hq
    match k, hk with
    | 0, _ => cases hc
    | 1, _ => cases hc
    | 2, _ => cases hq; decide)
  refine ⟨state, h0, (hram 1 (by decide)).1 fun j _ hj => ?_,
    (hram 2 (by decide)).2 1 (by decide) (by decide) (.inl rfl) fun j _ hj hj' => ?_,
    (hpkt 2 (by decide)).1⟩
  · cases Nat.lt_one_iff.mp hj
    rw [h0]
    rintro (h | h) <;> cases h
  · omega

/-! ### Bytes before the magic -/

/-- Waiting for magic, a byte that does not complete it is kept whatever it is. -/
theorem sendByte_noMagic (hs : p.recvState = .recvWaitMagic) {byte : UInt8}
    (hdata : p.recvData ++ [byte] ≠ [0x88, 0x33]) :
    p.sendByte byte = .ok { p.received byte with output := some 0x0 } := by
  rw [sendByte_eq, receive_noMagic (q := p.received byte) hs hdata]
  rfl

/-- A printer that has got two bytes other than the magic never gets out of waiting for it. -/
theorem awaitsMagic_forever (bytes : List UInt8) :
    ∀ p : Printer, p.recvState = .recvWaitMagic → 2 ≤ p.recvData.length →
      ∃ q, sendBytes bytes p = .ok q ∧ q.recvState = .recvWaitMagic := by
  induction bytes with
  | nil => exact fun p hs _ => ⟨p, rfl, hs⟩
  | cons byte bytes ih =>
    intro p hs hlen
    have hlen' : (p.recvData ++ [byte]).length = p.recvData.length + 1 := List.length_append
    have hdata : p.recvData ++ [byte] ≠ [0x88, 0x33] := fun h => by
      rw [h, List.length_cons, List.length_singleton] at hlen'
      omega
    rw [sendBytes, Machine.exec_cons, sendByte_noMagic hs hdata]
    exact ih _ hs (Nat.le_trans hlen (Nat.le_of_succ_le (Nat.le_of_eq hlen'.symm)))

/-- **Resynchronising.** Bytes before the magic are skipped exactly when there are none. -/
theorem resync_iff (hp : p.Awaits) {garbage : List UInt8} (hpair : ¬ [0x88, 0x33] <:+: garbage) :
    (∃ q, sendBytes (garbage ++ [0x88, 0x33]) p = .ok q ∧ q.recvState = .recvWaitCommand ∧
      sendBytes [0x88, 0x33] p = .ok q) ↔ garbage = [] := by
  constructor
  · rintro ⟨q, hq, hcommand, -⟩
    by_contra hne
    -- The first two bytes that come are not the magic.
    obtain ⟨first, second, rest, hbytes, htwo⟩ : ∃ first second rest,
        garbage ++ [0x88, 0x33] = first :: second :: rest ∧ [first, second] ≠ [0x88, 0x33] := by
      rcases garbage with _ | ⟨first, _ | ⟨second, garbage⟩⟩
      · exact absurd rfl hne
      · exact ⟨first, 0x88, [0x33], rfl, by simp⟩
      · refine ⟨first, second, garbage ++ [0x88, 0x33], rfl, fun h => hpair ?_⟩
        exact ⟨[], garbage, by rw [← h]; rfl⟩
    have hone : p.recvData ++ [first] = [first] := by rw [hp.recvData]; rfl
    rw [hbytes, sendBytes, Machine.exec_cons,
      sendByte_noMagic hp.recvState (by rw [hone]; simp)] at hq
    have htwo' : (p.recvData ++ [first]) ++ [second] ≠ [0x88, 0x33] := by rw [hone]; exact htwo
    obtain ⟨q', hq', hmagic⟩ := awaitsMagic_forever rest
      { (p.received first).received second with output := some 0x0 } hp.recvState
      (by rw [received, received, hone]; exact Nat.le_refl 2)
    have hsecond := sendByte_noMagic (p := { p.received first with output := some 0x0 })
      hp.recvState htwo'
    rw [Outcome.ok_bind, Machine.exec_cons, hsecond] at hq
    cases hq'.symm.trans hq
    cases hmagic.symm.trans hcommand
  · rintro rfl
    obtain ⟨s, data, status⟩ := p
    obtain ⟨rfl, rfl⟩ := hp
    cases status <;> exact ⟨_, rfl, rfl, rfl⟩

/-- The magic right away, to a new printer. -/
theorem resync_iff_new :
    ∃ q, sendBytes ([] ++ [0x88, 0x33]) new = .ok q ∧ q.recvState = .recvWaitCommand ∧
      sendBytes [0x88, 0x33] new = .ok q :=
  (resync_iff (p := new) ⟨rfl, rfl⟩ (by decide)).mpr rfl

/-- One zero byte before the magic, and a new printer misses it. -/
theorem resync_fails :
    new.Awaits ∧ ¬ [0x88, 0x33] <:+: [(0x00 : UInt8)] ∧ [(0x00 : UInt8)].getLast? ≠ some 0x88 ∧
      ∃ q, sendBytes ([0x00] ++ [0x88, 0x33]) new = .ok q ∧ q.recvState = .recvWaitMagic ∧
        ∃ r, sendBytes [0x88, 0x33] new = .ok r ∧ r.recvState = .recvWaitCommand :=
  ⟨⟨rfl, rfl⟩, by decide, by decide, _, rfl, rfl, _, rfl, rfl⟩

end Printer

end ZenithGb
