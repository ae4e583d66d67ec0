import ZenithGb.Serial.Framing
import ZenithGb.Serial.PrinterImage

/-!
# Print jobs

What a program does to print a picture: it clears the buffer, fills it with the tiles of the picture
in as many packets as it likes, orders the print, and asks for the status until it is done. This
file follows the picture all the way, from its pixels to the bytes on the link, through the buffer
and back to pixels: what comes out of the printer, whatever jobs are sent to it, are their pictures
in order, and nothing else.

## Main results

* `Printer.image_of_bytes` — the tiles of a picture are decoded to the picture
* `Printer.sendByte_ordersPrint` — what a completed order does
* `Printer.session_job` — one job
* `Printer.jobs_printed` — any number of them
-/

namespace ZenithGb

open Outcome

namespace Printer

/-- A picture of 160 pixels a line, in rows of tiles, at most as many as the printer tells apart. -/
structure Picture where
  rows : ℕ
  rows_le : rows ≤ 18
  /-- The colour at a column and a line. -/
  colour : ℕ → ℕ → Fin 4

namespace Picture

variable (pic : Picture)

/-- One of the two planes of a line of a tile, the leftmost pixel in bit 7. -/
def plane (bit tile line : ℕ) : UInt8 :=
  UInt8.ofNat (Nat.ofBits fun i : Fin 8 =>
    (pic.colour (8 * (tile % 20) + (7 - i)) (8 * (tile / 20) + line)).val.testBit bit)

/-- The tiles of the picture, 20 to a row, two bytes a line. -/
def bytes : List UInt8 :=
  (List.range (320 * pic.rows)).map fun i => pic.plane (i % 2) (i / 16) (i / 2 % 8)

theorem length_bytes : pic.bytes.length = 320 * pic.rows := by
  rw [bytes, List.length_map, List.length_range]

theorem bytes_getElem? {tile line bit : ℕ} (htile : tile < 20 * pic.rows) (hline : line < 8)
    (hbit : bit < 2) : pic.bytes[tile * 16 + 2 * line + bit]? = some (pic.plane bit tile line) := by
  have hplane : (tile * 16 + 2 * line + bit) % 2 = bit := by omega
  have htile' : (tile * 16 + 2 * line + bit) / 16 = tile := by omega
  have hline' : (tile * 16 + 2 * line + bit) / 2 % 8 = line := by omega
  rw [bytes, List.getElem?_map, List.getElem?_range (by omega), Option.map_some, hplane, htile',
    hline']

theorem plane_bit (bit tile line : ℕ) {column : ℕ} (hcolumn : column < 8) :
    (pic.plane bit tile line).toNat / 2 ^ (7 - column) % 2 =
      ((pic.colour (8 * (tile % 20) + column) (8 * (tile / 20) + line)).val.testBit bit).toNat := by
  have hlt : 7 - column < 8 := by omega
  have hback : 7 - (7 - column) = column := by omega
  rw [plane, UInt8.toNat_ofNat_of_lt' (Nat.ofBits_lt_two_pow _), ← Nat.toNat_testBit,
    Nat.testBit_ofBits_lt _ _ hlt]
  simp only [hback]

/-- The tiles hold the colours. -/
theorem tileColour_bytes {tile line column : ℕ} (htile : tile < 20 * pic.rows) (hline : line < 8)
    (hcolumn : column < 8) : tileColour pic.bytes tile line column =
      some (pic.colour (8 * (tile % 20) + column) (8 * (tile / 20) + line)).val := by
  have hplanes : ∀ c : Fin 4, (c.val.testBit 0).toNat + 2 * (c.val.testBit 1).toNat = c.val := by
    decide
  have hlow := pic.bytes_getElem? htile hline (show 0 < 2 by decide)
  rw [Nat.add_zero] at hlow
  rw [tileColour, hlow, pic.bytes_getElem? htile hline (show 1 < 2 by decide)]
  show some (_ + 2 * _) = _
  rw [pic.plane_bit 0 tile line hcolumn, pic.plane_bit 1 tile line hcolumn, hplanes]

end Picture

variable {p : Printer} {pic : Picture} {numSheets margins palette exposure : UInt8}

/-- What the palette byte makes of a colour. -/
def shade (palette : UInt8) (c : Fin 4) : Fin 4 :=
  ⟨palette.toNat / 4 ^ c.val % 4, Nat.mod_lt _ (by decide)⟩

/-- The picture on paper, with a palette. -/
def Picture.onPaper (pic : Picture) (palette : UInt8) : List (List (UInt8 × UInt8 × UInt8)) :=
  (List.range (8 * pic.rows)).map fun y => (List.range 160).map fun x =>
    printerPalette.cell (shade palette (pic.colour x y))

/-- A row of a picture has 160 pixels. -/
theorem print_width {rt : List (List UInt8)}
    (h : p.print numSheets margins palette exposure = .ok rt) {row : List UInt8} (hrow : row ∈ rt) :
    row.length = 160 := by
  obtain ⟨y, -, hy⟩ := exists_of_mem_mapM h hrow
  obtain ⟨tiles, htiles, hy⟩ := bind_eq_ok.mp hy
  cases hy
  have height : ∀ l ∈ tiles, l.length = 8 := by
    intro l hl
    obtain ⟨xCoord, -, hl⟩ := exists_of_mem_mapM htiles hl
    exact (tileLine_of_ram hl).1
  have hcount : tiles.length = 20 := by
    rw [(mapM_getElem? htiles).1, List.length_range]
  rw [List.length_flatten, List.map_congr_left height, List.map_const', List.sum_replicate_nat,
    hcount]

/-- A list of lists is known by its pixels. -/
theorem eq_of_pixels {α : Type} {w : ℕ} {img img' : List (List α)} (hlen : img.length = img'.length)
    (hw : ∀ row ∈ img, row.length = w) (hw' : ∀ row ∈ img', row.length = w)
    (h : ∀ y < img.length, ∀ x < w,
      (img[y]?.bind fun row => row[x]?) = img'[y]?.bind fun row => row[x]?) : img = img' := by
  refine List.ext_getElem hlen fun y hy hy' => List.ext_getElem? fun x => ?_
  by_cases hx : x < w
  · have hpixel := h y hy x hx
    rw [List.getElem?_eq_getElem hy, List.getElem?_eq_getElem hy'] at hpixel
    exact hpixel
  · rw [List.getElem?_eq_none (by rw [hw _ (List.getElem_mem hy)]; omega),
      List.getElem?_eq_none (by rw [hw' _ (List.getElem_mem hy')]; omega)]

/-- **Decoding.** A buffer that holds the tiles of a picture is drawn as the picture. -/
theorem image_of_bytes (h : p.ram = pic.bytes) :
    p.image numSheets margins palette exposure = .ok (pic.onPaper palette) := by
  have hrows := pic.rows_le
  have hlen : p.ram.length = 320 * pic.rows := by rw [h, pic.length_bytes]
  have hprints : Succeeds (p.print numSheets margins palette exposure) :=
    succeeds_print.mpr (.inr (.inl (by omega)))
  obtain ⟨rt, hprint⟩ := hprints
  obtain ⟨hheight, hpixels⟩ := print_pixel hprint
  obtain ⟨img, himg, hheight', hcolours⟩ := image_of_print hprint
  have hwidth : ∀ row ∈ img, row.length = 160 := by
    intro row hrow
    obtain ⟨rt', hprint', himg'⟩ := bind_eq_ok.mp himg
    obtain ⟨row', hrow', hr⟩ := exists_of_mem_mapM himg' hrow
    rw [(mapM_getElem? hr).1, print_width hprint' hrow']
  rw [himg]
  refine congrArg _ (eq_of_pixels (w := 160) ?_ hwidth ?_ fun y hy x hx => ?_)
  · rw [Picture.onPaper, List.length_map, List.length_range]
    omega
  · intro row hrow
    obtain ⟨y, -, rfl⟩ := List.mem_map.mp hrow
    rw [List.length_map, List.length_range]
  have hy : y < 8 * pic.rows := by omega
  rw [Picture.onPaper, List.getElem?_map, List.getElem?_range hy, Option.map_some, Option.bind_some,
    List.getElem?_map, List.getElem?_range hx, Option.map_some]
  obtain ⟨b, hb, hentry⟩ := hpixels y (by omega) x hx
  obtain ⟨hlt, hcolour⟩ := hcolours y x b hb
  rw [hcolour]
  -- The pixel belongs to a tile of the picture.
  have htile : tileAt x y % 360 = x / 8 + 20 * (y / 8) := by
    rw [tileAt]
    omega
  have hcolumn : 8 * ((x / 8 + 20 * (y / 8)) % 20) + x % 8 = x := by omega
  have hline : 8 * ((x / 8 + 20 * (y / 8)) / 20) + y % 8 = y := by omega
  rw [entry, h, htile, pic.tileColour_bytes (by omega) (Nat.mod_lt y (by decide))
    (Nat.mod_lt x (by decide)), hcolumn, hline, Option.map_some] at hentry
  have hshade : (⟨b.toNat, hlt⟩ : Fin 4) = shade palette (pic.colour x y) :=
    Fin.ext (Option.some_inj.mp hentry).symm
  rw [hshade]

/-! ### Packets in a row -/

/-- Packets that order no print are taken one after the other. -/
theorem session_quiet (pkts : List Packet) (hquiet : ∀ pkt ∈ pkts, pkt.cmd ≠ 0x2) :
    ∀ p : Printer, p.Awaits → ∃ replies, p.Session (pkts.flatMap Packet.bytes) replies []
      (pkts.foldl (fun p pkt => pkt.process p) p) := by
  induction pkts with
  | nil => exact fun p _ => ⟨[], .refl p⟩
  | cons pkt pkts ih =>
    intro p hp
    have hcmd : pkt.cmd ≠ 0x2 := hquiet pkt List.mem_cons_self
    have hpkt := session_packet pkt hp fun hc => absurd hc hcmd
    rw [Packet.printed, if_neg hcmd] at hpkt
    obtain ⟨replies, hrest⟩ := ih (fun pkt' h => hquiet pkt' (List.mem_cons_of_mem pkt h))
      (pkt.process p) (pkt.awaits_process p)
    exact ⟨_, hpkt.append hrest⟩

theorem awaits_foldl (pkts : List Packet) : ∀ p : Printer, p.Awaits →
    (pkts.foldl (fun p pkt => pkt.process p) p).Awaits := by
  induction pkts with
  | nil => exact fun p hp => hp
  | cons pkt pkts ih => exact fun p _ => ih (pkt.process p) (pkt.awaits_process p)

/-- The buffer is being filled: nothing is being printed, and there is nothing to lose to the reset
that follows a finished print. -/
structure Fills (p : Printer) (buffer : List UInt8) : Prop where
  awaits : p.Awaits
  ram : p.ram = buffer
  status : p.status ≠ .printerPrinting
  done : p.status = .printerDone → buffer = []

theorem status_afterMagic (p : Printer) : p.afterMagic.status ≠ .printerPrinting := by
  obtain ⟨s, data, status⟩ := p
  cases status <;> exact fun h => (by cases h)

theorem status_process (pkt : Packet) (p : Printer) :
    (pkt.process p).status = (p.afterMagic.obey pkt.cmd).status := rfl

/-- Command 1 begins. -/
theorem fills_clear {pkt : Packet} (hc : pkt.cmd = 0x1) (p : Printer) :
    (pkt.process p).Fills [] where
  awaits := pkt.awaits_process p
  ram := by
    rw [Packet.ram_process, if_pos (.inl hc), Packet.payloads_singleton, hc]
    rfl
  status := by
    rw [status_process, hc]
    exact status_afterMagic p
  done := fun _ => rfl

variable {buffer : List UInt8}

theorem Fills.ram_afterMagic (h : p.Fills buffer) : p.afterMagic.ram = buffer := by
  rw [Packet.ram_afterMagic]
  split
  · rename_i hdone
    exact (h.done hdone).symm
  · exact h.ram

/-- Commands 4 and 15 go on. -/
theorem Fills.process (h : p.Fills buffer) {pkt : Packet} (hc : pkt.cmd = 0x4 ∨ pkt.cmd = 0xF) :
    (pkt.process p).Fills (buffer ++ Packet.payloads [pkt]) := by
  have hstatus : (pkt.process p).status ≠ .printerPrinting ∧
      (pkt.process p).status ≠ .printerDone := by
    rw [status_process]
    have hprinting := h.status
    obtain ⟨s, data, status⟩ := p
    rcases hc with hc | hc <;> rw [hc] <;> cases status <;>
      first | exact absurd rfl hprinting | exact ⟨fun h => (by cases h), fun h => (by cases h)⟩
  refine ⟨pkt.awaits_process p, ?_, hstatus.1, fun hdone => absurd hdone hstatus.2⟩
  rw [Packet.ram_process]
  congr 1
  split
  · rename_i hempties
    rcases hempties with hc' | hdone
    · rw [hc'] at hc
      exact absurd hc (by decide)
    · exact (h.done hdone).symm
  · exact h.ram

/-- All the packets that fill the buffer. -/
theorem Fills.foldl (pkts : List Packet) (hc : ∀ pkt ∈ pkts, pkt.cmd = 0x4 ∨ pkt.cmd = 0xF) :
    ∀ (p : Printer) (buffer : List UInt8), p.Fills buffer →
      (pkts.foldl (fun p pkt => pkt.process p) p).Fills (buffer ++ Packet.payloads pkts) := by
  induction pkts with
  | nil =>
    intro p buffer h
    rw [show Packet.payloads [] = [] from rfl, List.append_nil]
    exact h
  | cons pkt pkts ih =>
    intro p buffer h
    have hrest := ih (fun pkt' h' => hc pkt' (List.mem_cons_of_mem pkt h')) _ _
      (h.process (hc pkt List.mem_cons_self))
    rw [List.append_assoc, ← Packet.payloads_append] at hrest
    exact hrest

/-! ### Jobs -/

/-- A print job: command 1 clears the buffer, command 4 fills it, command 2 orders the print, and
command 15 asks for the status, at any time in between and any number of times in the end. -/
structure Job where
  picture : Picture
  clear : Packet
  clear_cmd : clear.cmd = 0x1
  fill : List Packet
  fill_cmd : ∀ pkt ∈ fill, pkt.cmd = 0x4 ∨ pkt.cmd = 0xF
  /-- The packets may cut the tiles wherever they like. -/
  payloads_fill : Packet.payloads fill = picture.bytes
  numSheets : UInt8
  margins : UInt8
  palette : UInt8
  exposure : UInt8
  order : Packet
  order_cmd : order.cmd = 0x2
  order_data : order.data = [numSheets, margins, palette, exposure]
  polls : List Packet
  polls_cmd : ∀ pkt ∈ polls, pkt.cmd = 0xF

namespace Job

variable (job : Job)

/-- Everything that is sent. -/
def bytes : List UInt8 :=
  job.clear.bytes ++ job.fill.flatMap Packet.bytes ++ job.order.bytes ++
    job.polls.flatMap Packet.bytes

end Job

/-- The picture in a single packet, and no question about the status. -/
def Picture.job (pic : Picture) (numSheets margins palette exposure : UInt8) : Job where
  picture := pic
  clear := ⟨0x1, 0, 0, 0, [], 0x1, 0, 0, rfl, by decide⟩
  clear_cmd := rfl
  fill := [⟨0x4, 0, UInt8.ofNat (320 * pic.rows % 256), UInt8.ofNat (320 * pic.rows / 256),
    pic.bytes, 0, 0, 0, by
      have hrows := pic.rows_le
      rw [pic.length_bytes, toNat_value,
        UInt8.toNat_ofNat_of_lt' (show 320 * pic.rows / 256 < 256 by omega),
        UInt8.toNat_ofNat_of_lt' (show 320 * pic.rows % 256 < 256 by omega)]
      omega, .inl rfl⟩]
  fill_cmd := fun pkt h => by
    rw [List.mem_singleton.mp h]
    exact .inl rfl
  payloads_fill := by
    rw [Packet.payloads_singleton]
    rfl
  numSheets := numSheets
  margins := margins
  palette := palette
  exposure := exposure
  order := ⟨0x2, 0, 4, 0, [numSheets, margins, palette, exposure], 0, 0, 0,
    by rw [show (value 0 4).toNat = 4 by decide]; rfl, .inr (.inr ⟨rfl, rfl⟩)⟩
  order_cmd := rfl
  order_data := rfl
  polls := []
  polls_cmd := List.forall_mem_nil _

/-- What a printer prints when a payload of four bytes is complete. -/
def drawn (p : Printer) : Checked (List (List (UInt8 × UInt8 × UInt8))) :=
  match p.recvData with
  | [numSheets, margins, palette, exposure] => p.image numSheets margins palette exposure
  | _ => .error (.unreachable .printerSend)

theorem drawn_eq (h : p.recvData = [numSheets, margins, palette, exposure]) :
    p.drawn = p.image numSheets margins palette exposure := by
  rw [drawn, h]

/-- A print order draws the picture, and that is all it does. -/
theorem receivePayload_order (h : p.status = .printerPrinting) :
    p.receivePayload = (fun _ => p) <$> p.drawn := by
  have hdraw : ∀ numSheets margins palette exposure,
      (do let _ ← p.print numSheets margins palette exposure; return p) =
        (fun _ => p) <$> p.image numSheets margins palette exposure := by
    intro numSheets margins palette exposure
    cases hprint : p.print numSheets margins palette exposure with
    | error e =>
      rw [image, hprint]
      rfl
    | ok rt =>
      -- What `print` draws always has colours.
      obtain ⟨img, himg, -⟩ := image_of_print hprint
      rw [himg]
      rfl
  rw [receivePayload, h, drawn]
  generalize p.recvData = data
  rcases data with _ | ⟨numSheets, _ | ⟨margins, _ | ⟨palette, _ | ⟨exposure, _ | ⟨_, _⟩⟩⟩⟩⟩
  · rfl
  · rfl
  · rfl
  · rfl
  · exact hdraw numSheets margins palette exposure
  · rfl

/-- The byte that completes it draws what is recorded, or panics as that does. -/
theorem sendByte_ordersPrint (h : p.OrdersPrint) (byte : UInt8) :
    p.prints byte = [p.received byte] ∧ p.sendByte byte = (fun _ =>
      { (p.received byte).goto .recvWaitChecksum with output := some 0x0 }) <$>
        (p.received byte).drawn := by
  obtain ⟨hs, hstatus, hlen⟩ := h
  have hlen' : (p.received byte).recvDataLength ≤ (p.received byte).recvData.length := by
    show p.recvDataLength ≤ (p.recvData ++ [byte]).length
    rwa [List.length_append]
  refine ⟨if_pos ⟨hs, hstatus, hlen⟩, ?_⟩
  rw [sendByte_eq, receive_payload (q := p.received byte) hs hlen',
    receivePayload_order (p := p.received byte) hstatus]
  cases (p.received byte).drawn <;> rfl

/-- **One job** is taken whole, and its picture is drawn. -/
theorem session_job (job : Job) (hp : p.Awaits) : ∃ q replies printed,
    p.Session job.bytes replies [printed] q ∧ q.Awaits ∧
      printed.drawn = .ok (job.picture.onPaper job.palette) := by
  obtain ⟨cleared, hclear⟩ := session_quiet [job.clear] (fun pkt h hc => by
    rw [List.mem_singleton.mp h] at hc
    exact absurd (hc.symm.trans job.clear_cmd) (by decide)) p hp
  obtain ⟨filled, hfill⟩ := session_quiet job.fill (fun pkt h hc => by
    have hcmd := job.fill_cmd pkt h
    rw [hc] at hcmd
    exact absurd hcmd (by decide)) _ (job.clear.awaits_process p)
  have hfills := Fills.foldl job.fill job.fill_cmd _ _ (fills_clear job.clear_cmd p)
  rw [List.nil_append, job.payloads_fill] at hfills
  have hrows := job.picture.rows_le
  have horder := session_packet job.order hfills.awaits fun _ => by
    rw [hfills.ram_afterMagic, job.picture.length_bytes]
    exact .inr (.inl (by omega))
  rw [Packet.printed, if_pos job.order_cmd] at horder
  obtain ⟨polled, hpolls⟩ := session_quiet job.polls (fun pkt h hc =>
    absurd (hc.symm.trans (job.polls_cmd pkt h)) (by decide)) _ (job.order.awaits_process _)
  have hjob := ((hclear.append hfill).append horder).append hpolls
  rw [List.flatMap_singleton, List.nil_append, List.nil_append, List.append_nil] at hjob
  refine ⟨_, _, _, hjob, awaits_foldl _ _ (job.order.awaits_process _), ?_⟩
  refine (drawn_eq job.order_data).trans (image_of_bytes ?_)
  show (obey _ job.order.cmd).ram = _
  rw [job.order_cmd]
  exact hfills.ram_afterMagic

/-- Jobs in a row. -/
theorem session_jobs (jobs : List Job) : ∀ p : Printer, p.Awaits → ∃ q replies printed,
    p.Session (jobs.flatMap Job.bytes) replies printed q ∧ q.Awaits ∧
      printed.map drawn = jobs.map fun job => .ok (job.picture.onPaper job.palette) := by
  induction jobs with
  | nil => exact fun p hp => ⟨p, [], [], .refl p, hp, rfl⟩
  | cons job jobs ih =>
    intro p hp
    obtain ⟨q, replies, printed, hjob, hq, hdrawn⟩ := session_job job hp
    obtain ⟨q', replies', printed', hjobs, hq', hdrawn'⟩ := ih q hq
    refine ⟨q', _, _, hjob.append hjobs, hq', ?_⟩
    rw [List.singleton_append, List.map_cons, hdrawn, hdrawn']
    rfl

/-- **Print jobs.** Whatever jobs are sent to a printer that waits for a packet, they are all taken,
and what it prints are their pictures, in order: what is recorded when a byte orders a print is what
taking that byte draws, or panics on. -/
theorem jobs_printed (hp : p.Awaits) (jobs : List Job) :
    (∃ q printed, Machine.exec watch (jobs.flatMap Job.bytes) (p, []) = .ok (q, printed) ∧
      q.Awaits ∧
      printed.map drawn = jobs.map fun job => .ok (job.picture.onPaper job.palette)) ∧
    ∀ q : Printer, q.OrdersPrint → ∀ byte, q.prints byte = [q.received byte] ∧
      q.sendByte byte = (fun _ =>
        { (q.received byte).goto .recvWaitChecksum with output := some 0x0 }) <$>
          (q.received byte).drawn := by
  obtain ⟨q, replies, printed, hjobs, hq, hdrawn⟩ := session_jobs jobs p hp
  exact ⟨⟨q, printed, hjobs.watched [], hq, hdrawn⟩, fun _ h => sendByte_ordersPrint h⟩

theorem stripe_lt (x : ℕ) : x % 4 < 4 := Nat.mod_lt x (by decide)

/-- A whole screen in stripes of the four colours. -/
def stripes : Picture := ⟨18, Nat.le_refl 18, fun x _ => ⟨x % 4, stripe_lt x⟩⟩

/-- The stripes, printed twice by a new printer, with the palette that keeps the colours and with
the one that turns them round. -/
theorem jobs_printed_stripes : new.Awaits ∧ ∃ q printed,
    Machine.exec watch ((stripes.job 1 0 0xE4 0x40).bytes ++ (stripes.job 1 0 0x1B 0x40).bytes)
        (new, []) = .ok (q, printed) ∧
      printed.map drawn = [.ok (stripes.onPaper 0xE4), .ok (stripes.onPaper 0x1B)] := by
  obtain ⟨⟨q, printed, hexec, -, hdrawn⟩, -⟩ := jobs_printed (p := new) ⟨rfl, rfl⟩
    [stripes.job 1 0 0xE4 0x40, stripes.job 1 0 0x1B 0x40]
  rw [List.flatMap_cons, List.flatMap_singleton] at hexec
  exact ⟨⟨rfl, rfl⟩, q, printed, hexec, hdrawn⟩

end Printer

end ZenithGb
