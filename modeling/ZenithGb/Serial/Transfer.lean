import Mathlib.Tactic.IntervalCases
import ZenithGb.Serial.PrinterPanics
import ZenithGb.Serial.Serial

/-!
# Serial transfers

A transfer takes nine clocks: the first hands SB to the printer and shifts in the first bit of its
reply, the next seven shift in the others, and the last ends the transfer and requests the
interrupt. The position is kept in `shift_counter`, which a write to SC leaves alone, so a transfer
that was stopped half-way is continued by the next one.

## Main results

* `Serial.whole_of_zero` — a transfer that begins at position 0 is whole
* `Serial.whole_iff` — and no other is
* `Serial.transfers_whole` — so the position decides at every start of every run
-/

namespace ZenithGb

open Outcome

/-! ### What a byte does to the printer -/

namespace Printer

variable {p q : Printer} {byte : UInt8}

/-- The printer always replies. -/
theorem output_of_sendByte (h : p.sendByte byte = .ok q) : ∃ reply, q.output = some reply := by
  rw [sendByte_eq] at h
  obtain ⟨r, -, h⟩ := bind_eq_ok.mp h
  cases h
  exact ⟨r.2, rfl⟩

/-- A byte moves the parser to another state, or is kept. -/
theorem moves_of_receive {q' : Printer} {reply : UInt8} (h : q.receive = .ok (q', reply)) :
    q'.recvState ≠ q.recvState ∨ q' = q := by
  have hgoto : ∀ {r : Printer} {s t : PrinterRecvState} {b : UInt8}, q.recvState = s → t ≠ s →
      (.ok (r.goto t, b) : Checked (Printer × UInt8)) = .ok (q', reply) →
        q'.recvState ≠ q.recvState ∨ q' = q := by
    intro r s t b hs ht h
    cases h
    exact .inl (hs ▸ ht)
  have hkeep : ∀ {b : UInt8}, (.ok (q, b) : Checked (Printer × UInt8)) = .ok (q', reply) →
      q'.recvState ≠ q.recvState ∨ q' = q := by
    intro b h
    cases h
    exact .inr rfl
  rw [receive] at h
  split at h
  case h_8 => exact hgoto ‹_› (by split <;> decide) h
  case h_9 =>
    split at h
    · exact hkeep h
    · obtain ⟨r, -, h⟩ := bind_eq_ok.mp h
      exact hgoto ‹_› (by decide) h
  case h_14 => exact hkeep h
  all_goals first
    | exact hgoto ‹_› (by decide) h
    | cases h

/-- So no byte leaves the printer as it was. -/
theorem sendByte_ne (h : p.sendByte byte = .ok q) : q.take.2 ≠ p := by
  rw [sendByte_eq] at h
  obtain ⟨r, hr, h⟩ := bind_eq_ok.mp h
  cases h
  intro heq
  rcases moves_of_receive hr with hs | hkeep
  · exact hs (by rw [← heq]; rfl)
  · have hdata : r.1.recvData = p.recvData := by rw [← heq]; rfl
    rw [hkeep, received] at hdata
    have hlen := congrArg List.length hdata
    rw [List.length_append] at hlen
    exact Nat.succ_ne_self _ hlen

end Printer

namespace Serial

/-! ### One clock -/

/-- SB with the bit of the reply at position `i` shifted in. -/
def shiftIn (sb reply : UInt8) (i : ℕ) : UInt8 :=
  (sb <<< 1) ||| ((reply >>> UInt8.ofNat (7 - i)) &&& 0x1)

/-- A transfer is running. -/
def Enabled (s : Serial) : Prop := s.regEnable = true ∧ s.regSelect = true

variable {s : Serial} {ctx : ClockContext}

theorem clock_idle (h : ¬ s.Enabled) : s.clock ctx = .ok (s, ctx) :=
  if_pos (by simpa only [Enabled, not_and_or, Bool.not_eq_true, Bool.or_eq_true,
    Bool.not_eq_eq_eq_not, Bool.not_true] using h)

theorem Enabled.guard (h : s.Enabled) : ¬ (!s.regEnable || !s.regSelect) = true := by
  rw [h.1, h.2]
  decide

theorem clock_start (h : s.Enabled) (h0 : s.shiftCounter = 0) {p : Printer} {reply : UInt8}
    (hsend : s.printer.sendByte s.sb = .ok p) (hreply : p.output = some reply) :
    s.clock ctx = .ok ({ s with
      printer := p.take.2, incoming := some reply, sb := shiftIn s.sb reply 0,
      shiftCounter := 1 }, ctx) := by
  rw [clock, if_neg h.guard, if_neg (by omega), if_pos h0, hsend]
  simp only [ok_bind, pure_bind, Printer.take, hreply, h0, checkedSub_of_le _ (Nat.zero_le 7),
    checkedAdd_of_lt _ (show 0 + 1 < 2 ^ 8 by decide)]
  rfl

theorem clock_start_error (h : s.Enabled) (h0 : s.shiftCounter = 0) {e : Panic}
    (hsend : s.printer.sendByte s.sb = .error e) : s.clock ctx = .error e := by
  rw [clock, if_neg h.guard, if_neg (by omega), if_pos h0, hsend]
  rfl

theorem clock_shift (h : s.Enabled) {i : ℕ} (hi : s.shiftCounter = i) (h0 : 0 < i) (h8 : i < 8)
    {reply : UInt8} (hreply : s.incoming = some reply) :
    s.clock ctx = .ok ({ s with sb := shiftIn s.sb reply i, shiftCounter := i + 1 }, ctx) := by
  rw [clock, if_neg h.guard, if_neg (by omega), if_neg (by omega)]
  simp only [pure_bind, hreply, hi, checkedSub_of_le _ (show i ≤ 7 by omega), ok_bind,
    checkedAdd_of_lt _ (show i + 1 < 2 ^ 8 by omega)]
  rfl

theorem clock_finish (h : s.Enabled) (h8 : s.shiftCounter = 8) :
    s.clock ctx = .ok (s.finishTransmission ctx) := by
  rw [clock, if_neg h.guard, if_pos h8]

/-! ### Nine clocks -/

theorem toNat_shiftIn (sb reply : UInt8) {i : ℕ} (hi : i < 8) :
    (shiftIn sb reply i).toNat = (2 * sb.toNat + reply.toNat / 2 ^ (7 - i) % 2) % 256 := by
  have hlow : ((reply >>> UInt8.ofNat (7 - i)) &&& 0x1).toNat = reply.toNat / 2 ^ (7 - i) % 2 := by
    have hk : (UInt8.ofNat (7 - i)).toNat = 7 - i :=
      UInt8.toNat_ofNat_of_lt' (show 7 - i < 256 by omega)
    rw [toNat_shiftRight_and_one _ (by omega), hk]
  have hhigh : (sb <<< 1).toNat = 2 ^ 1 * (sb.toNat % 128) := by
    rw [UInt8.toNat_shiftLeft]
    show (sb.toNat <<< 1) % 256 = _
    rw [Nat.shiftLeft_eq]
    omega
  rw [shiftIn, UInt8.toNat_or, hlow, hhigh,
    ← Nat.two_pow_add_eq_or_of_lt (Nat.mod_lt _ (by decide))]
  omega

/-- The low bits of SB are the bits of the reply that have come, most significant first. -/
def Holds (sb reply : UInt8) (i : ℕ) : Prop := sb.toNat % 2 ^ i = reply.toNat / 2 ^ (8 - i)

theorem holds_zero (sb reply : UInt8) : Holds sb reply 0 := by
  have := reply.toNat_lt
  rw [Holds, pow_zero, Nat.mod_one]
  omega

theorem Holds.shiftIn {sb reply : UInt8} {i : ℕ} (h : Holds sb reply i) (hi : i < 8) :
    Holds (shiftIn sb reply i) reply (i + 1) := by
  have := reply.toNat_lt
  rw [Holds] at h ⊢
  rw [toNat_shiftIn sb reply hi]
  interval_cases i <;> omega

theorem Holds.eq {sb reply : UInt8} (h : Holds sb reply 8) : sb = reply := by
  have hsb := sb.toNat_lt
  rw [← UInt8.toNat_inj]
  rw [Holds] at h
  omega

/-- What the guest does to the port, and the passing of time. -/
inductive Op
  | writeSb (data : UInt8)
  | writeSc (data : UInt8)
  | clock
  deriving DecidableEq

/-- One step, with a log of the interrupts each clock requests. -/
def step : Op → Serial × List UInt8 → Checked (Serial × List UInt8)
  | .writeSb data, (s, log) => .ok (s.writeSb data, log)
  | .writeSc data, (s, log) => .ok (s.writeSc data, log)
  | .clock, (s, log) => do
    let (s, ctx) ← s.clock ⟨0, 0⟩
    return (s, log ++ [ctx.interrupts])

/-- A transfer that began from `s` with `i` bits of the reply shifted in. -/
def transferring (s : Serial) (p : Printer) (reply sb : UInt8) (i : ℕ) : Serial :=
  { s with printer := p.take.2, incoming := some reply, sb := sb, shiftCounter := i }

theorem exec_transferring (h : s.Enabled) (h0 : s.shiftCounter = 0) {p : Printer} {reply : UInt8}
    (hsend : s.printer.sendByte s.sb = .ok p) (hreply : p.output = some reply)
    (log : List UInt8) {i : ℕ} (h1 : 1 ≤ i) (h8 : i ≤ 8) :
    ∃ sb, Holds sb reply i ∧ Machine.exec step (List.replicate i .clock) (s, log) =
      .ok (s.transferring p reply sb i, log ++ List.replicate i 0) := by
  induction i, h1 using Nat.le_induction with
  | base =>
    refine ⟨shiftIn s.sb reply 0, (holds_zero s.sb reply).shiftIn (by decide), ?_⟩
    show step .clock (s, log) >>= Machine.exec step [] = _
    rw [step, clock_start h h0 hsend hreply]
    rfl
  | succ i h1 ih =>
    obtain ⟨sb, hsb, hexec⟩ := ih (by omega)
    refine ⟨shiftIn sb reply i, hsb.shiftIn (by omega), ?_⟩
    have henabled : (s.transferring p reply sb i).Enabled := h
    have hshift : (s.transferring p reply sb i).clock ⟨0, 0⟩ =
        .ok (s.transferring p reply (shiftIn sb reply i) (i + 1), ⟨0, 0⟩) :=
      clock_shift henabled (i := i) rfl h1 (by omega) rfl
    rw [List.replicate_succ', Machine.exec_append, hexec, List.replicate_succ', ← List.append_assoc]
    show step .clock _ >>= Machine.exec step [] = _
    rw [step, hshift]
    rfl

/-- A transfer from its start to its end. -/
theorem exec_nine (h : s.Enabled) (h0 : s.shiftCounter = 0) {p : Printer} {reply : UInt8}
    (hsend : s.printer.sendByte s.sb = .ok p) (hreply : p.output = some reply)
    (log : List UInt8) :
    Machine.exec step (List.replicate 9 .clock) (s, log) =
      .ok (((s.transferring p reply reply 8).finishTransmission ⟨0, 0⟩).1,
        log ++ (List.replicate 8 0 ++ [interruptBitSerial])) := by
  obtain ⟨sb, hsb, hexec⟩ := exec_transferring h h0 hsend hreply log (i := 8) (by decide) le_rfl
  rw [hsb.eq] at hexec
  have henabled : (s.transferring p reply reply 8).Enabled := h
  rw [List.replicate_succ', Machine.exec_append, hexec, ← List.append_assoc]
  show step .clock _ >>= Machine.exec step [] = _
  rw [step, clock_finish henabled rfl]
  rfl

/-! ### Whole transfers -/

/-- The next clock hands SB to the printer, and if nothing else happens in nine clocks, SB is the
reply at their end, the transfer is over, and only the ninth has requested the interrupt. -/
structure Whole (s : Serial) : Prop where
  /-- A byte the printer panics on makes the clock panic. -/
  handsOver_error : ∀ e, s.printer.sendByte s.sb = .error e → ∀ ctx, s.clock ctx = .error e
  handsOver : ∀ p, s.printer.sendByte s.sb = .ok p →
    ∀ ctx, ∃ s', s.clock ctx = .ok (s', ctx) ∧ s'.printer = p.take.2
  completes : ∀ p, s.printer.sendByte s.sb = .ok p → ∀ log, ∃ s',
    Machine.exec step (List.replicate 9 .clock) (s, log) =
      .ok (s', log ++ (List.replicate 8 0 ++ [interruptBitSerial])) ∧
    p.take.1 = some s'.readSb ∧ s'.readSc &&& 0x80 = 0 ∧ s'.printer = p.take.2

theorem whole_of_zero (h : s.Enabled) (h0 : s.shiftCounter = 0) : s.Whole := by
  refine ⟨fun e he ctx => clock_start_error h h0 he, fun p hp ctx => ?_, fun p hp log => ?_⟩
  · obtain ⟨reply, hreply⟩ := Printer.output_of_sendByte hp
    exact ⟨_, clock_start h h0 hp hreply, rfl⟩
  · obtain ⟨reply, hreply⟩ := Printer.output_of_sendByte hp
    refine ⟨_, exec_nine h h0 hp hreply log, hreply, ?_, rfl⟩
    show readSc _ &&& 0x80 = 0
    simp only [readSc, finishTransmission, transferring]
    cases s.regSelect <;> decide

/-! ### Runs of the port -/

/-- Inside a transfer there is a reply to shift in. -/
def Positioned (s : Serial) : Prop :=
  s.shiftCounter ≤ 8 ∧ (0 < s.shiftCounter → s.incoming.isSome)

theorem Positioned.clock (h : s.Positioned) :
    Yields (s.clock ctx) fun r => r.1.Positioned := by
  refine meets_of_ok fun r hr => ?_
  by_cases henabled : s.Enabled
  · rcases Nat.eq_zero_or_pos s.shiftCounter with h0 | h0
    · cases hsend : s.printer.sendByte s.sb with
      | error e => cases (clock_start_error henabled h0 hsend).symm.trans hr
      | ok p =>
        obtain ⟨reply, hreply⟩ := Printer.output_of_sendByte hsend
        cases (clock_start henabled h0 hsend hreply).symm.trans hr
        exact ⟨show 1 ≤ 8 by decide, fun _ => rfl⟩
    · rcases Nat.lt_or_eq_of_le h.1 with h8 | h8
      · obtain ⟨reply, hreply⟩ := Option.isSome_iff_exists.mp (h.2 h0)
        cases (clock_shift henabled rfl h0 h8 hreply).symm.trans hr
        exact ⟨h8, fun _ => h.2 h0⟩
      · cases (clock_finish henabled h8).symm.trans hr
        exact ⟨Nat.zero_le 8, fun h => absurd h (Nat.lt_irrefl 0)⟩
  · cases (clock_idle henabled).symm.trans hr
    exact h

theorem Positioned.step {x y : Serial × List UInt8} (op : Op) (h : x.1.Positioned)
    (hstep : step op x = .ok y) : y.1.Positioned := by
  cases op with
  | writeSb data => cases hstep; exact h
  | writeSc data => cases hstep; exact h
  | clock =>
    obtain ⟨r, hr, hlog⟩ := bind_eq_ok.mp hstep
    cases hlog
    exact h.clock.of_ok hr

/-- **One start.** A transfer is whole exactly when it begins at position 0. -/
theorem whole_iff (h : s.Enabled) (hpos : s.Positioned) : s.Whole ↔ s.shiftCounter = 0 := by
  refine ⟨fun hwhole => ?_, whole_of_zero h⟩
  by_contra h0
  -- The clock goes on with the old transfer and leaves the printer alone.
  obtain ⟨t, hclock, hprinter⟩ : ∃ t, s.clock ⟨0, 0⟩ = .ok t ∧ t.1.printer = s.printer := by
    rcases Nat.lt_or_eq_of_le hpos.1 with h8 | h8
    · obtain ⟨reply, hreply⟩ := Option.isSome_iff_exists.mp (hpos.2 (Nat.pos_of_ne_zero h0))
      exact ⟨_, clock_shift h rfl (Nat.pos_of_ne_zero h0) h8 hreply, rfl⟩
    · exact ⟨_, clock_finish h h8, rfl⟩
  cases hsend : s.printer.sendByte s.sb with
  | error e => cases hclock.symm.trans (hwhole.handsOver_error e hsend ⟨0, 0⟩)
  | ok p =>
    obtain ⟨s', hs', htake⟩ := hwhole.handsOver p hsend ⟨0, 0⟩
    cases hs'.symm.trans hclock
    exact Printer.sendByte_ne hsend (htake.symm.trans hprinter)

/-- An SC write that sets both bits. -/
def Op.starts : Op → Prop
  | .writeSc data => data &&& 0x80 ≠ 0 ∧ data &&& 0x1 ≠ 0
  | _ => False

/-- Between the start and the next clock SB may be written, and SC if it stays enabled. -/
def Op.prepares : Op → Prop
  | .writeSb _ => True
  | .writeSc data => data &&& 0x80 ≠ 0 ∧ data &&& 0x1 ≠ 0
  | .clock => False

/-- Both leave the port enabled where it was, if it was; a start enables it. -/
theorem step_of_prepares {x y : Serial × List UInt8} {op : Op} (h : step op x = .ok y) :
    (op.starts → y.1.Enabled ∧ y.1.shiftCounter = x.1.shiftCounter) ∧
      (op.prepares → x.1.Enabled → y.1.Enabled ∧ y.1.shiftCounter = x.1.shiftCounter) := by
  cases op with
  | writeSb data =>
    cases h
    exact ⟨False.elim, fun _ henabled => ⟨henabled, rfl⟩⟩
  | writeSc data =>
    cases h
    have hboth : data &&& 0x80 ≠ 0 ∧ data &&& 0x1 ≠ 0 → (x.1.writeSc data).Enabled := fun hd =>
      ⟨bne_iff_ne.mpr hd.1, bne_iff_ne.mpr hd.2⟩
    exact ⟨fun hd => ⟨hboth hd, rfl⟩, fun hd _ => ⟨hboth hd, rfl⟩⟩
  | clock => exact ⟨False.elim, False.elim⟩

theorem positioned_of_run (r : Machine.Run step) (hstart : r.state 0 = (new, [])) {k : ℕ}
    (hk : k ≤ r.length) : (r.state k).1.Positioned := by
  refine r.invariant (I := fun _ x => x.1.Positioned) (m := 0) ?_ (fun k _ hk h => ?_) k
    (Nat.zero_le k) hk
  · rw [hstart]
    exact ⟨Nat.zero_le 8, fun h => absurd h (Nat.lt_irrefl 0)⟩
  · exact h.step (r.input k) (r.next k hk)

/-- **Transfers.** In a run from a new port, the transfer that an SC write starts is whole exactly
when the position is 0 at that write. -/
theorem transfers_whole (r : Machine.Run step) (hstart : r.state 0 = (new, [])) {k : ℕ}
    (hk : k < r.length) (hinput : (r.input k).starts) :
    (∀ j, k < j → j ≤ r.length → (∀ i, k < i → i < j → (r.input i).prepares) →
      (r.state j).1.Whole) ↔ (r.state k).1.shiftCounter = 0 := by
  have hfirst := (step_of_prepares (r.next k hk)).1 hinput
  constructor
  · intro hwhole
    have h := hwhole (k + 1) (Nat.lt_succ_self k) hk fun i hi hi' => by omega
    rw [← hfirst.2]
    exact (whole_iff hfirst.1 (positioned_of_run r hstart hk)).mp h
  · intro h0 j hkj hj hprep
    have hready := r.invariant (m := k + 1)
      (I := fun i x => i ≤ j → x.1.Enabled ∧ x.1.shiftCounter = 0)
      (fun _ => ⟨hfirst.1, hfirst.2.trans h0⟩)
      (fun i hki hi hI hij => by
        obtain ⟨henabled, hzero⟩ := hI (by omega)
        obtain ⟨henabled', hsame⟩ :=
          (step_of_prepares (r.next i hi)).2 (hprep i (by omega) (by omega)) henabled
        exact ⟨henabled', hsame.trans hzero⟩)
      j hkj hj le_rfl
    exact whole_of_zero hready.1 hready.2

/-- The first transfer of a new port is whole. -/
theorem transfers_whole_first :
    ∃ r : Machine.Run step, r.state 0 = (new, []) ∧ r.input 1 = .writeSc 0x81 ∧
      (r.state 2).1.Whole := by
  obtain ⟨r, hlen, h0, -, hinput⟩ := Machine.Run.ofExec .clock
    (show Machine.exec step [.writeSb 0x88, .writeSc 0x81] (new, []) =
      .ok ((new.writeSb 0x88).writeSc 0x81, []) from rfl)
  have h1 : r.state 1 = (new.writeSb 0x88, []) := by
    have hnext := r.next 0 (by rw [hlen]; decide)
    rw [hinput 0, h0] at hnext
    exact (ok_inj.mp hnext).symm
  refine ⟨r, h0, hinput 1, (transfers_whole r h0 (k := 1) (by rw [hlen]; decide) ?_).mpr ?_ 2
    (by decide) (by rw [hlen]; decide) fun i hi hi' => by omega⟩
  · rw [hinput 1]
    exact ⟨by decide, by decide⟩
  · rw [h1]
    rfl

/-- A transfer stopped after one bit and started again goes on with the second bit: the byte in SB
is not handed over. -/
theorem not_whole_restarted :
    ∃ s log, Machine.exec step [.writeSc 0x81, .clock, .writeSc 0x01] (new, []) = .ok (s, log) ∧
      ¬ s.Enabled ∧ (Op.writeSc 0x81).starts ∧ s.shiftCounter = 1 ∧
      (∃ s', (s.writeSc 0x81).clock ⟨0, 0⟩ = .ok (s', ⟨0, 0⟩) ∧ s'.printer = s.printer) ∧
      ¬ (s.writeSc 0x81).Whole := by
  refine ⟨_, _, rfl, fun h => absurd h.1 Bool.false_ne_true, ⟨by decide, by decide⟩, rfl,
    ⟨_, rfl, rfl⟩, fun hwhole => ?_⟩
  exact Nat.one_ne_zero ((whole_iff ⟨rfl, rfl⟩ ⟨show 1 ≤ 8 by decide, fun _ => rfl⟩).mp hwhole)

end Serial

end ZenithGb
