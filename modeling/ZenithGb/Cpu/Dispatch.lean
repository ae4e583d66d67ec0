import ZenithGb.Cpu.Interrupts
import ZenithGb.Soc.Requests

/-!
# The CPU: which interrupt a dispatch serves

A dispatch pushes PC - 1 in two writes. Which interrupt it serves is decided between the two: the
first write can land on IE or IF, and the clocks before it can add requests. Nothing that is decided
then changes with the second write.

## Main results

* `Exec.serves_enterInterrupt` — vector and acknowledged request agree with the priority
* `Exec.dispatches_of_handleInterrupt` — what a dispatch does, access by access
* `Exec.interrupt_selection` — a step that finds an interrupt pending with IME set
-/

namespace ZenithGb

open Outcome

namespace Exec

/-! ### The choice of the interrupt -/

/-- Bit `i` is the lowest one that is set. -/
def LowestBit (p : UInt8) (i : ℕ) : Prop :=
  p.toNat.testBit i = true ∧ ∀ j < i, p.toNat.testBit j = false

instance (p : UInt8) (i : ℕ) : Decidable (LowestBit p i) := inferInstanceAs (Decidable (_ ∧ _))

/-- With `p` pending, the CPU continues at `target`, and a request is acknowledged accordingly:
none if nothing is pending, else exactly the one of highest priority. -/
inductive Serves (p : UInt8) (s s' : Soc) : UInt16 → Prop
  | cancelled : p = 0 → s' = s → Serves p s s' 0x0000
  | served (i : ℕ) : LowestBit p i → s' = { s with rIf := s'.rIf } →
      (∀ j, s'.rIf.toNat.testBit j = (s.rIf.toNat.testBit j && j != i)) →
      Serves p s s' (UInt16.ofNat (0x40 + 8 * i))

/-- The first interrupt of `p` in order of priority. -/
def firstInterrupt (p : UInt8) : Option (UInt8 × UInt16) :=
  (interruptBits.zip interruptVecs).find? fun i => p &&& i.1 != 0

theorem activeInterrupt_eq (soc : Soc) :
    activeInterrupt soc = firstInterrupt soc.activeInterrupts :=
  rfl

/-- The search finds the lowest bit, with its vector. -/
theorem firstInterrupt_spec {p : UInt8} (hp : p < 0x20) :
    (p = 0 ∧ firstInterrupt p = none) ∨ ∃ i < 5, LowestBit p i ∧
      firstInterrupt p = some (UInt8.ofNat (2 ^ i), UInt16.ofNat (0x40 + 8 * i)) := by
  have hall : ∀ n < 0x20, (UInt8.ofNat n = 0 ∧ firstInterrupt (UInt8.ofNat n) = none) ∨
      ∃ i < 5, LowestBit (UInt8.ofNat n) i ∧ firstInterrupt (UInt8.ofNat n) =
        some (UInt8.ofNat (2 ^ i), UInt16.ofNat (0x40 + 8 * i)) := by decide
  rw [← UInt8.ofNat_toNat (x := p)]
  exact hall p.toNat (UInt8.lt_iff_toNat_lt.mp hp)

/-- Acknowledging interrupt `i` clears bit `i` and no other. -/
theorem testBit_acknowledge (f : UInt8) {i : ℕ} (hi : i < 5) (j : ℕ) :
    (f &&& ~~~(UInt8.ofNat (2 ^ i))).toNat.testBit j = (f.toNat.testBit j && j != i) := by
  have hmask : ∀ i < 5, ∀ j < 8, (~~~(UInt8.ofNat (2 ^ i))).toNat.testBit j = (j != i) := by decide
  rw [UInt8.toNat_and, Nat.testBit_and]
  by_cases hj : j < 8
  · rw [hmask i hi j hj]
  · have hhigh : f.toNat.testBit j = false :=
      Nat.testBit_lt_two_pow (f.toNat_lt.trans_le (Nat.pow_le_pow_right (by decide) (by omega)))
    rw [hhigh, Bool.false_and, Bool.false_and]

theorem and_lt_right {x y : UInt8} (h : y < 0x20) : x &&& y < 0x20 :=
  UInt8.lt_of_le_of_lt (and_mask_le x y) h

variable {m m' : Machine} {u : Unit}

theorem LowestBit.unique {p : UInt8} {i j : ℕ} (hi : LowestBit p i) (hj : LowestBit p j) :
    i = j := by
  rcases Nat.lt_trichotomy i j with hlt | rfl | hlt
  · exact absurd ((hj.2 i hlt).symm.trans hi.1) nofun
  · rfl
  · exact absurd ((hi.2 j hlt).symm.trans hj.1) nofun

theorem eq_of_testBit {x y : UInt8} (h : ∀ j, x.toNat.testBit j = y.toNat.testBit j) : x = y :=
  UInt8.toNat_inj.mp (Nat.eq_of_testBit_eq h)

/-- Entering the handler serves the interrupt that was found, and in one way only. -/
theorem enterInterrupt_eq_ok {p : UInt8} (hp : p < 0x20) :
    enterInterrupt (firstInterrupt p) m = .ok (u, m') ↔
      ∃ target, Serves p m.soc m'.soc target ∧ m'.cpu = m.cpu.setPc target := by
  rcases firstInterrupt_spec hp with ⟨hzero, hnone⟩ | ⟨i, hi, hlowest, hsome⟩
  · rw [hnone]
    constructor
    · intro h
      cases h
      exact ⟨_, .cancelled hzero rfl, rfl⟩
    · rintro ⟨target, hserves, hcpu⟩
      obtain ⟨cpu', soc'⟩ := m'
      cases hserves with
      | cancelled _ hsoc => cases hcpu; cases hsoc; rfl
      | served j hj => rw [hzero] at hj; exact absurd hj.1 (by simp)
  · have hrun : enterInterrupt (some (UInt8.ofNat (2 ^ i), UInt16.ofNat (0x40 + 8 * i))) m =
        .ok ((), ⟨m.cpu.setPc (UInt16.ofNat (0x40 + 8 * i)),
          m.soc.clearInterrupt (UInt8.ofNat (2 ^ i))⟩) := rfl
    rw [hsome, hrun]
    constructor
    · intro h
      cases h
      exact ⟨_, .served i hlowest rfl (testBit_acknowledge m.soc.rIf hi), rfl⟩
    · rintro ⟨target, hserves, hcpu⟩
      obtain ⟨cpu', soc'⟩ := m'
      cases hserves with
      | cancelled hzero => rw [hzero] at hlowest; exact absurd hlowest.1 (by simp)
      | served j hj hsoc hbits =>
        obtain rfl := hj.unique hlowest
        have hrif : soc'.rIf = m.soc.rIf &&& ~~~(UInt8.ofNat (2 ^ j)) :=
          eq_of_testBit fun k => (hbits k).trans (testBit_acknowledge m.soc.rIf hi k).symm
        have hsoc' : soc' = m.soc.clearInterrupt (UInt8.ofNat (2 ^ j)) := by
          rw [show soc' = { m.soc with rIf := soc'.rIf } from hsoc, hrif]
          rfl
        cases hcpu
        rw [hsoc']
        rfl

/-! ### A dispatch -/

/-- A dispatch from `m`: two clocks to `s2`, the write of the high byte to `s3`, which decides what
is pending, the write of the low byte to `s4`, the acknowledgement to `s5`, and the fetch of the
opcode at `target`. -/
structure DispatchTrace (m : Machine) (s2 s3 s4 s5 : Soc) (target : UInt16) (m' : Machine) :
    Prop where
  clocks : m.soc.clock >>= Soc.clock = .ok s2
  high : s2.clockWrite (m.cpu.regSp - 1) (getHigh (m.cpu.regPc - 1)) = .ok s3
  low : s3.clockWrite (m.cpu.regSp - 2) (getLow (m.cpu.regPc - 1)) = .ok s4
  serves : Serves (s3.ie &&& s3.rIf) s4 s5 target
  fetch : s5.clockRead target = .ok (m'.cpu.opcode, m'.soc)
  cpu : m'.cpu = { m.cpu with
    regSp := m.cpu.regSp - 2, regPc := target + 1, ime := false, opcode := m'.cpu.opcode }

theorem sub_one_sub_one (sp : UInt16) : sp - 1 - 1 = sp - 2 := by grind

/-- IF stays below 0x20 up to the moment that decides. -/
theorem rIf_lt_of_high {s s2 s3 : Soc} {address : UInt16} {data : UInt8} (hif : s.rIf < 0x20)
    (hclocks : s.clock >>= Soc.clock = .ok s2) (hhigh : s2.clockWrite address data = .ok s3) :
    s3.rIf < 0x20 := by
  obtain ⟨s1, h1, h2⟩ := bind_eq_ok.mp hclocks
  have hif2 := (Soc.raises_of_clock h2).1.lt ((Soc.raises_of_clock h1).1.lt hif)
  exact Soc.rIf_lt_of_clockWrite hif2 hhigh

/-- The accesses of a dispatch, whatever is pending. -/
theorem accesses_of_handleInterrupt (h : handleInterrupt m = .ok (u, m')) :
    ∃ s2 s3 s4 m5, m.soc.clock >>= Soc.clock = .ok s2 ∧
      s2.clockWrite (m.cpu.regSp - 1) (getHigh (m.cpu.regPc - 1)) = .ok s3 ∧
      s3.clockWrite (m.cpu.regSp - 2) (getLow (m.cpu.regPc - 1)) = .ok s4 ∧
      enterInterrupt (activeInterrupt s3) ⟨m.cpu.setSp (m.cpu.regSp - 2), s4⟩ = .ok ((), m5) ∧
      m5.soc.clockRead m5.cpu.regPc = .ok (m'.cpu.opcode, m'.soc) ∧
      m'.cpu = { m5.cpu with
        regPc := m5.cpu.regPc + 1, ime := false, opcode := m'.cpu.opcode } := by
  obtain ⟨_, m1, h1, h⟩ := run_bind_eq_ok.mp h
  obtain ⟨s1, hs1, rfl⟩ := clock_eq_ok.mp h1
  obtain ⟨_, m2, h2, h⟩ := run_bind_eq_ok.mp h
  obtain ⟨s2, hs2, rfl⟩ := clock_eq_ok.mp h2
  obtain ⟨c, _, hc, h⟩ := run_bind_eq_ok.mp h
  cases hc
  obtain ⟨pc, _, hcheck, h⟩ := run_bind_eq_ok.mp h
  obtain ⟨hsub, rfl⟩ := run_check_eq_ok.mp hcheck
  obtain ⟨_, m3, h3, h⟩ := run_bind_eq_ok.mp h
  obtain ⟨s3, hs3, rfl⟩ := clockPushU8_eq_ok.mp h3
  obtain ⟨soc, _, hsoc, h⟩ := run_bind_eq_ok.mp h
  cases hsoc
  obtain ⟨_, m4, h4, h⟩ := run_bind_eq_ok.mp h
  obtain ⟨s4, hs4, rfl⟩ := clockPushU8_eq_ok.mp h4
  obtain ⟨_, m5, h5, h⟩ := run_bind_eq_ok.mp h
  obtain ⟨_, m6, h6, h⟩ := run_bind_eq_ok.mp h
  cases h6
  obtain ⟨opcode, s6, hs6, rfl⟩ := clockFetch_eq_ok.mp h
  obtain ⟨-, rfl⟩ := checkedSubU16_eq_ok.mp hsub
  refine ⟨s2, s3, s4, m5, bind_eq_ok.mpr ⟨s1, hs1, hs2⟩, hs3, ?_, ?_, hs6, rfl⟩
  · rw [← sub_one_sub_one]
    exact hs4
  · rw [← sub_one_sub_one]
    exact h5

theorem trace_of_handleInterrupt (hif : m.soc.rIf < 0x20) (h : handleInterrupt m = .ok (u, m')) :
    ∃ s2 s3 s4 s5 target, DispatchTrace m s2 s3 s4 s5 target m' := by
  obtain ⟨s2, s3, s4, m5, hclocks, hhigh, hlow, hserve, hfetch, hcpu⟩ :=
    accesses_of_handleInterrupt h
  have hpending : s3.activeInterrupts < 0x20 := and_lt_right (rIf_lt_of_high hif hclocks hhigh)
  rw [activeInterrupt_eq] at hserve
  obtain ⟨target, hserves, hpc⟩ := (enterInterrupt_eq_ok hpending).mp hserve
  obtain ⟨cpu, s5⟩ := m5
  cases hpc
  exact ⟨s2, s3, s4, s5, target, ⟨hclocks, hhigh, hlow, hserves, hfetch, hcpu⟩⟩

theorem handleInterrupt_of_trace {s2 s3 s4 s5 : Soc} {target : UInt16} (hif : m.soc.rIf < 0x20)
    (hpc : 1 ≤ m.cpu.regPc) (h : DispatchTrace m s2 s3 s4 s5 target m') :
    handleInterrupt m = .ok ((), m') := by
  obtain ⟨cpu', soc'⟩ := m'
  obtain ⟨s1, h1, h2⟩ := bind_eq_ok.mp h.clocks
  have hpending : s3.activeInterrupts < 0x20 := and_lt_right (rIf_lt_of_high hif h.clocks h.high)
  have hlow := h.low
  have hcpu := h.cpu
  rw [← sub_one_sub_one] at hlow hcpu
  refine run_bind_eq_ok.mpr ⟨(), _, clock_eq_ok.mpr ⟨s1, h1, rfl⟩, ?_⟩
  refine run_bind_eq_ok.mpr ⟨(), _, clock_eq_ok.mpr ⟨s2, h2, rfl⟩, ?_⟩
  refine run_bind_eq_ok.mpr ⟨m.cpu, _, rfl, ?_⟩
  refine run_bind_eq_ok.mpr
    ⟨_, _, run_check_eq_ok.mpr ⟨checkedSubU16_eq_ok.mpr ⟨hpc, rfl⟩, rfl⟩, ?_⟩
  refine run_bind_eq_ok.mpr ⟨(), _, clockPushU8_eq_ok.mpr ⟨s3, h.high, rfl⟩, ?_⟩
  refine run_bind_eq_ok.mpr ⟨s3, _, rfl, ?_⟩
  refine run_bind_eq_ok.mpr ⟨(), _, clockPushU8_eq_ok.mpr ⟨s4, hlow, rfl⟩, ?_⟩
  refine run_bind_eq_ok.mpr ⟨(), ⟨_, s5⟩, (enterInterrupt_eq_ok hpending).mpr
    ⟨target, h.serves, rfl⟩, ?_⟩
  refine run_bind_eq_ok.mpr ⟨(), _, rfl, ?_⟩
  refine clockFetch_eq_ok.mpr ⟨cpu'.opcode, soc', h.fetch, ?_⟩
  exact congrArg (Machine.mk · soc') hcpu

/-! ### A step that dispatches -/

/-- In a dispatch IF and IE change by requests that are added, by the pushes if they land there, and
by the acknowledgement. -/
structure OnlyAcknowledges (m : Machine) (s2 s3 s4 s5 : Soc) (m' : Machine) : Prop where
  clocks : Raises m.soc.rIf s2.rIf
  high : ∃ raised, Raises s2.rIf raised ∧ s3.rIf =
    if m.cpu.regSp - 1 = 0xFF0F then getHigh (m.cpu.regPc - 1) &&& 0x1F else raised
  highIe : s3.ie = if m.cpu.regSp - 1 = 0xFFFF then getHigh (m.cpu.regPc - 1) else m.soc.ie
  low : ∃ raised, Raises s3.rIf raised ∧ s4.rIf =
    if m.cpu.regSp - 2 = 0xFF0F then getLow (m.cpu.regPc - 1) &&& 0x1F else raised
  fetch : Raises s5.rIf m'.soc.rIf
  /-- A request that was pending is served, or still pending, or overwritten by a push. -/
  kept : ∀ j, m.soc.rIf.toNat.testBit j = true → LowestBit (s3.ie &&& s3.rIf) j ∨
    m.cpu.regSp - 1 = 0xFF0F ∨ m.cpu.regSp - 2 = 0xFF0F ∨ m'.soc.rIf.toNat.testBit j = true

/-- Acknowledging an interrupt keeps the other requests. -/
theorem Serves.kept {p : UInt8} {s s' : Soc} {target : UInt16} (h : Serves p s s' target) {j : ℕ}
    (hj : s.rIf.toNat.testBit j = true) : LowestBit p j ∨ s'.rIf.toNat.testBit j = true := by
  cases h with
  | cancelled _ hs => exact .inr (hs ▸ hj)
  | served i hi _ hbits =>
    by_cases hij : j = i
    · exact .inl (hij ▸ hi)
    · rw [hbits, hj]
      exact .inr (by simpa using hij)

theorem DispatchTrace.acknowledges {s2 s3 s4 s5 : Soc} {target : UInt16}
    (h : DispatchTrace m s2 s3 s4 s5 target m') : OnlyAcknowledges m s2 s3 s4 s5 m' := by
  obtain ⟨s1, h1, h2⟩ := bind_eq_ok.mp h.clocks
  obtain ⟨hr1, hie1⟩ := Soc.raises_of_clock h1
  obtain ⟨hr2, hie2⟩ := Soc.raises_of_clock h2
  obtain ⟨raised3, hr3, hrif3, hie3⟩ := Soc.interrupts_of_clockWrite h.high
  obtain ⟨raised4, hr4, hrif4, -⟩ := Soc.interrupts_of_clockWrite h.low
  obtain ⟨hr5, -⟩ := Soc.raises_of_clockRead h.fetch
  rw [hie2, hie1] at hie3
  have hr12 := hr1.trans hr2
  refine ⟨hr12, ⟨raised3, hr3, hrif3⟩, hie3, ⟨raised4, hr4, hrif4⟩, hr5, fun j hj => ?_⟩
  by_cases hhigh : m.cpu.regSp - 1 = 0xFF0F
  · exact .inr (.inl hhigh)
  by_cases hlow : m.cpu.regSp - 2 = 0xFF0F
  · exact .inr (.inr (.inl hlow))
  rw [if_neg hhigh] at hrif3
  rw [if_neg hlow] at hrif4
  have hj4 : s4.rIf.toNat.testBit j = true := by
    rw [hrif4]
    exact hr4.testBit (hrif3 ▸ hr3.testBit (hr12.testBit hj))
  rcases h.serves.kept hj4 with hserved | hj5
  · exact .inl hserved
  · exact .inr (.inr (.inr (hr5.testBit hj5)))

/-- A pending interrupt is one of the five. -/
theorem interruptPending_of_ne {soc : Soc} (hif : soc.rIf < 0x20)
    (hpending : soc.activeInterrupts ≠ 0) : interruptPending soc = true := by
  have hall : ∀ n < 0x20, UInt8.ofNat n ≠ 0 →
      interruptBits.any (fun b => UInt8.ofNat n &&& b != 0) = true := by decide
  have hlt : soc.activeInterrupts.toNat < 0x20 := UInt8.lt_iff_toNat_lt.mp (and_lt_right hif)
  have h := hall soc.activeInterrupts.toNat hlt
  rw [UInt8.ofNat_toNat] at h
  exact h hpending

/-- **Selection with cancellation.** A step that finds an interrupt pending with IME set dispatches
in the way `DispatchTrace` says, and cannot fail but by one of its bus accesses. The interrupt is
chosen from what is pending right after the first push, and apart from the pushes themselves
nothing but its acknowledgement takes a request away. No run of the system sets one of the upper
three bits of IF. -/
theorem interrupt_selection (hime : m.cpu.ime = true) (hif : m.soc.rIf < 0x20)
    (hpending : m.soc.ie &&& m.soc.rIf ≠ 0) (hpc : 1 ≤ m.cpu.regPc) :
    (∀ b m', checkInterrupts m = .ok (b, m') ↔ b = true ∧
      ∃ s2 s3 s4 s5 target, DispatchTrace (woken m) s2 s3 s4 s5 target m') ∧
    (∀ s2 s3 s4 s5 target m', DispatchTrace (woken m) s2 s3 s4 s5 target m' →
      OnlyAcknowledges m s2 s3 s4 s5 m') ∧
    ∀ soc, Soc.Reachable soc → soc.rIf < 0x20 := by
  have hactive : m.soc.activeInterrupts ≠ 0 := hpending
  have hrun : checkInterrupts m = (handleInterrupt >>= fun _ => pure true) (woken m) := by
    rw [run_checkInterrupts, if_neg hactive, if_pos ⟨hime, interruptPending_of_ne hif hactive⟩]
  refine ⟨fun b m' => ?_, fun s2 s3 s4 s5 target m' h => ?_, fun soc h => h.rIf_lt⟩
  swap
  · obtain ⟨hclocks, hhigh, hhighIe, hlow, hfetch, hkept⟩ := h.acknowledges
    exact ⟨hclocks, hhigh, hhighIe, hlow, hfetch, hkept⟩
  rw [hrun]
  constructor
  · intro h
    obtain ⟨_, m1, hhandle, h⟩ := run_bind_eq_ok.mp h
    cases h
    exact ⟨rfl, trace_of_handleInterrupt hif hhandle⟩
  · rintro ⟨rfl, s2, s3, s4, s5, target, htrace⟩
    exact run_bind_eq_ok.mpr ⟨(), m', handleInterrupt_of_trace hif hpc htrace, rfl⟩

/-- The machine after power-on, with IME set and the vertical blank interrupt enabled. -/
def bootEnabled : Checked Machine := do
  let m ← Gameboy.boot (programCartridge []) ⟨.none, none, none⟩
  pure { m with cpu.ime := true, soc.ie := 0x01 }

theorem interrupt_selection_bootEnabled :
    ∃ m m' s2 s3 s4 s5 target, bootEnabled = .ok m ∧ checkInterrupts m = .ok (true, m') ∧
      DispatchTrace (woken m) s2 s3 s4 s5 target m' ∧ OnlyAcknowledges m s2 s3 s4 s5 m' := by
  obtain ⟨⟨dispatched, m'⟩, hrun⟩ := exists_of_isOk (x := bootEnabled >>= checkInterrupts)
    (by decide +kernel)
  obtain ⟨m, hm, hcheck⟩ := bind_eq_ok.mp hrun
  have hfacts : ((fun m : Machine => (m.cpu.ime, decide (m.soc.rIf < 0x20),
      m.soc.ie &&& m.soc.rIf != 0, decide (1 ≤ m.cpu.regPc))) <$> bootEnabled).toOption =
        some (true, true, true, true) := by decide +kernel
  rw [hm] at hfacts
  have h := Option.some.inj hfacts
  obtain ⟨hiff, honly, -⟩ := interrupt_selection (congrArg Prod.fst h)
    (of_decide_eq_true (congrArg (·.2.1) h)) (bne_iff_ne.mp (congrArg (·.2.2.1) h))
    (of_decide_eq_true (congrArg (·.2.2.2) h))
  obtain ⟨rfl, s2, s3, s4, s5, target, htrace⟩ := (hiff dispatched m').mp hcheck
  exact ⟨m, m', s2, s3, s4, s5, target, hm, hcheck, htrace, honly _ _ _ _ _ _ htrace⟩

end Exec

end ZenithGb
