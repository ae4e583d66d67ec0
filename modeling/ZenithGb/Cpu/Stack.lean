import ZenithGb.Cpu.Dispatch
import ZenithGb.Soc.Cells

/-!
# The CPU: the stack

What is pushed to work RAM or high RAM is popped again, whatever the components do while the CPU
pushes and pops. The opcode a step executes has been fetched in the step before, so an interrupt
pushes PC - 1, and the return from it fetches the same opcode again.

## Main results

* `Exec.onStack_of_pushes`, `Exec.popped_of_onStack` — the two halves
* `Exec.stack_discipline` — PUSH and POP, calls and returns, an interrupt and its RETI
-/

namespace ZenithGb

open Outcome

namespace Soc

variable {s s1 s2 : Soc} {address v : UInt16}

/-! ### Words in memory -/

/-- The bytes of `v` are at `address` and after it, low byte first. -/
structure HoldsWord (s : Soc) (address v : UInt16) : Prop where
  low : ∃ c, cellOf s.svbk address.toNat = some c ∧ s.byteAt c = getLow v
  high : ∃ c, cellOf s.svbk (address + 1).toNat = some c ∧ s.byteAt c = getHigh v

/-- The cells of the two bytes at `address`. -/
def wordCells (svbk : UInt8) (address : UInt16) : Set Cell :=
  {c | cellOf svbk address.toNat = some c ∨ cellOf svbk (address + 1).toNat = some c}

theorem HoldsWord.kept {cells : Set Cell} (h : HoldsWord s address v) (hkept : KeepsBut cells s s1)
    (hdisjoint : ∀ c ∈ wordCells s.svbk address, c ∉ cells) : HoldsWord s1 address v := by
  obtain ⟨⟨lo, hlo, hlow⟩, ⟨hi, hhi, hhigh⟩⟩ := h
  refine ⟨⟨lo, by rwa [hkept.svbk], ?_⟩, ⟨hi, by rwa [hkept.svbk], ?_⟩⟩
  · rw [hkept.byteAt lo (hdisjoint lo (.inl hlo)), hlow]
  · rw [hkept.byteAt hi (hdisjoint hi (.inr hhi)), hhigh]

/-- **Writing a word**, high byte first as a push does. -/
theorem holdsWord_of_writes (hsvbk : s.svbk ≤ 7) (hlow : InRam address.toNat)
    (hhigh : InRam (address + 1).toNat)
    (h1 : s.clockWrite (address + 1) (getHigh v) = .ok s1)
    (h2 : s1.clockWrite address (getLow v) = .ok s2) :
    KeepsBut (wordCells s.svbk address) s s2 ∧ HoldsWord s2 address v := by
  obtain ⟨lo, hlo⟩ := exists_cellOf s.svbk hlow
  obtain ⟨hi, hhi⟩ := exists_cellOf s.svbk hhigh
  obtain ⟨hkept1, hbyte1⟩ := keepsBut_of_clockWrite hsvbk hhi h1
  obtain ⟨hkept2, hbyte2⟩ :=
    keepsBut_of_clockWrite (hkept1.svbk_le hsvbk) (by rwa [hkept1.svbk]) h2
  have hne : hi ≠ lo := by
    rintro rfl
    have haddress : (address + 1).toNat = address.toNat :=
      cellOf_injOn s.svbk hhigh hlow (hhi.trans hlo.symm)
    exact absurd (UInt16.toNat_inj.mp haddress) (by grind)
  have hsub1 : ({hi} : Set Cell) ⊆ wordCells s.svbk address :=
    Set.singleton_subset_iff.mpr (.inr hhi)
  have hsub2 : ({lo} : Set Cell) ⊆ wordCells s.svbk address :=
    Set.singleton_subset_iff.mpr (.inl hlo)
  have hkept := (hkept1.mono hsub1).trans (hkept2.mono hsub2)
  refine ⟨hkept, ⟨lo, by rwa [hkept.svbk], hbyte2⟩, ⟨hi, by rwa [hkept.svbk], ?_⟩⟩
  rw [hkept2.byteAt hi hne, hbyte1]

/-- **Reading it back.** -/
theorem word_of_reads {lsb msb : UInt8} (hsvbk : s.svbk ≤ 7) (h : HoldsWord s address v)
    (h1 : s.clockRead address = .ok (lsb, s1)) (h2 : s1.clockRead (address + 1) = .ok (msb, s2)) :
    value msb lsb = v ∧ KeepsBut ∅ s s2 := by
  obtain ⟨⟨lo, hlo, hlow⟩, ⟨hi, hhi, hhigh⟩⟩ := h
  obtain ⟨hkept1, hread1⟩ := keepsBut_of_clockRead h1 ∅
  obtain ⟨hkept2, hread2⟩ := keepsBut_of_clockRead h2 ∅
  have hkept := hkept1.trans hkept2
  rw [readBus_cell (hkept1.svbk_le hsvbk) (by rwa [hkept1.svbk]),
    hkept1.byteAt lo (Set.notMem_empty lo), hlow] at hread1
  rw [readBus_cell (hkept.svbk_le hsvbk) (by rwa [hkept.svbk]),
    hkept.byteAt hi (Set.notMem_empty hi), hhigh] at hread2
  rw [← ok_inj.mp hread1, ← ok_inj.mp hread2, value_getHigh_getLow]
  exact ⟨rfl, hkept⟩

end Soc

/-! ### Pairs of registers -/

/-- The pairs PUSH and POP work on. -/
inductive Pair
  | bc | de | hl | af
  deriving DecidableEq, Repr

namespace Pair

def read (c : Cpu) : Pair → UInt16
  | .bc => c.regBc
  | .de => c.regDe
  | .hl => c.regHl
  | .af => c.regAf

/-- What a pair makes of a word it is loaded with: the low nibble of F is always clear. -/
def holds (v : UInt16) : Pair → UInt16
  | .af => v &&& 0xFFF0
  | _ => v

/-- The opcode of PUSH. -/
def push : Pair → UInt8
  | .bc => 0xC5
  | .de => 0xD5
  | .hl => 0xE5
  | .af => 0xF5

/-- The opcode of POP. -/
def pop : Pair → UInt8
  | .bc => 0xC1
  | .de => 0xD1
  | .hl => 0xE1
  | .af => 0xF1

/-- A pair that holds a word holds it again: F never has a low nibble. -/
theorem holds_read {c : Cpu} (hf : c.f &&& 0x0F = 0) (p : Pair) :
    p.holds (p.read c) = p.read c := by
  cases p with
  | af =>
    have hall : ∀ n : Fin 256, (⟨⟨n⟩⟩ : UInt8) &&& 0x0F = 0 → (⟨⟨n⟩⟩ : UInt8) &&& 0xF0 = ⟨⟨n⟩⟩ := by
      decide +kernel
    refine eq_of_bytes ((getHigh_and _ _).trans UInt8.and_neg_one) ((getLow_and _ _).trans ?_)
    exact hall c.f.toBitVec.toFin hf
  | _ => rfl

end Pair

namespace Exec

open Soc (Cell KeepsBut InRam wordCells)

variable {m m1 m2 m' : Machine} {opcode : UInt8} {v : UInt16} {u : Unit}

/-! ### Steps that execute an instruction -/

/-- Up to the instruction a step that dispatches nothing only ends HALT and applies an EI. -/
structure Entered (m m' : Machine) : Prop where
  cpu : m'.cpu = { m.cpu with
    ime := m'.cpu.ime, imeNext := m'.cpu.imeNext, halted := m'.cpu.halted }
  soc : m'.soc = { m.soc with cpuHalted := m'.soc.cpuHalted }

theorem Entered.trans (h : Entered m m1) (h' : Entered m1 m2) : Entered m m2 :=
  ⟨by rw [h'.cpu, h.cpu], by rw [h'.soc, h.soc]⟩

theorem entered_withImeApplied (m : Machine) : Entered m (withImeApplied m) := by
  refine ⟨?_, rfl⟩
  rw [withImeApplied]
  dsimp only
  split <;> rfl

theorem entered_of_checkInterrupts (h : checkInterrupts m = .ok (false, m1)) : Entered m m1 := by
  rw [run_checkInterrupts] at h
  split at h
  · cases h
    exact ⟨rfl, rfl⟩
  split at h
  · obtain ⟨_, m2, -, h⟩ := run_bind_eq_ok.mp h
    cases h
  · cases h
    exact ⟨rfl, rfl⟩

/-- A request for an enabled interrupt ends HALT, dispatched or not. -/
theorem running_of_checkInterrupts (h : checkInterrupts m = .ok (false, m1))
    (hrunning : m.cpu.halted = false ∨ m.soc.activeInterrupts ≠ 0) : m1.cpu.halted = false := by
  obtain hrunning | hactive := hrunning
  · exact (interruptCheck_of_checkInterrupts h).halted (.inl hrunning)
  · rw [run_checkInterrupts, if_neg hactive] at h
    split at h
    · obtain ⟨_, m2, -, h⟩ := run_bind_eq_ok.mp h
      cases h
    · cases h
      rfl

theorem handled_of_checkInterrupts (h : checkInterrupts m = .ok (true, m1)) :
    handleInterrupt (woken m) = .ok ((), m1) := by
  rw [run_checkInterrupts] at h
  split at h
  · cases h
  split at h
  · obtain ⟨_, m2, hhandle, h⟩ := run_bind_eq_ok.mp h
    cases h
    exact hhandle
  · cases h

/-- The fetch at the end of a step. -/
structure Fetched (m m' : Machine) : Prop where
  read : m.soc.clockRead m.cpu.regPc = .ok (m'.cpu.opcode, m'.soc)
  cpu : m'.cpu = { m.cpu with
    regPc := m.cpu.regPc + 1, opcode := m'.cpu.opcode, branchSkipped := false }

/-- A step that does not wait runs the handler of its opcode and fetches the next. -/
theorem ran_of_step {dispatched : Bool} {elapsed : ℕ} (h : step m = .ok (elapsed, m'))
    (hcheck : checkInterrupts m = .ok (dispatched, m1)) (hrunning : m1.cpu.halted = false)
    (hopcode : m1.cpu.opcode = opcode) (hcb : opcode ≠ 0xCB) :
    ∃ m2, (getInstruction opcode).exec.call (getInstruction opcode) opcode (withImeApplied m1) =
      .ok ((), m2) ∧ Fetched m2 m' := by
  cases stepped_of_step h with
  | waited hcheck' hhalted =>
    rw [hcheck] at hcheck'
    cases hcheck'
    exact absurd (hrunning.symm.trans hhalted) nofun
  | @executed _ _ m2 m3 m4 _ _ hcheck' _ hfetch hcall hnext he =>
    rw [hcheck] at hcheck'
    cases hcheck'
    have hopcode' : (withImeApplied m1).cpu.opcode = opcode := by
      rw [(entered_withImeApplied m1).cpu, hopcode]
    obtain ⟨c, m5, hc, hfetch⟩ := run_bind_eq_ok.mp hfetch
    cases hc
    rw [hopcode', if_neg hcb] at hfetch
    cases hfetch
    obtain ⟨next, soc, hread, rfl⟩ := clockFetch_eq_ok.mp hnext
    subst he
    exact ⟨m3, hcall, hread, rfl⟩

/-- A step that executes `opcode` and dispatches no interrupt. It may wake up from HALT to do so. -/
structure ExecutesOpcode (opcode : UInt8) (m m' : Machine) : Prop where
  step : ∃ elapsed, step m = .ok (elapsed, m')
  opcode : m.cpu.opcode = opcode
  running : m.cpu.halted = false ∨ m.soc.activeInterrupts ≠ 0
  noInterrupt : ¬ Interrupted m

theorem ExecutesOpcode.ran (h : ExecutesOpcode opcode m m') (hcb : opcode ≠ 0xCB) :
    ∃ m1 m2, Entered m m1 ∧
      (getInstruction opcode).exec.call (getInstruction opcode) opcode m1 = .ok ((), m2) ∧
      Fetched m2 m' := by
  obtain ⟨elapsed, hstep⟩ := h.step
  obtain ⟨dispatched, m1, hcheck⟩ : ∃ dispatched m1, checkInterrupts m = .ok (dispatched, m1) := by
    cases stepped_of_step hstep with
    | waited hcheck => exact ⟨_, _, hcheck⟩
    | executed hcheck => exact ⟨_, _, hcheck⟩
  cases dispatched with
  | true => exact absurd ⟨m1, hcheck⟩ h.noInterrupt
  | false =>
    have hentered := entered_of_checkInterrupts hcheck
    have hrunning := running_of_checkInterrupts hcheck h.running
    have hopcode : m1.cpu.opcode = opcode := by rw [hentered.cpu, ← h.opcode]
    obtain ⟨m2, hcall, hfetched⟩ := ran_of_step hstep hcheck hrunning hopcode hcb
    exact ⟨_, m2, hentered.trans (entered_withImeApplied m1), hcall, hfetched⟩

/-! ### Frames -/

/-- Nothing has changed but PC, flags of the CPU's control and what the components do. -/
structure Quiet (m m' : Machine) : Prop where
  regs : ∀ p : Pair, p.read m'.cpu = p.read m.cpu
  regSp : m'.cpu.regSp = m.cpu.regSp
  kept : KeepsBut ∅ m.soc m'.soc

/-- `v` has been pushed. -/
structure Pushes (v : UInt16) (m m' : Machine) : Prop where
  regs : ∀ p : Pair, p.read m'.cpu = p.read m.cpu
  regSp : m'.cpu.regSp = m.cpu.regSp - 2
  kept : KeepsBut (wordCells m.soc.svbk (m.cpu.regSp - 2)) m.soc m'.soc
  word : m'.soc.HoldsWord (m.cpu.regSp - 2) v

/-- A word has been popped. -/
structure Pops (m m' : Machine) : Prop where
  regs : ∀ p : Pair, p.read m'.cpu = p.read m.cpu
  regSp : m'.cpu.regSp = m.cpu.regSp + 2
  kept : KeepsBut ∅ m.soc m'.soc

/-- `v` is on top of the stack. -/
structure OnStack (v : UInt16) (m : Machine) : Prop where
  svbk : m.soc.svbk ≤ 7
  word : m.soc.HoldsWord m.cpu.regSp v

theorem Quiet.trans (h : Quiet m m1) (h' : Quiet m1 m2) : Quiet m m2 :=
  ⟨fun p => (h'.regs p).trans (h.regs p), h'.regSp.trans h.regSp, h.kept.trans h'.kept⟩

theorem Quiet.pushes (h : Quiet m m1) (h' : Pushes v m1 m2) : Pushes v m m2 := by
  obtain ⟨hregs, hsp, hkept, hword⟩ := h'
  rw [h.regSp] at hsp hkept hword
  rw [h.kept.svbk] at hkept
  exact ⟨fun p => (hregs p).trans (h.regs p), hsp,
    (h.kept.mono (Set.empty_subset _)).trans hkept, hword⟩

theorem Pushes.quiet (h : Pushes v m m1) (h' : Quiet m1 m2) : Pushes v m m2 :=
  ⟨fun p => (h'.regs p).trans (h.regs p), h'.regSp.trans h.regSp,
    h.kept.trans (h'.kept.mono (Set.empty_subset _)),
    h.word.kept h'.kept fun c _ => Set.notMem_empty c⟩

theorem Pushes.onStack (h : Pushes v m m') (hsvbk : m.soc.svbk ≤ 7) : OnStack v m' :=
  ⟨h.kept.svbk_le hsvbk, h.regSp ▸ h.word⟩

theorem Quiet.pops (h : Quiet m m1) (h' : Pops m1 m2) : Pops m m2 :=
  ⟨fun p => (h'.regs p).trans (h.regs p), by rw [h'.regSp, h.regSp], h.kept.trans h'.kept⟩

theorem Pops.quiet (h : Pops m m1) (h' : Quiet m1 m2) : Pops m m2 :=
  ⟨fun p => (h'.regs p).trans (h.regs p), h'.regSp.trans h.regSp, h.kept.trans h'.kept⟩

theorem OnStack.quiet (h : OnStack v m) (h' : Quiet m m') : OnStack v m' := by
  refine ⟨h'.kept.svbk_le h.svbk, ?_⟩
  rw [h'.regSp]
  exact h.word.kept h'.kept fun c _ => Set.notMem_empty c

theorem keepsBut_setCpuHalted {cells : Set Cell} (s : Soc) (halted : Bool) :
    KeepsBut cells s { s with cpuHalted := halted } :=
  ⟨rfl, fun c _ => by cases c <;> rfl, fun _ _ => rfl⟩

theorem Entered.quiet (h : Entered m m') : Quiet m m' := by
  refine ⟨fun p => ?_, by rw [h.cpu], ?_⟩
  · rw [h.cpu]
    cases p <;> rfl
  · rw [h.soc]
    exact keepsBut_setCpuHalted m.soc _

theorem quiet_setPc (m : Machine) (pc : UInt16) : Quiet m { m with cpu := m.cpu.setPc pc } :=
  ⟨fun p => by cases p <;> rfl, rfl, .refl _⟩

theorem quiet_clock (h : clock m = .ok (u, m')) : Quiet m m' := by
  obtain ⟨s, hs, rfl⟩ := clock_eq_ok.mp h
  exact ⟨fun _ => rfl, rfl, Soc.keepsBut_of_clock hs ∅⟩

theorem quiet_clockConsumeByteFromPc {byte : UInt8}
    (h : clockConsumeByteFromPc m = .ok (byte, m')) :
    Quiet m m' ∧ m'.cpu.regPc = m.cpu.regPc + 1 := by
  obtain ⟨s, hs, rfl⟩ := clockConsumeByteFromPc_eq_ok.mp h
  exact ⟨⟨fun p => by cases p <;> rfl, rfl, (Soc.keepsBut_of_clockRead hs ∅).1⟩, rfl⟩

theorem quiet_clockConsumeWordFromPc {w : UInt16} (h : clockConsumeWordFromPc m = .ok (w, m')) :
    Quiet m m' ∧ m'.cpu.regPc = m.cpu.regPc + 2 := by
  obtain ⟨lsb, m1, hlsb, h⟩ := run_bind_eq_ok.mp h
  obtain ⟨msb, m2, hmsb, h⟩ := run_bind_eq_ok.mp h
  cases h
  obtain ⟨hquiet, hpc⟩ := quiet_clockConsumeByteFromPc hlsb
  obtain ⟨hquiet', hpc'⟩ := quiet_clockConsumeByteFromPc hmsb
  refine ⟨hquiet.trans hquiet', ?_⟩
  rw [hpc', hpc]
  grind

theorem Fetched.quiet (h : Fetched m m') : Quiet m m' := by
  refine ⟨fun p => ?_, by rw [h.cpu], (Soc.keepsBut_of_clockRead h.read ∅).1⟩
  rw [h.cpu]
  cases p <;> rfl

/-! ### Pushing and popping -/

/-- The two bytes below `sp` are in a range of addresses. -/
def RoomIn (first last : ℕ) (sp : UInt16) : Prop :=
  (first ≤ (sp - 2).toNat ∧ (sp - 2).toNat ≤ last) ∧
    (first ≤ (sp - 1).toNat ∧ (sp - 1).toNat ≤ last)

/-- There is room for a word on the stack, in work RAM or in high RAM. -/
def StackRoom (sp : UInt16) : Prop := RoomIn 0xC000 0xDFFF sp ∨ RoomIn 0xFF80 0xFFFE sp

instance (first last : ℕ) (sp : UInt16) : Decidable (RoomIn first last sp) :=
  inferInstanceAs (Decidable (_ ∧ _))

instance (sp : UInt16) : Decidable (StackRoom sp) := inferInstanceAs (Decidable (_ ∨ _))

theorem StackRoom.inRam {sp : UInt16} (h : StackRoom sp) :
    InRam (sp - 2).toNat ∧ InRam (sp - 1).toNat := by
  rcases h with ⟨hlow, hhigh⟩ | ⟨hlow, hhigh⟩
  · exact ⟨.inl hlow, .inl hhigh⟩
  · exact ⟨.inr hlow, .inr hhigh⟩

/-- The two writes that push a word, high byte first. -/
theorem pushes_of_clockWrite {s1 s2 : Soc} (hsvbk : m.soc.svbk ≤ 7) (hroom : StackRoom m.cpu.regSp)
    (hhigh : m.soc.clockWrite (m.cpu.regSp - 1) (getHigh v) = .ok s1)
    (hlow : s1.clockWrite (m.cpu.regSp - 2) (getLow v) = .ok s2) :
    Pushes v m ⟨m.cpu.setSp (m.cpu.regSp - 2), s2⟩ := by
  have hnext : m.cpu.regSp - 1 = m.cpu.regSp - 2 + 1 := by grind
  obtain ⟨hlowRam, hhighRam⟩ := hroom.inRam
  rw [hnext] at hhigh hhighRam
  obtain ⟨hkept, hword⟩ := Soc.holdsWord_of_writes hsvbk hlowRam hhighRam hhigh hlow
  exact ⟨fun p => by cases p <;> rfl, rfl, hkept, hword⟩

/-- **Pushing.** -/
theorem pushes_of_clockPushU8 {u' : Unit} (hsvbk : m.soc.svbk ≤ 7) (hroom : StackRoom m.cpu.regSp)
    (hhigh : clockPushU8 (getHigh v) m = .ok (u, m1))
    (hlow : clockPushU8 (getLow v) m1 = .ok (u', m2)) : Pushes v m m2 := by
  obtain ⟨s1, hs1, rfl⟩ := clockPushU8_eq_ok.mp hhigh
  obtain ⟨s2, hs2, rfl⟩ := clockPushU8_eq_ok.mp hlow
  have hsp : m.cpu.regSp - 1 - 1 = m.cpu.regSp - 2 := sub_one_sub_one _
  have h := pushes_of_clockWrite hsvbk hroom hs1 (hsp ▸ hs2)
  rw [← hsp] at h
  exact h

/-- **Popping.** -/
theorem popped_of_onStack {w : UInt16} (hstack : OnStack v m) (h : clockPopU16 m = .ok (w, m')) :
    w = v ∧ Pops m m' := by
  obtain ⟨lsb, s1, msb, s2, hlow, hhigh, rfl, rfl⟩ := clockPopU16_eq_ok.mp h
  obtain ⟨hvalue, hkept⟩ := Soc.word_of_reads hstack.svbk hstack.word hlow hhigh
  have hsp : m.cpu.regSp + 1 + 1 = m.cpu.regSp + 2 := by grind
  exact ⟨hvalue, fun p => by cases p <;> rfl, hsp, hkept⟩

/-! ### The handlers -/

theorem readR16stkMsb_push (p : Pair) (m : Machine) :
    readR16stkMsb (reg16 p.push) m = .ok (getHigh (p.read m.cpu), m) := by
  cases p <;> rfl

theorem readR16stkLsb_push (p : Pair) (m : Machine) :
    readR16stkLsb (reg16 p.push) m = .ok (getLow (p.read m.cpu), m) := by
  cases p <;> rfl

theorem pushes_opcodePush {p : Pair} (hsvbk : m.soc.svbk ≤ 7) (hroom : StackRoom m.cpu.regSp)
    (h : opcodePush p.push m = .ok (u, m')) : Pushes (p.read m.cpu) m m' := by
  obtain ⟨_, m1, hclock, h⟩ := run_bind_eq_ok.mp h
  have hquiet := quiet_clock hclock
  rw [← hquiet.regs p]
  rw [← hquiet.regSp] at hroom
  rw [run_bind_of_ok (readR16stkMsb_push p m1)] at h
  obtain ⟨_, m2, hhigh, h⟩ := run_bind_eq_ok.mp h
  rw [run_bind_of_ok (readR16stkLsb_push p m2)] at h
  have hregs : p.read m2.cpu = p.read m1.cpu := by
    obtain ⟨s2, -, rfl⟩ := clockPushU8_eq_ok.mp hhigh
    cases p <;> rfl
  rw [hregs] at h
  exact hquiet.pushes (pushes_of_clockPushU8 (hquiet.kept.svbk_le hsvbk) hroom hhigh h)

/-- CALL and RST push the address after the instruction. -/
theorem pushes_pc {α : Type} {x : Exec α} {a : α} (hsvbk : m.soc.svbk ≤ 7)
    (hroom : StackRoom m.cpu.regSp) (hx : Does x Quiet)
    (h : (do
      clock
      clockPushU8 (getHigh (← cpu).regPc)
      clockPushU8 (getLow (← cpu).regPc)
      x) m = .ok (a, m')) : Pushes m.cpu.regPc m m' := by
  obtain ⟨_, m1, hclock, h⟩ := run_bind_eq_ok.mp h
  have hquiet := quiet_clock hclock
  have hpc : m1.cpu.regPc = m.cpu.regPc := by
    obtain ⟨s1, -, rfl⟩ := clock_eq_ok.mp hclock
    rfl
  rw [← hpc]
  rw [← hquiet.regSp] at hroom
  obtain ⟨c, _, hc, h⟩ := run_bind_eq_ok.mp h
  cases hc
  obtain ⟨_, m2, hhigh, h⟩ := run_bind_eq_ok.mp h
  obtain ⟨c, _, hc, h⟩ := run_bind_eq_ok.mp h
  cases hc
  have hpc2 : m2.cpu.regPc = m1.cpu.regPc := by
    obtain ⟨s2, -, rfl⟩ := clockPushU8_eq_ok.mp hhigh
    rfl
  rw [hpc2] at h
  obtain ⟨_, m3, hlow, h⟩ := run_bind_eq_ok.mp h
  have hpushes := pushes_of_clockPushU8 (hquiet.kept.svbk_le hsvbk) hroom hhigh hlow
  exact hquiet.pushes (hpushes.quiet (hx _ _ _ h))

theorem does_quiet_setPc (pc : UInt16) : Does (modifyCpu (·.setPc pc)) Quiet :=
  does_modify fun m => quiet_setPc m pc

theorem pushes_call {addr : UInt16} (hsvbk : m.soc.svbk ≤ 7) (hroom : StackRoom m.cpu.regSp)
    (h : call addr m = .ok (u, m')) : Pushes m.cpu.regPc m m' :=
  pushes_pc hsvbk hroom (does_quiet_setPc addr) h

theorem pushes_opcodeRst (hsvbk : m.soc.svbk ≤ 7) (hroom : StackRoom m.cpu.regSp)
    (h : opcodeRst opcode m = .ok (u, m')) : Pushes m.cpu.regPc m m' := by
  refine pushes_pc hsvbk hroom (fun m u m' h => ?_) h
  obtain ⟨low, m1, hcheck, h⟩ := run_bind_eq_ok.mp h
  obtain ⟨-, rfl⟩ := run_check_eq_ok.mp hcheck
  exact does_quiet_setPc _ _ _ _ h

/-- A condition is read off F. -/
theorem Quiet.branchTaken (h : Quiet m m') (opcode : UInt8) :
    branchTaken opcode m'.cpu = branchTaken opcode m.cpu := by
  have haf : m'.cpu.regAf = m.cpu.regAf := h.regs .af
  unfold Exec.branchTaken Cpu.getFlag Cpu.f
  rw [haf]

/-- CALL with its address, which has been consumed when PC is pushed. -/
theorem pushes_consumed {addr : UInt16} (hsvbk : m.soc.svbk ≤ 7) (hroom : StackRoom m.cpu.regSp)
    (hword : clockConsumeWordFromPc m = .ok (addr, m1)) (h : call addr m1 = .ok (u, m')) :
    Pushes (m.cpu.regPc + 2) m m' := by
  obtain ⟨hquiet, hpc⟩ := quiet_clockConsumeWordFromPc hword
  rw [← hpc]
  rw [← hquiet.regSp] at hroom
  exact hquiet.pushes (pushes_call (hquiet.kept.svbk_le hsvbk) hroom h)

end Exec

namespace OpcodeFn

/-- How many bytes after its opcode a calling instruction goes on. -/
def returnOffset : OpcodeFn → Option UInt16
  | .opcodeCallA16 | .opcodeCallCc => some 2
  | .opcodeRst => some 0
  | _ => none

def isReturn : OpcodeFn → Bool
  | .opcodeRet | .opcodeRetCc | .opcodeReti => true
  | _ => false

end OpcodeFn

namespace Exec

open Soc (Cell KeepsBut InRam wordCells)

variable {m m1 m2 m' : Machine} {opcode : UInt8} {v : UInt16} {u : Unit} {fn : OpcodeFn}
  {inst : Instruction}

theorem pushes_of_call {n : UInt16} (hsvbk : m.soc.svbk ≤ 7) (hroom : StackRoom m.cpu.regSp)
    (hn : fn.returnOffset = some n) (htaken : fn.skips opcode m.cpu = false)
    (h : fn.call inst opcode m = .ok (u, m')) : Pushes (m.cpu.regPc + n) m m' := by
  cases fn with
  | opcodeCallA16 =>
    cases hn
    obtain ⟨addr, m1, hword, h⟩ := run_bind_eq_ok.mp h
    exact pushes_consumed hsvbk hroom hword h
  | opcodeCallCc =>
    cases hn
    obtain ⟨addr, m1, hword, h⟩ := run_bind_eq_ok.mp h
    obtain ⟨_, m2, hassert, h⟩ := run_bind_eq_ok.mp h
    cases run_debugAssert hassert
    obtain ⟨c, _, hc, h⟩ := run_bind_eq_ok.mp h
    cases hc
    have hcond : branchTaken opcode m1.cpu = true := by
      rw [(quiet_clockConsumeWordFromPc hword).1.branchTaken opcode]
      simpa [OpcodeFn.skips, OpcodeFn.isConditional] using htaken
    rw [hcond] at h
    exact pushes_consumed hsvbk hroom hword h
  | opcodeRst =>
    cases hn
    rw [UInt16.add_zero]
    exact pushes_opcodeRst hsvbk hroom h
  | _ => cases hn

/-- A return to `v`. -/
structure Returns (v : UInt16) (m m' : Machine) : Prop where
  pops : Pops m m'
  regPc : m'.cpu.regPc = v

theorem returns_of_ret (hstack : OnStack v m) (h : ret m = .ok (u, m')) : Returns v m m' := by
  obtain ⟨retVal, m1, hpop, h⟩ := run_bind_eq_ok.mp h
  obtain ⟨rfl, hpops⟩ := popped_of_onStack hstack hpop
  obtain ⟨_, m2, hpc, h⟩ := run_bind_eq_ok.mp h
  cases hpc
  refine ⟨hpops.quiet ((quiet_setPc m1 retVal).trans (quiet_clock h)), ?_⟩
  obtain ⟨s, -, rfl⟩ := clock_eq_ok.mp h
  rfl

theorem returns_of_reti (hstack : OnStack v m) (h : opcodeReti m = .ok (u, m')) :
    Returns v m m' := by
  obtain ⟨retVal, m1, hpop, h⟩ := run_bind_eq_ok.mp h
  obtain ⟨rfl, hpops⟩ := popped_of_onStack hstack hpop
  obtain ⟨_, m2, hpc, h⟩ := run_bind_eq_ok.mp h
  cases hpc
  obtain ⟨_, m3, hime, h⟩ := run_bind_eq_ok.mp h
  cases hime
  have hquiet : Quiet m1 ⟨{ m1.cpu.setPc retVal with ime := true }, m1.soc⟩ :=
    ⟨fun p => by cases p <;> rfl, rfl, .refl _⟩
  refine ⟨hpops.quiet (hquiet.trans (quiet_clock h)), ?_⟩
  obtain ⟨s, -, rfl⟩ := clock_eq_ok.mp h
  rfl

theorem returns_of_call (hstack : OnStack v m) (hreturn : fn.isReturn = true)
    (htaken : fn.skips opcode m.cpu = false) (h : fn.call inst opcode m = .ok (u, m')) :
    Returns v m m' := by
  cases fn with
  | opcodeRet => exact returns_of_ret hstack h
  | opcodeRetCc =>
    obtain ⟨_, m1, hassert, h⟩ := run_bind_eq_ok.mp h
    cases run_debugAssert hassert
    obtain ⟨c, _, hc, h⟩ := run_bind_eq_ok.mp h
    cases hc
    obtain ⟨_, m1, hclock, h⟩ := run_bind_eq_ok.mp h
    have hcond : branchTaken opcode m.cpu = true := by
      simpa [OpcodeFn.skips, OpcodeFn.isConditional] using htaken
    rw [hcond] at h
    have hquiet := quiet_clock hclock
    obtain ⟨hpops, hpc⟩ := returns_of_ret (hstack.quiet hquiet) h
    exact ⟨hquiet.pops hpops, hpc⟩
  | opcodeReti => exact returns_of_reti hstack h
  | _ => cases hreturn

/-- The pair `p` has been loaded with `v`. -/
structure Loads (p : Pair) (v : UInt16) (m m' : Machine) : Prop where
  regs : ∀ q : Pair, q.read m'.cpu = if q = p then p.holds v else q.read m.cpu
  regSp : m'.cpu.regSp = m.cpu.regSp
  soc : m'.soc = m.soc

theorem loads_writeR16stk {p : Pair} (h : writeR16stk (reg16 p.pop) v m = .ok (u, m')) :
    Loads p v m m' := by
  cases p <;> cases h <;> exact ⟨fun q => by cases q <;> rfl, rfl, rfl⟩

theorem loads_opcodePop {p : Pair} (hstack : OnStack v m) (h : opcodePop p.pop m = .ok (u, m')) :
    (∀ q : Pair, q.read m'.cpu = if q = p then p.holds v else q.read m.cpu) ∧
      m'.cpu.regSp = m.cpu.regSp + 2 := by
  obtain ⟨val, m1, hpop, h⟩ := run_bind_eq_ok.mp h
  obtain ⟨rfl, hpops⟩ := popped_of_onStack hstack hpop
  have hloads := loads_writeR16stk h
  refine ⟨fun q => ?_, hloads.regSp.trans hpops.regSp⟩
  rw [hloads.regs q, hpops.regs q]

/-! ### Steps -/

/-- What is on the stack of `m` is still there in `m'`. -/
structure StackKept (m m' : Machine) : Prop where
  regSp : m'.cpu.regSp = m.cpu.regSp
  svbk : m'.soc.svbk = m.soc.svbk
  bytes : ∀ c ∈ wordCells m.soc.svbk m.cpu.regSp, m'.soc.byteAt c = m.soc.byteAt c

theorem StackKept.refl (m : Machine) : StackKept m m := ⟨rfl, rfl, fun _ _ => rfl⟩

theorem OnStack.stackKept (h : OnStack v m) (h' : StackKept m m') : OnStack v m' := by
  obtain ⟨⟨lo, hlo, hlow⟩, ⟨hi, hhi, hhigh⟩⟩ := h.word
  refine ⟨h'.svbk ▸ h.svbk, ?_⟩
  rw [h'.regSp]
  refine ⟨⟨lo, by rwa [h'.svbk], ?_⟩, ⟨hi, by rwa [h'.svbk], ?_⟩⟩
  · rw [h'.bytes lo (.inl hlo), hlow]
  · rw [h'.bytes hi (.inr hhi), hhigh]

/-- Execution goes on at `pc`: the opcode there has been fetched. -/
structure ResumesAt (pc : UInt16) (m : Machine) : Prop where
  regPc : m.cpu.regPc = pc + 1
  fetched : ∃ s : Soc, s.clockRead pc = .ok (m.cpu.opcode, m.soc)

theorem Fetched.resumesAt (h : Fetched m m') : ResumesAt m.cpu.regPc m' :=
  ⟨by rw [h.cpu], m.soc, h.read⟩

theorem pushes_of_push {p : Pair} (hsvbk : m.soc.svbk ≤ 7) (hroom : StackRoom m.cpu.regSp)
    (h : ExecutesOpcode p.push m m') : Pushes (p.read m.cpu) m m' := by
  obtain ⟨m1, m2, hentered, hcall, hfetched⟩ := h.ran (by cases p <;> decide)
  have hquiet := hentered.quiet
  rw [← hquiet.regs p]
  rw [← hquiet.regSp] at hroom
  have hexec : (getInstruction p.push).exec = .opcodePush := by cases p <;> rfl
  rw [hexec] at hcall
  have hpushes := pushes_opcodePush (hquiet.kept.svbk_le hsvbk) hroom hcall
  exact hquiet.pushes (hpushes.quiet hfetched.quiet)

theorem loads_of_pop {p : Pair} (hstack : OnStack v m) (h : ExecutesOpcode p.pop m m') :
    (∀ q : Pair, q.read m'.cpu = if q = p then p.holds v else q.read m.cpu) ∧
      m'.cpu.regSp = m.cpu.regSp + 2 := by
  obtain ⟨m1, m2, hentered, hcall, hfetched⟩ := h.ran (by cases p <;> decide)
  have hquiet := hentered.quiet
  have hexec : (getInstruction p.pop).exec = .opcodePop := by cases p <;> rfl
  rw [hexec] at hcall
  obtain ⟨hregs, hsp⟩ := loads_opcodePop (hstack.quiet hquiet) hcall
  refine ⟨fun q => ?_, by rw [hfetched.quiet.regSp, hsp, hquiet.regSp]⟩
  rw [hfetched.quiet.regs q, hregs q, hquiet.regs q]

theorem Quiet.skips (h : Quiet m m') (fn : OpcodeFn) (opcode : UInt8) :
    fn.skips opcode m'.cpu = fn.skips opcode m.cpu := by
  rw [OpcodeFn.skips, OpcodeFn.skips, h.branchTaken opcode]

theorem Entered.regPc (h : Entered m m') : m'.cpu.regPc = m.cpu.regPc := by
  rw [h.cpu]

theorem pushes_of_calling {n : UInt16} (hsvbk : m.soc.svbk ≤ 7) (hroom : StackRoom m.cpu.regSp)
    (hn : (getInstruction opcode).exec.returnOffset = some n)
    (htaken : (getInstruction opcode).exec.skips opcode m.cpu = false)
    (h : ExecutesOpcode opcode m m') : Pushes (m.cpu.regPc + n) m m' := by
  obtain ⟨m1, m2, hentered, hcall, hfetched⟩ := h.ran (by rintro rfl; cases hn)
  have hquiet := hentered.quiet
  rw [← hentered.regPc]
  rw [← hquiet.regSp] at hroom
  rw [← hquiet.skips] at htaken
  have hpushes := pushes_of_call (hquiet.kept.svbk_le hsvbk) hroom hn htaken hcall
  exact hquiet.pushes (hpushes.quiet hfetched.quiet)

theorem resumes_of_returning (hstack : OnStack v m)
    (hreturn : (getInstruction opcode).exec.isReturn = true)
    (htaken : (getInstruction opcode).exec.skips opcode m.cpu = false)
    (h : ExecutesOpcode opcode m m') : ResumesAt v m' ∧ m'.cpu.regSp = m.cpu.regSp + 2 := by
  obtain ⟨m1, m2, hentered, hcall, hfetched⟩ := h.ran (by rintro rfl; cases hreturn)
  have hquiet := hentered.quiet
  rw [← hquiet.skips] at htaken
  obtain ⟨hpops, hpc⟩ := returns_of_call (hstack.quiet hquiet) hreturn htaken hcall
  exact ⟨hpc ▸ hfetched.resumesAt, (hquiet.pops (hpops.quiet hfetched.quiet)).regSp⟩

/-! ### Interrupts -/

theorem quiet_enterInterrupt (active : Option (UInt8 × UInt16)) :
    Does (enterInterrupt active) Quiet := by
  intro m u m' h
  cases active with
  | none => exact does_quiet_setPc _ _ _ _ h
  | some active =>
    cases h
    exact ⟨fun p => by cases p <;> rfl, rfl, rfl, fun c _ => by cases c <;> rfl, fun _ _ => rfl⟩

/-- A dispatch pushes PC - 1, where the opcode came from that it has not executed. -/
theorem pushes_of_handleInterrupt (hsvbk : m.soc.svbk ≤ 7) (hroom : StackRoom m.cpu.regSp)
    (h : handleInterrupt m = .ok (u, m')) : Pushes (m.cpu.regPc - 1) m m' := by
  obtain ⟨s2, s3, s4, m5, hclocks, hhigh, hlow, henter, hfetch, hcpu⟩ :=
    accesses_of_handleInterrupt h
  obtain ⟨s1, hs1, hs2⟩ := bind_eq_ok.mp hclocks
  have hquiet : Quiet m ⟨m.cpu, s2⟩ :=
    ⟨fun _ => rfl, rfl, (Soc.keepsBut_of_clock hs1 ∅).trans (Soc.keepsBut_of_clock hs2 ∅)⟩
  have hpushes : Pushes (m.cpu.regPc - 1) ⟨m.cpu, s2⟩ ⟨m.cpu.setSp (m.cpu.regSp - 2), s4⟩ :=
    pushes_of_clockWrite (m := ⟨m.cpu, s2⟩) (hquiet.kept.svbk_le hsvbk) hroom hhigh hlow
  have hlast : Quiet m5 m' := by
    refine ⟨fun p => ?_, by rw [hcpu], (Soc.keepsBut_of_clockRead hfetch ∅).1⟩
    rw [hcpu]
    cases p <;> rfl
  exact hquiet.pushes (hpushes.quiet ((quiet_enterInterrupt _ _ _ _ henter).trans hlast))

/-- The registers of the program, with PC, after a step that dispatched and returned. -/
structure Transparent (m m' : Machine) : Prop where
  regs : ∀ p : Pair, p.read m'.cpu = p.read m.cpu
  regSp : m'.cpu.regSp = m.cpu.regSp
  regPc : m'.cpu.regPc = m.cpu.regPc

/-- A dispatch and the RETI it meets, which are one step. -/
theorem transparent_of_reti {elapsed : ℕ} (hsvbk : m.soc.svbk ≤ 7) (hroom : StackRoom m.cpu.regSp)
    (hstep : step m = .ok (elapsed, m')) (hcheck : checkInterrupts m = .ok (true, m1))
    (hreti : m1.cpu.opcode = 0xD9) :
    Transparent m m' ∧ ∃ s, KeepsBut (wordCells m.soc.svbk (m.cpu.regSp - 2)) m.soc s ∧
      s.clockRead (m.cpu.regPc - 1) = .ok (m'.cpu.opcode, m'.soc) := by
  have hrunning := (interruptCheck_of_checkInterrupts hcheck).halted (.inr rfl)
  obtain ⟨m2, hcall, hfetched⟩ := ran_of_step hstep hcheck hrunning hreti (by decide)
  have hpushes : Pushes (m.cpu.regPc - 1) (woken m) m1 :=
    pushes_of_handleInterrupt (m := woken m) hsvbk hroom (handled_of_checkInterrupts hcheck)
  have hpushes := hpushes.quiet (entered_withImeApplied m1).quiet
  obtain ⟨hpops, hpc⟩ := returns_of_reti (hpushes.onStack hsvbk) hcall
  have hwoken : KeepsBut (wordCells m.soc.svbk (m.cpu.regSp - 2)) m.soc (woken m).soc :=
    keepsBut_setCpuHalted m.soc false
  have hkept := hwoken.trans (hpushes.kept.trans (hpops.kept.mono (Set.empty_subset _)))
  have hsp : m2.cpu.regSp = m.cpu.regSp := by
    rw [hpops.regSp, hpushes.regSp]
    exact UInt16.sub_add_cancel _ _
  have hlast := hfetched.quiet
  refine ⟨⟨fun p => ?_, hlast.regSp.trans hsp, ?_⟩, m2.soc, hkept, hpc ▸ hfetched.read⟩
  · rw [hlast.regs p, hpops.regs p, hpushes.regs p]
    cases p <;> rfl
  · rw [hfetched.cpu]
    show m2.cpu.regPc + 1 = m.cpu.regPc
    rw [hpc]
    exact UInt16.sub_add_cancel _ _

/-- The opcode that has been prefetched is what memory still holds at PC - 1, in ROM or in RAM the
two pushes leave alone. -/
structure PrefetchKept (m : Machine) : Prop where
  place : Soc.ReadsOutside (wordCells m.soc.svbk (m.cpu.regSp - 2)) m.soc.svbk
    (m.cpu.regPc - 1).toNat
  byte : m.soc.readBus false (m.cpu.regPc - 1).toNat = .ok m.cpu.opcode

/-- **Stack discipline and interrupt transparency**, with the stack in work RAM or in high RAM.
A word that is pushed is popped again by whatever comes next or, if its two bytes are left alone,
later. PC points after the opcode that has been fetched, so `returnOffset` counts from there. -/
theorem stack_discipline :
    (∀ (p q : Pair) (m m1 m2 m' : Machine), m.soc.svbk ≤ 7 → StackRoom m.cpu.regSp →
      ExecutesOpcode p.push m m1 → StackKept m1 m2 → ExecutesOpcode q.pop m2 m' →
      (∀ r : Pair, r.read m1.cpu = r.read m.cpu) ∧
      (∀ r : Pair, r.read m'.cpu = if r = q then q.holds (p.read m.cpu) else r.read m2.cpu) ∧
      m'.cpu.regSp = m.cpu.regSp ∧
      (m.cpu.f &&& 0x0F = 0 → p = q → p.read m'.cpu = p.read m.cpu)) ∧
    (∀ (calling returning : UInt8) (n : UInt16) (m m1 m2 m' : Machine), m.soc.svbk ≤ 7 →
      StackRoom m.cpu.regSp → (getInstruction calling).exec.returnOffset = some n →
      (getInstruction calling).exec.skips calling m.cpu = false →
      ExecutesOpcode calling m m1 → StackKept m1 m2 →
      (getInstruction returning).exec.isReturn = true →
      (getInstruction returning).exec.skips returning m2.cpu = false →
      ExecutesOpcode returning m2 m' →
      ResumesAt (m.cpu.regPc + n) m' ∧ m'.cpu.regSp = m.cpu.regSp) ∧
    (∀ (m m1 m' : Machine) (elapsed : ℕ), m.soc.svbk ≤ 7 → StackRoom m.cpu.regSp →
      step m = .ok (elapsed, m') → checkInterrupts m = .ok (true, m1) →
      m1.cpu.opcode = 0xD9 →
      Transparent m m' ∧ (PrefetchKept m → m'.cpu.opcode = m.cpu.opcode)) := by
  refine ⟨fun p q m m1 m2 m' hsvbk hroom hpush hkept hpop => ?_, ?_, ?_⟩
  · have hpushes := pushes_of_push hsvbk hroom hpush
    obtain ⟨hregs, hsp⟩ := loads_of_pop ((hpushes.onStack hsvbk).stackKept hkept) hpop
    refine ⟨hpushes.regs, hregs, ?_, ?_⟩
    · rw [hsp, hkept.regSp, hpushes.regSp]
      exact UInt16.sub_add_cancel _ _
    · rintro hf rfl
      rw [hregs p, if_pos rfl, p.holds_read hf]
  · intro calling returning n m m1 m2 m' hsvbk hroom hn htaken hcall hkept hreturn htaken' hret
    have hpushes := pushes_of_calling hsvbk hroom hn htaken hcall
    obtain ⟨hresumes, hsp⟩ :=
      resumes_of_returning ((hpushes.onStack hsvbk).stackKept hkept) hreturn htaken' hret
    refine ⟨hresumes, ?_⟩
    rw [hsp, hkept.regSp, hpushes.regSp]
    exact UInt16.sub_add_cancel _ _
  · intro m m1 m' elapsed hsvbk hroom hstep hcheck hreti
    obtain ⟨htransparent, s, hkept, hread⟩ := transparent_of_reti hsvbk hroom hstep hcheck hreti
    refine ⟨htransparent, fun hprefetch => ?_⟩
    obtain ⟨hkept', hbyte⟩ := Soc.keepsBut_of_clockRead hread _
    rw [(hkept.trans hkept').readBus hsvbk hprefetch.place false, hprefetch.byte] at hbyte
    exact (ok_inj.mp hbyte).symm

/-- PUSH BC; POP DE; CALL 0x107; NOP; NOP; RET, and a RETI for the vertical blank interrupt. -/
def returningCartridge : Cartridge :=
  let c := programCartridge [0xC5, 0xD1, 0xCD, 0x07, 0x01, 0x00, 0x00, 0xC9]
  { c with data := ⟨0x8000, fun i => if i.val = 0x40 then 0xD9 else c.data.cell i⟩ }

/-- The machine after `n` steps of the program. -/
def returningSteps : ℕ → Checked Machine
  | 0 => Gameboy.boot returningCartridge ⟨.none, none, none⟩
  | n + 1 => returningSteps n >>= fun m => Prod.snd <$> step m

/-- What `ExecutesOpcode` asks of a machine with IME off, and whether there is room to push. -/
def runningAt (m : Machine) : UInt8 × Bool × Bool × Bool :=
  (m.cpu.opcode, m.cpu.halted, m.cpu.ime, decide (m.soc.svbk ≤ 7 ∧ StackRoom m.cpu.regSp))

theorem executesOpcode_of_runningAt {room : Bool} (h : Prod.snd <$> step m = .ok m')
    (hrunning : runningAt m = (opcode, false, false, room)) : ExecutesOpcode opcode m m' := by
  obtain ⟨⟨elapsed, m1⟩, hstep, rfl⟩ := map_eq_ok.mp h
  refine ⟨⟨elapsed, hstep⟩, congrArg Prod.fst hrunning, .inl (congrArg (·.2.1) hrunning), ?_⟩
  rintro ⟨m2, hcheck⟩
  have hime : m.cpu.ime = false := congrArg (·.2.2.1) hrunning
  have h := (interruptCheck_of_checkInterrupts hcheck).dispatched_eq
  rw [hime] at h
  cases h

/-- The machine after power-on, with IME set and the vertical blank interrupt enabled. -/
def returningEnabled : Checked Machine := do
  let m ← returningSteps 0
  pure { m with cpu.ime := true, soc.ie := 0x01 }

theorem stack_discipline_returning :
    (∃ m0 m1 m2 m3 m4, returningSteps 0 = .ok m0 ∧ ExecutesOpcode 0xC5 m0 m1 ∧
      ExecutesOpcode 0xD1 m1 m2 ∧ ExecutesOpcode 0xCD m2 m3 ∧ ExecutesOpcode 0xC9 m3 m4 ∧
      m2.cpu.regDe = m0.cpu.regBc ∧ m2.cpu.regSp = m0.cpu.regSp ∧
      ResumesAt (m2.cpu.regPc + 2) m4 ∧ m4.cpu.regSp = m2.cpu.regSp) ∧
    ∃ m m' elapsed, returningEnabled = .ok m ∧ step m = .ok (elapsed, m') ∧
      Transparent m m' ∧ m'.cpu.opcode = m.cpu.opcode := by
  obtain ⟨hpair, hcall, hinterrupt⟩ := stack_discipline
  refine ⟨?_, ?_⟩
  · obtain ⟨m4, h4⟩ := exists_of_isOk (x := returningSteps 4) (by decide +kernel)
    obtain ⟨m3, h3, hstep4⟩ := bind_eq_ok.mp h4
    obtain ⟨m2, h2, hstep3⟩ := bind_eq_ok.mp h3
    obtain ⟨m1, h1, hstep2⟩ := bind_eq_ok.mp h2
    obtain ⟨m0, h0, hstep1⟩ := bind_eq_ok.mp h1
    have hfacts : ∀ n m o, returningSteps n = .ok m →
        (runningAt <$> returningSteps n).toOption = some o → runningAt m = o := by
      intro n m o hm ho
      rw [toOption_eq_some, hm] at ho
      exact ok_inj.mp ho
    have hat0 := hfacts 0 m0 (0xC5, false, false, true) h0 (by decide +kernel)
    have hat1 := hfacts 1 m1 (0xD1, false, false, true) h1 (by decide +kernel)
    have hat2 := hfacts 2 m2 (0xCD, false, false, true) h2 (by decide +kernel)
    have hat3 := hfacts 3 m3 (0xC9, false, false, true) h3 (by decide +kernel)
    obtain ⟨hsvbk0, hroom0⟩ := of_decide_eq_true (congrArg (·.2.2.2) hat0)
    obtain ⟨hsvbk2, hroom2⟩ := of_decide_eq_true (congrArg (·.2.2.2) hat2)
    have hexec1 := executesOpcode_of_runningAt hstep1 hat0
    have hexec2 := executesOpcode_of_runningAt hstep2 hat1
    have hexec3 := executesOpcode_of_runningAt hstep3 hat2
    have hexec4 := executesOpcode_of_runningAt hstep4 hat3
    obtain ⟨-, hregs, hsp, -⟩ := hpair .bc .de m0 m1 m1 m2 hsvbk0 hroom0 hexec1 (.refl m1) hexec2
    obtain ⟨hresumes, hsp'⟩ := hcall 0xCD 0xC9 2 m2 m3 m3 m4 hsvbk2 hroom2 rfl rfl hexec3
      (.refl m3) rfl rfl hexec4
    exact ⟨m0, m1, m2, m3, m4, h0, hexec1, hexec2, hexec3, hexec4, hregs .de, hsp, hresumes, hsp'⟩
  · obtain ⟨⟨elapsed, m'⟩, hm'⟩ := exists_of_isOk (x := returningEnabled >>= step)
      (by decide +kernel)
    obtain ⟨m, hm, hstep⟩ := bind_eq_ok.mp hm'
    have hchecks : ((fun r : Bool × Machine => (r.1, r.2.cpu.opcode)) <$>
        (returningEnabled >>= checkInterrupts)).toOption = some (true, 0xD9) := by decide +kernel
    have hfacts : ((fun m : Machine => (decide (m.soc.svbk ≤ 7 ∧ StackRoom m.cpu.regSp),
        decide ((m.cpu.regPc - 1).toNat ≤ 0x7FFF),
        decide ((m.soc.readBus false (m.cpu.regPc - 1).toNat).toOption = some m.cpu.opcode)))
          <$> returningEnabled).toOption = some (true, true, true) := by decide +kernel
    rw [toOption_eq_some, hm] at hfacts
    have hfacts := ok_inj.mp hfacts
    obtain ⟨hsvbk, hroom⟩ := of_decide_eq_true (congrArg Prod.fst hfacts)
    have hprefetch : PrefetchKept m :=
      ⟨.inl (of_decide_eq_true (congrArg (·.2.1) hfacts)),
        toOption_eq_some.mp (of_decide_eq_true (congrArg (·.2.2) hfacts))⟩
    rw [toOption_eq_some, hm] at hchecks
    obtain ⟨⟨dispatched, m1⟩, hcheck, hvalue⟩ := map_eq_ok.mp hchecks
    obtain ⟨rfl, hreti⟩ := Prod.mk.inj hvalue
    obtain ⟨htransparent, hopcode⟩ := hinterrupt m m1 m' elapsed hsvbk hroom hstep hcheck hreti
    exact ⟨m, m', elapsed, hm, hstep, htransparent, hopcode hprefetch⟩

end Exec

end ZenithGb
