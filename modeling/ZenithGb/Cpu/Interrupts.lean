import ZenithGb.Cpu.Timing
import ZenithGb.Gameboy

/-!
# The CPU: interrupts over a run

A dispatch switches IME off, and only RETI, or EI one instruction later, is meant to switch it on
again. There is one exception: the step that dispatches an interrupt still applies an EI executed
in the step before, which was executed with IME already set. The handler then runs with IME on from
its first instruction.

## Main results

* `Exec.Stepped.control` — what a step does to IME
* `Exec.firstMasked_iff` — when a handler starts with IME off
* `Exec.imeDiscipline_iff` — when the discipline is kept over a run
* `Exec.not_imeDiscipline_doubleEi` — a program that breaks it
-/

namespace ZenithGb

open Outcome

namespace Exec

variable {m m' m1 : Machine} {dispatched : Bool} {elapsed : ℕ}

/-! ### What a step does to IME -/

/-- A step from `m` dispatches an interrupt. -/
def Interrupted (m : Machine) : Prop := ∃ m1, checkInterrupts m = .ok (true, m1)

/-- A step from `m` executes an instruction with this handler. -/
def Executes (fn : OpcodeFn) (m : Machine) : Prop :=
  ∃ dispatched m1 inst opcode m2, checkInterrupts m = .ok (dispatched, m1) ∧
    m1.cpu.halted = false ∧ fetchInstruction (withImeApplied m1) = .ok ((inst, opcode), m2) ∧
    inst.exec = fn

/-- A step from `m` dispatches an interrupt, and IME is off when it executes the first instruction
of the handler. -/
def FirstMasked (m : Machine) : Prop :=
  ∃ m1 i m2, checkInterrupts m = .ok (true, m1) ∧ m1.cpu.halted = false ∧
    fetchInstruction (withImeApplied m1) = .ok (i, m2) ∧ m2.cpu.ime = false

/-- IME when a step from `m` executes its instruction. -/
def imeAtInstruction (dispatched : Bool) (m : Machine) : Bool :=
  (m.cpu.ime && !dispatched) || m.cpu.imeNext

theorem withImeApplied_imeNext (m : Machine) : (withImeApplied m).cpu.imeNext = false := by
  rw [withImeApplied]
  dsimp only
  split
  · rfl
  · rename_i h
    exact Bool.eq_false_iff.mpr h

theorem withImeApplied_ime (h : checkInterrupts m = .ok (dispatched, m1)) :
    (withImeApplied m1).cpu.ime = imeAtInstruction dispatched m := by
  have hc := interruptCheck_of_checkInterrupts h
  have hime : (withImeApplied m1).cpu.ime = (m1.cpu.ime || m1.cpu.imeNext) := by
    rw [withImeApplied]
    cases hnext : m1.cpu.imeNext with
    | true => exact (Bool.or_true _).symm
    | false => exact (Bool.or_false _).symm
  rw [hime, hc.ime, hc.imeNext, imeAtInstruction]

/-- A step that waits can only switch IME on; one that executes an instruction does what the
instruction does, and an EI is left for the next step. -/
inductive Controlled (m m' : Machine) (dispatched : Bool) : Prop
  | waited : m.cpu.halted = true → dispatched = false →
      m'.cpu.ime = imeAtInstruction dispatched m → m'.cpu.imeNext = false →
      Controlled m m' dispatched
  | executed (fn : OpcodeFn) : Executes fn m →
      m'.cpu.ime = fn.setsIme (imeAtInstruction dispatched m) →
      m'.cpu.imeNext = (fn == .opcodeEi) → (fn = .opcodeEi → m'.cpu.halted = false) →
      Controlled m m' dispatched

/-- **What a step does to IME.** -/
theorem Stepped.control (h : Stepped m m' elapsed) :
    ∃ dispatched m1, checkInterrupts m = .ok (dispatched, m1) ∧ Controlled m m' dispatched := by
  cases h with
  | @waited dispatched m1 hcheck hhalted hclock =>
    have hc := interruptCheck_of_checkInterrupts hcheck
    have hp := takes_clock _ _ _ hclock
    refine ⟨dispatched, m1, hcheck, .waited ?_ (hc.not_dispatched hhalted) ?_ ?_⟩
    · by_contra hrunning
      have := hc.halted (.inl (Bool.eq_false_iff.mpr hrunning))
      rw [this] at hhalted
      cases hhalted
    · rw [hp.ime, withImeApplied_ime hcheck]
    · rw [hp.imeNext, withImeApplied_imeNext]
  | @executed dispatched m1 m2 m3 m4 inst opcode hcheck hhalted hfetch hcall hnext he =>
    obtain ⟨fetched, hp, -⟩ := fetchInstruction_agrees hfetch
    have hran := does_call inst opcode inst.exec _ _ _ hcall
    have hlast := takes_clockFetch _ _ _ hnext
    subst he
    refine ⟨dispatched, m1, hcheck, .executed inst.exec
      ⟨dispatched, m1, inst, opcode, m2, hcheck, hhalted, hfetch, rfl⟩ ?_ ?_ fun hei => ?_⟩
    · show m4.cpu.ime = _
      rw [hlast.ime, hran.ime, hp.ime, withImeApplied_ime hcheck]
    · show m4.cpu.imeNext = _
      rw [hlast.imeNext, hran.imeNext, hp.imeNext, withImeApplied_imeNext, Bool.false_or]
    · show m4.cpu.halted = false
      rw [hlast.halted, hran.halted (by rw [hei]; decide), hp.halted, withImeApplied_halted,
        hhalted]

/-- A step dispatches an interrupt exactly when IME is set and one is pending. -/
theorem interrupted_iff (hcheck : checkInterrupts m = .ok (dispatched, m1)) :
    Interrupted m ↔ m.cpu.ime = true ∧ interruptPending m.soc = true := by
  have hc := interruptCheck_of_checkInterrupts hcheck
  rw [← Bool.and_eq_true, ← hc.dispatched_eq]
  constructor
  · rintro ⟨m2, hm2⟩
    rw [hcheck] at hm2
    exact congrArg Prod.fst (ok_inj.mp hm2)
  · rintro rfl
    exact ⟨m1, hcheck⟩

/-- **The first instruction of a handler** runs with IME off exactly when no EI was due. -/
theorem firstMasked_iff (h : Stepped m m' elapsed) (hi : Interrupted m) :
    FirstMasked m ↔ m.cpu.imeNext = false := by
  obtain ⟨m1, hcheck⟩ := hi
  have hc := interruptCheck_of_checkInterrupts hcheck
  have hime : (withImeApplied m1).cpu.ime = m.cpu.imeNext := by
    rw [withImeApplied_ime hcheck, imeAtInstruction, Bool.not_true, Bool.and_false, Bool.false_or]
  rw [← hime]
  constructor
  · rintro ⟨m1', ⟨inst, opcode⟩, m2, hcheck', -, hfetch, hoff⟩
    rw [hcheck] at hcheck'
    cases hcheck'
    obtain ⟨fetched, hp, -⟩ := fetchInstruction_agrees hfetch
    rw [← hp.ime, hoff]
  · intro hoff
    cases h with
    | waited hcheck' hhalted =>
      rw [hcheck] at hcheck'
      cases hcheck'
      exact absurd ((hc.halted (.inr rfl)).symm.trans hhalted) nofun
    | executed hcheck' hhalted hfetch =>
      rw [hcheck] at hcheck'
      cases hcheck'
      obtain ⟨fetched, hp, -⟩ := fetchInstruction_agrees hfetch
      exact ⟨m1, _, _, hcheck, hhalted, hfetch, hp.ime.trans hoff⟩

/-! ### Runs -/

/-- A round is a step, after which the host's events do not touch the CPU. -/
theorem stepped_of_round {inputs : List Soc.InputEvent} (h : Gameboy.round inputs m = .ok m') :
    ∃ elapsed m1, Stepped m m1 elapsed ∧ m'.cpu = m1.cpu := by
  obtain ⟨⟨elapsed, m1⟩, hstep, h⟩ := bind_eq_ok.mp h
  cases h
  exact ⟨elapsed, m1, stepped_of_step hstep, rfl⟩

section

variable (r : Machine.Run Gameboy.round) (i j : ℕ)

/-- From position `i` to position `j` of a run RETI has been executed, or EI and one more
instruction. -/
def Released : Prop :=
  ∃ k, i ≤ k ∧ ((k < j ∧ Executes .opcodeReti (r.state k)) ∨
    (k + 1 < j ∧ Executes .opcodeEi (r.state k) ∧ ∃ fn, Executes fn (r.state (k + 1))))

variable {r i j}

theorem Released.mono (h : Released r i j) {k : ℕ} (hjk : j ≤ k) : Released r i k := by
  obtain ⟨l, hil, ⟨hlt, hreti⟩ | ⟨hlt, hei⟩⟩ := h
  · exact ⟨l, hil, .inl ⟨by omega, hreti⟩⟩
  · exact ⟨l, hil, .inr ⟨by omega, hei⟩⟩

/-- At position `p` of a run the handler of the interrupt dispatched at `i` has been released, or
IME is off and is due only to an EI just executed. -/
def MaskedAt (r : Machine.Run Gameboy.round) (i p : ℕ) (m : Machine) : Prop :=
  Released r i p ∨ (m.cpu.ime = false ∧ (m.cpu.imeNext = true → m.cpu.halted = false ∧
    ∃ k, i ≤ k ∧ k + 1 = p ∧ Executes .opcodeEi (r.state k)))

/-- An instruction executed with IME off leaves the handler masked, or releases it. -/
theorem MaskedAt.of_executed {k : ℕ} {fn : OpcodeFn} (hik : i ≤ k) (hfn : Executes fn (r.state k))
    (hime : m'.cpu.ime = fn.setsIme false) (hnext : m'.cpu.imeNext = (fn == .opcodeEi))
    (hhalted : fn = .opcodeEi → m'.cpu.halted = false) : MaskedAt r i (k + 1) m' := by
  by_cases hreti : fn = .opcodeReti
  · subst hreti
    exact .inl ⟨k, hik, .inl ⟨by omega, hfn⟩⟩
  · refine .inr ⟨?_, fun hei => ?_⟩
    · rw [hime]
      cases fn <;> first | rfl | exact absurd rfl hreti
    · have hfnEi : fn = .opcodeEi := eq_of_beq (hnext.symm.trans hei)
      subst hfnEi
      exact ⟨hhalted rfl, k, hik, rfl, hfn⟩

/-- **One step** keeps the handler masked until it is released. -/
theorem MaskedAt.next {k : ℕ} (h : MaskedAt r i k (r.state k)) (hik : i ≤ k) (hk : k < r.length) :
    MaskedAt r i (k + 1) (r.state (k + 1)) := by
  rcases h with hreleased | ⟨hoff, hdue⟩
  · exact .inl (hreleased.mono (Nat.le_succ k))
  obtain ⟨elapsed, m1, hstep, hcpu⟩ := stepped_of_round (r.next k hk)
  obtain ⟨dispatched, m2, hcheck, hcontrol⟩ := hstep.control
  have hime : imeAtInstruction dispatched (r.state k) = (r.state k).cpu.imeNext := by
    rw [imeAtInstruction, hoff, Bool.false_and, Bool.false_or]
  cases hnext : (r.state k).cpu.imeNext with
  | true =>
    obtain ⟨hrunning, l, hil, rfl, hei⟩ := hdue hnext
    cases hcontrol with
    | waited hhalted => exact absurd (hrunning.symm.trans hhalted) nofun
    | executed fn hfn => exact .inl ⟨l, hil, .inr ⟨by omega, hei, fn, hfn⟩⟩
  | false =>
    rw [hnext] at hime
    cases hcontrol with
    | waited _ _ hime' hnext' =>
      refine .inr ⟨by rw [hcpu, hime', hime], fun hei => ?_⟩
      rw [hcpu, hnext'] at hei
      cases hei
    | executed fn hfn hime' hnext' hhalted =>
      refine MaskedAt.of_executed hik hfn ?_ (hcpu ▸ hnext') (hcpu ▸ hhalted)
      rw [hcpu, hime', hime]

/-- The step that dispatches an interrupt leaves its handler masked, if no EI was due. -/
theorem MaskedAt.first (hi : i < r.length) (hint : Interrupted (r.state i))
    (hdue : (r.state i).cpu.imeNext = false) : MaskedAt r i (i + 1) (r.state (i + 1)) := by
  obtain ⟨elapsed, m1, hstep, hcpu⟩ := stepped_of_round (r.next i hi)
  obtain ⟨dispatched, m2, hcheck, hcontrol⟩ := hstep.control
  obtain ⟨m3, hcheck'⟩ := hint
  rw [hcheck] at hcheck'
  cases hcheck'
  have hime : imeAtInstruction true (r.state i) = false := by
    rw [imeAtInstruction, hdue, Bool.not_true, Bool.and_false, Bool.false_or]
  cases hcontrol with
  | waited _ hnot => cases hnot
  | executed fn hfn hime' hnext' hhalted =>
    refine MaskedAt.of_executed le_rfl hfn ?_ (hcpu ▸ hnext') (hcpu ▸ hhalted)
    rw [hcpu, hime', hime]

end

/-- The discipline over a run: a handler starts with IME off, and no other interrupt is dispatched
before it is released. -/
def ImeDiscipline (r : Machine.Run Gameboy.round) : Prop :=
  ∀ i < r.length, Interrupted (r.state i) → FirstMasked (r.state i) ∧
    ∀ j, i < j → j < r.length → Interrupted (r.state j) → Released r i j

/-- **The discipline is kept** over a run exactly when no step starts with IME set, an EI due, and
an interrupt pending. -/
theorem imeDiscipline_iff (r : Machine.Run Gameboy.round) :
    ImeDiscipline r ↔ ∀ k < r.length, ¬ ((r.state k).cpu.ime = true ∧
      (r.state k).cpu.imeNext = true ∧ interruptPending (r.state k).soc = true) := by
  have hiff : ∀ k < r.length, Interrupted (r.state k) ↔
      (r.state k).cpu.ime = true ∧ interruptPending (r.state k).soc = true := fun k hk => by
    obtain ⟨elapsed, m1, hstep, -⟩ := stepped_of_round (r.next k hk)
    obtain ⟨dispatched, m2, hcheck, -⟩ := hstep.control
    exact interrupted_iff hcheck
  constructor
  · rintro hkept k hk ⟨hime, hdue, hpending⟩
    have hint := (hiff k hk).mpr ⟨hime, hpending⟩
    obtain ⟨elapsed, m1, hstep, -⟩ := stepped_of_round (r.next k hk)
    have hoff := (firstMasked_iff hstep hint).mp (hkept k hk hint).1
    exact absurd (hdue.symm.trans hoff) nofun
  · intro hclear i hi hint
    obtain ⟨hime, hpending⟩ := (hiff i hi).mp hint
    have hdue : (r.state i).cpu.imeNext = false :=
      Bool.eq_false_iff.mpr fun hdue => hclear i hi ⟨hime, hdue, hpending⟩
    obtain ⟨elapsed, m1, hstep, -⟩ := stepped_of_round (r.next i hi)
    refine ⟨(firstMasked_iff hstep hint).mpr hdue, fun j hij hj hintj => ?_⟩
    have hmasked : MaskedAt r i j (r.state j) :=
      r.invariant (MaskedAt.first hi hint hdue)
        (fun k hlo hk h => h.next (Nat.le_of_succ_le hlo) hk) j hij (Nat.le_of_lt hj)
    rcases hmasked with hreleased | ⟨hoff, -⟩
    · exact hreleased
    · exact absurd (((hiff j hj).mp hintj).1.symm.trans hoff) nofun

/-- A cartridge with a program at 0x100, where execution starts. -/
def programCartridge (program : List UInt8) : Cartridge :=
  { Cartridge.blank 0 0 0xE7 with
    data := ⟨0x8000, fun i =>
      if 0x100 ≤ i.val ∧ i.val < 0x100 + program.length then program.getD (i.val - 0x100) 0
      else (Cartridge.blank 0 0 0xE7).data.cell i⟩ }

/-- LD A, 1; LDH [0xFF], A; EI; EI -/
def doubleEi : Cartridge := programCartridge [0x3E, 0x01, 0xE0, 0xFF, 0xFB, 0xFB]

/-- The request that is pending after power-on is dispatched with the second EI still due. -/
theorem not_imeDiscipline_doubleEi :
    ∃ r : Machine.Run Gameboy.round,
      Gameboy.boot doubleEi ⟨.none, none, none⟩ = .ok (r.state 0) ∧ r.length = 5 ∧
        ¬ ImeDiscipline r := by
  obtain ⟨m5, hm⟩ := exists_of_isOk (x := do
      let m ← Gameboy.boot doubleEi ⟨.none, none, none⟩
      Machine.exec Gameboy.round (List.replicate 5 []) m) (by decide +kernel)
  have hfacts : (do
      let m ← Gameboy.boot doubleEi ⟨.none, none, none⟩
      let m ← Machine.exec Gameboy.round (List.replicate 4 []) m
      pure (m.cpu.ime, m.cpu.imeNext, interruptPending m.soc)).toOption =
        some (true, true, true) := by decide +kernel
  obtain ⟨m, hboot, hm⟩ := bind_eq_ok.mp hm
  obtain ⟨r, hlen, hstart, -, hin⟩ := Machine.Run.ofExec [] hm
  rw [List.length_replicate] at hlen
  have hexec := r.exec_input (show 4 ≤ r.length by omega)
  rw [show (List.range 4).map r.input = List.replicate 4 [] by simp [List.range_succ, hin]] at hexec
  rw [hboot, ok_bind, ← hstart, hexec, ok_bind] at hfacts
  have h := Option.some.inj hfacts
  refine ⟨r, hstart ▸ hboot, hlen, fun hkept => ?_⟩
  obtain ⟨elapsed, m1, hstep, -⟩ := stepped_of_round (r.next 4 (by omega))
  obtain ⟨dispatched, m2, hcheck, -⟩ := hstep.control
  have hint : Interrupted (r.state 4) :=
    (interrupted_iff hcheck).mpr ⟨congrArg Prod.fst h, congrArg (·.2.2) h⟩
  have hoff := (firstMasked_iff hstep hint).mp (hkept 4 (by omega) hint).1
  exact absurd (hoff.symm.trans (congrArg (·.2.1) h)) nofun

end Exec

end ZenithGb
