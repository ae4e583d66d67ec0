import ZenithGb.Cpu.Access
import ZenithGb.Cpu.Handlers
import ZenithGb.Cpu.Isa

/-!
# The CPU: registers and flags between two states

What a handler does is followed from its end to its start: `Ensures` passes through its commands,
and the flags and registers of the CPU at the end come down to those at the start, write by write.

## Main results

* `Exec.ensures_clockRead`, `Exec.ensures_readR8`, … — the commands of the handlers
* `Cpu.flags_setFlagZ`, … — what a write does to the flags
* `Cpu.Keeps` — which registers a run of the CPU has left alone
-/

namespace ZenithGb

open Outcome

/-! ### PC and SP -/

section

variable {c : Cpu} {v w : UInt16}

@[simp] theorem Cpu.regPc_setPc : (c.setPc w).regPc = w := rfl
@[simp] theorem Cpu.setPc_setPc : (c.setPc v).setPc w = c.setPc w := rfl
@[simp] theorem Cpu.regSp_setSp : (c.setSp w).regSp = w := rfl
@[simp] theorem Cpu.setSp_setSp : (c.setSp v).setSp w = c.setSp w := rfl
@[simp] theorem Cpu.regSp_setPc : (c.setPc w).regSp = c.regSp := rfl
@[simp] theorem Cpu.regPc_setSp : (c.setSp w).regPc = c.regPc := rfl

end

/-! ### Commands -/

namespace Exec

variable {m : Machine} {α : Type}

@[simp] theorem ensures_cpu {Q : Cpu → Machine → Prop} : Ensures cpu m Q ↔ Q m.cpu m := by
  refine ⟨fun h => h m.cpu m rfl, ?_⟩
  rintro h a t ⟨⟩
  exact h

@[simp] theorem ensures_soc {Q : Soc → Machine → Prop} : Ensures soc m Q ↔ Q m.soc m := by
  refine ⟨fun h => h m.soc m rfl, ?_⟩
  rintro h a t ⟨⟩
  exact h

@[simp] theorem ensures_modifyCpu {g : Cpu → Cpu} {Q : Unit → Machine → Prop} :
    Ensures (modifyCpu g) m Q ↔ Q () ⟨g m.cpu, m.soc⟩ := by
  refine ⟨fun h => h () _ rfl, ?_⟩
  rintro h a t ⟨⟩
  exact h

@[simp] theorem ensures_modifySoc {g : Soc → Soc} {Q : Unit → Machine → Prop} :
    Ensures (modifySoc g) m Q ↔ Q () ⟨m.cpu, g m.soc⟩ := by
  refine ⟨fun h => h () _ rfl, ?_⟩
  rintro h a t ⟨⟩
  exact h

@[simp] theorem ensures_check {y : Checked α} {Q : α → Machine → Prop} :
    Ensures (check y) m Q ↔ ∀ a, y = .ok a → Q a m := ensures_lift

@[simp] theorem ensures_debugAssert {c : Prop} [Decidable c] {Q : Unit → Machine → Prop} :
    Ensures (debugAssert c) m Q ↔ (c → Q () m) := by
  refine ensures_check.trans ?_
  by_cases h : c
  · rw [assert_of _ h]
    exact ⟨fun hq _ => hq () rfl, fun hq _ _ => hq h⟩
  · simp [assert, h]

@[simp] theorem ensures_clock {Q : Unit → Machine → Prop} :
    Ensures clock m Q ↔ ∀ soc, m.soc.clock = .ok soc → Q () ⟨m.cpu, soc⟩ := by
  constructor
  · intro h soc hsoc
    exact h () _ (clock_eq_ok.mpr ⟨soc, hsoc, rfl⟩)
  · intro h u m' hclock
    obtain ⟨soc, hsoc, rfl⟩ := clock_eq_ok.mp hclock
    exact h soc hsoc

@[simp] theorem ensures_clockRead {address : UInt16} {Q : UInt8 → Machine → Prop} :
    Ensures (clockRead address) m Q ↔
      ∀ byte soc, m.soc.clockRead address = .ok (byte, soc) → Q byte ⟨m.cpu, soc⟩ := by
  constructor
  · intro h byte soc hsoc
    exact h byte _ (clockRead_eq_ok.mpr ⟨soc, hsoc, rfl⟩)
  · intro h byte m' hread
    obtain ⟨soc, hsoc, rfl⟩ := clockRead_eq_ok.mp hread
    exact h byte soc hsoc

@[simp] theorem ensures_clockWrite {address : UInt16} {data : UInt8} {Q : Unit → Machine → Prop} :
    Ensures (clockWrite address data) m Q ↔
      ∀ soc, m.soc.clockWrite address data = .ok soc → Q () ⟨m.cpu, soc⟩ := by
  constructor
  · intro h soc hsoc
    exact h () _ (clockWrite_eq_ok.mpr ⟨soc, hsoc, rfl⟩)
  · intro h u m' hwrite
    obtain ⟨soc, hsoc, rfl⟩ := clockWrite_eq_ok.mp hwrite
    exact h soc hsoc

@[simp] theorem ensures_setFlag {flag : UInt8} {set : Bool} {Q : Unit → Machine → Prop} :
    Ensures (setFlag flag set) m Q ↔ Q () ⟨m.cpu.setFlag flag set, m.soc⟩ := ensures_modifyCpu

@[simp] theorem ensures_setFlags {z n h c : Bool} {Q : Unit → Machine → Prop} :
    Ensures (setFlags z n h c) m Q ↔ Q () ⟨m.cpu.setFlags z n h c, m.soc⟩ := ensures_modifyCpu

@[simp] theorem ensures_clockReadAtHl {Q : UInt8 → Machine → Prop} :
    Ensures clockReadAtHl m Q ↔
      ∀ byte soc, m.soc.clockRead m.cpu.regHl = .ok (byte, soc) → Q byte ⟨m.cpu, soc⟩ := by
  simp [clockReadAtHl]

@[simp] theorem ensures_clockWriteAtHl {val : UInt8} {Q : Unit → Machine → Prop} :
    Ensures (clockWriteAtHl val) m Q ↔
      ∀ soc, m.soc.clockWrite m.cpu.regHl val = .ok soc → Q () ⟨m.cpu, soc⟩ := by
  simp [clockWriteAtHl]

@[simp] theorem ensures_clockConsumeByteFromPc {Q : UInt8 → Machine → Prop} :
    Ensures clockConsumeByteFromPc m Q ↔
      ∀ byte soc, m.soc.clockRead m.cpu.regPc = .ok (byte, soc) →
        Q byte ⟨m.cpu.setPc (m.cpu.regPc + 1), soc⟩ := by
  simp [clockConsumeByteFromPc]

@[simp] theorem ensures_clockPushU8 {val : UInt8} {Q : Unit → Machine → Prop} :
    Ensures (clockPushU8 val) m Q ↔
      ∀ soc, m.soc.clockWrite (m.cpu.regSp - 1) val = .ok soc →
        Q () ⟨m.cpu.setSp (m.cpu.regSp - 1), soc⟩ := by
  simp [clockPushU8]

@[simp] theorem ensures_clockPopU8 {Q : UInt8 → Machine → Prop} :
    Ensures clockPopU8 m Q ↔
      ∀ byte soc, m.soc.clockRead m.cpu.regSp = .ok (byte, soc) →
        Q byte ⟨m.cpu.setSp (m.cpu.regSp + 1), soc⟩ := by
  simp [clockPopU8]

end Exec

/-! ### Flags -/

def R8.set (cpu : Cpu) (v : UInt8) : R8 → Cpu
  | .b => cpu.setB v
  | .c => cpu.setC v
  | .d => cpu.setD v
  | .e => cpu.setE v
  | .h => cpu.setH v
  | .l => cpu.setL v
  | .a => cpu.setA v

theorem R8.get_set (cpu : Cpu) (v : UInt8) (r r' : R8) :
    r'.get (r.set cpu v) = if r' = r then v else r'.get cpu := by
  cases r <;> cases r' <;>
    simp [R8.get, R8.set, Cpu.b, Cpu.c, Cpu.d, Cpu.e, Cpu.h, Cpu.l, Cpu.a, Cpu.setB, Cpu.setC,
      Cpu.setD, Cpu.setE, Cpu.setH, Cpu.setL, Cpu.setA]

theorem R8.f_set (cpu : Cpu) (v : UInt8) (r : R8) : (r.set cpu v).f = cpu.f := by
  cases r with
  | a => exact getLow_setHigh _ _
  | _ => rfl

namespace Cpu

variable {c : Cpu} {v : UInt8} {w : UInt16} {b : Bool}

/-- The flags in a byte, as F holds them. -/
def flagsOf (x : UInt8) : Flags :=
  ⟨x &&& flagZ != 0, x &&& flagN != 0, x &&& flagH != 0, x &&& flagC != 0⟩

theorem flags_eq : c.flags = flagsOf c.f := rfl

theorem flags_congr {c' : Cpu} (h : c'.f = c.f) : c'.flags = c.flags := by
  rw [flags_eq, flags_eq, h]

theorem f_setFlag {flag : UInt8} :
    (c.setFlag flag b).f = if b then c.f ||| flag else c.f &&& ~~~flag := getLow_setLow _ _

/-- A mask that does not meet the flag sees nothing of the write. -/
theorem f_setFlag_and {flag mask : UInt8} (h : flag &&& mask = 0) (h' : ~~~flag &&& mask = mask) :
    (c.setFlag flag b).f &&& mask = c.f &&& mask := by
  rw [f_setFlag]
  cases b with
  | true =>
    have hor : (c.f ||| flag) &&& mask = (c.f &&& mask) ||| (flag &&& mask) :=
      UInt8.toBitVec_inj.mp BitVec.and_or_distrib_right
    rw [if_pos rfl, hor, h, UInt8.or_zero]
  | false => rw [if_neg nofun, UInt8.and_assoc, h']

theorem getFlag_setFlag_of_and {flag other : UInt8} (h : flag &&& other = 0)
    (h' : ~~~flag &&& other = other) : (c.setFlag flag b).getFlag other = c.getFlag other := by
  rw [getFlag, getFlag, f_setFlag_and h h']

theorem getFlag_setFlag {flag : UInt8} (h : flag ≠ 0) : (c.setFlag flag b).getFlag flag = b := by
  rw [getFlag, f_setFlag]
  cases b with
  | true =>
    have hor : (c.f ||| flag) &&& flag = (c.f &&& flag) ||| (flag &&& flag) :=
      UInt8.toBitVec_inj.mp BitVec.and_or_distrib_right
    simp [hor, h]
  | false => simp [UInt8.and_assoc]

@[simp] theorem flags_setFlagZ : (c.setFlag flagZ b).flags = { c.flags with z := b } :=
  Flags.ext (getFlag_setFlag (by decide)) (getFlag_setFlag_of_and (by decide) (by decide))
    (getFlag_setFlag_of_and (by decide) (by decide))
    (getFlag_setFlag_of_and (by decide) (by decide))

@[simp] theorem flags_setFlagN : (c.setFlag flagN b).flags = { c.flags with n := b } :=
  Flags.ext (getFlag_setFlag_of_and (by decide) (by decide)) (getFlag_setFlag (by decide))
    (getFlag_setFlag_of_and (by decide) (by decide))
    (getFlag_setFlag_of_and (by decide) (by decide))

@[simp] theorem flags_setFlagH : (c.setFlag flagH b).flags = { c.flags with h := b } :=
  Flags.ext (getFlag_setFlag_of_and (by decide) (by decide))
    (getFlag_setFlag_of_and (by decide) (by decide)) (getFlag_setFlag (by decide))
    (getFlag_setFlag_of_and (by decide) (by decide))

@[simp] theorem flags_setFlagC : (c.setFlag flagC b).flags = { c.flags with c := b } :=
  Flags.ext (getFlag_setFlag_of_and (by decide) (by decide))
    (getFlag_setFlag_of_and (by decide) (by decide))
    (getFlag_setFlag_of_and (by decide) (by decide)) (getFlag_setFlag (by decide))

@[simp] theorem flags_setFlags {z n h carry : Bool} :
    (c.setFlags z n h carry).flags = ⟨z, n, h, carry⟩ := by
  simp [setFlags]

@[simp] theorem flags_set {r : R8} : (r.set c v).flags = c.flags := flags_congr (r.f_set c v)

@[simp] theorem flags_setA : (c.setA v).flags = c.flags := flags_set (r := .a)

@[simp] theorem flags_setBc : (c.setBc w).flags = c.flags := rfl
@[simp] theorem flags_setDe : (c.setDe w).flags = c.flags := rfl
@[simp] theorem flags_setHl : (c.setHl w).flags = c.flags := rfl
@[simp] theorem flags_setSp : (c.setSp w).flags = c.flags := rfl
@[simp] theorem flags_setPc : (c.setPc w).flags = c.flags := rfl

/-- Writing A back undoes a write to it. -/
theorem setA_setA_of_a (h : c.a = v) (w : UInt8) : (c.setA w).setA v = c := by
  subst h
  simp [setA, a]

@[simp] theorem a_setA : (c.setA v).a = v := getHigh_setHigh _ _

@[simp] theorem a_setFlag {flag : UInt8} {set : Bool} : (c.setFlag flag set).a = c.a :=
  getHigh_setLow _ _

@[simp] theorem a_setFlags {z n h carry : Bool} : (c.setFlags z n h carry).a = c.a := by
  simp [setFlags, setFlag, setF, a]

/-! ### What is left alone -/

/-- No register has changed but those of `rs`, and the low nibble of F has not. -/
structure Keeps (rs : List Reg) (c c' : Cpu) : Prop where
  regs : ∀ r ∉ rs, r.read c' = r.read c
  low : c'.f &&& 0x0F = c.f &&& 0x0F

variable {rs : List Reg} {c' c'' : Cpu}

@[simp] theorem keeps_refl : Keeps rs c c := ⟨fun _ _ => rfl, rfl⟩

theorem Keeps.trans (h : Keeps rs c c') (h' : Keeps rs c' c'') : Keeps rs c c'' :=
  ⟨fun r hr => (h'.regs r hr).trans (h.regs r hr), h'.low.trans h.low⟩

theorem Keeps.symm (h : Keeps rs c c') : Keeps rs c' c :=
  ⟨fun r hr => (h.regs r hr).symm, h.low.symm⟩

theorem Keeps.mono {rs' : List Reg} (h : Keeps rs c c') (hrs : rs ⊆ rs') : Keeps rs' c c' :=
  ⟨fun r hr => h.regs r fun hmem => hr (hrs hmem), h.low⟩

/-- What a step keeps can be left out. -/
theorem Keeps.iff (h : Keeps rs c' c'') : Keeps rs c c'' ↔ Keeps rs c c' :=
  ⟨fun h' => h'.trans h.symm, fun h' => h'.trans h⟩

@[simp] theorem keeps_set {r : R8} (h : .r8 r ∈ rs) :
    Keeps rs c (r.set c' v) ↔ Keeps rs c c' := by
  refine Keeps.iff ⟨fun r' hr' => ?_, by rw [r.f_set]⟩
  cases r' with
  | sp => cases r <;> rfl
  | r8 r' =>
    have hne : r' ≠ r := by
      rintro rfl
      exact hr' h
    rw [Reg.read, Reg.read, R8.get_set, if_neg hne]

@[simp] theorem keeps_setA (h : .r8 .a ∈ rs) : Keeps rs c (c'.setA v) ↔ Keeps rs c c' :=
  keeps_set h

/-- Writing a pair changes its registers. -/
theorem keeps_pair {x y : R8} (hx : .r8 x ∈ rs) (hy : .r8 y ∈ rs) (hf : c''.f = c'.f)
    (hsp : c''.regSp = c'.regSp) (hregs : ∀ r : R8, r ≠ x → r ≠ y → r.get c'' = r.get c') :
    Keeps rs c c'' ↔ Keeps rs c c' := by
  refine Keeps.iff ⟨fun r hr => ?_, by rw [hf]⟩
  cases r with
  | sp => exact hsp
  | r8 r =>
    rw [Reg.read, Reg.read, hregs r]
    · rintro rfl
      exact hr hx
    · rintro rfl
      exact hr hy

@[simp] theorem keeps_setBc (hb : .r8 .b ∈ rs) (hc : .r8 .c ∈ rs) :
    Keeps rs c (c'.setBc w) ↔ Keeps rs c c' :=
  keeps_pair hb hc rfl rfl fun r hr hr' => by cases r <;> first | rfl | contradiction

@[simp] theorem keeps_setDe (hd : .r8 .d ∈ rs) (he : .r8 .e ∈ rs) :
    Keeps rs c (c'.setDe w) ↔ Keeps rs c c' :=
  keeps_pair hd he rfl rfl fun r hr hr' => by cases r <;> first | rfl | contradiction

@[simp] theorem keeps_setHl (hh : .r8 .h ∈ rs) (hl : .r8 .l ∈ rs) :
    Keeps rs c (c'.setHl w) ↔ Keeps rs c c' :=
  keeps_pair hh hl rfl rfl fun r hr hr' => by cases r <;> first | rfl | contradiction

@[simp] theorem keeps_setSp (h : .sp ∈ rs) : Keeps rs c (c'.setSp w) ↔ Keeps rs c c' := by
  refine Keeps.iff ⟨fun r hr => ?_, rfl⟩
  cases r with
  | sp => exact absurd h hr
  | r8 r => cases r <;> rfl

/-- The registers are read from the pairs. -/
theorem keeps_congr (haf : c''.regAf = c'.regAf) (hbc : c''.regBc = c'.regBc)
    (hde : c''.regDe = c'.regDe) (hhl : c''.regHl = c'.regHl) (hsp : c''.regSp = c'.regSp) :
    Keeps rs c c'' ↔ Keeps rs c c' := by
  refine Keeps.iff ⟨fun r _ => ?_, by rw [f, f, haf]⟩
  cases r with
  | sp => exact hsp
  | r8 r => cases r <;> simp [Reg.read, R8.get, a, b, Cpu.c, d, e, h, l, haf, hbc, hde, hhl]

@[simp] theorem keeps_setPc : Keeps rs c (c'.setPc w) ↔ Keeps rs c c' :=
  keeps_congr rfl rfl rfl rfl rfl

/-- The flags are in the high nibble. -/
theorem keeps_setFlag {flag : UInt8} (h : flag &&& 0x0F = 0) (h' : ~~~flag &&& 0x0F = 0x0F) :
    Keeps rs c (c'.setFlag flag b) ↔ Keeps rs c c' := by
  refine Keeps.iff ⟨fun r _ => ?_, f_setFlag_and h h'⟩
  cases r with
  | sp => rfl
  | r8 r =>
    cases r with
    | a => exact congrArg UInt8.toUInt16 (getHigh_setLow _ _)
    | _ => rfl

@[simp] theorem keeps_setFlagZ : Keeps rs c (c'.setFlag flagZ b) ↔ Keeps rs c c' :=
  keeps_setFlag (by decide) (by decide)
@[simp] theorem keeps_setFlagN : Keeps rs c (c'.setFlag flagN b) ↔ Keeps rs c c' :=
  keeps_setFlag (by decide) (by decide)
@[simp] theorem keeps_setFlagH : Keeps rs c (c'.setFlag flagH b) ↔ Keeps rs c c' :=
  keeps_setFlag (by decide) (by decide)
@[simp] theorem keeps_setFlagC : Keeps rs c (c'.setFlag flagC b) ↔ Keeps rs c c' :=
  keeps_setFlag (by decide) (by decide)

@[simp] theorem keeps_setFlags {z n h carry : Bool} :
    Keeps rs c (c'.setFlags z n h carry) ↔ Keeps rs c c' := by
  simp [setFlags]

/-! CPUs that differ in what is no register. -/

@[simp] theorem flags_branchSkipped : Cpu.flags { c with branchSkipped := b } = c.flags := rfl
@[simp] theorem flags_halted : Cpu.flags { c with halted := b } = c.flags := rfl
@[simp] theorem flags_ime : Cpu.flags { c with ime := b } = c.flags := rfl
@[simp] theorem flags_imeNext : Cpu.flags { c with imeNext := b } = c.flags := rfl

@[simp] theorem keeps_branchSkipped :
    Keeps rs c { c' with branchSkipped := b } ↔ Keeps rs c c' := keeps_congr rfl rfl rfl rfl rfl
@[simp] theorem keeps_halted : Keeps rs c { c' with halted := b } ↔ Keeps rs c c' :=
  keeps_congr rfl rfl rfl rfl rfl
@[simp] theorem keeps_ime : Keeps rs c { c' with ime := b } ↔ Keeps rs c c' :=
  keeps_congr rfl rfl rfl rfl rfl
@[simp] theorem keeps_imeNext : Keeps rs c { c' with imeNext := b } ↔ Keeps rs c c' :=
  keeps_congr rfl rfl rfl rfl rfl

end Cpu

/-- The flags are `fl`, and the registers outside `rs` are as they were. -/
@[mk_iff] structure Sets (fl : Flags) (rs : List Reg) (c c' : Cpu) : Prop where
  flags : c'.flags = fl
  keeps : Cpu.Keeps rs c c'

/-! ### Encoded operands -/

/-- The register a code stands for. 6 is `[HL]`. -/
def R8.code : R8 → ℕ
  | .b => 0
  | .c => 1
  | .d => 2
  | .e => 3
  | .h => 4
  | .l => 5
  | .a => 7

/-! What the source decodes from three or two bits. -/

def Arg.ofR8 (code : UInt8) : Arg :=
  match code.toNat with
  | 0 => .b
  | 1 => .c
  | 2 => .d
  | 3 => .e
  | 4 => .h
  | 5 => .l
  | 6 => .atHl
  | _ => .a

def Arg.ofR16 (code : UInt8) : Arg :=
  match code.toNat with
  | 0 => .bc
  | 1 => .de
  | 2 => .hl
  | _ => .sp

def Arg.ofR16stk (code : UInt8) : Arg :=
  match code.toNat with
  | 0 => .bc
  | 1 => .de
  | 2 => .hl
  | _ => .af

theorem Arg.ofR8_eq {code : UInt8} {r : R8} (h : code.toNat = r.code) : Arg.ofR8 code = .r8 r := by
  rw [Arg.ofR8, h]
  cases r <;> rfl

theorem R8.forall_iff {P : R8 → Prop} :
    (∀ r, P r) ↔ P .b ∧ P .c ∧ P .d ∧ P .e ∧ P .h ∧ P .l ∧ P .a :=
  ⟨fun h => ⟨h _, h _, h _, h _, h _, h _, h _⟩,
    fun ⟨hb, hc, hd, he, hh, hl, ha⟩ r => by cases r <;> assumption⟩

@[simp] theorem R8.code_inj {r r' : R8} : r.code = r'.code ↔ r = r' := by
  cases r <;> cases r' <;> decide

namespace Exec

variable {m : Machine} {k : UInt8}

@[simp] theorem ensures_readR8 {Q : UInt8 → Machine → Prop} :
    Ensures (readR8 k) m Q ↔ ∀ r : R8, k.toNat = r.code → Q (r.get m.cpu) m := by
  rw [readR8, ensures_bind, ensures_cpu]
  split <;> simp_all [R8.forall_iff, R8.code, R8.get]

@[simp] theorem ensures_writeR8 {v : UInt8} {Q : Unit → Machine → Prop} :
    Ensures (writeR8 k v) m Q ↔ ∀ r : R8, k.toNat = r.code → Q () ⟨r.set m.cpu v, m.soc⟩ := by
  rw [writeR8]
  split <;> simp_all [R8.forall_iff, R8.code, R8.set]

theorem ensures_readR16 {Q : UInt16 → Machine → Prop}
    (h : Q ((Arg.ofR16 k).word m.cpu) m) : Ensures (readR16 k) m Q := by
  rw [readR16]
  rw [Arg.ofR16] at h
  rw [ensures_bind, ensures_cpu]
  split <;> simp_all [Arg.word]

/-- A write to a pair keeps the flags, and the registers that are not in the pair. -/
theorem ensures_writeR16 {v : UInt16} {rs : List Reg} {fl : Flags} {c : Cpu}
    (h : Sets fl rs c m.cpu) (hrs : ∀ r ∈ (Arg.ofR16 k).regs, r ∈ rs) :
    Ensures (writeR16 k v) m fun _ m' => Sets fl rs c m'.cpu := by
  rw [writeR16]
  rw [Arg.ofR16] at hrs
  split <;> simp_all [sets_iff, Arg.regs]

end Exec

end ZenithGb
