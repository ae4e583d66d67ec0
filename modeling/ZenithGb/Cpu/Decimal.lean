import ZenithGb.Cpu.Architecture
import ZenithGb.Lib.Ripple

/-!
# The CPU: decimal arithmetic

DAA corrects the sum or the difference of two bytes of two decimal digits each, from the flags that
`add_a8` and `sub_a8` left. The carry it leaves is the carry into the next byte, so numbers of any
length are added and subtracted byte by byte.

## Main results

* `Flags.adjusted_ofSum`, `Flags.adjusted_ofDifference` — the digits of one byte
* `Exec.DecimalByte.adds`, `Exec.DecimalByte.subtracts` — the instructions on one byte
* `Exec.multibyte_decimal` — numbers of any length
-/

namespace ZenithGb

open Outcome Ripple

/-! ### Two digits in a byte -/

/-- Both nibbles of the byte are decimal digits. -/
def IsBcd (x : UInt8) : Prop := x.toNat % 16 < 10 ∧ x.toNat / 16 < 10

/-- The number two digits stand for. -/
def ofDigitPair (n : ℕ) : ℕ := n / 16 * 10 + n % 16

def bcd (x : UInt8) : ℕ := ofDigitPair x.toNat

theorem bcd_lt {x : UInt8} (h : IsBcd x) : bcd x < 100 := by
  have hlow := h.1
  have hhigh := h.2
  rw [bcd, ofDigitPair]
  omega

namespace Flags

/-- What DAA leaves in A. -/
def adjusted (f : Flags) (a : ℕ) : ℕ :=
  (if f.n then a + 0x100 - (f.correction a).1 else a + (f.correction a).1) % 0x100

variable {x y c z : ℕ}

/-- The sum of two bytes is corrected to two digits and a carry. -/
theorem adjusted_ofSum (hx : x % 16 < 10 ∧ x / 16 < 10) (hy : y % 16 < 10 ∧ y / 16 < 10)
    (hc : c ≤ 1) (hz : z = (ofSum x y c).adjusted ((x + y + c) % 0x100)) :
    (z % 16 < 10 ∧ z / 16 < 10) ∧
      ofDigitPair z + 100 * ((ofSum x y c).correction ((x + y + c) % 0x100)).2.toNat =
        ofDigitPair x + ofDigitPair y + c := by
  simp only [adjusted, ofDigitPair, correction, ofSum, Bool.not_false, Bool.true_and,
    Bool.or_eq_true, decide_eq_true_eq, Bool.false_eq_true, if_false] at hz ⊢
  rw [← Bool.decide_or]
  by_cases hcarry : 0x100 ≤ x + y + c ∨ 0x99 < (x + y + c) % 0x100
  · rw [if_pos hcarry] at hz
    rw [decide_eq_true hcarry, Bool.toNat_true]
    split at hz <;> omega
  · rw [if_neg hcarry] at hz
    rw [decide_eq_false hcarry, Bool.toNat_false]
    split at hz <;> omega

/-- The difference of two bytes is corrected to two digits and a borrow. -/
theorem adjusted_ofDifference (hx : x % 16 < 10 ∧ x / 16 < 10) (hy : y % 16 < 10 ∧ y / 16 < 10)
    (hc : c ≤ 1) (hz : z = (ofDifference x y c).adjusted ((x + 0x200 - (y + c)) % 0x100)) :
    (z % 16 < 10 ∧ z / 16 < 10) ∧
      ofDigitPair z + ofDigitPair y + c = ofDigitPair x +
        100 * ((ofDifference x y c).correction ((x + 0x200 - (y + c)) % 0x100)).2.toNat := by
  simp only [adjusted, ofDigitPair, correction, ofDifference, Bool.not_true, Bool.false_and,
    Bool.or_false, decide_eq_true_eq, if_true] at hz ⊢
  by_cases hcarry : x < y + c
  · rw [if_pos hcarry] at hz
    rw [decide_eq_true hcarry, Bool.toNat_true]
    split at hz <;> omega
  · rw [if_neg hcarry] at hz
    rw [decide_eq_false hcarry, Bool.toNat_false]
    split at hz <;> omega

end Flags

namespace Exec

variable {m m' : Machine} {x y z : UInt8}

/-! ### The handlers -/

theorem ensures_addA8 (val carry : UInt8) : Ensures (addA8 val carry) m fun _ m' =>
    m'.cpu.a.toNat = (m.cpu.a.toNat + val.toNat + carry.toNat) % 0x100 ∧
      m'.cpu.flags = .ofSum m.cpu.a.toNat val.toNat carry.toNat := by
  have hflags := computes_addA8 carry m val
  simp only [addA8, setFlags, ensures_bind, ensures_cpu, ensures_modifyCpu] at hflags ⊢
  refine ⟨?_, hflags.flags⟩
  rw [Cpu.a_setA, UInt8.toNat_add, UInt8.toNat_add]
  omega

theorem ensures_subA8 (val : UInt8) {borrow : UInt8} (hborrow : borrow.toNat ≤ 1) :
    Ensures (subA8 val borrow) m fun _ m' =>
      m'.cpu.a.toNat = (m.cpu.a.toNat + 0x200 - (val.toNat + borrow.toNat)) % 0x100 ∧
        m'.cpu.flags = .ofDifference m.cpu.a.toNat val.toNat borrow.toNat := by
  have hflags := computes_subA8 borrow hborrow m val
  have hval := val.toNat_lt
  simp only [subA8, setFlags, ensures_bind, ensures_cpu, ensures_modifyCpu] at hflags ⊢
  refine ⟨?_, hflags.flags⟩
  rw [Cpu.a_setA, UInt8.toNat_sub, UInt8.toNat_sub]
  omega

theorem ensures_opcodeDaa : Ensures opcodeDaa m fun _ m' =>
    m'.cpu.a.toNat = m.cpu.flags.adjusted m.cpu.a.toNat ∧
      m'.cpu.flags.c = (m.cpu.flags.correction m.cpu.a.toNat).2 := by
  have hbyte : ∀ (a : UInt8) (n h c : Bool),
      (let low : UInt8 := if (!n && a &&& 0xF > 0x9) || h then 0x6 else 0
      let offset : UInt8 := low ||| (if (!n && a > 0x99) || c then 0x60 else 0)
      (if n then a - offset else a + offset).toNat) = Flags.adjusted ⟨false, n, h, c⟩ a.toNat :=
    forall_uint8 (by decide +kernel)
  have hflags := @sets_opcodeDaa m
  have ha := hbyte m.cpu.a m.cpu.flags.n m.cpu.flags.h m.cpu.flags.c
  simp only [opcodeDaa, setFlag, ensures_bind, ensures_cpu, ensures_modifyCpu] at hflags ⊢
  refine ⟨?_, congrArg Flags.c hflags.flags⟩
  rw [Cpu.a_setFlag, Cpu.a_setFlag, Cpu.a_setFlag, Cpu.a_setA]
  exact ha

/-! ### One byte -/

/-- An arithmetic instruction of the handler `fn`, with `x` in A and `y` as its operand, and then
DAA, which leaves `z` in A. What comes between the two keeps A and the flags. -/
structure DecimalByte (fn : OpcodeFn) (p : Place UInt8) (m m' : Machine) : Prop where
  a : m.cpu.a = p.x
  runs : ∃ opcode s t u, (getInstruction opcode).exec = fn ∧
    clockConsumeSrcR8Imm8Hladdr (getInstruction opcode).src opcode m = .ok (p.y, s) ∧
    fn.call (getInstruction opcode) opcode m = .ok ((), t) ∧
    u.cpu.regAf = t.cpu.regAf ∧ opcodeDaa u = .ok ((), m')
  result : m'.cpu.a = p.z

/-- What an instruction does with its operand, if `compute` is what its handler does with it. -/
theorem DecimalByte.computes {fn : OpcodeFn} {p : Place UInt8} (h : DecimalByte fn p m m')
    (compute : UInt8 → Exec Unit) (hfn : ∀ inst opcode, fn.call inst opcode = do
      compute (← clockConsumeSrcR8Imm8Hladdr inst.src opcode)) :
    ∃ s t u, s.cpu.regAf = m.cpu.regAf ∧ compute p.y s = .ok ((), t) ∧
      u.cpu.regAf = t.cpu.regAf ∧ opcodeDaa u = .ok ((), m') := by
  obtain ⟨opcode, s, t, u, -, hsrc, hcall, hu, hdaa⟩ := h.runs
  rw [hfn, run_bind_of_ok hsrc] at hcall
  have haf : Ensures (clockConsumeSrcR8Imm8Hladdr (getInstruction opcode).src opcode) m
      fun _ s => s.cpu.regAf = m.cpu.regAf := ensures_clockConsumeSrc fun _ _ _ _ => rfl
  exact ⟨s, t, u, haf _ _ hsrc, hcall, hu, hdaa⟩

/-- A and the flags are in one pair. -/
theorem a_congr {c c' : Cpu} (h : c'.regAf = c.regAf) : c'.a = c.a ∧ c'.flags = c.flags :=
  ⟨congrArg getHigh h, Cpu.flags_congr (congrArg getLow h)⟩

theorem toNat_bit_eq (b : Bool) : (bit b).toNat = b.toNat := by cases b <;> rfl

section

variable {p : Place UInt8} {s t u : Machine} {carry : Bool}

/-- A sum and its correction. -/
theorem adds_of_addA8 (hs : s.cpu.a = p.x) (hx : IsBcd p.x) (hy : IsBcd p.y)
    (hadd : addA8 p.y (bit carry) s = .ok ((), t)) (hu : u.cpu.regAf = t.cpu.regAf)
    (hdaa : opcodeDaa u = .ok ((), m')) (hz : m'.cpu.a = p.z) :
    IsBcd p.z ∧ Adds 100 bcd carry p m'.cpu.flags.c := by
  obtain ⟨ha, hflags⟩ := ensures_addA8 p.y (bit carry) () t hadd
  obtain ⟨hresult, hcarry⟩ := ensures_opcodeDaa () m' hdaa
  rw [hs, toNat_bit_eq] at ha hflags
  rw [(a_congr hu).1, (a_congr hu).2, ha, hflags] at hresult hcarry
  rw [hz] at hresult
  obtain ⟨hdigits, hvalue⟩ := Flags.adjusted_ofSum hx hy carry.toNat_le hresult
  rw [← hcarry] at hvalue
  exact ⟨hdigits, hvalue⟩

/-- A difference and its correction. -/
theorem subtracts_of_subA8 (hs : s.cpu.a = p.x) (hx : IsBcd p.x) (hy : IsBcd p.y)
    (hsub : subA8 p.y (bit carry) s = .ok ((), t)) (hu : u.cpu.regAf = t.cpu.regAf)
    (hdaa : opcodeDaa u = .ok ((), m')) (hz : m'.cpu.a = p.z) :
    IsBcd p.z ∧ Subtracts 100 bcd carry p m'.cpu.flags.c := by
  have hborrow : (bit carry).toNat ≤ 1 := (toNat_bit_eq carry).trans_le carry.toNat_le
  obtain ⟨ha, hflags⟩ := ensures_subA8 p.y hborrow () t hsub
  obtain ⟨hresult, hcarry⟩ := ensures_opcodeDaa () m' hdaa
  rw [hs, toNat_bit_eq] at ha hflags
  rw [(a_congr hu).1, (a_congr hu).2, ha, hflags] at hresult hcarry
  rw [hz] at hresult
  obtain ⟨hdigits, hvalue⟩ := Flags.adjusted_ofDifference hx hy carry.toNat_le hresult
  rw [← hcarry] at hvalue
  exact ⟨hdigits, hvalue⟩

/-- ADD and ADC on one byte. -/
theorem DecimalByte.adds (hx : IsBcd p.x) (hy : IsBcd p.y) :
    (DecimalByte .opcodeAddR8Imm8Hladdr p m m' →
      IsBcd p.z ∧ Adds 100 bcd false p m'.cpu.flags.c) ∧
    (DecimalByte .opcodeAdc p m m' →
      IsBcd p.z ∧ Adds 100 bcd m.cpu.flags.c p m'.cpu.flags.c) := by
  constructor
  · intro h
    obtain ⟨s, t, u, hs, hadd, hu, hdaa⟩ := h.computes (addA8 · 0) fun _ _ => rfl
    exact adds_of_addA8 ((a_congr hs).1.trans h.a) hx hy hadd hu hdaa h.result
  · intro h
    obtain ⟨s, t, u, hs, hadd, hu, hdaa⟩ :=
      h.computes (fun y => do addA8 y (← carry)) fun _ _ => rfl
    rw [← (a_congr hs).2]
    exact adds_of_addA8 ((a_congr hs).1.trans h.a) hx hy hadd hu hdaa h.result

/-- SUB and SBC on one byte. -/
theorem DecimalByte.subtracts (hx : IsBcd p.x) (hy : IsBcd p.y) :
    (DecimalByte .opcodeSub p m m' →
      IsBcd p.z ∧ Subtracts 100 bcd false p m'.cpu.flags.c) ∧
    (DecimalByte .opcodeSbc p m m' →
      IsBcd p.z ∧ Subtracts 100 bcd m.cpu.flags.c p m'.cpu.flags.c) := by
  constructor
  · intro h
    obtain ⟨s, t, u, hs, hsub, hu, hdaa⟩ := h.computes (subA8 · 0) fun _ _ => rfl
    exact subtracts_of_subA8 ((a_congr hs).1.trans h.a) hx hy hsub hu hdaa h.result
  · intro h
    obtain ⟨s, t, u, hs, hsub, hu, hdaa⟩ :=
      h.computes (fun y => do subA8 y (← carry)) fun _ _ => rfl
    rw [← (a_congr hs).2]
    exact subtracts_of_subA8 ((a_congr hs).1.trans h.a) hx hy hsub hu hdaa h.result

end

/-! ### Numbers of any length -/

/-- The bytes of two numbers are processed one after the other, the first by `fn` and the others by
`next`. What comes between two bytes keeps the carry flag. -/
def Processes (fn next : OpcodeFn) : List (Place UInt8) → Machine → Machine → Prop
  | [], m, m' => m' = m
  | p :: places, m, m'' => ∃ t t', DecimalByte fn p m t ∧ t'.cpu.flags.c = t.cpu.flags.c ∧
      Processes next next places t' m''

/-- The instruction of a handler that takes its operand from B. -/
structure OnB (fn : OpcodeFn) (opcode : UInt8) : Prop where
  exec : (getInstruction opcode).exec = fn
  src : ∀ m, clockConsumeSrcR8Imm8Hladdr (getInstruction opcode).src opcode m = .ok (m.cpu.b, m)
  call : ∀ m, Succeeds (fn.call (getInstruction opcode) opcode m)

theorem onB_add : OnB .opcodeAddR8Imm8Hladdr 0x80 := ⟨by decide, fun _ => rfl, fun _ => ⟨_, rfl⟩⟩

theorem onB_adc : OnB .opcodeAdc 0x88 := ⟨by decide, fun _ => rfl, fun _ => ⟨_, rfl⟩⟩

/-- Two bytes in A and B are processed. -/
theorem exists_decimalByte {fn : OpcodeFn} {opcode : UInt8} (h : OnB fn opcode) (c : Cpu)
    (soc : Soc) (x y : UInt8) :
    ∃ z m', DecimalByte fn ⟨x, y, z⟩ ⟨(c.setA x).setB y, soc⟩ m' := by
  obtain ⟨⟨u, t⟩, ht⟩ := h.call ⟨(c.setA x).setB y, soc⟩
  obtain ⟨⟨u', m'⟩, hm'⟩ : Succeeds (opcodeDaa t) := ⟨_, rfl⟩
  have hb : ((c.setA x).setB y).b = y := getHigh_setHigh _ _
  have hsrc := h.src ⟨(c.setA x).setB y, soc⟩
  rw [show (Machine.mk ((c.setA x).setB y) soc).cpu.b = y from hb] at hsrc
  exact ⟨m'.cpu.a, m', Cpu.a_setA, ⟨opcode, _, t, t, h.exec, hsrc, ht, rfl, hm'⟩, rfl⟩

/-- Numbers of any length can be processed. -/
theorem exists_processes {fn next : OpcodeFn} {opcode opcode' : UInt8} (h : OnB fn opcode)
    (h' : OnB next opcode') (operands : List (UInt8 × UInt8)) (c : Cpu) (soc : Soc) :
    ∃ places m m', places.map (fun p : Place UInt8 => (p.x, p.y)) = operands ∧
      m.cpu.flags.c = c.flags.c ∧ Processes fn next places m m' := by
  induction operands generalizing fn opcode c soc with
  | nil => exact ⟨[], ⟨c, soc⟩, _, rfl, rfl, rfl⟩
  | cons operand operands ih =>
    obtain ⟨z, t, hbyte⟩ := exists_decimalByte h c soc operand.1 operand.2
    obtain ⟨places, t', m', hplaces, hcarry, hrest⟩ := ih h' t.cpu t.soc
    refine ⟨⟨operand.1, operand.2, z⟩ :: places, _, m', ?_, ?_, t, t', hbyte, hcarry, hrest⟩
    · rw [List.map_cons, hplaces]
    · exact congrArg Flags.c ((Cpu.flags_set (r := .b)).trans Cpu.flags_setA)

/-- The bytes after the first ripple the carry. -/
theorem Processes.ripples {D : Bool → Place UInt8 → Bool → Prop} {next : OpcodeFn}
    (hD : ∀ p m m', IsBcd p.x → IsBcd p.y → DecimalByte next p m m' →
      IsBcd p.z ∧ D m.cpu.flags.c p m'.cpu.flags.c) :
    ∀ {places : List (Place UInt8)} {m m' : Machine}, (∀ p ∈ places, IsBcd p.x ∧ IsBcd p.y) →
      Processes next next places m m' →
      (∀ p ∈ places, IsBcd p.z) ∧ Ripples D m.cpu.flags.c places m'.cpu.flags.c := by
  intro places
  induction places with
  | nil =>
    rintro m m' _ rfl
    exact ⟨nofun, rfl⟩
  | cons p places ih =>
    rintro m m' hbcd ⟨t, t', hbyte, hcarry, hrest⟩
    rw [List.forall_mem_cons] at hbcd ⊢
    obtain ⟨hz, hp⟩ := hD p m t hbcd.1.1 hbcd.1.2 hbyte
    obtain ⟨hzs, hrest⟩ := ih hbcd.2 hrest
    rw [hcarry] at hrest
    exact ⟨⟨hz, hzs⟩, _, hp, hrest⟩

/-- So do all bytes, when the first starts without a carry. -/
theorem Processes.ripples_first {D : Bool → Place UInt8 → Bool → Prop} {fn next : OpcodeFn}
    (hfirst : ∀ p m m', IsBcd p.x → IsBcd p.y → DecimalByte fn p m m' →
      IsBcd p.z ∧ D false p m'.cpu.flags.c)
    (hD : ∀ p m m', IsBcd p.x → IsBcd p.y → DecimalByte next p m m' →
      IsBcd p.z ∧ D m.cpu.flags.c p m'.cpu.flags.c)
    {places : List (Place UInt8)} (hne : places ≠ [])
    (hbcd : ∀ p ∈ places, IsBcd p.x ∧ IsBcd p.y) (h : Processes fn next places m m') :
    (∀ p ∈ places, IsBcd p.z) ∧ Ripples D false places m'.cpu.flags.c := by
  cases places with
  | nil => exact absurd rfl hne
  | cons p places =>
    obtain ⟨t, t', hbyte, hcarry, hrest⟩ := h
    rw [List.forall_mem_cons] at hbcd ⊢
    obtain ⟨hz, hp⟩ := hfirst p m t hbcd.1.1 hbcd.1.2 hbyte
    obtain ⟨hzs, hrest⟩ := Processes.ripples hD hbcd.2 hrest
    rw [hcarry] at hrest
    exact ⟨⟨hz, hzs⟩, _, hp, hrest⟩

/-- **Decimal arithmetic.** ADD, then ADC, or SUB, then SBC, each followed by DAA, leave in A the
bytes of the sum or the difference of two packed decimal numbers, modulo a power of 100, and in the
carry flag whether it was exceeded. -/
theorem multibyte_decimal {places : List (Place UInt8)} (hne : places ≠ [])
    (hbcd : ∀ p ∈ places, IsBcd p.x ∧ IsBcd p.y) :
    (∀ m m', Processes .opcodeAddR8Imm8Hladdr .opcodeAdc places m m' →
      (∀ p ∈ places, IsBcd p.z) ∧
      number 100 bcd Place.z places =
        (number 100 bcd Place.x places + number 100 bcd Place.y places) % 100 ^ places.length ∧
      (m'.cpu.flags.c = true ↔
        100 ^ places.length ≤ number 100 bcd Place.x places + number 100 bcd Place.y places)) ∧
    ∀ m m', Processes .opcodeSub .opcodeSbc places m m' →
      (∀ p ∈ places, IsBcd p.z) ∧
      (number 100 bcd Place.z places : ℤ) =
        ((number 100 bcd Place.x places : ℤ) - number 100 bcd Place.y places) %
          (100 ^ places.length : ℕ) ∧
      (m'.cpu.flags.c = true ↔
        number 100 bcd Place.x places < number 100 bcd Place.y places) := by
  constructor
  · intro m m' h
    obtain ⟨hz, hsum⟩ := h.ripples_first (fun _ _ _ hx hy => (DecimalByte.adds hx hy).1)
      (fun _ _ _ hx hy => (DecimalByte.adds hx hy).2) hne hbcd
    exact ⟨hz, hsum.sum_mod (by decide) fun p hp => bcd_lt (hz p hp)⟩
  · intro m m' h
    obtain ⟨hz, hdiff⟩ := h.ripples_first (fun _ _ _ hx hy => (DecimalByte.subtracts hx hy).1)
      (fun _ _ _ hx hy => (DecimalByte.subtracts hx hy).2) hne hbcd
    exact ⟨hz, hdiff.difference_mod (by decide) (fun p hp => bcd_lt (hbcd p hp).1)
      fun p hp => bcd_lt (hz p hp)⟩

/-- 1299 and 3401. -/
theorem multibyte_decimal_4700 : ∃ places m m',
    places.map (fun p : Place UInt8 => (p.x, p.y)) = [(0x99, 0x01), (0x12, 0x34)] ∧
      Processes .opcodeAddR8Imm8Hladdr .opcodeAdc places m m' ∧
      number 100 bcd Place.z places = 4700 ∧ m'.cpu.flags.c = false := by
  obtain ⟨m, -⟩ := exists_of_isOk
    (x := Gameboy.boot (programCartridge []) ⟨.none, none, none⟩) (by decide +kernel)
  obtain ⟨places, m, m', hplaces, -, hrun⟩ :=
    exists_processes onB_add onB_adc [(0x99, 0x01), (0x12, 0x34)] m.cpu m.soc
  have hlen : places.length = 2 := by simpa using congrArg List.length hplaces
  have hx : number 100 bcd Place.x places = 1299 := by
    have h := congrArg (fun l => Nat.ofDigits 100 (l.map fun q => bcd q.1)) hplaces
    rw [List.map_map] at h
    exact h
  have hy : number 100 bcd Place.y places = 3401 := by
    have h := congrArg (fun l => Nat.ofDigits 100 (l.map fun q => bcd q.2)) hplaces
    rw [List.map_map] at h
    exact h
  have hbcd : ∀ p ∈ places, IsBcd p.x ∧ IsBcd p.y := by
    have h : ∀ q ∈ places.map (fun p : Place UInt8 => (p.x, p.y)), IsBcd q.1 ∧ IsBcd q.2 := by
      rw [hplaces]
      simp [IsBcd]
    simpa using h
  have hne : places ≠ [] := by
    rintro rfl
    cases hlen
  obtain ⟨-, hz, hcarry⟩ := (multibyte_decimal hne hbcd).1 m m' hrun
  rw [hlen, hx, hy] at hz hcarry
  refine ⟨places, m, m', hplaces, hrun, hz, ?_⟩
  rw [← Bool.not_eq_true, hcarry]
  decide

end Exec

end ZenithGb
