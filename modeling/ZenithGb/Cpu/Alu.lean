import Mathlib.Data.Nat.Bitwise
import ZenithGb.Cpu.Effect

/-!
# The CPU: the flags of computations

The source finds carries and borrows with masks and wider integers, and reuses its rotations for the
shifts, patching the flags afterwards. Each computation comes down to the arithmetic that the
instruction tables stand for. What depends on one byte and a flag is checked on all of them; sums
and differences of two bytes, and of words, are reasoned about.

## Main results

* `Exec.computes_rlc`, `Exec.computes_sla`, … — rotations and shifts
* `Exec.computes_addA8`, `Exec.computes_subA8` — 8-bit arithmetic
* `Exec.computes_addSpE8` — the carries of SP plus a signed byte
* `Exec.sets_opcodeDaa` — decimal adjustment
* `Exec.TellsZero`, `Exec.TellsZeroA` — Z is about the byte that is written back
-/

namespace ZenithGb

open Outcome

/-! ### Bits -/

theorem toNat_and_0xF (x : UInt8) : (x &&& (0xF : UInt8)).toNat = x.toNat % 0x10 :=
  toNat_and_low (b := 4) rfl x

theorem beq_zero (x : UInt8) : (x == 0) = decide (x.toNat = 0) := by
  rw [beq_eq_decide, decide_eq_decide, ← UInt8.toNat_inj]
  rfl

theorem toNat_and_0xFFF (x : UInt16) : (x &&& (0xFFF : UInt16)).toNat = x.toNat % 0x1000 :=
  (UInt16.toNat_and x 0xFFF).trans (Nat.and_two_pow_sub_one_eq_mod x.toNat 12)

theorem and_beq_eq_testBit {x mask : UInt16} {i : ℕ} (hmask : mask.toNat = 2 ^ i) :
    (x &&& mask == mask) = x.toNat.testBit i := by
  rw [Bool.eq_iff_iff, beq_iff_eq, ← UInt16.toNat_inj, UInt16.toNat_and, hmask, Nat.and_two_pow]
  cases x.toNat.testBit i <;> simp [(Nat.two_pow_pos i).ne]

/-- The bits of a sum differ from those of its operands where there is a carry into them. -/
theorem testBit_carries (x y : UInt16) {i : ℕ} (hi : i < 16) :
    (x ^^^ y ^^^ (x + y)).toNat.testBit i =
      decide (2 ^ i ≤ x.toNat % 2 ^ i + y.toNat % 2 ^ i) := by
  have hsum := BitVec.getLsbD_add hi x.toBitVec y.toBitVec
  have hxor : (x ^^^ y ^^^ (x + y)).toNat.testBit i =
      (x.toBitVec.getLsbD i ^^ y.toBitVec.getLsbD i ^^ (x.toBitVec + y.toBitVec).getLsbD i) := by
    show (x ^^^ y ^^^ (x + y)).toBitVec.getLsbD i = _
    rw [UInt16.toBitVec_xor, UInt16.toBitVec_xor, UInt16.toBitVec_add, BitVec.getLsbD_xor,
      BitVec.getLsbD_xor]
  rw [hxor, hsum]
  have hcancel : ∀ a b c : Bool, (a ^^ b ^^ (a ^^ (b ^^ c))) = c := by decide
  exact hcancel _ _ _

theorem toNat_dstReg_lt (opcode : UInt8) : (Exec.dstReg opcode).toNat < 8 := by
  rw [Exec.dstReg, UInt8.toNat_and]
  exact Nat.and_lt_two_pow _ (n := 3) (by decide)

theorem toNat_signExtend_mod : ∀ e : UInt8, (signExtend e).toNat % 0x100 = e.toNat :=
  forall_uint8 (by decide +kernel)

namespace Flags

/-! ### Sums and differences of bytes -/

theorem ofSum_eq (x y carry : UInt8) :
    ofSum x.toNat y.toNat carry.toNat = ⟨x + y + carry == 0, false,
      (x &&& (0xF : UInt8)).toNat + (y &&& (0xF : UInt8)).toNat + carry.toNat > 0xF,
      x.toNat + y.toNat + carry.toNat > 0xFF⟩ := by
  have hz : ((x + y + carry).toNat = 0) ↔ (x.toNat + y.toNat + carry.toNat) % 0x100 = 0 := by
    rw [UInt8.toNat_add, UInt8.toNat_add, Nat.mod_add_mod]
  rw [beq_zero, toNat_and_0xF, toNat_and_0xF, decide_eq_decide.mpr hz]
  rfl

theorem ofDifference_eq (x y : UInt8) {borrow : UInt8} (hborrow : borrow.toNat ≤ 1) :
    ofDifference x.toNat y.toNat borrow.toNat = ⟨x - y - borrow == 0, true,
      ((x &&& (0xF : UInt8)).toNat : ℤ) - (y &&& (0xF : UInt8)).toNat - borrow.toNat < 0,
      (x.toNat : ℤ) - y.toNat - borrow.toNat < 0⟩ := by
  have hx := x.toNat_lt
  have hy := y.toNat_lt
  have hz : (x - y - borrow).toNat = 0 ↔
      (x.toNat + 0x200 - (y.toNat + borrow.toNat)) % 0x100 = 0 := by
    rw [UInt8.toNat_sub, UInt8.toNat_sub]
    omega
  have hh : ((x.toNat % 0x10 : ℕ) : ℤ) - (y.toNat % 0x10 : ℕ) - borrow.toNat < 0 ↔
      x.toNat % 0x10 < y.toNat % 0x10 + borrow.toNat := by omega
  have hc : (x.toNat : ℤ) - y.toNat - borrow.toNat < 0 ↔
      x.toNat < y.toNat + borrow.toNat := by omega
  rw [beq_zero, toNat_and_0xF, toNat_and_0xF, decide_eq_decide.mpr hz, decide_eq_decide.mpr hh,
    decide_eq_decide.mpr hc]
  rfl

/-- The Z flag of a bit. -/
theorem beq_zero_ofResult (x : UInt8) {k : UInt8} (hk : k.toNat < 8) :
    ((x >>> k) &&& (1 : UInt8) == 0) = (ofResult (x.toNat / 2 ^ k.toNat % 2) false).z := by
  rw [beq_zero, toNat_shiftRight_and_one x hk, ofResult,
    Nat.mod_eq_of_lt (show x.toNat / 2 ^ k.toNat % 2 < 0x100 by omega)]

end Flags

namespace Exec

variable {m : Machine} {rs : List Reg} {cols : FlagColumns} {computed : Cpu → UInt8 → Flags}
  {α : Type}

/-- The computation changes the flags as the columns say, and no registers but those of `rs`. -/
def Computes (rs : List Reg) (cols : FlagColumns) (computed : Cpu → UInt8 → Flags)
    (compute : UInt8 → Exec α) : Prop :=
  ∀ m x, Ensures (compute x) m fun _ m' =>
    Sets (cols.apply m.cpu.flags (computed m.cpu x)) rs m.cpu m'.cpu

theorem computes_pure {f : UInt8 → α} : Computes rs .same computed (fun x => pure (f x)) := by
  intro m x
  simp [sets_iff]

/-- The flags of an increment and a decrement. -/
theorem step_flags : ∀ x : UInt8,
    ((x + 1 == 0) = (Flags.ofSum x.toNat 1 0).z ∧
      ((x + 1) &&& 0xF == 0) = (Flags.ofSum x.toNat 1 0).h) ∧
    (x - 1 == 0) = (Flags.ofDifference x.toNat 1 0).z ∧
      ((x - 1) &&& 0x0F == 0x0F) = (Flags.ofDifference x.toNat 1 0).h :=
  forall_uint8 (by decide +kernel)

theorem computes_inc8 : Computes [] .fz0h_ (fun _ x => .ofSum x.toNat 1 0) inc8 := by
  intro m x
  obtain ⟨⟨hz, hh⟩, -⟩ := step_flags x
  simp only [inc8, setFlag, ensures_bind, ensures_modifyCpu, ensures_pure, hz, hh]
  refine ⟨?_, by simp⟩
  rw [Cpu.flags_setFlagH, Cpu.flags_setFlagN, Cpu.flags_setFlagZ]
  rfl

theorem computes_dec8 : Computes [] .fz1h_ (fun _ x => .ofDifference x.toNat 1 0) dec8 := by
  intro m x
  obtain ⟨-, hz, hh⟩ := step_flags x
  simp only [dec8, setFlag, ensures_bind, ensures_modifyCpu, ensures_pure, hz, hh]
  refine ⟨?_, by simp⟩
  rw [Cpu.flags_setFlagH, Cpu.flags_setFlagN, Cpu.flags_setFlagZ]
  rfl

/-! ### Rotations and shifts -/

/-- The flags of the rotations, to the left, to the right, and both again through the carry flag. -/
theorem rotation_flags : ∀ (x : UInt8) (b : Bool),
    Flags.mk ((x <<< 1 ||| (x &&& 0x80) >>> 7) == 0) false false (x &&& 0x80 == 0x80) =
      .ofResult (2 * x.toNat + x.toNat / 0x80) (0x80 ≤ x.toNat) ∧
    Flags.mk ((x >>> 1 ||| (x &&& 1) <<< 7) == 0) false false (x &&& 1 == 1) =
      .ofResult (x.toNat / 2 + 0x80 * (x.toNat % 2)) (x.toNat % 2 = 1) ∧
    Flags.mk ((x <<< 1 ||| bit b) == 0) false false (x &&& 0x80 == 0x80) =
      .ofResult (2 * x.toNat + if b then 1 else 0) (0x80 ≤ x.toNat) ∧
    Flags.mk ((bit b <<< 7 ||| x >>> 1) == 0) false false (x &&& 1 == 1) =
      .ofResult (x.toNat / 2 + 0x80 * if b then 1 else 0) (x.toNat % 2 = 1) :=
  forall_uint8 (by decide +kernel)

theorem computes_rlc : Computes [] .fz00c
    (fun _ x => .ofResult (2 * x.toNat + x.toNat / 0x80) (0x80 ≤ x.toNat)) rlc := by
  intro m x
  simp only [rlc, setFlags, ensures_bind, ensures_modifyCpu, ensures_pure]
  exact ⟨Cpu.flags_setFlags.trans (rotation_flags x false).1, by simp⟩

theorem computes_rrc : Computes [] .fz00c
    (fun _ x => .ofResult (x.toNat / 2 + 0x80 * (x.toNat % 2)) (x.toNat % 2 = 1)) rrc := by
  intro m x
  simp only [rrc, setFlags, ensures_bind, ensures_modifyCpu, ensures_pure]
  exact ⟨Cpu.flags_setFlags.trans (rotation_flags x false).2.1, by simp⟩

theorem computes_rl : Computes [] .fz00c
    (fun c x => .ofResult (2 * x.toNat + c.flags.carry) (0x80 ≤ x.toNat)) rl := by
  intro m x
  simp only [rl, setFlags, ensures_bind, ensures_cpu, ensures_modifyCpu, ensures_pure]
  exact ⟨Cpu.flags_setFlags.trans (rotation_flags x _).2.2.1, by simp⟩

theorem computes_rr : Computes [] .fz00c
    (fun c x => .ofResult (x.toNat / 2 + 0x80 * c.flags.carry) (x.toNat % 2 = 1)) rr := by
  intro m x
  simp only [rr, setFlags, ensures_bind, ensures_cpu, ensures_modifyCpu, ensures_pure]
  exact ⟨Cpu.flags_setFlags.trans (rotation_flags x _).2.2.2, by simp⟩

/-- The flags of the shifts, and of SWAP. A shift sets those of a rotation, and then Z again for the
bits it keeps. -/
theorem shift_flags : ∀ x : UInt8,
    Flags.mk (((x <<< 1 ||| (x &&& 0x80) >>> 7) &&& 0xFE) == 0) false false (x &&& 0x80 == 0x80) =
      .ofResult (2 * x.toNat) (0x80 ≤ x.toNat) ∧
    Flags.mk ((((x >>> 1 ||| (x &&& 1) <<< 7) &&& 0x7F) ||| (x &&& 0x80)) == 0) false false
        (x &&& 1 == 1) =
      .ofResult (x.toNat / 2 + x.toNat / 0x80 * 0x80) (x.toNat % 2 = 1) ∧
    Flags.mk (((x >>> 1 ||| (x &&& 1) <<< 7) &&& 0x7F) == 0) false false (x &&& 1 == 1) =
      .ofResult (x.toNat / 2) (x.toNat % 2 = 1) ∧
    Flags.mk ((x >>> 4 ||| (x &&& 0xF) <<< 4) == 0) false false false =
      .ofResult (x.toNat % 0x10 * 0x10 + x.toNat / 0x10) false :=
  forall_uint8 (by decide +kernel)

theorem computes_sla : Computes [] .fz00c
    (fun _ x => .ofResult (2 * x.toNat) (0x80 ≤ x.toNat)) sla := by
  intro m x
  simp only [sla, rlc, setFlag, setFlags, ensures_bind, ensures_modifyCpu, ensures_pure]
  refine ⟨?_, by simp⟩
  rw [Cpu.flags_setFlagZ, Cpu.flags_setFlags]
  exact (shift_flags x).1

theorem computes_sra : Computes [] .fz00c
    (fun _ x => .ofResult (x.toNat / 2 + x.toNat / 0x80 * 0x80) (x.toNat % 2 = 1)) sra := by
  intro m x
  simp only [sra, rrc, setFlag, setFlags, ensures_bind, ensures_modifyCpu, ensures_pure]
  refine ⟨?_, by simp⟩
  rw [Cpu.flags_setFlagZ, Cpu.flags_setFlags]
  exact (shift_flags x).2.1

theorem computes_srl : Computes [] .fz00c
    (fun _ x => .ofResult (x.toNat / 2) (x.toNat % 2 = 1)) srl := by
  intro m x
  simp only [srl, rrc, setFlag, setFlags, ensures_bind, ensures_modifyCpu, ensures_pure]
  refine ⟨?_, by simp⟩
  rw [Cpu.flags_setFlagZ, Cpu.flags_setFlags]
  exact (shift_flags x).2.2.1

theorem computes_swap : Computes [] .fz000
    (fun _ x => .ofResult (x.toNat % 0x10 * 0x10 + x.toNat / 0x10) false) swap := by
  intro m x
  simp only [swap, setFlags, ensures_bind, ensures_modifyCpu, ensures_pure]
  exact ⟨Cpu.flags_setFlags.trans (shift_flags x).2.2.2, by simp⟩

/-! ### Arithmetic on A -/

theorem computes_addA8 (carry : UInt8) : Computes [.r8 .a] .fz0hc
    (fun c x => .ofSum c.a.toNat x.toNat carry.toNat) (addA8 · carry) := by
  intro m x
  simp only [addA8, setFlags, ensures_bind, ensures_cpu, ensures_modifyCpu]
  refine ⟨?_, by simp⟩
  rw [Cpu.flags_setA, Cpu.flags_setFlags, Flags.ofSum_eq]
  rfl

theorem computes_subA8 (borrow : UInt8) (hborrow : borrow.toNat ≤ 1) : Computes [.r8 .a] .fz1hc
    (fun c x => .ofDifference c.a.toNat x.toNat borrow.toNat) (subA8 · borrow) := by
  intro m x
  simp only [subA8, setFlags, ensures_bind, ensures_cpu, ensures_modifyCpu]
  refine ⟨?_, by simp⟩
  rw [Cpu.flags_setA, Cpu.flags_setFlags, Flags.ofDifference_eq _ _ hborrow]
  rfl

theorem computes_adc : Computes [.r8 .a] .fz0hc
    (fun c x => .ofSum c.a.toNat x.toNat c.flags.carry) (fun x => do addA8 x (← carry)) := by
  intro m x
  have h := computes_addA8 (bit m.cpu.flags.c) m x
  rw [toNat_bit] at h
  simp only [carry, ensures_bind, ensures_cpu, ensures_pure]
  exact h

theorem computes_sbc : Computes [.r8 .a] .fz1hc
    (fun c x => .ofDifference c.a.toNat x.toNat c.flags.carry) (fun x => do subA8 x (← carry)) := by
  intro m x
  have hborrow : (bit m.cpu.flags.c).toNat ≤ 1 := by
    rw [toNat_bit]
    split <;> omega
  have h := computes_subA8 _ hborrow m x
  rw [toNat_bit] at h
  simp only [carry, ensures_bind, ensures_cpu, ensures_pure]
  exact h

theorem computes_logicA8 (op : UInt8 → UInt8 → UInt8) (hOut : Bool) : Computes [.r8 .a]
    ⟨.computed, .zero, if hOut then .one else .zero, .zero⟩
    (fun c x => .ofResult (op c.a x).toNat false) (logicA8 op hOut) := by
  intro m x
  have hz : ((op m.cpu.a x) == 0) = decide ((op m.cpu.a x).toNat % 0x100 = 0) := by
    rw [beq_zero, Nat.mod_eq_of_lt (UInt8.toNat_lt _)]
  simp only [logicA8, setFlags, ensures_bind, ensures_cpu, ensures_modifyCpu, hz]
  refine ⟨?_, by simp⟩
  rw [Cpu.flags_setA, Cpu.flags_setFlags]
  cases hOut <;> rfl

theorem computes_andA8 : Computes [.r8 .a] .fz010
    (fun c x => .ofResult (c.a.toNat &&& x.toNat) false) andA8 :=
  computes_logicA8 (· &&& ·) true

theorem computes_xorA8 : Computes [.r8 .a] .fz000
    (fun c x => .ofResult (c.a.toNat ^^^ x.toNat) false) xorA8 :=
  computes_logicA8 (· ^^^ ·) false

theorem computes_orA8 : Computes [.r8 .a] .fz000
    (fun c x => .ofResult (c.a.toNat ||| x.toNat) false) orA8 :=
  computes_logicA8 (· ||| ·) false

/-- A is saved and written back, so comparing changes no register. -/
theorem computes_cpA8 : Computes [] .fz1hc
    (fun c x => .ofDifference c.a.toNat x.toNat 0) cpA8 := by
  intro m x
  simp only [cpA8, subA8, setFlags, ensures_bind, ensures_cpu, ensures_modifyCpu]
  rw [Cpu.setA_setA_of_a Cpu.a_setFlags]
  refine ⟨?_, by simp⟩
  rw [Cpu.flags_setFlags]
  exact (Flags.ofDifference_eq m.cpu.a x (by decide : (0 : UInt8).toNat ≤ 1)).symm

/-! ### Arithmetic on words -/

theorem computes_addSpE8 : Computes [] .f00hc
    (fun c x => .ofSum (c.regSp.toNat % 0x100) x.toNat 0) addSpE8 := by
  intro m x
  simp only [addSpE8, setFlags, ensures_bind, ensures_cpu, ensures_modifyCpu, ensures_pure]
  have he := toNat_signExtend_mod x
  have hh : (2 ^ 4 ≤ m.cpu.regSp.toNat % 2 ^ 4 + (signExtend x).toNat % 2 ^ 4) ↔
      0x10 ≤ m.cpu.regSp.toNat % 0x100 % 0x10 + x.toNat % 0x10 + 0 := by omega
  have hc : (2 ^ 8 ≤ m.cpu.regSp.toNat % 2 ^ 8 + (signExtend x).toNat % 2 ^ 8) ↔
      0x100 ≤ m.cpu.regSp.toNat % 0x100 + x.toNat + 0 := by omega
  refine ⟨?_, by simp⟩
  rw [Cpu.flags_setFlags, and_beq_eq_testBit (i := 4) rfl, and_beq_eq_testBit (i := 8) rfl,
    testBit_carries _ _ (by omega), testBit_carries _ _ (by omega), decide_eq_decide.mpr hh,
    decide_eq_decide.mpr hc]
  rfl

theorem sets_opcodeAddHlR16 (opcode : UInt8) : Ensures (opcodeAddHlR16 opcode) m fun _ m' =>
    Sets (FlagColumns.f_0hc.apply m.cpu.flags
      (.ofSum16 m.cpu.regHl.toNat ((Arg.ofR16 (reg16 opcode)).word m.cpu).toNat))
      [.r8 .h, .r8 .l] m.cpu m'.cpu := by
  rw [opcodeAddHlR16, ensures_bind]
  refine ensures_readR16 ?_
  simp only [setFlag, ensures_bind, ensures_cpu, ensures_modifyCpu, ensures_clock]
  intro soc _
  refine ⟨?_, by simp⟩
  generalize (Arg.ofR16 (reg16 opcode)).word m.cpu = src
  have hc : src.toNat + m.cpu.regHl.toNat > 0xFFFF ↔ 0x10000 ≤ m.cpu.regHl.toNat + src.toNat := by
    omega
  rw [toNat_and_0xFFF, toNat_and_0xFFF, decide_eq_decide.mpr hc, Cpu.flags_setHl,
    Cpu.flags_setFlagC, Cpu.flags_setFlagH, Cpu.flags_setFlagN]
  rfl

/-! ### Adjustments -/

theorem sets_opcodeDaa : Ensures opcodeDaa m fun _ m' =>
    Sets (FlagColumns.fz_0c.apply m.cpu.flags (.ofDaa m.cpu.flags m.cpu.a.toNat)) [.r8 .a]
      m.cpu m'.cpu := by
  have hbyte : ∀ (a : UInt8) (n h c : Bool),
      (let low : UInt8 := if (!n && a &&& 0xF > 0x9) || h then 0x6 else 0
      let carryNext := (!n && a > 0x99) || c
      let offset : UInt8 := low ||| (if carryNext then 0x60 else 0)
      ((if n then a - offset else a + offset) == 0, carryNext)) =
      ((Flags.ofDaa ⟨false, n, h, c⟩ a.toNat).z, (Flags.ofDaa ⟨false, n, h, c⟩ a.toNat).c) :=
    forall_uint8 (by decide +kernel)
  simp only [opcodeDaa, setFlag, ensures_bind, ensures_cpu, ensures_modifyCpu]
  have h := hbyte m.cpu.a m.cpu.flags.n m.cpu.flags.h m.cpu.flags.c
  refine ⟨?_, by simp⟩
  simp only [Cpu.flags_setFlagZ, Cpu.flags_setFlagH, Cpu.flags_setFlagC, Cpu.flags_setA]
  exact congrArg (fun p : Bool × Bool => Flags.mk p.1 m.cpu.flags.n false p.2) h

/-! ### The zero flag and the result -/

/-- Z says whether the result is zero. -/
def TellsZero (compute : UInt8 → Exec UInt8) : Prop :=
  ∀ m x, Ensures (compute x) m fun v m' => m'.cpu.flags.z = (v == 0)

theorem tellsZero_inc8 : TellsZero inc8 := by
  intro m x
  simp only [inc8, ensures_bind, ensures_setFlag, ensures_pure]
  rw [Cpu.flags_setFlagH, Cpu.flags_setFlagN, Cpu.flags_setFlagZ]

theorem tellsZero_dec8 : TellsZero dec8 := by
  intro m x
  simp only [dec8, ensures_bind, ensures_setFlag, ensures_pure]
  rw [Cpu.flags_setFlagH, Cpu.flags_setFlagN, Cpu.flags_setFlagZ]

theorem tellsZero_rlc : TellsZero rlc := by
  intro m x
  simp only [rlc, ensures_bind, ensures_setFlags, ensures_pure]
  rw [Cpu.flags_setFlags]

theorem tellsZero_rrc : TellsZero rrc := by
  intro m x
  simp only [rrc, ensures_bind, ensures_setFlags, ensures_pure]
  rw [Cpu.flags_setFlags]

theorem tellsZero_rl : TellsZero rl := by
  intro m x
  simp only [rl, ensures_bind, ensures_cpu, ensures_setFlags, ensures_pure]
  rw [Cpu.flags_setFlags]

theorem tellsZero_rr : TellsZero rr := by
  intro m x
  simp only [rr, ensures_bind, ensures_cpu, ensures_setFlags, ensures_pure]
  rw [Cpu.flags_setFlags]

/-- A shift sets Z again for the bits it keeps. -/
theorem tellsZero_shift (rotate : UInt8 → Exec UInt8) (keep : UInt8 → UInt8 → UInt8) :
    TellsZero fun x => do
      let newVal := keep x (← rotate x)
      setFlag flagZ (newVal == 0)
      return newVal := by
  intro m x
  rw [ensures_bind]
  intro v m' _
  simp only [ensures_bind, ensures_setFlag, ensures_pure]
  rw [Cpu.flags_setFlagZ]

theorem tellsZero_swap : TellsZero swap := by
  intro m x
  simp only [swap, ensures_bind, ensures_setFlags, ensures_pure]
  rw [Cpu.flags_setFlags]

/-- Z says whether A is zero. -/
def TellsZeroA (x : Exec α) : Prop :=
  ∀ m, Ensures x m fun _ m' => m'.cpu.flags.z = (m'.cpu.a == 0)

theorem tellsZeroA_addA8 (val carry : UInt8) : TellsZeroA (addA8 val carry) := by
  intro m
  simp only [addA8, ensures_bind, ensures_cpu, ensures_setFlags, ensures_modifyCpu]
  rw [Cpu.flags_setA, Cpu.flags_setFlags, Cpu.a_setA]

theorem tellsZeroA_subA8 (val carry : UInt8) : TellsZeroA (subA8 val carry) := by
  intro m
  simp only [subA8, ensures_bind, ensures_cpu, ensures_setFlags, ensures_modifyCpu]
  rw [Cpu.flags_setA, Cpu.flags_setFlags, Cpu.a_setA]

theorem tellsZeroA_logicA8 (op : UInt8 → UInt8 → UInt8) (h : Bool) (val : UInt8) :
    TellsZeroA (logicA8 op h val) := by
  intro m
  simp only [logicA8, ensures_bind, ensures_cpu, ensures_setFlags, ensures_modifyCpu]
  rw [Cpu.flags_setA, Cpu.flags_setFlags, Cpu.a_setA]

theorem tellsZeroA_bind {β : Type} {x : Exec β} {f : β → Exec α} (h : ∀ b, TellsZeroA (f b)) :
    TellsZeroA (x >>= f) := by
  intro m
  rw [ensures_bind]
  exact fun b m' _ => h b m'

theorem tellsZeroA_opcodeDaa : TellsZeroA opcodeDaa := by
  intro m
  simp only [opcodeDaa, ensures_bind, ensures_cpu, ensures_modifyCpu, ensures_setFlag]
  rw [Cpu.flags_setFlagZ, Cpu.a_setFlag, Cpu.a_setFlag, Cpu.a_setFlag, Cpu.a_setA]

/-! ### Complement and carry -/

theorem sets_opcodeCpl : Ensures opcodeCpl m fun _ m' =>
    Sets (FlagColumns.f_11_.apply m.cpu.flags m.cpu.flags) [.r8 .a] m.cpu m'.cpu := by
  simp only [opcodeCpl, setFlag, ensures_bind, ensures_modifyCpu]
  refine ⟨?_, by simp⟩
  rw [Cpu.flags_setFlagH, Cpu.flags_setFlagN, Cpu.flags_setA]
  rfl

theorem sets_opcodeScf : Ensures opcodeScf m fun _ m' =>
    Sets (FlagColumns.f_001.apply m.cpu.flags m.cpu.flags) [] m.cpu m'.cpu := by
  simp only [opcodeScf, setFlag, ensures_bind, ensures_modifyCpu]
  refine ⟨?_, by simp⟩
  rw [Cpu.flags_setFlagH, Cpu.flags_setFlagN, Cpu.flags_setFlagC]
  rfl

theorem sets_opcodeCcf : Ensures opcodeCcf m fun _ m' =>
    Sets (FlagColumns.f_00c.apply m.cpu.flags (.ofResult 0 !m.cpu.flags.c)) [] m.cpu m'.cpu := by
  simp only [opcodeCcf, setFlag, ensures_bind, ensures_cpu, ensures_modifyCpu]
  refine ⟨?_, by simp⟩
  rw [Cpu.flags_setFlagH, Cpu.flags_setFlagN, Cpu.flags_setFlagC]
  rfl

end Exec

end ZenithGb
