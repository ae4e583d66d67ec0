import Mathlib.Algebra.Group.Nat.Defs
import ZenithGb.Lib.Outcome

/-!
# Panics and checked arithmetic

The model is the build with overflow checks and debug assertions, so every place where that
build can panic is an explicit failure. A `Panic` records what went wrong and where in the source;
theorems that speak of one particular panic name it, and theorems that a function never panics
exclude all of them.

Integers that the source only uses as counters, lengths or indices are natural numbers here, and
the arithmetic on them goes through `checkedAdd`, `checkedSub` and `checkedMul`, which panic
where the source's type would overflow. Bytes and registers are `UInt8` and `UInt16`, whose
operations wrap like the source's `wrapping_*` functions and bit operations.
-/

namespace ZenithGb

/-- The places of the source that can panic: its functions, and apart from the functions they are in
the places that a program can make panic. -/
inductive Site
  | headerNew | ramBanks | romBanks | readSave
  | romOnlyLoad | romOnlyRead
  | mbc1RamAddress | mbc1Load | mbc1Read | mbc1Write
  | mbc2Load | mbc2Read | mbc2Write
  | mbc3Rtc | mbc3Load | mbc3Read | mbc3Write | mbc3Clock
  | mbc5Load | mbc5Read | mbc5Write
  | ppuClock | ppuUpdateMode | ppuOamScan | ppuFetch | ppuDraw | ppuMode3 | ppuBus
  | apuChannel | apuLength | apuSweep | apuEnvelope | apuFrameSequencer | apuSample | apuWaveRam
  | printerSend | printerPrint | serialClock
  | dmaRead | clockDma | hdmaSrc | hdmaDst | clockHdma | clockRead | clockWrite | socClock
  | cpuInit | readR8 | writeR8 | readR16 | writeR16 | opcode | handleInterrupt | cpuStep | cpuHalted
  /-- The handlers of the opcodes that are not instructions. -/
  | illegalOpcode
  /-- The address of the second byte in `opcode_ld_imm16addr_r16`. -/
  | storeSp
  /-- The row of the window's tile map in `draw_window`. -/
  | windowRow
  /-- `dma_read!`, used by `clock_hdma`. -/
  | hdmaRead
  deriving DecidableEq, Repr

/-- A panic: what happened, and where. -/
inductive Panic
  /-- Checked integer arithmetic left the range of its type. -/
  | overflow (site : Site)
  /-- An index or a slice was out of range. -/
  | index (site : Site)
  /-- A remainder by zero. -/
  | remByZero (site : Site)
  /-- An `unreachable!` or `panic!` was executed. -/
  | unreachable (site : Site)
  /-- An `assert!` or `debug_assert!` failed. -/
  | assert (site : Site)
  /-- A loop used up the iterations the model allows it. -/
  | diverges (site : Site)
  deriving DecidableEq, Repr

/-- Where a panic happened. -/
def Panic.site : Panic → Site
  | .overflow s | .index s | .remByZero s | .unreachable s | .assert s | .diverges s => s

/-- Computations of the emulator: they return, or they panic. -/
abbrev Checked := Except Panic

/-! ### Checked arithmetic -/

/-- `a + b` in an unsigned type of `w` bits. -/
def checkedAdd (w : ℕ) (site : Site) (a b : ℕ) : Checked ℕ :=
  if a + b < 2 ^ w then .ok (a + b) else .error (.overflow site)

/-- `a - b` in an unsigned type. -/
def checkedSub (site : Site) (a b : ℕ) : Checked ℕ :=
  if b ≤ a then .ok (a - b) else .error (.overflow site)

/-- `a * b` in an unsigned type of `w` bits. -/
def checkedMul (w : ℕ) (site : Site) (a b : ℕ) : Checked ℕ :=
  if a * b < 2 ^ w then .ok (a * b) else .error (.overflow site)

/-- `a + b` on bytes. -/
def checkedAddU8 (site : Site) (a b : UInt8) : Checked UInt8 :=
  if a.toNat + b.toNat < 256 then .ok (a + b) else .error (.overflow site)

/-- `a - b` on bytes. -/
def checkedSubU8 (site : Site) (a b : UInt8) : Checked UInt8 :=
  if b ≤ a then .ok (a - b) else .error (.overflow site)

/-- `a * b` on bytes. -/
def checkedMulU8 (site : Site) (a b : UInt8) : Checked UInt8 :=
  if a.toNat * b.toNat < 256 then .ok (a * b) else .error (.overflow site)

/-- `a >> n` in an unsigned type of `w` bits: shifting by the width or more overflows. -/
def checkedShr (w : ℕ) (site : Site) (a n : ℕ) : Checked ℕ :=
  if n < w then .ok (a >>> n) else .error (.overflow site)

/-- `a >> n` on bytes: shifting by the width or more overflows. -/
def checkedShrU8 (site : Site) (a : UInt8) (n : ℕ) : Checked UInt8 :=
  if n < 8 then .ok (a >>> UInt8.ofNat n) else .error (.overflow site)

/-- `a + b` on words. -/
def checkedAddU16 (site : Site) (a b : UInt16) : Checked UInt16 :=
  if a.toNat + b.toNat < 0x10000 then .ok (a + b) else .error (.overflow site)

/-- `a - b` on words. -/
def checkedSubU16 (site : Site) (a b : UInt16) : Checked UInt16 :=
  if b ≤ a then .ok (a - b) else .error (.overflow site)

/-- `a % b`, panicking on zero. -/
def checkedRem (site : Site) (a b : ℕ) : Checked ℕ :=
  if b = 0 then .error (.remByZero site) else .ok (a % b)

/-- `assert!` and `debug_assert!`. -/
def assert (site : Site) (c : Prop) [Decidable c] : Checked Unit :=
  if c then .ok () else .error (.assert site)

section

variable {w a b : ℕ} (site : Site)

theorem checkedAdd_of_lt (h : a + b < 2 ^ w) : checkedAdd w site a b = .ok (a + b) := if_pos h

theorem checkedSub_of_le (h : b ≤ a) : checkedSub site a b = .ok (a - b) := if_pos h

theorem checkedMul_of_lt (h : a * b < 2 ^ w) : checkedMul w site a b = .ok (a * b) := if_pos h

theorem checkedRem_of_pos (h : 0 < b) : checkedRem site a b = .ok (a % b) :=
  if_neg (Nat.pos_iff_ne_zero.mp h)

theorem checkedShr_of_lt (h : b < w) : checkedShr w site a b = .ok (a >>> b) := if_pos h

theorem checkedShrU8_of_lt {a : UInt8} {n : ℕ} (h : n < 8) :
    checkedShrU8 site a n = .ok (a >>> UInt8.ofNat n) := if_pos h

theorem assert_of {c : Prop} [Decidable c] (h : c) : assert site c = .ok () := if_pos h

theorem meets_assert {c : Prop} [Decidable c] (h : c) (E : Panic → Prop) :
    Outcome.Meets (assert site c) (fun _ => True) E := by
  rw [assert_of site h]
  trivial

variable {site}

/-- Checked arithmetic fails with the overflow of its site, if at all. -/
theorem meets_checkedAdd_error {E : Panic → Prop} (h : E (.overflow site)) :
    Outcome.Meets (checkedAdd w site a b) (fun _ => True) E := by
  rw [checkedAdd]
  split
  · trivial
  · exact h

theorem meets_checkedMul_error {E : Panic → Prop} (h : E (.overflow site)) :
    Outcome.Meets (checkedMul w site a b) (fun _ => True) E := by
  rw [checkedMul]
  split
  · trivial
  · exact h

theorem checkedAdd_eq_ok {r : ℕ} :
    checkedAdd w site a b = .ok r ↔ a + b < 2 ^ w ∧ a + b = r := by
  rw [checkedAdd]
  split <;> rename_i h <;> simp only [h, true_and, false_and, reduceCtorEq, Except.ok.injEq]

theorem checkedSub_eq_ok {r : ℕ} : checkedSub site a b = .ok r ↔ b ≤ a ∧ a - b = r := by
  rw [checkedSub]
  split <;> rename_i h <;> simp only [h, true_and, false_and, reduceCtorEq, Except.ok.injEq]

theorem checkedSubU16_eq_ok {a b r : UInt16} :
    checkedSubU16 site a b = .ok r ↔ b ≤ a ∧ a - b = r := by
  rw [checkedSubU16]
  split <;> rename_i h <;> simp only [h, true_and, false_and, reduceCtorEq, Except.ok.injEq]

theorem checkedMul_eq_ok {r : ℕ} :
    checkedMul w site a b = .ok r ↔ a * b < 2 ^ w ∧ a * b = r := by
  rw [checkedMul]
  split <;> rename_i h <;> simp only [h, true_and, false_and, reduceCtorEq, Except.ok.injEq]

end

end ZenithGb
