import Mathlib.Data.Nat.Bitwise

/-!
# Byte and word helpers

`util.rs`: splitting a 16-bit word into its bytes and joining two bytes, and the joypad nibble.
-/

namespace ZenithGb

/-- The high byte of a word. -/
def getHigh (v : UInt16) : UInt8 := (v >>> (8 : UInt16)).toUInt8

/-- The low byte of a word. -/
def getLow (v : UInt16) : UInt8 := (v &&& (0xFF : UInt16)).toUInt8

/-- Replace the high byte of a word. -/
def setHigh (dst : UInt16) (v : UInt8) : UInt16 :=
  (dst &&& (0x00FF : UInt16)) ||| (v.toUInt16 <<< (8 : UInt16))

/-- Replace the low byte of a word. -/
def setLow (dst : UInt16) (v : UInt8) : UInt16 := (dst &&& (0xFF00 : UInt16)) ||| v.toUInt16

/-- The word with the given bytes. -/
def value (high low : UInt8) : UInt16 := (high.toUInt16 <<< (8 : UInt16)) ||| low.toUInt16

/-- What holds of the 256 bytes holds of every byte. -/
theorem forall_uint8 {P : UInt8 → Prop} (h : ∀ n : Fin 256, P ⟨⟨n⟩⟩) (x : UInt8) : P x :=
  h x.toBitVec.toFin

/-- A check of the entries of a table of 256, each with its index. -/
def entriesPass {α : Type} (p : UInt8 → α → Bool) (entries : List α) : Bool :=
  (List.zipWith (fun n entry => p (.ofNat n) entry) (List.range 256) entries).all id

theorem pass_of_entriesPass {α : Type} {p : UInt8 → α → Bool} {entries : List α}
    (h : entriesPass p entries = true) (hlen : entries.length = 256) (x : UInt8) :
    p x (entries.get (x.toFin.cast hlen.symm)) = true := by
  refine List.all_eq_true.mp h _ (List.mem_iff_getElem.mpr ⟨x.toNat, ?_, ?_⟩)
  · simp [hlen, x.toNat_lt]
  · rw [List.getElem_zipWith, List.getElem_range, UInt8.ofNat_toNat]
    rfl

/-! ### Masks -/

theorem toNat_and_le (b mask : UInt8) : (b &&& mask).toNat ≤ mask.toNat := by
  rw [UInt8.toNat_and]
  exact Nat.and_le_right

theorem and_mask_le (b mask : UInt8) : b &&& mask ≤ mask :=
  UInt8.le_iff_toNat_le.mpr (toNat_and_le b mask)

/-- Masking with the low `b` bits. -/
theorem toNat_and_low {mask : UInt8} {b : ℕ} (hmask : mask.toNat = 2 ^ b - 1) (x : UInt8) :
    (x &&& mask).toNat = x.toNat % 2 ^ b := by
  rw [UInt8.toNat_and, hmask, Nat.and_two_pow_sub_one_eq_mod]

/-- A bit of a byte, as a number. -/
theorem toNat_shiftRight_and_one (x : UInt8) {k : UInt8} (hk : k.toNat < 8) :
    ((x >>> k) &&& 1).toNat = x.toNat / 2 ^ k.toNat % 2 := by
  rw [toNat_and_low (b := 1) rfl, UInt8.toNat_shiftRight, Nat.mod_eq_of_lt hk,
    Nat.shiftRight_eq_div_pow, pow_one]

/-! ### Words and their bytes -/

theorem toNat_getHigh (v : UInt16) : (getHigh v).toNat = v.toNat / 0x100 := by
  have h := v.toNat_lt
  rw [getHigh, UInt16.toNat_toUInt8, UInt16.toNat_shiftRight]
  show (v.toNat >>> 8) % 2 ^ 8 = _
  rw [Nat.shiftRight_eq_div_pow]
  omega

theorem toNat_getLow (v : UInt16) : (getLow v).toNat = v.toNat % 0x100 := by
  rw [getLow, UInt16.toNat_toUInt8, UInt16.toNat_and]
  show (v.toNat &&& 2 ^ 8 - 1) % 2 ^ 8 = _
  rw [Nat.and_two_pow_sub_one_eq_mod, Nat.mod_mod]

theorem toNat_value (high low : UInt8) :
    (value high low).toNat = high.toNat * 0x100 + low.toNat := by
  have h := high.toNat_lt
  have h' := low.toNat_lt
  rw [value, UInt16.toNat_or, UInt16.toNat_shiftLeft, UInt8.toNat_toUInt16, UInt8.toNat_toUInt16]
  show (high.toNat <<< 8) % 2 ^ 16 ||| low.toNat = _
  rw [Nat.shiftLeft_eq, Nat.mod_eq_of_lt (by omega), Nat.mul_comm,
    ← Nat.two_pow_add_eq_or_of_lt (by omega)]

@[simp] theorem getHigh_value (high low : UInt8) : getHigh (value high low) = high := by
  have h := low.toNat_lt
  rw [← UInt8.toNat_inj, toNat_getHigh, toNat_value]
  omega

@[simp] theorem getLow_value (high low : UInt8) : getLow (value high low) = low := by
  have h := low.toNat_lt
  rw [← UInt8.toNat_inj, toNat_getLow, toNat_value]
  omega

@[simp] theorem value_getHigh_getLow (v : UInt16) : value (getHigh v) (getLow v) = v := by
  rw [← UInt16.toNat_inj, toNat_value, toNat_getHigh, toNat_getLow]
  omega

/-- Masking the high byte of a word rounds down. -/
theorem toNat_and_high (v : UInt16) : (v &&& 0xFF00).toNat = v.toNat / 0x100 * 0x100 := by
  have hv : v.toNat < 2 ^ 16 := v.toNat_lt
  rw [UInt16.toNat_and]
  show v.toNat &&& 2 ^ 8 * (2 ^ 8 - 1) = v.toNat / 2 ^ 8 * 2 ^ 8
  refine Nat.eq_of_testBit_eq fun i => ?_
  rw [Nat.testBit_and, Nat.testBit_two_pow_mul, Nat.testBit_two_pow_sub_one, Nat.mul_comm,
    Nat.testBit_two_pow_mul, Nat.testBit_div_two_pow]
  by_cases hlow : 8 ≤ i
  · rw [Nat.sub_add_cancel hlow]
    by_cases hhigh : i < 16
    · simp [hlow, show i - 8 < 8 by omega]
    · have hi : v.toNat < 2 ^ i :=
        Nat.lt_of_lt_of_le hv (Nat.pow_le_pow_right (by decide) (by omega))
      simp [Nat.testBit_lt_two_pow hi]
  · simp [hlow]

theorem setLow_eq (dst : UInt16) (v : UInt8) : setLow dst v = value (getHigh dst) v := by
  have hv := v.toNat_lt
  rw [← UInt16.toNat_inj, toNat_value, toNat_getHigh, setLow, UInt16.toNat_or, toNat_and_high,
    UInt8.toNat_toUInt16]
  show dst.toNat / 2 ^ 8 * 2 ^ 8 ||| v.toNat = dst.toNat / 2 ^ 8 * 2 ^ 8 + v.toNat
  rw [Nat.mul_comm, Nat.two_pow_add_eq_or_of_lt hv]

theorem setHigh_eq (dst : UInt16) (v : UInt8) : setHigh dst v = value v (getLow dst) := by
  have hlow : (getLow dst).toUInt16 = dst &&& 0x00FF := by
    rw [← UInt16.toNat_inj, UInt8.toNat_toUInt16, toNat_getLow, UInt16.toNat_and]
    exact (Nat.and_two_pow_sub_one_eq_mod dst.toNat 8).symm
  rw [setHigh, value, hlow, UInt16.or_comm]

@[simp] theorem getHigh_setHigh (dst : UInt16) (v : UInt8) : getHigh (setHigh dst v) = v := by
  rw [setHigh_eq, getHigh_value]

@[simp] theorem getLow_setHigh (dst : UInt16) (v : UInt8) :
    getLow (setHigh dst v) = getLow dst := by
  rw [setHigh_eq, getLow_value]

@[simp] theorem getHigh_setLow (dst : UInt16) (v : UInt8) :
    getHigh (setLow dst v) = getHigh dst := by
  rw [setLow_eq, getHigh_value]

@[simp] theorem getLow_setLow (dst : UInt16) (v : UInt8) : getLow (setLow dst v) = v := by
  rw [setLow_eq, getLow_value]

theorem getHigh_and (v w : UInt16) : getHigh (v &&& w) = getHigh v &&& getHigh w := by
  rw [← UInt8.toNat_inj, UInt8.toNat_and, toNat_getHigh, toNat_getHigh, toNat_getHigh,
    UInt16.toNat_and]
  exact Nat.and_div_two_pow (n := 8)

theorem getLow_and (v w : UInt16) : getLow (v &&& w) = getLow v &&& getLow w := by
  rw [← UInt8.toNat_inj, UInt8.toNat_and, toNat_getLow, toNat_getLow, toNat_getLow,
    UInt16.toNat_and]
  exact Nat.and_mod_two_pow (n := 8)

@[simp] theorem setHigh_setHigh (dst : UInt16) (v w : UInt8) :
    setHigh (setHigh dst v) w = setHigh dst w := by
  rw [setHigh_eq, getLow_setHigh, setHigh_eq]

@[simp] theorem setHigh_getHigh (v : UInt16) : setHigh v (getHigh v) = v := by
  rw [setHigh_eq, value_getHigh_getLow]

/-- A word is its two bytes. -/
theorem eq_of_bytes {v w : UInt16} (hhigh : getHigh v = getHigh w) (hlow : getLow v = getLow w) :
    v = w := by
  rw [← value_getHigh_getLow v, hhigh, hlow, value_getHigh_getLow]

/-! ### Flags and buttons -/

/-- A Boolean as a byte, the source's `b as u8`. -/
def bit (b : Bool) : UInt8 := if b then 1 else 0

theorem toNat_bit (b : Bool) : (bit b).toNat = if b then 1 else 0 := by
  cases b <;> rfl

/-- The buttons, in the order of the source's enumeration. -/
inductive GbButton
  | up | right | left | down | a | b | start | select
  deriving DecidableEq, Repr

/-- Four bits, most significant first. -/
def nibble (b3 b2 b1 b0 : Bool) : UInt8 :=
  ((bit b3) <<< 3) ||| ((bit b2) <<< 2) ||| ((bit b1) <<< 1) ||| ((bit b0) <<< 0)

/-- The joypad nibble: a pressed button reads as 0 in the selected half. -/
def calcButtonBits (buttons : GbButton → Bool) (selectButtons selectDpad : Bool) : UInt8 :=
  let buttonBits : UInt8 :=
    if selectButtons && selectDpad then 0xF
    else if selectButtons then
      nibble (!buttons .start) (!buttons .select) (!buttons .b) (!buttons .a)
    else if selectDpad then
      nibble (!buttons .down) (!buttons .up) (!buttons .left) (!buttons .right)
    else 0xF
  buttonBits &&& 0xF

/-- The three ways the source can be run. -/
inductive CompatibilityMode
  | modeCgb | modeCgbDmg | modeDmg
  deriving DecidableEq, Repr

/-- The context shared by the components. -/
structure GbCtx where
  cgb : Bool
  compMode : CompatibilityMode
  deriving DecidableEq, Repr

/-- The context `Gameboy::new` builds: CGB features are on exactly in CGB mode. -/
def GbCtx.ofMode (mode : CompatibilityMode) : GbCtx := ⟨mode = .modeCgb, mode⟩

/-- What a clocked component may set: interrupt requests and host events. -/
structure ClockContext where
  interrupts : UInt8
  events : UInt8
  deriving DecidableEq, Repr

namespace ClockContext

/-- Request the interrupts in `interruptBit`. -/
def setInterrupt (ctx : ClockContext) (interruptBit : UInt8) : ClockContext :=
  { ctx with interrupts := ctx.interrupts ||| interruptBit }

/-- Raise the host events in `eventBit`. -/
def setEvents (ctx : ClockContext) (eventBit : UInt8) : ClockContext :=
  { ctx with events := ctx.events ||| eventBit }

end ClockContext

/-! ### Interrupt and event bits -/

def interruptBitVblank : UInt8 := 0x1
def interruptBitLcd : UInt8 := 0x2
def interruptBitTimer : UInt8 := 0x4
def interruptBitSerial : UInt8 := 0x8
def interruptBitJoypad : UInt8 := 0x10

def socEventVSync : UInt8 := 0x1
def socEventsVSyncAndExit : UInt8 := 0x2

end ZenithGb
