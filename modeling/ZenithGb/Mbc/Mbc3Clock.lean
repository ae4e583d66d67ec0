import Mathlib.Data.Fin.VecNotation
import Mathlib.Data.Nat.Bitwise
import ZenithGb.Lib.Counter
import ZenithGb.Mbc.Banking

/-!
# The real-time clock of MBC3 keeps calendar time

Five registers hold seconds, minutes, hours and days, with the ninth bit of the day counter, the
halt bit and the day carry in the last one. `rtc_inc` counts a register up and, when it rolls over,
the next one: digit by digit it is a tick of one counter of seconds with a sticky carry
(`Mbc3.Ticks`). The clock divides the M-cycles by `rtc_cycles_left` in front of it.

## Main results

* `Mbc3.ticks_rtcInc` — the ripple carry is a tick of the calendar
* `Mbc3.Reachable.rtc` — every register stays within its mask, the divider within a second
* `Mbc3.rtc_keeps_time` — what any number of clocks does to the calendar
-/

namespace ZenithGb

open Outcome

namespace Mbc3

/-! ### The mapper as a machine -/

/-- Perform one operation; a read leaves the mapper as it is. -/
def step : Mbc.Op → Mbc3 → Checked Mbc3
  | .read address, m => do
    let _ ← m.read address
    return m
  | .write address data, m => m.write address data
  | .clock, m => m.clock

/-- The states operations lead to from a loaded cartridge. -/
def Reachable (m : Mbc3) : Prop :=
  Machine.Reachable (fun m => ∃ cartridge, Mbc3.new.load cartridge = .ok m) step m

/-! ### Registers -/

/-- The bits each register has. -/
def rtcMask : Fin 5 → UInt8 := ![0b111111, 0b111111, 0b11111, 0b11111111, 0b11000001]

theorem rtcRegisterMask_eq : ∀ i : Fin 5, rtcRegisterMask i = .ok (rtcMask i)
  | 0 | 1 | 2 | 3 | 4 => rfl

/-- Every register is within its mask. -/
def Masked (regs : Mem 5 UInt8) : Prop := ∀ i, regs.cell i &&& rtcMask i = regs.cell i

theorem Masked.put {regs : Mem 5 UInt8} (h : Masked regs) {i : Fin 5} {v : UInt8}
    (hv : v &&& rtcMask i = v) : Masked (regs.put i v) := by
  intro j
  rw [Mem.put_cell]
  split
  · rename_i hj
    rwa [hj]
  · exact h j

theorem and_low_eq_self {mask : UInt8} {b : ℕ} (hmask : mask.toNat = 2 ^ b - 1) (x : UInt8) :
    x &&& mask = x ↔ x.toNat < 2 ^ b := by
  rw [← UInt8.toNat_inj, toNat_and_low hmask]
  exact Nat.mod_eq_iff_lt (Nat.two_pow_pos b).ne'

/-- What the high register's mask and its three fields are, as numbers. -/
theorem dh_bits : ∀ x : UInt8,
    (x &&& 0b11000001 = x ↔ x.toNat % 64 < 2) ∧ (x &&& 0x40 = 0 ↔ x.toNat / 64 % 2 = 0) ∧
      (x &&& 0x80 = 0 ↔ x.toNat < 128) :=
  forall_uint8 (by decide +kernel)

/-! ### Counting one register up -/

/-- The mapper with another value in one RTC register. -/
def setRtc (m : Mbc3) (i : Fin 5) (v : UInt8) : Mbc3 :=
  { m with rtcRegisters := m.rtcRegisters.put i v }

variable {m m' : Mbc3}

/-- A register below the days goes to zero at its mask, rolls over at `L`, and otherwise counts. -/
theorem rtcIncBelowDays_eq {i : Fin 5} {b L : ℕ} {carry : Mbc3 → Checked Mbc3}
    (hmask : (rtcMask i).toNat = 2 ^ b - 1) (hb : b < 8) (hroll : rtcRollover i = .ok L)
    (hv : m.rtcRegisters.cell i &&& rtcMask i = m.rtcRegisters.cell i) :
    rtcIncBelowDays i carry m =
      if (m.rtcRegisters.cell i).toNat + 1 = 2 ^ b then .ok (m.setRtc i 0)
      else if (m.rtcRegisters.cell i).toNat + 1 = L then carry (m.setRtc i 0)
      else .ok (m.setRtc i (m.rtcRegisters.cell i + 1)) := by
  have hlt : (m.rtcRegisters.cell i).toNat < 2 ^ b := (and_low_eq_self hmask _).mp hv
  have hpow : 2 ^ b ≤ 2 ^ 7 := Nat.pow_le_pow_right (by decide) (by omega)
  have hsucc : (m.rtcRegisters.cell i + 1).toNat = (m.rtcRegisters.cell i).toNat + 1 := by
    rw [UInt8.toNat_add]
    exact Nat.mod_eq_of_lt (by show _ + 1 < 2 ^ 8; omega)
  have hzero : (m.rtcRegisters.cell i + 1) &&& rtcMask i = 0 ↔
      (m.rtcRegisters.cell i).toNat + 1 = 2 ^ b := by
    rw [← UInt8.toNat_inj, toNat_and_low hmask, hsucc]
    constructor
    · intro h
      exact Nat.le_antisymm hlt (Nat.le_of_dvd (Nat.succ_pos _) (Nat.dvd_of_mod_eq_zero h))
    · intro h
      rw [h]
      exact Nat.mod_self _
  rw [rtcIncBelowDays, Mem.get_of_lt _ _ i.isLt, ok_bind, rtcRegisterMask_eq, ok_bind, hroll,
    ok_bind]
  by_cases hwrap : (m.rtcRegisters.cell i).toNat + 1 = 2 ^ b
  · rw [if_pos (hzero.mpr hwrap), if_pos hwrap, Mem.set_of_lt _ _ i.isLt]
    rfl
  · rw [if_neg (hzero.not.mpr hwrap), if_neg hwrap, hsucc]
    simp only [eq_comm (a := L)]
    split
    · rw [Mem.set_of_lt _ _ i.isLt]
      rfl
    · rw [Mem.set_of_lt _ _ i.isLt]
      rfl

/-- The day counter, halt bit and carry bit after one more day. -/
def nextDay (days : UInt16) : UInt16 :=
  if (days + 1) &&& 0x200 ≠ 0 then 0x8000 ||| ((days + 1) &&& 0x4000) else days + 1

/-- One bit of a word, as a number. -/
theorem toNat_and_two_pow {mask : UInt16} {b : ℕ} (hmask : mask.toNat = 2 ^ b) (x : UInt16) :
    (x &&& mask).toNat = x.toNat / 2 ^ b % 2 * 2 ^ b := by
  rw [UInt16.toNat_and, hmask, Nat.and_two_pow, Nat.toNat_testBit]

theorem toNat_nextDay {dh dl : UInt8} (hdh : dh.toNat % 64 < 2) :
    (nextDay (value dh dl)).toNat =
      if dh.toNat % 2 = 1 ∧ dl.toNat = 255 then 32768 + dh.toNat / 64 % 2 * 16384
      else dh.toNat * 256 + dl.toNat + 1 := by
  have hdh' := dh.toNat_lt
  have hdl := dl.toNat_lt
  have hsucc : (value dh dl + 1).toNat = dh.toNat * 256 + dl.toNat + 1 := by
    rw [UInt16.toNat_add, toNat_value]
    exact Nat.mod_eq_of_lt (by show _ + 1 < 2 ^ 16; omega)
  have hoverflow : (value dh dl + 1) &&& 0x200 ≠ 0 ↔ dh.toNat % 2 = 1 ∧ dl.toNat = 255 := by
    rw [ne_eq, ← UInt16.toNat_inj, toNat_and_two_pow (b := 9) rfl, hsucc]
    show ¬ (_ / 512 % 2 * 512 = 0) ↔ _
    omega
  have hhalt : ((value dh dl + 1) &&& 0x4000).toNat =
      (dh.toNat * 256 + dl.toNat + 1) / 16384 % 2 * 16384 := by
    rw [toNat_and_two_pow (b := 14) rfl, hsucc]
    rfl
  rw [nextDay]
  split
  · rename_i h
    obtain ⟨hodd, hfull⟩ := hoverflow.mp h
    have hlow : (dh.toNat * 256 + dl.toNat + 1) / 16384 % 2 * 16384 < 2 ^ 15 := by omega
    rw [if_pos ⟨hodd, hfull⟩, UInt16.toNat_or, hhalt]
    show 2 ^ 15 * 1 ||| _ = _
    rw [← Nat.two_pow_add_eq_or_of_lt hlow 1]
    omega
  · rename_i h
    rw [if_neg (hoverflow.not.mp h), hsucc]

/-- The day counter goes up by one. When its ninth bit overflows, the carry bit is set and the halt
bit kept. -/
theorem rtcIncDays_eq
    (hdh : m.rtcRegisters.cell 4 &&& 0b11000001 = m.rtcRegisters.cell 4) :
    ∃ dh dl, m.rtcIncDays = .ok ((m.setRtc 4 dh).setRtc 3 dl) ∧
      dl.toNat = ((m.rtcRegisters.cell 3).toNat + 1) % 256 ∧
      dh.toNat =
        if (m.rtcRegisters.cell 3).toNat < 255 then (m.rtcRegisters.cell 4).toNat
        else if (m.rtcRegisters.cell 4).toNat % 2 = 0 then (m.rtcRegisters.cell 4).toNat + 1
        else 128 + (m.rtcRegisters.cell 4).toNat / 64 % 2 * 64 := by
  have hdays := @toNat_nextDay _ (m.rtcRegisters.cell 3) ((dh_bits _).1.mp hdh)
  have hdl := (m.rtcRegisters.cell 3).toNat_lt
  refine ⟨getHigh (nextDay (value (m.rtcRegisters.cell 4) (m.rtcRegisters.cell 3))),
    getLow (nextDay (value (m.rtcRegisters.cell 4) (m.rtcRegisters.cell 3))), rfl,
    (toNat_getLow _).trans ?_, (toNat_getHigh _).trans ?_⟩
  · rw [hdays]
    split <;> omega
  · rw [hdays]
    split <;> split <;> first | omega | (split <;> omega)

/-- The registers below the days: the bits of each and where it rolls over. -/
structure Digit (i : Fin 5) (b L : ℕ) : Prop where
  mask : (rtcMask i).toNat = 2 ^ b - 1
  bits : b < 8
  rollover : rtcRollover i = .ok L
  pos : 0 < L
  lt : L < 2 ^ b

theorem digit_seconds : Digit 0 6 60 := ⟨rfl, by decide, rfl, by decide, by decide⟩

theorem digit_minutes : Digit 1 6 60 := ⟨rfl, by decide, rfl, by decide, by decide⟩

theorem digit_hours : Digit 2 5 24 := ⟨rfl, by decide, rfl, by decide, by decide⟩

theorem Digit.unique {i : Fin 5} {b b' L L' : ℕ} (h : Digit i b L) (h' : Digit i b' L') : L = L' :=
  ok_inj.mp (h.rollover.symm.trans h'.rollover)

/-- The days are no such register: they roll over in two. -/
theorem Digit.lt_three {i : Fin 5} {b L : ℕ} (h : Digit i b L) : (i : ℕ) < 3 := by
  have hpow : 2 ^ b ≤ 2 ^ 7 := Nat.pow_le_pow_right (by decide) (by have := h.bits; omega)
  have hlt := h.lt
  match i with
  | 0 | 1 | 2 => decide
  | 3 =>
    have hL : 0x1FF = L := ok_inj.mp h.rollover
    omega
  | 4 => cases h.rollover

/-! ### The masks are kept -/

/-- Counting up touches the registers alone, and leaves them within their masks. -/
def KeepsMasks (f : Mbc3 → Checked Mbc3) : Prop :=
  ∀ m, Masked m.rtcRegisters →
    Total (f m) fun m' => ∃ regs, m' = { m with rtcRegisters := regs } ∧ Masked regs

theorem Masked.zero {regs : Mem 5 UInt8} (h : Masked regs) (i : Fin 5) : Masked (regs.put i 0) :=
  h.put (UInt8.zero_and)

theorem keepsMasks_rtcIncDays : KeepsMasks rtcIncDays := by
  intro m h
  obtain ⟨dh, dl, heq, -, hdh⟩ := rtcIncDays_eq (h 4)
  have hold := (dh_bits _).1.mp (h 4)
  have hnew : dh &&& rtcMask 4 = dh := by
    refine (dh_bits dh).1.mpr ?_
    rw [hdh]
    split
    · exact hold
    · split <;> omega
  rw [heq]
  exact ⟨_, rfl, (h.put hnew).put ((and_low_eq_self (b := 8) rfl dl).mpr dl.toNat_lt)⟩

theorem keepsMasks_rtcIncBelowDays {i : Fin 5} {b L : ℕ} (hd : Digit i b L)
    {carry : Mbc3 → Checked Mbc3} (hcarry : KeepsMasks carry) :
    KeepsMasks (rtcIncBelowDays i carry) := by
  intro m h
  have hlt := (and_low_eq_self hd.mask _).mp (h i)
  rw [rtcIncBelowDays_eq hd.mask hd.bits hd.rollover (h i)]
  split
  · exact ⟨_, rfl, h.zero i⟩
  · rename_i hwrap
    split
    · refine (hcarry (m.setRtc i 0) (h.zero i)).imp fun m' hm' => ?_
      obtain ⟨regs, rfl, hregs⟩ := hm'
      exact ⟨regs, rfl, hregs⟩
    · have hpow : 2 ^ b ≤ 2 ^ 7 := Nat.pow_le_pow_right (by decide) (by have := hd.bits; omega)
      refine ⟨_, rfl, h.put ((and_low_eq_self hd.mask _).mpr ?_)⟩
      rw [UInt8.toNat_add]
      exact Nat.lt_of_le_of_lt (Nat.mod_le _ _) (by show _ + 1 < 2 ^ b; omega)

theorem keepsMasks_rtcInc : KeepsMasks (rtcInc rtcS) :=
  keepsMasks_rtcIncBelowDays digit_seconds
    (keepsMasks_rtcIncBelowDays digit_minutes
      (keepsMasks_rtcIncBelowDays digit_hours keepsMasks_rtcIncDays))

/-! ### The calendar -/

/-- Registers that show a time of day on a running clock. -/
structure OnTime (regs : Mem 5 UInt8) : Prop where
  masked : Masked regs
  running : regs.cell 4 &&& 0x40 = 0
  below : ∀ {i b L}, Digit i b L → (regs.cell i).toNat < L

theorem OnTime.put {regs : Mem 5 UInt8} (h : OnTime regs) {i : Fin 5} {b L : ℕ} (hd : Digit i b L)
    {v : UInt8} (hv : v.toNat < L) : OnTime (regs.put i v) where
  masked := h.masked.put ((and_low_eq_self hd.mask v).mpr (hv.trans hd.lt))
  running := by
    rw [Mem.put_cell_of_ne _ (by have := hd.lt_three; omega)]
    exact h.running
  below hd' := by
    rw [Mem.put_cell]
    split
    · rename_i hj
      subst hj
      rwa [hd'.unique hd]
    · exact h.below hd'

theorem onTime_iff {regs : Mem 5 UInt8} : OnTime regs ↔
    Masked regs ∧ regs.cell 4 &&& 0x40 = 0 ∧ (regs.cell 0).toNat < 60 ∧
      (regs.cell 1).toNat < 60 ∧ (regs.cell 2).toNat < 24 := by
  constructor
  · intro h
    exact ⟨h.masked, h.running, h.below digit_seconds, h.below digit_minutes, h.below digit_hours⟩
  · rintro ⟨hmasked, hrunning, hseconds, hminutes, hhours⟩
    refine ⟨hmasked, hrunning, fun {i b L} hd => ?_⟩
    match i, hd.lt_three with
    | 0, _ => rwa [hd.unique digit_seconds]
    | 1, _ => rwa [hd.unique digit_minutes]
    | 2, _ => rwa [hd.unique digit_hours]

/-- The day counter with its carry bit. -/
def dayCounter (regs : Mem 5 UInt8) : Sticky where
  value := (regs.cell 4 &&& 0x01).toNat * 256 + (regs.cell 3).toNat
  carry := regs.cell 4 &&& 0x80 != 0

/-- One more register below what the higher ones count. -/
def withDigit (i : Fin 5) (L : ℕ) (V : Mem 5 UInt8 → Sticky) (regs : Mem 5 UInt8) : Sticky where
  value := (V regs).value * L + (regs.cell i).toNat
  carry := (V regs).carry

/-- The time the registers show, in seconds, with the day carry bit. -/
def calendar : Mem 5 UInt8 → Sticky :=
  withDigit 0 60 (withDigit 1 60 (withDigit 2 24 dayCounter))

/-- Counting up from register `i` is a tick of what the registers from `i` on show, modulo `P`, and
leaves the ones below `i` alone. -/
def Ticks (i P : ℕ) (V : Mem 5 UInt8 → Sticky) (f : Mbc3 → Checked Mbc3) : Prop :=
  ∀ m, OnTime m.rtcRegisters →
    (V m.rtcRegisters).value < P ∧
      Total (f m) fun m' => ∃ regs, m' = { m with rtcRegisters := regs } ∧ OnTime regs ∧
        (∀ j : Fin 5, j < i → regs.cell j = m.rtcRegisters.cell j) ∧
        V regs = (V m.rtcRegisters).tick P

theorem dayCounter_eq (regs : Mem 5 UInt8) :
    dayCounter regs =
      ⟨(regs.cell 4).toNat % 2 * 256 + (regs.cell 3).toNat,
        decide (128 ≤ (regs.cell 4).toNat)⟩ := by
  have hbit : (regs.cell 4 &&& 0x01).toNat = (regs.cell 4).toNat % 2 := toNat_and_low (b := 1) rfl _
  have hcarry := (dh_bits (regs.cell 4)).2.2
  rw [dayCounter, hbit]
  congr 1
  rw [Bool.eq_iff_iff, bne_iff_ne, ne_eq, hcarry, decide_eq_true_eq, Nat.not_lt]

/-- What counting a day does to the two day registers of a running clock is a tick. -/
theorem tick_days {dl dh dl' dh' : ℕ} (hdl : dl < 256) (hdh : dh % 64 < 2)
    (hrun : dh / 64 % 2 = 0) (hdl' : dl' = (dl + 1) % 256)
    (hdh' : dh' = if dl < 255 then dh else if dh % 2 = 0 then dh + 1 else 128 + dh / 64 % 2 * 64) :
    (⟨dh' % 2 * 256 + dl', decide (128 ≤ dh')⟩ : Sticky) =
      Sticky.tick 512 ⟨dh % 2 * 256 + dl, decide (128 ≤ dh)⟩ := by
  rw [Sticky.tick]
  dsimp only
  split
  · have hdh0 : dh' = 128 := by rw [hdh', if_neg (by omega), if_neg (by omega), hrun]
    have hdl0 : dl' = 0 := by omega
    ext
    · show dh' % 2 * 256 + dl' = 0
      rw [hdh0, hdl0]
    · exact decide_eq_true hdh0.ge
  · have hcarry : 128 ≤ dh' ↔ 128 ≤ dh := by
      rw [hdh']
      split
      · rfl
      · split <;> omega
    ext
    · show dh' % 2 * 256 + dl' = dh % 2 * 256 + dl + 1
      rw [hdl', hdh']
      split
      · omega
      · split <;> omega
    · exact decide_eq_decide.mpr hcarry

theorem ticks_rtcIncDays : Ticks 3 512 dayCounter rtcIncDays := by
  intro m h
  have hdl := (m.rtcRegisters.cell 3).toNat_lt
  have hdh := (dh_bits _).1.mp (h.masked 4)
  have hrun := (dh_bits _).2.1.mp h.running
  obtain ⟨dh, dl, heq, hdl', hdh'⟩ := rtcIncDays_eq (h.masked 4)
  have hmasks := keepsMasks_rtcIncDays m h.masked
  rw [heq] at hmasks ⊢
  obtain ⟨regs, hregs, hmasked⟩ := hmasks
  obtain rfl : (m.rtcRegisters.put 4 dh).put 3 dl = regs := congrArg Mbc3.rtcRegisters hregs
  have hother : ∀ j : Fin 5, j < (3 : ℕ) →
      ((m.rtcRegisters.put 4 dh).put 3 dl).cell j = m.rtcRegisters.cell j := by
    intro j hj
    rw [Mem.put_cell_of_ne _ (by omega), Mem.put_cell_of_ne _ (by omega)]
  have h4 : ((m.rtcRegisters.put 4 dh).put 3 dl).cell 4 = dh := by
    rw [Mem.put_cell_of_ne _ (by decide), Mem.put_cell_self]
  have h3 : ((m.rtcRegisters.put 4 dh).put 3 dl).cell 3 = dl := Mem.put_cell_self ..
  rw [dayCounter_eq]
  refine ⟨by show _ % 2 * 256 + _ < 512; omega,
    (m.rtcRegisters.put 4 dh).put 3 dl, rfl, ⟨hmasked, ?_, fun hd => ?_⟩, hother, ?_⟩
  · rw [h4, (dh_bits dh).2.1, hdh']
    split
    · exact hrun
    · split <;> omega
  · rw [hother _ hd.lt_three]
    exact h.below hd
  · rw [dayCounter_eq, h4, h3]
    exact tick_days hdl hdh hrun hdl' hdh'

/-- A register below the days makes a tick of its own and the higher ones' count. -/
theorem ticks_rtcIncBelowDays {i : Fin 5} {b L P : ℕ} (hd : Digit i b L)
    {V : Mem 5 UInt8 → Sticky} {carry : Mbc3 → Checked Mbc3} (hcarry : Ticks (i + 1) P V carry)
    (hV : ∀ regs v, V (regs.put i v) = V regs) :
    Ticks i (P * L) (withDigit i L V) (rtcIncBelowDays i carry) := by
  intro m h
  have hdigit := h.below hd
  obtain ⟨hvalue, htick⟩ := hcarry (m.setRtc i 0) (h.put hd hd.pos)
  have hVput : V (m.setRtc i 0).rtcRegisters = V m.rtcRegisters := hV _ 0
  rw [hVput] at hvalue
  have hroom : ((V m.rtcRegisters).value + 1) * L ≤ P * L := Nat.mul_le_mul_right L hvalue
  rw [Nat.add_one_mul] at hroom
  have hlt := hd.lt
  refine ⟨by show _ * L + _ < P * L; omega, ?_⟩
  rw [rtcIncBelowDays_eq hd.mask hd.bits hd.rollover (h.masked i), if_neg (by omega)]
  have hdigits := Sticky.tick_digit (c := (V m.rtcRegisters).carry) hdigit hvalue
  have hsum : withDigit i L V m.rtcRegisters =
      ⟨(V m.rtcRegisters).value * L + (m.rtcRegisters.cell i).toNat, (V m.rtcRegisters).carry⟩ :=
    rfl
  rw [hsum, hdigits]
  have hbelow : ∀ v, ∀ j : Fin 5, j < (i : ℕ) →
      (m.rtcRegisters.put i v).cell j = m.rtcRegisters.cell j :=
    fun v j hj => Mem.put_cell_of_ne _ (by omega) v
  by_cases hroll : (m.rtcRegisters.cell i).toNat + 1 = L
  · rw [if_pos hroll, if_pos hroll]
    refine htick.imp fun m' hm' => ?_
    obtain ⟨regs, rfl, hon, hkept, htick⟩ := hm'
    have hi0 : regs.cell i = 0 := (hkept i (by omega)).trans (Mem.put_cell_self ..)
    refine ⟨regs, rfl, hon, fun j hj => (hkept j (by omega)).trans (hbelow 0 j hj), ?_⟩
    rw [withDigit, htick, hVput, hi0]
    rfl
  · rw [if_neg hroll, if_neg hroll]
    have hsucc : (m.rtcRegisters.cell i + 1).toNat = (m.rtcRegisters.cell i).toNat + 1 := by
      have hpow : 2 ^ b ≤ 2 ^ 7 := Nat.pow_le_pow_right (by decide) (by have := hd.bits; omega)
      rw [UInt8.toNat_add]
      exact Nat.mod_eq_of_lt (by show _ + 1 < 2 ^ 8; omega)
    refine ⟨_, rfl, h.put hd (by omega), hbelow _, ?_⟩
    rw [withDigit, hV, Mem.put_cell_self, hsucc]

theorem dayCounter_put {i : Fin 5} (hi : (i : ℕ) < 3) (regs : Mem 5 UInt8) (v : UInt8) :
    dayCounter (regs.put i v) = dayCounter regs := by
  rw [dayCounter, dayCounter, Mem.put_cell_of_ne _ (by omega), Mem.put_cell_of_ne _ (by omega)]

theorem withDigit_put {i j : Fin 5} (hij : j ≠ i) {L : ℕ} {V : Mem 5 UInt8 → Sticky}
    {regs : Mem 5 UInt8} {v : UInt8} (hV : V (regs.put i v) = V regs) :
    withDigit j L V (regs.put i v) = withDigit j L V regs := by
  rw [withDigit, withDigit, hV, Mem.put_cell_of_ne _ hij]

/-- Seconds in the 512 days the day counter has room for. -/
def calendarPeriod : ℕ := 512 * 86400

/-- **The ripple carry is a tick of the calendar.** -/
theorem ticks_rtcInc : Ticks 0 calendarPeriod calendar (rtcInc rtcS) := by
  have hhours := ticks_rtcIncBelowDays digit_hours ticks_rtcIncDays (dayCounter_put (by decide))
  have hminutes := ticks_rtcIncBelowDays digit_minutes hhours fun regs v =>
    withDigit_put (by decide) (dayCounter_put (by decide) regs v)
  exact ticks_rtcIncBelowDays digit_seconds hminutes fun regs v =>
    withDigit_put (by decide) (withDigit_put (by decide) (dayCounter_put (by decide) regs v))

/-! ### What a step does to the clock -/

/-- The clock is as it was. -/
structure SameRtc (m m' : Mbc3) : Prop where
  hasRtc : m'.hasRtc = m.hasRtc
  registers : m'.rtcRegisters = m.rtcRegisters
  cyclesLeft : m'.rtcCyclesLeft = m.rtcCyclesLeft

/-- An operation that writes an RTC register: a write to the external window while it shows one. -/
def WritesRtc (m : Mbc3) : Mbc.Op → Prop
  | .write address _ =>
    0xA000 ≤ address ∧ address ≤ 0xBFFF ∧ m.ramEnabled = true ∧ m.rtcSelect.isSome = true
  | .read _ | .clock => False

/-- A write to an RTC register puts a masked value in it; the seconds also start the second over. -/
structure SetsRtc (m m' : Mbc3) : Prop where
  hasRtc : m'.hasRtc = m.hasRtc
  registers : ∃ i v, m'.rtcRegisters = m.rtcRegisters.put i (v &&& rtcMask i)
  cyclesLeft : m'.rtcCyclesLeft = m.rtcCyclesLeft ∨ m'.rtcCyclesLeft = gbClocksPerSecond

theorem setsRtc_of_writeRtc {rtcSelect : ℕ} {data : UInt8}
    (h : m.writeRtc rtcSelect data = .ok m') : SetsRtc m m' := by
  obtain ⟨mask, hmask, h⟩ := bind_eq_ok.mp h
  obtain ⟨regs, hregs, h⟩ := bind_eq_ok.mp h
  obtain ⟨hlt, rfl⟩ := Mem.set_eq_ok.mp hregs
  obtain rfl : rtcMask ⟨rtcSelect, hlt⟩ = mask :=
    ok_inj.mp ((rtcRegisterMask_eq ⟨rtcSelect, hlt⟩).symm.trans hmask)
  have hleft : (if rtcSelect = 0 then gbClocksPerSecond else m.rtcCyclesLeft) = m.rtcCyclesLeft ∨
      (if rtcSelect = 0 then gbClocksPerSecond else m.rtcCyclesLeft) = gbClocksPerSecond := by
    split
    · exact .inr rfl
    · exact .inl rfl
  dsimp only at h
  split at h
  · obtain ⟨latch, -, h⟩ := bind_eq_ok.mp h
    cases h
    exact ⟨rfl, ⟨_, _, rfl⟩, hleft⟩
  · cases h
    exact ⟨rfl, ⟨_, _, rfl⟩, hleft⟩

theorem write_rtc {address : ℕ} {data : UInt8} (h : m.write address data = .ok m') :
    SameRtc m m' ∨ WritesRtc m (.write address data) ∧ SetsRtc m m' := by
  rw [write] at h
  split at h
  · cases h; exact .inl ⟨rfl, rfl, rfl⟩
  split at h
  · dsimp only at h
    split at h
    · cases h; exact .inl ⟨rfl, rfl, rfl⟩
    · obtain ⟨romBank, -, h⟩ := bind_eq_ok.mp h
      cases h; exact .inl ⟨rfl, rfl, rfl⟩
  split at h
  · split at h
    · obtain ⟨ramBank, -, h⟩ := bind_eq_ok.mp h
      cases h; exact .inl ⟨rfl, rfl, rfl⟩
    · split at h
      · split at h <;> (cases h; exact .inl ⟨rfl, rfl, rfl⟩)
      · cases h; exact .inl ⟨rfl, rfl, rfl⟩
  split at h
  · split at h
    · cases h; exact .inl ⟨rfl, rfl, rfl⟩
    · dsimp only at h
      cases h
      refine .inl ?_
      split <;> exact ⟨rfl, rfl, rfl⟩
  split at h
  · rename_i hwindow
    split at h
    · cases h; exact .inl ⟨rfl, rfl, rfl⟩
    · rename_i henabled
      split at h
      · rename_i rtcSelect hselect
        refine .inr ⟨⟨hwindow.1, hwindow.2, by simpa using henabled, ?_⟩, setsRtc_of_writeRtc h⟩
        rw [hselect]
        rfl
      · split at h
        · obtain ⟨ram, -, h⟩ := bind_eq_ok.mp h
          cases h; exact .inl ⟨rfl, rfl, rfl⟩
        · cases h; exact .inl ⟨rfl, rfl, rfl⟩
  · cases h; exact .inl ⟨rfl, rfl, rfl⟩

def isClock : Mbc.Op → Bool
  | .clock => true
  | .read _ | .write .. => false

/-- A step is a clock, a write to an RTC register, or nothing the clock notices. -/
theorem step_rtc {op : Mbc.Op} (h : step op m = .ok m') :
    isClock op = true ∧ m.clock = .ok m' ∨ isClock op = false ∧ SameRtc m m' ∨
      WritesRtc m op ∧ SetsRtc m m' := by
  cases op with
  | read address =>
    obtain ⟨byte, -, h⟩ := bind_eq_ok.mp h
    cases h
    exact .inr (.inl ⟨rfl, rfl, rfl, rfl⟩)
  | write address data =>
    obtain hsame | hwrites := write_rtc h
    · exact .inr (.inl ⟨rfl, hsame⟩)
    · exact .inr (.inr hwrites)
  | clock => exact .inl ⟨rfl, h⟩

/-! ### The clock -/

theorem clock_of_halted (h : m.hasRtc = false ∨ m.rtcRegisters.cell 4 &&& 0x40 ≠ 0) :
    m.clock = .ok m := by
  rw [clock]
  by_cases hrtc : m.hasRtc = true
  · rw [if_neg (by simp [hrtc]), Mem.get_of_lt _ _ (show rtcDh < 5 by decide), ok_bind]
    exact if_pos (h.resolve_left (by simp [hrtc]))
  · rw [if_pos (by simpa using hrtc)]

theorem clock_of_running (hrtc : m.hasRtc = true) (hrun : m.rtcRegisters.cell 4 &&& 0x40 = 0) :
    m.clock =
      if m.rtcCyclesLeft ≤ 1 then
        (fun m : Mbc3 =>
          { m with rtcCyclesLeft := gbClocksPerSecond - (1 - m.rtcCyclesLeft) }) <$> rtcInc rtcS m
      else .ok { m with rtcCyclesLeft := m.rtcCyclesLeft - 1 } := by
  rw [clock, if_neg (by simp [hrtc]), Mem.get_of_lt _ _ (show rtcDh < 5 by decide), ok_bind]
  refine (if_neg (not_not_intro hrun)).trans ?_
  split
  · cases rtcInc rtcS m <;> rfl
  · rfl

/-- What the clock relies on: masked registers, and a second begun and not yet over. -/
structure RtcInv (m : Mbc3) : Prop where
  masked : Masked m.rtcRegisters
  cyclesLeft_pos : 1 ≤ m.rtcCyclesLeft
  cyclesLeft_le : m.rtcCyclesLeft ≤ gbClocksPerSecond

theorem SameRtc.inv (h : SameRtc m m') (hinv : RtcInv m) : RtcInv m' where
  masked := by rw [h.registers]; exact hinv.masked
  cyclesLeft_pos := by rw [h.cyclesLeft]; exact hinv.cyclesLeft_pos
  cyclesLeft_le := by rw [h.cyclesLeft]; exact hinv.cyclesLeft_le

theorem and_and_self (v mask : UInt8) : v &&& mask &&& mask = v &&& mask := by
  rw [UInt8.and_assoc, UInt8.and_self]

theorem SetsRtc.inv (h : SetsRtc m m') (hinv : RtcInv m) : RtcInv m' := by
  obtain ⟨i, v, hregs⟩ := h.registers
  refine ⟨by rw [hregs]; exact hinv.masked.put (and_and_self v _), ?_, ?_⟩
  · obtain hleft | hleft := h.cyclesLeft
    · rw [hleft]; exact hinv.cyclesLeft_pos
    · rw [hleft]; decide
  · obtain hleft | hleft := h.cyclesLeft
    · rw [hleft]; exact hinv.cyclesLeft_le
    · exact hleft.le

/-- The clock returns, whatever time the registers show. -/
theorem total_clock (h : RtcInv m) : Total m.clock RtcInv := by
  have hpos := h.cyclesLeft_pos
  have hle := h.cyclesLeft_le
  by_cases hhalt : m.hasRtc = false ∨ m.rtcRegisters.cell 4 &&& 0x40 ≠ 0
  · rw [clock_of_halted hhalt]
    exact h
  · rw [not_or, not_ne_iff, Bool.not_eq_false] at hhalt
    rw [clock_of_running hhalt.1 hhalt.2]
    split
    · refine meets_map.mpr ((keepsMasks_rtcInc m h.masked).imp fun m' hm' => ?_)
      obtain ⟨regs, rfl, hregs⟩ := hm'
      have hpos : 1 ≤ gbClocksPerSecond - (1 - m.rtcCyclesLeft) := by
        rw [gbClocksPerSecond]
        omega
      exact ⟨hregs, hpos, Nat.sub_le ..⟩
    · exact ⟨h.masked, by show 1 ≤ m.rtcCyclesLeft - 1; omega,
        by show m.rtcCyclesLeft - 1 ≤ _; omega⟩

theorem load_rtc {cartridge : Cartridge} (h : Mbc3.new.load cartridge = .ok m) :
    m.rtcRegisters = .fill 5 0 ∧ m.rtcCyclesLeft = gbClocksPerSecond := by
  obtain ⟨banks, -, h⟩ := bind_eq_ok.mp h
  obtain ⟨ramBanks, -, h⟩ := bind_eq_ok.mp h
  obtain ⟨-, -, h⟩ := bind_eq_ok.mp h
  obtain ⟨rom, -, h⟩ := bind_eq_ok.mp h
  obtain ⟨ram, -, h⟩ := bind_eq_ok.mp h
  cases h
  exact ⟨rfl, rfl⟩

/-- **Every register stays within its mask**, and the divider within a second. -/
theorem Reachable.rtc (h : Reachable m) : RtcInv m := by
  refine Machine.Reachable.induction (I := RtcInv) ?_ (fun op m m' hinv hstep => ?_) h
  · rintro m ⟨cartridge, hload⟩
    obtain ⟨hregs, hleft⟩ := load_rtc hload
    refine ⟨?_, hleft ▸ by decide, hleft.le⟩
    rw [hregs]
    intro i
    exact UInt8.zero_and
  · obtain ⟨-, hclock⟩ | ⟨-, hsame⟩ | ⟨-, hsets⟩ := step_rtc hstep
    · exact (total_clock hinv).of_ok hclock
    · exact hsame.inv hinv
    · exact hsets.inv hinv

/-- On a running clock that shows a time of day, an M-cycle is a step of the divider in front of the
calendar. -/
theorem clock_ticks (hinv : RtcInv m) (hrtc : m.hasRtc = true) (h : OnTime m.rtcRegisters) :
    Total m.clock fun m' => m'.hasRtc = true ∧ OnTime m'.rtcRegisters ∧
      (m'.rtcCyclesLeft, calendar m'.rtcRegisters) =
        Divider.step gbClocksPerSecond (Sticky.tick calendarPeriod)
          (m.rtcCyclesLeft, calendar m.rtcRegisters) := by
  have hpos := hinv.cyclesLeft_pos
  rw [clock_of_running hrtc h.running, Divider.step]
  dsimp only
  split
  · refine meets_map.mpr ((ticks_rtcInc m h).2.imp fun m' hm' => ?_)
    obtain ⟨regs, rfl, hregs, -, htick⟩ := hm'
    refine ⟨hrtc, hregs, ?_⟩
    rw [← htick]
    show (gbClocksPerSecond - (1 - m.rtcCyclesLeft), _) = _
    rw [Nat.sub_eq_zero_of_le hpos, Nat.sub_zero]
  · exact ⟨hrtc, h, rfl⟩

/-- Along a run that writes no RTC register, every M-cycle counts and nothing else does. -/
theorem run_divides {r : Machine.Run step} (hr : Reachable (r.state 0))
    (hrtc : (r.state 0).hasRtc = true) (h : OnTime (r.state 0).rtcRegisters)
    (hwrites : ∀ k < r.length, ¬ WritesRtc (r.state k) (r.input k)) :
    OnTime (r.state r.length).rtcRegisters ∧
      ((r.state r.length).rtcCyclesLeft, calendar (r.state r.length).rtcRegisters) =
        (Divider.step gbClocksPerSecond (Sticky.tick calendarPeriod))^[Nat.count
          (fun k => isClock (r.input k) = true) r.length]
          ((r.state 0).rtcCyclesLeft, calendar (r.state 0).rtcRegisters) := by
  have hinv : ∀ k ≤ r.length, RtcInv (r.state k) := fun k hk => Reachable.rtc (r.reachable hr hk)
  have hstep : ∀ k < r.length,
      isClock (r.input k) = true ∧ (r.state k).clock = .ok (r.state (k + 1)) ∨
        isClock (r.input k) = false ∧ SameRtc (r.state k) (r.state (k + 1)) := fun k hk =>
    (step_rtc (r.next k hk)).imp_right fun h => h.resolve_right fun h => hwrites k hk h.1
  have hon : ∀ k ≤ r.length, (r.state k).hasRtc = true ∧ OnTime (r.state k).rtcRegisters := by
    intro k hk
    refine r.invariant (I := fun _ m => m.hasRtc = true ∧ OnTime m.rtcRegisters) ⟨hrtc, h⟩
      (fun k _ hlt ih => ?_) k (Nat.zero_le k) hk
    obtain ⟨-, hclock⟩ | ⟨-, hsame⟩ := hstep k hlt
    · obtain ⟨hrtc', hon', -⟩ := (clock_ticks (hinv k hlt.le) ih.1 ih.2).of_ok hclock
      exact ⟨hrtc', hon'⟩
    · rw [hsame.hasRtc, hsame.registers]
      exact ih
  refine ⟨(hon _ le_rfl).2, ?_⟩
  refine r.iterate (fun op => isClock op = true)
    (fun m => (m.rtcCyclesLeft, calendar m.rtcRegisters)) _ (fun k hk => ?_) _ le_rfl
  obtain ⟨hop, hclock⟩ | ⟨hop, hsame⟩ := hstep k hk
  · rw [if_pos hop]
    exact ((clock_ticks (hinv k hk.le) (hon k hk.le).1 (hon k hk.le).2).of_ok hclock).2.2
  · rw [if_neg (by simp [hop]), hsame.registers, hsame.cyclesLeft]

/-- **The clock keeps calendar time.** In every reachable state of an MBC3 with an RTC the registers
are within their masks, the divider is within a second, and the clock returns; halted, it changes
nothing. From a time of day on a running clock, a run that writes no RTC register and clocks `n`
times moves the clock by as many seconds as there are second starts in `n` M-cycles, modulo 512
days, and the day carry is set if it was or the days ran over. -/
theorem rtc_keeps_time (h : Reachable m) (hrtc : m.hasRtc = true) :
    (Masked m.rtcRegisters ∧ 1 ≤ m.rtcCyclesLeft ∧ m.rtcCyclesLeft ≤ 1048576 ∧
      ∃ m', m.clock = .ok m') ∧
    (m.rtcRegisters.cell 4 &&& 0x40 ≠ 0 → m.clock = .ok m) ∧
    ((m.rtcRegisters.cell 0).toNat < 60 → (m.rtcRegisters.cell 1).toNat < 60 →
      (m.rtcRegisters.cell 2).toNat < 24 → m.rtcRegisters.cell 4 &&& 0x40 = 0 →
      ∀ r : Machine.Run step, r.state 0 = m →
        (∀ i < r.length, ¬ WritesRtc (r.state i) (r.input i)) →
        let n := Nat.count (fun i => isClock (r.input i) = true) r.length
        let k := (n + 1048576 - m.rtcCyclesLeft) / 1048576
        let before := calendar m.rtcRegisters
        let after := calendar (r.state r.length).rtcRegisters
        after.value = (before.value + k) % (512 * 86400) ∧
          (after.carry = true ↔ before.carry = true ∨ 512 * 86400 ≤ before.value + k) ∧
          OnTime (r.state r.length).rtcRegisters ∧
          1 ≤ (r.state r.length).rtcCyclesLeft ∧ (r.state r.length).rtcCyclesLeft ≤ 1048576) := by
  have hinv := h.rtc
  refine ⟨⟨hinv.masked, hinv.cyclesLeft_pos, hinv.cyclesLeft_le, ?_⟩, ?_, ?_⟩
  · obtain ⟨m', hm', -⟩ := (total_clock hinv).exists_ok
    exact ⟨m', hm'⟩
  · intro hhalted
    exact clock_of_halted (.inr hhalted)
  · intro hseconds hminutes hhours hrunning r hstart hwrites n k before after
    subst hstart
    have hon : OnTime (r.state 0).rtcRegisters :=
      onTime_iff.mpr ⟨hinv.masked, hrunning, hseconds, hminutes, hhours⟩
    obtain ⟨hon', hdivides⟩ := run_divides h hrtc hon hwrites
    have hend := (Reachable.rtc (r.reachable h le_rfl) : RtcInv (r.state r.length))
    rw [Divider.iterate_step hinv.cyclesLeft_pos hinv.cyclesLeft_le] at hdivides
    have hafter : after = (Sticky.tick calendarPeriod)^[k] before := congrArg Prod.snd hdivides
    rw [Sticky.tick_iterate (ticks_rtcInc _ hon).1] at hafter
    refine ⟨congrArg Sticky.value hafter, ?_, hon', hend.cyclesLeft_pos, hend.cyclesLeft_le⟩
    rw [hafter, Bool.or_eq_true, decide_eq_true_eq]
    rfl

/-- A second after a cartridge with a clock was loaded, the clock shows one second. -/
theorem rtc_keeps_time_second :
    ∃ r : Machine.Run step, Reachable (r.state 0) ∧ r.length = 1048576 ∧
      (calendar (r.state r.length).rtcRegisters).value = 1 := by
  obtain ⟨m, hm⟩ := exists_of_isOk (x := Mbc3.new.load (.blank 0x0F 0 0xD8)) (by decide +kernel)
  have hreach : Reachable m := .start ⟨_, hm⟩
  have hrtc : (Mbc3.new.load (.blank 0x0F 0 0xD8)).toOption.map Mbc3.hasRtc = some true := by
    decide +kernel
  rw [hm] at hrtc
  obtain ⟨r, hlen, hin, hstart⟩ : ∃ r : Machine.Run step, r.length = 1048576 ∧
      r.input = (fun _ => .clock) ∧ r.state 0 = m :=
    Machine.Run.ofTotal (I := fun _ => RtcInv) _ hreach.rtc (fun _ m hinv => total_clock hinv) _
  obtain ⟨hregs, hleft⟩ := load_rtc hm
  have hcount : Nat.count (fun i => isClock (r.input i) = true) r.length = 1048576 := by
    rw [hin, hlen]
    exact Nat.count_iff_forall.mpr fun _ _ => rfl
  have hvalue := ((rtc_keeps_time hreach (Option.some_inj.mp hrtc)).2.2
    (by rw [hregs]; decide) (by rw [hregs]; decide) (by rw [hregs]; decide) (by rw [hregs]; decide)
    r hstart (fun i _ hi => by rw [hin] at hi; exact hi)).1
  rw [hcount, hregs, hleft] at hvalue
  exact ⟨r, hstart ▸ hreach, hlen, hvalue⟩

end Mbc3

end ZenithGb
