import ZenithGb.Cartridge

/-!
# MBC3

`mbc3.rs`: banked ROM and RAM, and on two cartridge types a real-time clock.
-/

namespace ZenithGb

structure Mbc3 where
  rom : Buf UInt8
  ram : Buf UInt8
  /-- 7-bit rom bank number -/
  romBank : ℕ
  /-- 2-bit ram bank number -/
  ramBank : Option ℕ
  ramEnabled : Bool
  numRomBanks : ℕ
  numRamBanks : ℕ
  hasRtc : Bool
  rtcRegisters : Mem 5 UInt8
  rtcLatch : Option (Mem 5 UInt8)
  rtcSelect : Option ℕ
  rtcLatchNext : Bool
  rtcCyclesLeft : ℕ

namespace Mbc3

def gbClocksPerSecond : ℕ := 4194304 / 4

def rtcS : ℕ := 0
def rtcDl : ℕ := 3
def rtcDh : ℕ := 4

def new : Mbc3 :=
  { rom := .empty, ram := .empty, romBank := 1, ramBank := none, ramEnabled := false,
    numRomBanks := 1, numRamBanks := 1, hasRtc := false, rtcRegisters := .fill 5 0,
    rtcLatch := none, rtcSelect := none, rtcLatchNext := false,
    rtcCyclesLeft := gbClocksPerSecond }

def rtcRegisterMask (rtcSelect : ℕ) : Checked UInt8 :=
  match rtcSelect with
  | 0 | 1 => .ok 0b111111
  | 2 => .ok 0b11111
  | 3 => .ok 0b11111111
  | 4 => .ok 0b11000001
  | _ => .error (.unreachable .mbc3Rtc)

def rtcRollover (rtcSelect : ℕ) : Checked ℕ :=
  match rtcSelect with
  | 0 | 1 => .ok 60
  | 2 => .ok 24
  | 3 => .ok 0x1FF
  | _ => .error (.unreachable .mbc3Rtc)

/-- The days arm of `rtc_inc`. -/
def rtcIncDays (m : Mbc3) : Checked Mbc3 := do
  let dh ← m.rtcRegisters.get (.index .mbc3Rtc) rtcDh
  let dl ← m.rtcRegisters.get (.index .mbc3Rtc) rtcDl
  let dayCounter := value dh dl + 1
  let dayCounter :=
    -- overflow: the day counter carry bit is set and the halt bit is kept
    if dayCounter &&& 0x200 ≠ 0 then 0x8000 ||| (dayCounter &&& 0x4000) else dayCounter
  let regs ← m.rtcRegisters.set (.index .mbc3Rtc) rtcDh (getHigh dayCounter)
  let regs ← regs.set (.index .mbc3Rtc) rtcDl (getLow dayCounter)
  return { m with rtcRegisters := regs }

/-- The seconds-to-hours arm of `rtc_inc`, with the increment of the next register as `carry`. -/
def rtcIncBelowDays (rtcSelect : ℕ) (carry : Mbc3 → Checked Mbc3) (m : Mbc3) : Checked Mbc3 := do
  let reg ← m.rtcRegisters.get (.index .mbc3Rtc) rtcSelect
  let reg := reg + 1
  let mask ← rtcRegisterMask rtcSelect
  let rollover ← rtcRollover rtcSelect
  if reg &&& mask = 0 then
    let regs ← m.rtcRegisters.set (.index .mbc3Rtc) rtcSelect 0
    return { m with rtcRegisters := regs }
  else if rollover = reg.toNat then
    let regs ← m.rtcRegisters.set (.index .mbc3Rtc) rtcSelect 0
    carry { m with rtcRegisters := regs }
  else
    let regs ← m.rtcRegisters.set (.index .mbc3Rtc) rtcSelect reg
    return { m with rtcRegisters := regs }

/-- `rtc_inc`: its recursion goes from one register to the next and ends at the days. -/
def rtcInc (rtcSelect : ℕ) (m : Mbc3) : Checked Mbc3 :=
  match rtcSelect with
  | 0 => rtcIncBelowDays 0 (rtcIncBelowDays 1 (rtcIncBelowDays 2 rtcIncDays)) m
  | 1 => rtcIncBelowDays 1 (rtcIncBelowDays 2 rtcIncDays) m
  | 2 => rtcIncBelowDays 2 rtcIncDays m
  | 3 => rtcIncDays m
  | _ => .error (.unreachable .mbc3Rtc)

def load (m : Mbc3) (cartridge : Cartridge) : Checked Mbc3 := do
  let hdr := cartridge.header
  let banks ← romBanks hdr
  let ramBanks ← ramBanks hdr
  assert .mbc3Load (banks.sizeBytes = cartridge.data.size)
  let rom ← cartridge.data.slice (.index .mbc3Load) banks.sizeBytes
  let ram := Buf.fill ramBanks.sizeBytes 0
  let hasRtc := hdr.cartType == 0x0F || hdr.cartType == 0x10
  let ram ← restoreRam (hdr.cartType = 0x10 ∨ hdr.cartType = 0x13) cartridge.saveFile ram
  return { m with
    rom, ram, hasRtc, numRomBanks := banks.numBanks, numRamBanks := ramBanks.numBanks }

def read (m : Mbc3) (address : ℕ) : Checked UInt8 :=
  if address ≤ 0x3FFF then m.rom.get (.index .mbc3Read) address
  else if address ≤ 0x7FFF then
    m.rom.get (.index .mbc3Read) (0x4000 * m.romBank + (address - 0x4000))
  else if 0xA000 ≤ address ∧ address ≤ 0xBFFF then
    if !m.ramEnabled then .ok 0xFF
    else
      match m.rtcSelect with
      | some rtcSelect =>
        match m.rtcLatch with
        | some rtcLatch => rtcLatch.get (.index .mbc3Read) rtcSelect
        | none => .ok 0xFF
      | none =>
        match m.ramBank with
        | some ramBank => m.ram.get (.index .mbc3Read) (0x2000 * ramBank + (address - 0xA000))
        | none => .ok 0xFF
  else .error (.unreachable .mbc3Read)

/-- The write to an RTC register through the external window. -/
def writeRtc (m : Mbc3) (rtcSelect : ℕ) (data : UInt8) : Checked Mbc3 := do
  let mask ← rtcRegisterMask rtcSelect
  let valMasked := data &&& mask
  let regs ← m.rtcRegisters.set (.index .mbc3Write) rtcSelect valMasked
  let m := { m with
    rtcRegisters := regs
    rtcCyclesLeft := if rtcSelect = 0 then gbClocksPerSecond else m.rtcCyclesLeft }
  match m.rtcLatch with
  | some rtcLatch =>
    let rtcLatch ← rtcLatch.set (.index .mbc3Write) rtcSelect valMasked
    return { m with rtcLatch := some rtcLatch }
  | none => return m

def write (m : Mbc3) (address : ℕ) (data : UInt8) : Checked Mbc3 :=
  if address ≤ 0x1FFF then
    -- Note: Also enables access to RTC
    .ok { m with ramEnabled := data &&& 0xF == 0xA }
  else if address ≤ 0x3FFF then
    let bankNum := data &&& 0x7F
    if bankNum = 0 then .ok { m with romBank := 1 }
    else do
      let romBank ← checkedRem .mbc3Write bankNum.toNat m.numRomBanks
      return { m with romBank }
  else if address ≤ 0x5FFF then
    if data ≤ 0x3 then do
      let ramBank ← checkedRem .mbc3Write data.toNat m.numRamBanks
      return { m with ramBank := some ramBank, rtcSelect := none }
    else if 0x8 ≤ data ∧ data ≤ 0x0C then
      if m.hasRtc then .ok { m with ramBank := none, rtcSelect := some (data.toNat - 0x8) }
      else .ok m
    else .ok m
  else if address ≤ 0x7FFF then
    if !m.hasRtc then .ok m
    else
      let m := if m.rtcLatchNext && data == 1 then { m with rtcLatch := some m.rtcRegisters }
        else m
      .ok { m with rtcLatchNext := data == 0 }
  else if 0xA000 ≤ address ∧ address ≤ 0xBFFF then
    if !m.ramEnabled then .ok m
    else
      match m.rtcSelect with
      | some rtcSelect => m.writeRtc rtcSelect data
      | none =>
        match m.ramBank with
        | some ramBank => do
          let ram ← m.ram.set (.index .mbc3Write) (0x2000 * ramBank + (address - 0xA000)) data
          return { m with ram }
        | none => .ok m
  else .ok m

def clock (m : Mbc3) : Checked Mbc3 :=
  if !m.hasRtc then .ok m
  else do
    let dh ← m.rtcRegisters.get (.index .mbc3Clock) rtcDh
    if dh &&& 0x40 ≠ 0 then return m
    else if m.rtcCyclesLeft ≤ 1 then
      let m ← rtcInc rtcS m
      return { m with rtcCyclesLeft := gbClocksPerSecond - (1 - m.rtcCyclesLeft) }
    else return { m with rtcCyclesLeft := m.rtcCyclesLeft - 1 }

end Mbc3

end ZenithGb
