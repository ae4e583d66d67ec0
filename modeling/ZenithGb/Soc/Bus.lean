import ZenithGb.Soc.Dma

/-!
# The system on chip: clocking and the bus

`SOC::clock`, `clock_timer_write`, `clock_read` and `clock_write`. A bus access clocks the system
first and then touches the memory; `readBus` and `writeBus` are the second half.
-/

namespace ZenithGb

namespace Soc

/-! ### Clocking -/

/-- Clock a component that runs at 4 MHz whatever the speed of the CPU. -/
def clock4Mhz {α : Type} (doubleSpeed : Bool) (cycle : ℕ) (cb : α → Checked α) (a : α) :
    Checked α :=
  if !doubleSpeed || cycle &&& 0x1 == 0 then cb a else .ok a

/-- One M-cycle of the system. -/
def clock (s : Soc) : Checked Soc := do
  let cycle := s.cycles
  let doubleSpeed := s.cpuSpeed
  let s ← s.clockDma
  let s ← clock4Mhz doubleSpeed cycle clockHdma s
  let ctx : ClockContext := ⟨s.rIf, s.eventBits⟩
  let (ppu, ctx) ← clock4Mhz doubleSpeed cycle (fun c => c.1.clock c.2) (s.ppu, ctx)
  let (timer, ctx) := s.timer.clock ctx
  let mbc ← clock4Mhz doubleSpeed cycle Mbc.clock s.mbc
  let apu ← clock4Mhz doubleSpeed cycle Apu.clock s.apu
  let (serial, ctx) ← s.serial.clock ctx
  let cycles ← checkedAdd 64 .socClock s.cycles 1
  return { s with
    ppu, timer, mbc, apu, serial, cycles, rIf := ctx.interrupts, eventBits := ctx.events }

/-- One M-cycle in which the timer is written instead of clocked. -/
def clockTimerWrite (s : Soc)
    (clockCb : Timer → UInt8 → ClockContext → Timer × ClockContext) (data : UInt8) :
    Checked Soc := do
  let cycle := s.cycles
  let doubleSpeed := s.cpuSpeed
  let s ← s.clockDma
  let s ← clock4Mhz doubleSpeed cycle clockHdma s
  let ctx : ClockContext := ⟨s.rIf, s.eventBits⟩
  let (ppu, ctx) ← clock4Mhz doubleSpeed cycle (fun c => c.1.clock c.2) (s.ppu, ctx)
  let (timer, ctx) := clockCb s.timer data ctx
  let mbc ← clock4Mhz doubleSpeed cycle Mbc.clock s.mbc
  let apu ← clock4Mhz doubleSpeed cycle Apu.clock s.apu
  let (serial, ctx) ← s.serial.clock ctx
  let cycles ← checkedAdd 64 .socClock s.cycles 1
  return { s with
    ppu, timer, mbc, apu, serial, cycles, rIf := ctx.interrupts, eventBits := ctx.events }

/-! ### Reading -/

/-- A register that only CGB hardware has, whatever mode it runs in. -/
def cgbHardware (s : Soc) (v : UInt8) : UInt8 := if s.ctx.compMode ≠ .modeDmg then v else 0xFF

def readP1 (s : Soc) : UInt8 :=
  calcButtonBits s.buttons (!s.p1SelectButtons) (!s.p1SelectDpad) |||
    ((bit s.p1SelectButtons) <<< (5 : UInt8)) ||| ((bit s.p1SelectDpad) <<< (4 : UInt8)) |||
    (0xC0 : UInt8)

/-- HDMA5: the blocks left minus one while an HBlank transfer is active. -/
def readHdma5 (s : Soc) : Checked UInt8 :=
  match s.hdma with
  | some active =>
    if active.hblankDma then do
      let left ← checkedSub .clockRead active.initial active.count
      let blocksLeft ← checkedSub .clockRead (left / 0x10) 1
      return UInt8.ofNat blocksLeft &&& 0x7F
    else .ok 0xFF
  | none => .ok 0xFF

def readReg (s : Soc) (address : ℕ) : HwReg → Checked UInt8
  | .p1 => .ok s.readP1
  | .sb => .ok s.serial.readSb
  | .sc => .ok s.serial.readSc
  | .div => .ok s.timer.readDiv
  | .tima => .ok s.timer.readTima
  | .tma => .ok s.timer.readTma
  | .tac => .ok s.timer.readTac
  | .if => .ok (s.rIf ||| 0xE0)
  | .nr10 => .ok s.apu.channel1.readNr10
  | .nr11 => .ok s.apu.channel1.readNr11
  | .nr12 => .ok s.apu.channel1.readNr12
  | .nr13 => .ok s.apu.channel1.readNr13
  | .nr14 => .ok s.apu.channel1.readNr14
  | .nr21 => .ok s.apu.channel2.readNr21
  | .nr22 => .ok s.apu.channel2.readNr22
  | .nr23 => .ok s.apu.channel2.readNr23
  | .nr24 => .ok s.apu.channel2.readNr24
  | .waveRam => s.apu.channel3.readWaveRam address
  | .nr30 => .ok s.apu.channel3.readNr30
  | .nr31 => .ok s.apu.channel3.readNr31
  | .nr32 => .ok s.apu.channel3.readNr32
  | .nr33 => .ok s.apu.channel3.readNr33
  | .nr34 => .ok s.apu.channel3.readNr34
  | .nr41 => .ok s.apu.channel4.readNr41
  | .nr42 => .ok s.apu.channel4.readNr42
  | .nr43 => .ok s.apu.channel4.readNr43
  | .nr44 => .ok s.apu.channel4.readNr44
  | .nr50 => .ok s.apu.readNr50
  | .nr51 => .ok s.apu.readNr51
  | .nr52 => .ok s.apu.readNr52
  | .lcdc => .ok s.ppu.readLcdc
  | .stat => .ok s.ppu.readStat
  | .ly => .ok s.ppu.readLy
  | .scy => .ok s.ppu.readScy
  | .scx => .ok s.ppu.readScx
  | .lyc => .ok s.ppu.readLyc
  | .dma => .ok s.dma
  | .bgp => .ok s.ppu.readBgp
  | .obp0 => .ok s.ppu.readObp0
  | .obp1 => .ok s.ppu.readObp1
  | .wy => .ok s.ppu.readWy
  | .wx => .ok s.ppu.readWx
  | .key1 =>
    .ok (if s.ctx.cgb then bit s.cpuSpeedArmed ||| ((bit s.cpuSpeed) <<< (7 : UInt8)) else 0xFF)
  | .vbk => .ok s.ppu.readVbk
  | .hdma5 => s.readHdma5
  | .bcps => .ok s.ppu.readBcps
  | .bcpd => .ok s.ppu.readBcpd
  | .ocps => .ok s.ppu.readOcps
  | .ocpd => .ok s.ppu.readOcpd
  | .opri => .ok s.ppu.readOpri
  | .svbk => .ok (if s.ctx.cgb then s.svbk else 0xFF)
  | .ff72 => .ok (s.cgbHardware s.hwrFf72)
  | .ff73 => .ok (s.cgbHardware s.hwrFf73)
  | .ff74 => .ok (s.cgbHardware s.hwrFf74)
  | .ff75 => .ok (s.cgbHardware (s.hwrFf75 ||| 0x8F))
  | .ff76 => .ok (s.cgbHardware 0x00)
  | .ff77 => .ok (s.cgbHardware 0x00)
  | .hdma1 | .hdma2 | .hdma3 | .hdma4 => .ok 0xFF

/-- The memory map of `clock_read`, in the state after the clock. `activeDma` says whether an OAM
DMA was active before it. -/
def readBus (s : Soc) (activeDma : Bool) (address : ℕ) : Checked UInt8 :=
  if address ≤ 0x7FFF then s.mbc.read address
  else if address ≤ 0x9FFF then .ok (s.ppu.readVram address)
  else if address ≤ 0xBFFF then s.mbc.read address
  else if address ≤ 0xFDFF then do
    let index ← s.wramIndex .clockRead address
    s.wram.get (.index .clockRead) index
  else if address ≤ 0xFE9F then
    if activeDma then .ok 0xFF else s.ppu.readOam address
  else if address ≤ 0xFEFF then .ok 0
  else if address ≤ 0xFF7F then
    match HwReg.ofAddr address with
    | some r => s.readReg address r
    | none => .ok 0xFF
  else if address ≤ 0xFFFE then s.hram.get (.index .clockRead) (address - 0xFF80)
  else .ok s.ie

def clockRead (s : Soc) (address : UInt16) : Checked (UInt8 × Soc) := do
  let activeDma := s.activeDma.isSome
  let s ← s.clock
  return (← s.readBus activeDma address.toNat, s)

/-! ### Writing -/

/-- A write that only CGB mode performs. -/
def whenCgb (s : Soc) (write : Soc) : Soc := if !s.ctx.cgb then s else write

/-- Writing HDMA5 starts a transfer from the latched addresses. -/
def writeHdma5 (s : Soc) (data : UInt8) : Soc :=
  s.whenCgb { s with
    hdma := some {
      dst := (s.hdmaDst &&& (0x1FF0 : UInt16)).toNat
      src := (s.hdmaSrc &&& (0xFFF0 : UInt16)).toNat
      initial := ((data &&& (0x7F : UInt8)).toNat + 1) * 0x10
      count := 0
      hblankDma := data &&& 0x80 != 0 } }

/-- The registers whose write clocks the timer in its own way. -/
def timerWriteOf : HwReg → Option (Timer → UInt8 → ClockContext → Timer × ClockContext)
  | .div => some Timer.clockWriteDiv
  | .tac => some Timer.clockWriteTac
  | .tima => some Timer.clockWriteTima
  | .tma => some Timer.clockWriteTma
  | _ => none

def writeReg (s : Soc) (address : ℕ) (data : UInt8) : HwReg → Checked Soc
  | .p1 => .ok { s with
      p1SelectButtons := data &&& 0x20 != 0, p1SelectDpad := data &&& 0x10 != 0 }
  | .sb => .ok { s with serial := s.serial.writeSb data }
  | .sc => .ok { s with serial := s.serial.writeSc data }
  | .if => .ok { s with rIf := data &&& 0x1F }
  | .dma => .ok { s with dmaRequest := some data, dma := data }
  | .nr10 => do return { s with apu := ← s.apu.writeNr10 data }
  | .nr11 => do return { s with apu := ← s.apu.writeNr11 data }
  | .nr12 => do return { s with apu := ← s.apu.writeNr12 data }
  | .nr13 => do return { s with apu := ← s.apu.writeNr13 data }
  | .nr14 => do return { s with apu := ← s.apu.writeNr14 data }
  | .nr21 => do return { s with apu := ← s.apu.writeNr21 data }
  | .nr22 => do return { s with apu := ← s.apu.writeNr22 data }
  | .nr23 => do return { s with apu := ← s.apu.writeNr23 data }
  | .nr24 => do return { s with apu := ← s.apu.writeNr24 data }
  | .waveRam => do return { s with apu := ← s.apu.writeWaveRam address data }
  | .nr30 => do return { s with apu := ← s.apu.writeNr30 data }
  | .nr31 => do return { s with apu := ← s.apu.writeNr31 data }
  | .nr32 => do return { s with apu := ← s.apu.writeNr32 data }
  | .nr33 => do return { s with apu := ← s.apu.writeNr33 data }
  | .nr34 => do return { s with apu := ← s.apu.writeNr34 data }
  | .nr41 => do return { s with apu := ← s.apu.writeNr41 data }
  | .nr42 => do return { s with apu := ← s.apu.writeNr42 data }
  | .nr43 => do return { s with apu := ← s.apu.writeNr43 data }
  | .nr44 => do return { s with apu := ← s.apu.writeNr44 data }
  | .nr50 => .ok { s with apu := s.apu.writeNr50 data }
  | .nr51 => .ok { s with apu := s.apu.writeNr51 data }
  | .nr52 => .ok { s with apu := s.apu.writeNr52 data }
  | .lcdc => .ok { s with ppu := s.ppu.writeLcdc data }
  | .stat => .ok { s with ppu := s.ppu.writeStat data }
  | .ly => .ok { s with ppu := s.ppu.writeLy data }
  | .scy => .ok { s with ppu := s.ppu.writeScy data }
  | .scx => .ok { s with ppu := s.ppu.writeScx data }
  | .lyc => .ok { s with ppu := s.ppu.writeLyc data }
  | .bgp => .ok { s with ppu := s.ppu.writeBgp data }
  | .obp0 => .ok { s with ppu := s.ppu.writeObp0 data }
  | .obp1 => .ok { s with ppu := s.ppu.writeObp1 data }
  | .wy => .ok { s with ppu := s.ppu.writeWy data }
  | .wx => .ok { s with ppu := s.ppu.writeWx data }
  | .key1 => .ok (s.whenCgb { s with cpuSpeedArmed := data &&& 0x1 != 0 })
  | .vbk => .ok { s with ppu := s.ppu.writeVbk data }
  | .hdma1 => .ok { s with hdmaSrc := setHigh s.hdmaSrc data }
  | .hdma2 => .ok { s with hdmaSrc := setLow s.hdmaSrc data }
  | .hdma3 => .ok { s with hdmaDst := setHigh s.hdmaDst data }
  | .hdma4 => .ok { s with hdmaDst := setLow s.hdmaDst data }
  | .hdma5 => .ok (s.writeHdma5 data)
  | .bcps => .ok { s with ppu := s.ppu.writeBcps data }
  | .bcpd => .ok { s with ppu := s.ppu.writeBcpd data }
  | .ocps => .ok { s with ppu := s.ppu.writeOcps data }
  | .ocpd => .ok { s with ppu := s.ppu.writeOcpd data }
  | .opri => .ok { s with ppu := s.ppu.writeOpri data }
  | .svbk => .ok (s.whenCgb { s with svbk := data &&& 0x7 })
  | .ff72 => .ok (s.whenCgb { s with hwrFf72 := data })
  | .ff73 => .ok (s.whenCgb { s with hwrFf73 := data })
  | .ff74 => .ok (s.whenCgb { s with hwrFf74 := data })
  | .ff75 => .ok (s.whenCgb { s with hwrFf75 := data &&& 0x70 })
  | .div | .tac | .tima | .tma => .ok s
  | .ff76 | .ff77 => .ok s

/-- The memory map of `clock_write`, in the state after the clock, for every address but those of
the timer registers. -/
def writeBus (s : Soc) (activeDma : Bool) (address : ℕ) (data : UInt8) : Checked Soc :=
  if address ≤ 0x7FFF then do return { s with mbc := ← s.mbc.write address data }
  else if address ≤ 0x9FFF then .ok { s with ppu := s.ppu.writeVram address data }
  else if address ≤ 0xBFFF then do return { s with mbc := ← s.mbc.write address data }
  else if address ≤ 0xFDFF then do
    let index ← s.wramIndex .clockWrite address
    return { s with wram := ← s.wram.set (.index .clockWrite) index data }
  else if address ≤ 0xFE9F then
    if activeDma then .ok s
    else do return { s with ppu := ← s.ppu.writeOam address data }
  else if address ≤ 0xFEFF then .ok s
  else if address ≤ 0xFF7F then
    match HwReg.ofAddr address with
    | some r => s.writeReg address data r
    | none => .ok s
  else if address ≤ 0xFFFE then do
    return { s with hram := ← s.hram.set (.index .clockWrite) (address - 0xFF80) data }
  else .ok { s with ie := data }

def clockWrite (s : Soc) (address : UInt16) (data : UInt8) : Checked Soc :=
  match (HwReg.ofAddr address.toNat).bind timerWriteOf with
  | some clockCb => s.clockTimerWrite clockCb data
  | none => do
    let activeDma := s.activeDma.isSome
    let s ← s.clock
    s.writeBus activeDma address.toNat data

end Soc

end ZenithGb
