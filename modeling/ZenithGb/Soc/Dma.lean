import ZenithGb.Soc.State

/-!
# The system on chip: the two DMA engines

`dma_read!`, `clock_dma` and `clock_hdma`.
-/

namespace ZenithGb

namespace Soc

/-- The index into work RAM of an address in 0xC000-0xFDFF. Echo RAM is not banked. -/
def wramIndex (s : Soc) (site : Site) (address : ℕ) : Checked ℕ :=
  if address ≤ 0xCFFF then .ok (address - 0xC000)
  else if address ≤ 0xDFFF then do
    let bankOffset ← checkedMul 16 site s.svbk.toNat 0x2000
    checkedAdd 16 site (address - 0xC000) bankOffset
  else .ok (address - 0xE000)

/-- The memory map the DMA engines read through, each in its own copy of the macro. -/
def dmaRead (s : Soc) (site : Site) (address : ℕ) : Checked UInt8 :=
  if address ≤ 0x7FFF then s.mbc.read address
  else if address ≤ 0x9FFF then .ok (s.ppu.readVram address)
  else if address ≤ 0xBFFF then s.mbc.read address
  else if address ≤ 0xFDFF then do
    let index ← s.wramIndex site address
    s.wram.get (.index site) index
  else .error (.unreachable site)

/-! ### OAM DMA -/

/-- Where an OAM DMA reads for the byte at `dst`: the two highest pages show work RAM. -/
def oamDmaAddress (dst : ℕ) : ℕ := if 0xFE00 ≤ dst then 0xC000 + (dst &&& 0x1FFF) else dst

/-- Copy the next byte of the active transfer. -/
def stepDma (s : Soc) (active : DmaTransfer) : Checked Soc := do
  let dst ← checkedAdd 16 .clockDma active.src active.count
  let address := oamDmaAddress dst
  assert .clockDma (address < 0xFE00 ∨ address > 0xFE9F)
  let byte ← s.dmaRead .dmaRead address
  let ppu ← s.ppu.oamDma (0xFE00 + active.count) byte
  let cycles ← checkedAdd 16 .clockDma active.cycles 1
  let count ← checkedAdd 8 .clockDma active.count 1
  let activeDma := if count > 0x9F then none else some { active with cycles, count }
  return { s with ppu, activeDma }

/-- Start the transfer that was requested, dropping one in progress. -/
def startDma (s : Soc) : Soc :=
  match s.dmaRequest with
  | some dmaRequest =>
    { s with
      dmaRequest := none
      -- cycle 1 initialization delay
      activeDma := some { src := (value dmaRequest 0x0).toNat, count := 0, cycles := 1 } }
  | none => s

def clockDma (s : Soc) : Checked Soc := do
  let s ← match s.activeDma with
    | some active => s.stepDma active
    | none => pure s
  return s.startDma

/-! ### VRAM DMA -/

/-- Copy the byte at one offset of a VRAM DMA. -/
def copyHdmaByte (active : Hdma) (s : Soc) (offset : ℕ) : Checked Soc := do
  let srcAddr ← checkedAdd 16 .hdmaSrc active.src offset
  let dstAddr ← checkedAdd 16 .hdmaDst active.dst offset
  let byte ← s.dmaRead .hdmaRead srcAddr
  return { s with ppu := s.ppu.writeVram dstAddr byte }

/-- Copy the bytes at `n` offsets from `start` on. -/
def copyHdma (active : Hdma) (start n : ℕ) (s : Soc) : Checked Soc :=
  (List.range' start n).foldlM (copyHdmaByte active) s

/-- The next block of an HBlank transfer. -/
def stepHblankDma (s : Soc) (active : Hdma) : Checked Soc := do
  let left ← checkedSub .clockHdma active.initial active.count
  let bytesToTransfer := min 0x10 left
  let count ← checkedAdd 16 .clockHdma active.count bytesToTransfer
  let s ← copyHdma active active.count bytesToTransfer s
  let left ← checkedSub .clockHdma active.initial count
  return { s with hdma := if left = 0 then none else some { active with count } }

def clockHdma (s : Soc) : Checked Soc :=
  match s.hdma with
  | none => .ok s
  | some active =>
    if active.hblankDma then
      if s.ppu.getHblankCycle && !s.cpuHalted then s.stepHblankDma active else .ok s
    else do
      let s ← copyHdma active 0 active.initial s
      return { s with hdma := none }

end Soc

end ZenithGb
