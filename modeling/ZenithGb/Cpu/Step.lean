import ZenithGb.Cpu.Table

/-!
# The CPU: interrupts and the step

`check_interrupts`, `handle_interrupt` and `CPU::step`. The opcode of the next instruction is
always fetched at the end of the previous step.
-/

namespace ZenithGb

def interruptBits : List UInt8 :=
  [interruptBitVblank, interruptBitLcd, interruptBitTimer, interruptBitSerial, interruptBitJoypad]

def interruptVecs : List UInt16 := [0x40, 0x48, 0x50, 0x58, 0x60]

def interruptCycles : ℕ := 5

namespace Exec

/-- The first active interrupt in order of priority, with its vector. -/
def activeInterrupt (soc : Soc) : Option (UInt8 × UInt16) :=
  (interruptBits.zip interruptVecs).find? fun i => soc.activeInterrupts &&& i.1 != 0

/-- Continue at the vector of the interrupt that is served, or at 0 if pushing PC cancelled it. -/
def enterInterrupt (active : Option (UInt8 × UInt16)) : Exec Unit :=
  match active with
  | some (interruptBit, vec) => do
    modifyCpu (·.setPc vec)
    modifySoc (·.clearInterrupt interruptBit)
  | none => modifyCpu (·.setPc 0x0)

def handleInterrupt : Exec Unit := do
  clock
  clock
  let pcVal ← check (checkedSubU16 .handleInterrupt (← cpu).regPc 1)
  -- Note: push pc is done in 2 parts to allow interrupt canceling
  clockPushU8 (getHigh pcVal)
  let active := activeInterrupt (← soc)
  clockPushU8 (getLow pcVal)
  enterInterrupt active
  modifyCpu fun c => { c with ime := false }
  clockFetch

/-- A pending interrupt ends HALT; with IME set it is dispatched. -/
def checkInterrupts : Exec Bool := do
  let soc ← soc
  if soc.activeInterrupts = 0x0 then return false
  else
    modifyCpu fun c => { c with halted := false }
    modifySoc (·.setCpuHalted false)
    if !(← cpu).ime then return false
    else if interruptBits.any fun interruptBit => soc.activeInterrupts &&& interruptBit != 0 then
      handleInterrupt
      return true
    else return false

/-- EI takes effect one instruction late. -/
def applyImeNext : Exec Unit :=
  modifyCpu fun c => if c.imeNext then { c with ime := true, imeNext := false } else c

/-- The instruction of the fetched opcode; 0xCB selects the second table by another fetch. -/
def fetchInstruction : Exec (Instruction × UInt8) := do
  let opcode := (← cpu).opcode
  if opcode = 0xCB then
    clockFetch
    let opcode := (← cpu).opcode
    return (getInstructionCb opcode, opcode)
  else return (getInstruction opcode, opcode)

/-- Verify that soc was clocked correct number of times. -/
def checkCycles (inst : Instruction) (isInterruptCycle : Bool) (elapsed : ℕ) : Exec Unit := do
  let cycles := if (← cpu).branchSkipped then inst.cyclesSkipped else inst.cycles
  check (assert .cpuStep (cycles + (if isInterruptCycle then interruptCycles else 0) = elapsed))

def step : Exec ℕ := do
  let socCycles := (← soc).cycles
  let isInterruptCycle ← checkInterrupts
  applyImeNext
  if (← cpu).halted then
    clock
    let elapsed ← check (checkedSub .cpuHalted (← soc).cycles socCycles)
    check (assert .cpuHalted (elapsed = 1))
    return elapsed
  else
    let (inst, opcode) ← fetchInstruction
    inst.exec.call inst opcode
    clockFetch
    let elapsed ← check (checkedSub .cpuStep (← soc).cycles socCycles)
    checkCycles inst isInterruptCycle elapsed
    modifyCpu fun c => { c with branchSkipped := false }
    return elapsed

end Exec

end ZenithGb
