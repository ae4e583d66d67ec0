import ZenithGb.Util

/-!
# The timer

`timer.rs`. The divider counts up by four every M-cycle; TIMA counts the falling edges of one of
its bits, and an overflow of TIMA is served one operation later by a reload from TMA and an
interrupt.
-/

namespace ZenithGb

structure Timer where
  andResult : Bool
  timaOverflow : Bool
  /-- xxxxxess -/
  tac : UInt8
  div : UInt16
  tima : UInt8
  tma : UInt8
  deriving DecidableEq, Repr

namespace Timer

def new : Timer :=
  { andResult := false, timaOverflow := false, tac := 0, div := 0xABCC, tima := 0, tma := 0 }

/-- Count a falling edge of the selected divider bit. -/
def checkIncrement (t : Timer) : Timer :=
  let timerEnable := t.tac &&& 0x4 != 0
  let divBit : Bool :=
    match (t.tac &&& (0x3 : UInt8)).toNat with
    | 0 => t.div &&& 0x200 != 0
    | 1 => t.div &&& 0x8 != 0
    | 2 => t.div &&& 0x20 != 0
    | _ => t.div &&& 0x80 != 0
  let andResult := divBit && timerEnable
  let t := if t.andResult && !andResult then
      let timaNext := t.tima + 1
      { t with tima := timaNext, timaOverflow := t.timaOverflow || timaNext == 0 }
    else t
  { t with andResult }

/-- One M-cycle. -/
def clock (t : Timer) (ctx : ClockContext) : Timer × ClockContext :=
  let (t, ctx) := if t.timaOverflow then
      ({ t with tima := t.tma, timaOverflow := false }, ctx.setInterrupt interruptBitTimer)
    else (t, ctx)
  ({ t with div := t.div + 4 }.checkIncrement, ctx)

def readTac (t : Timer) : UInt8 := t.tac ||| 0xF8
def readDiv (t : Timer) : UInt8 := (t.div >>> (8 : UInt16)).toUInt8
def readTima (t : Timer) : UInt8 := t.tima
def readTma (t : Timer) : UInt8 := t.tma

def clockWriteTac (t : Timer) (data : UInt8) (ctx : ClockContext) : Timer × ClockContext :=
  let (t, ctx) := t.clock ctx
  ({ t with tac := data &&& 0x7 }.checkIncrement, ctx)

def clockWriteDiv (t : Timer) (_data : UInt8) (ctx : ClockContext) : Timer × ClockContext :=
  let (t, ctx) := t.clock ctx
  ({ t.checkIncrement with div := 0 }, ctx)

def clockWriteTima (t : Timer) (data : UInt8) (ctx : ClockContext) : Timer × ClockContext :=
  let overflow := t.timaOverflow
  let (t, ctx) := t.clock ctx
  if !overflow then ({ t with timaOverflow := false, tima := data }, ctx) else (t, ctx)

def clockWriteTma (t : Timer) (data : UInt8) (ctx : ClockContext) : Timer × ClockContext :=
  let overflow := t.timaOverflow
  let (t, ctx) := t.clock ctx
  let t := { t with tma := data }
  if overflow then ({ t with tima := data }, ctx) else (t, ctx)

def resetDiv (t : Timer) : Timer := { t with div := 0 }

end Timer

end ZenithGb
