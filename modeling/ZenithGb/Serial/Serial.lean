import ZenithGb.Serial.Printer

/-!
# The serial port

`serial.rs`: eight shifts and a finish, with the printer as the peer.
-/

namespace ZenithGb

structure Serial where
  sb : UInt8
  shiftCounter : ℕ
  incoming : Option UInt8
  regEnable : Bool
  regSelect : Bool
  printer : Printer
  deriving DecidableEq, Repr

namespace Serial

def new : Serial :=
  { sb := 0, regEnable := false, regSelect := false, incoming := none, shiftCounter := 0,
    printer := .new }

def finishTransmission (s : Serial) (ctx : ClockContext) : Serial × ClockContext :=
  ({ s with regEnable := false, shiftCounter := 0, incoming := none },
    ctx.setInterrupt interruptBitSerial)

def clock (s : Serial) (ctx : ClockContext) : Checked (Serial × ClockContext) :=
  if !s.regEnable || !s.regSelect then .ok (s, ctx)
  else if s.shiftCounter = 8 then .ok (s.finishTransmission ctx)
  else do
    let s ←
      if s.shiftCounter = 0 then do
        let printer ← s.printer.sendByte s.sb
        let (incoming, printer) := printer.take
        pure { s with printer, incoming }
      else pure s
    match s.incoming with
    | some incoming =>
      let currBit ← checkedSub .serialClock 7 s.shiftCounter
      let sb := (s.sb <<< 1) ||| ((incoming >>> UInt8.ofNat currBit) &&& 0x1)
      let shiftCounter ← checkedAdd 8 .serialClock s.shiftCounter 1
      return ({ s with sb, shiftCounter }, ctx)
    | none => return (s, ctx)

def readSb (s : Serial) : UInt8 := s.sb

def writeSb (s : Serial) (data : UInt8) : Serial := { s with sb := data }

def readSc (s : Serial) : UInt8 := (bit s.regEnable <<< 7) ||| bit s.regSelect ||| 0x7E

def writeSc (s : Serial) (data : UInt8) : Serial :=
  { s with regEnable := data &&& 0x80 != 0, regSelect := data &&& 0x1 != 0 }

end Serial

end ZenithGb
