import Mathlib.Data.Nat.Notation
import ZenithGb.Panic
import ZenithGb.Util

/-!
# The Game Boy Printer

`printer.rs`: the packet parser behind the serial port. Writing the decoded picture to a file
has no effect on the emulator, so `print` returns the picture and `sendByte` drops it.
-/

namespace ZenithGb

inductive PrinterRecvState
  | recvWaitMagic
  | recvWaitCommand
  | recvWaitCompression
  | recvWaitLength
  | recvWaitData
  | recvWaitChecksum
  | recvWaitKeepAlive
  | recvWaitStatus
  deriving DecidableEq, Repr

inductive PrinterStatus
  | printerIdle
  | printerReady
  | printerPrinting
  | printerDone
  deriving DecidableEq, Repr

/-- The status byte. -/
def PrinterStatus.code : PrinterStatus → UInt8
  | .printerIdle => 0
  | .printerReady => 0x8
  | .printerPrinting => 0x6
  | .printerDone => 0x4

structure Printer where
  recvState : PrinterRecvState
  recvData : List UInt8
  status : PrinterStatus
  recvDataLength : ℕ
  ram : List UInt8
  compression : Bool
  output : Option UInt8
  deriving DecidableEq, Repr

namespace Printer

def new : Printer :=
  { ram := [], recvData := [], recvState := .recvWaitMagic, status := .printerIdle,
    recvDataLength := 0, compression := false, output := none }

def reset (p : Printer) : Printer :=
  { p with
    ram := [], recvData := [], recvState := .recvWaitMagic, status := .printerIdle,
    recvDataLength := 0, output := none }

/-- `self.ram[i]`. -/
def ramGet (p : Printer) (i : ℕ) : Checked UInt8 :=
  match p.ram[i]? with
  | some b => .ok b
  | none => .error (.index .printerPrint)

/-- The eight pixels of one line of a tile, leftmost first. -/
def tileLine (palette tileLsb tileMsb : UInt8) : List UInt8 :=
  ([7, 6, 5, 4, 3, 2, 1, 0] : List UInt8).map fun bitIdx =>
    let hb := (tileMsb >>> bitIdx) &&& 0x1
    let lb := (tileLsb >>> bitIdx) &&& 0x1
    let imgPixel := lb ||| (hb <<< 1)
    (palette >>> (imgPixel * 2)) &&& 0x3

/-- Decode the picture in the buffer: one row of palette entries for every 40 bytes. -/
def print (p : Printer) (_numSheets _margins palette _exposure : UInt8) :
    Checked (List (List UInt8)) :=
  let picHeight := p.ram.length / 40
  (List.range picHeight).mapM fun y => do
    let tiles ← (List.range 20).mapM fun xCoord => do
      let tileIndex := (xCoord + 20 * (y / 8)) % 360
      let lineOffset := 2 * (y % 8)
      let tileBase := tileIndex * 16 + lineOffset
      let tileLsb ← p.ramGet tileBase
      let tileMsb ← p.ramGet (tileBase + 1)
      return tileLine palette tileLsb tileMsb
    return tiles.flatten

/-- The end of the payload of a packet. -/
def receivePayload (p : Printer) : Checked Printer :=
  match p.status with
  | .printerPrinting =>
    match p.recvData with
    | [numSheets, margins, palette, exposure] => do
      let _ ← p.print numSheets margins palette exposure
      return p
    | _ => .error (.unreachable .printerSend)
  | .printerReady => return { p with ram := p.ram ++ p.recvData }
  | _ => return p

/-- `self.recv_state = s; self.recv_data.clear();` -/
def goto (p : Printer) (s : PrinterRecvState) : Printer := { p with recvState := s, recvData := [] }

/-- What a received byte does, and the byte sent back. -/
def receive (p : Printer) : Checked (Printer × UInt8) :=
  match p.recvState, p.recvData with
  | .recvWaitMagic, [0x88, 0x33] =>
    let p := if p.status = .printerDone then p.reset else p
    let p := if p.status = .printerPrinting then { p with status := .printerDone } else p
    .ok (p.goto .recvWaitCommand, 0x0)
  | .recvWaitCommand, [0xF] => .ok (p.goto .recvWaitCompression, 0x0)
  -- Command 1: Clear printer RAM
  | .recvWaitCommand, [0x1] => .ok ({ p with ram := [] }.goto .recvWaitCompression, 0x0)
  -- Command 2: Start printing
  | .recvWaitCommand, [0x2] =>
    .ok ({ p with status := .printerPrinting }.goto .recvWaitCompression, 0x0)
  -- Command 4: Fill buffer
  | .recvWaitCommand, [0x4] =>
    .ok ({ p with status := .printerReady }.goto .recvWaitCompression, 0x0)
  | .recvWaitCommand, _ => .error (.unreachable .printerSend)
  | .recvWaitCompression, [useCompression] =>
    .ok ({ p with compression := useCompression != 0 }.goto .recvWaitLength, 0x0)
  | .recvWaitLength, [lsb, msb] =>
    let recvDataLength := (value msb lsb).toNat
    .ok ({ p with recvDataLength }.goto
      (if recvDataLength = 0 then .recvWaitChecksum else .recvWaitData), 0x0)
  | .recvWaitData, recvBuf =>
    if recvBuf.length < p.recvDataLength then .ok (p, 0x0)
    else do
      let p ← p.receivePayload
      return (p.goto .recvWaitChecksum, 0x0)
  | .recvWaitChecksum, [_, _] => .ok (p.goto .recvWaitKeepAlive, 0x0)
  | .recvWaitKeepAlive, [0x0] => .ok (p.goto .recvWaitStatus, 0x81)
  | .recvWaitKeepAlive, _ => .error (.unreachable .printerSend)
  | .recvWaitStatus, _ => .ok (p.goto .recvWaitMagic, p.status.code)
  | _, _ => .ok (p, 0x0)

def sendByte (p : Printer) (byte : UInt8) : Checked Printer := do
  let (p, output) ← { p with recvData := p.recvData ++ [byte] }.receive
  return { p with output := some output }

/-- `take`: hand the reply out once. -/
def take (p : Printer) : Option UInt8 × Printer := (p.output, { p with output := none })

end Printer

end ZenithGb
