import Mathlib.Data.Nat.Notation
import ZenithGb.Lib.Store
import ZenithGb.Panic
import ZenithGb.Util

/-!
# Cartridges

`cartridge.rs` and the size tables of `mbc.rs`. A cartridge is the bytes of the ROM file with
its parsed header. The path of the file matters to the emulator only through the save file next
to it, so a cartridge carries what reading that file gives: its bytes, or nothing when there is
none.
-/

namespace ZenithGb

/-- The header fields the emulator uses. -/
structure CartridgeHeader where
  cgbFlag : UInt8
  cartType : UInt8
  romSize : UInt8
  ramSize : UInt8
  headerChecksum : UInt8
  headerChecksumVerified : UInt8
  deriving DecidableEq, Repr

namespace CartridgeHeader

/-- The checksum over the title and the rest of the header. -/
def checksum (data : Buf UInt8) : Checked UInt8 :=
  (List.range' 0x134 (0x14D - 0x134)).foldlM
    (fun checksum address => return checksum - (← data.get (.index .headerNew) address) - 1) 0

/-- `CartridgeHeader::new`: parse the header and verify its checksum. -/
def new (data : Buf UInt8) : Checked CartridgeHeader := do
  -- the last field that is sliced out ends at 0x150
  let _ ← data.slice (.index .headerNew) 0x150
  let cgbFlag ← data.get (.index .headerNew) 0x143
  let cartType ← data.get (.index .headerNew) 0x147
  let romSize ← data.get (.index .headerNew) 0x148
  let ramSize ← data.get (.index .headerNew) 0x149
  let headerChecksum ← data.get (.index .headerNew) 0x14D
  let headerChecksumVerified ← checksum data
  if headerChecksumVerified != headerChecksum then .error (.unreachable .headerNew)
  else return { cgbFlag, cartType, romSize, ramSize, headerChecksum, headerChecksumVerified }

def isCgb (hdr : CartridgeHeader) : Bool := hdr.cgbFlag &&& 0x80 != 0

end CartridgeHeader

structure Cartridge where
  data : Buf UInt8
  header : CartridgeHeader
  /-- What reading the save file gives: its bytes, or `none` when there is no readable file. -/
  saveFile : Option (Buf UInt8)

/-- A blank 32 KiB cartridge without a save file, with the given type, RAM size code and header
checksum. -/
def Cartridge.blank (cartType ramSize checksum : UInt8) : Cartridge :=
  { saveFile := none
    data := ⟨0x8000, fun i =>
      if i.val = 0x147 then cartType else if i.val = 0x149 then ramSize
      else if i.val = 0x14D then checksum else 0⟩
    header :=
      { cgbFlag := 0, cartType, romSize := 0, ramSize, headerChecksum := checksum,
        headerChecksumVerified := checksum } }

/-! ### Bank counts -/

def bytes1Kib : ℕ := 1024

structure Banks where
  numBanks : ℕ
  sizeBytes : ℕ
  deriving DecidableEq, Repr

/-- `ram_banks`: external RAM by the header's size code. -/
def ramBanks (hdr : CartridgeHeader) : Checked Banks := do
  let numBanks ← match hdr.ramSize.toNat with
    | 0 | 1 => .ok 0
    | 2 => .ok 1
    | 3 => .ok 4
    | 4 => .ok 16
    | 5 => .ok 8
    | _ => .error (.unreachable .ramBanks)
  return { numBanks, sizeBytes := numBanks * 8 * bytes1Kib }

/-- `1 << n` in a 64-bit type: shifting by the width or more overflows. -/
def checkedShl64 (site : Site) (n : ℕ) : Checked ℕ :=
  if n < 64 then .ok (2 ^ n) else .error (.overflow site)

/-- `rom_banks`: the ROM by the header's size code. -/
def romBanks (hdr : CartridgeHeader) : Checked Banks := do
  let numBanks ← checkedShl64 .romBanks (← checkedAdd 8 .romBanks hdr.romSize.toNat 1)
  let sizeBytes ← checkedMul 64 .romBanks (32 * bytes1Kib)
    (← checkedShl64 .romBanks hdr.romSize.toNat)
  return { numBanks, sizeBytes }

/-- `read_save`: the save file replaces the RAM, which must have the same length. -/
def readSave (saveFile : Option (Buf UInt8)) (mbcRam : Buf UInt8) : Checked (Buf UInt8) :=
  match saveFile with
  | some data => do
    assert .readSave (data.size = mbcRam.size)
    return data
  | none => return mbcRam

/-- The RAM of a cartridge after loading: a battery keeps it in the save file. -/
def restoreRam (battery : Bool) (saveFile : Option (Buf UInt8)) (mbcRam : Buf UInt8) :
    Checked (Buf UInt8) :=
  if battery then readSave saveFile mbcRam else .ok mbcRam

@[simp] theorem restoreRam_none (battery : Bool) (mbcRam : Buf UInt8) :
    restoreRam battery none mbcRam = .ok mbcRam := by
  cases battery <;> rfl

end ZenithGb
