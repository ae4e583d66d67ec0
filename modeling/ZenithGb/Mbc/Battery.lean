import ZenithGb.Mbc.SaveFile

/-!
# Batteries

A battery keeps the RAM of a cartridge when the power is off. Here it is the save file that does:
the emulator writes the RAM out every minute and when it is closed, and reads it back when it is
started. What a game finds in the RAM is what it would find with a battery: after `close` the RAM
as it was, after any other end the RAM as it was at the last save. Everything else is as it is when
the cartridge is loaded for the first time.

`fs::write` is taken to write what it is given, and `fs::read` to read what was last written.

## Main results

* `Mbc.ramKept_of_step` — no operation changes the length of the RAM
* `Mbc.ofCartridgeIn_withRam` — loading with a save file of the right length
* `Battery.battery_refines` — the emulator with its save file is a cartridge with a battery
-/

namespace ZenithGb

open Outcome

/-! ### The length of the RAM -/

theorem Buf.yields_set {ε : Type} {α : Type} (e : ε) (b : Buf α) (i : ℕ) (a : α) :
    Yields (b.set e i a) fun b' => b'.size = b.size := by
  refine meets_of_ok fun b' h => ?_
  rw [Buf.set] at h
  split at h <;> cases h
  rfl

theorem Mbc1.write_ram (m : Mbc1) (address : ℕ) (data : UInt8) :
    Yields (m.write address data) fun m' => m'.ram.size = m.ram.size := by
  rw [Mbc1.write]
  refine .ite (fun _ => .ite (fun _ => rfl) fun _ => rfl) fun _ => .ite (fun _ => rfl) fun _ =>
    .ite (fun _ => rfl) fun _ => .ite (fun _ => rfl) fun _ =>
    .ite (fun _ => .ite (fun _ => rfl) fun _ => ?_) fun _ => rfl
  exact (yields_any _).bind fun i _ => (Buf.yields_set _ _ _ _).bind fun ram hram => hram

theorem Mbc2.write_ram (m : Mbc2) (address : ℕ) (data : UInt8) :
    Yields (m.write address data) fun m' => m'.ram.size = m.ram.size := by
  rw [Mbc2.write]
  refine .ite (fun _ => .ite (fun _ => rfl) fun _ => .ite (fun _ => rfl) fun _ => ?_) fun _ =>
    .ite (fun _ => .ite (fun _ => rfl) fun _ => ?_) fun _ => rfl
  · exact (yields_any _).bind fun _ _ => rfl
  · exact (Buf.yields_set _ _ _ _).bind fun ram hram => hram

namespace Mbc3

theorem writeRtc_ram (m : Mbc3) (rtcSelect : ℕ) (data : UInt8) :
    Yields (m.writeRtc rtcSelect data) fun m' => m'.ram.size = m.ram.size := by
  rw [writeRtc]
  refine (yields_any _).bind fun mask _ => (yields_any _).bind fun regs _ => ?_
  cases m.rtcLatch with
  | none => rfl
  | some latch => exact (yields_any _).bind fun _ _ => rfl

theorem write_ram (m : Mbc3) (address : ℕ) (data : UInt8) :
    Yields (m.write address data) fun m' => m'.ram.size = m.ram.size := by
  rw [Mbc3.write]
  refine .ite (fun _ => rfl) fun _ => .ite (fun _ => .ite (fun _ => rfl) fun _ => ?_) fun _ =>
    .ite (fun _ => .ite (fun _ => ?_) fun _ => .ite (fun _ => .ite (fun _ => rfl) fun _ => rfl)
      fun _ => rfl) fun _ => .ite (fun _ => .ite (fun _ => rfl) fun _ => ?_) fun _ =>
    .ite (fun _ => .ite (fun _ => rfl) fun _ => ?_) fun _ => rfl
  · exact (yields_any _).bind fun _ _ => rfl
  · exact (yields_any _).bind fun _ _ => rfl
  · refine meets_ok.mpr ?_
    split <;> rfl
  · cases m.rtcSelect with
    | some rtcSelect => exact m.writeRtc_ram rtcSelect data
    | none =>
      cases m.ramBank with
      | none => rfl
      | some ramBank => exact (Buf.yields_set _ _ _ _).bind fun ram hram => hram

/-! The clock only writes its registers. -/

theorem rtcIncDays_ram (m : Mbc3) : Yields m.rtcIncDays fun m' => m'.ram.size = m.ram.size :=
  (yields_any _).bind fun _ _ => (yields_any _).bind fun _ _ => (yields_any _).bind fun _ _ =>
    (yields_any _).bind fun _ _ => rfl

theorem rtcIncBelowDays_ram {rtcSelect : ℕ} {carry : Mbc3 → Checked Mbc3}
    (hcarry : ∀ m, Yields (carry m) fun m' => m'.ram.size = m.ram.size) (m : Mbc3) :
    Yields (m.rtcIncBelowDays rtcSelect carry) fun m' => m'.ram.size = m.ram.size := by
  refine (yields_any _).bind fun reg _ => (yields_any _).bind fun mask _ =>
    (yields_any _).bind fun rollover _ => .ite (fun _ => ?_) fun _ => .ite (fun _ => ?_) fun _ => ?_
  · exact (yields_any _).bind fun _ _ => rfl
  · exact (yields_any _).bind fun regs _ => hcarry { m with rtcRegisters := regs }
  · exact (yields_any _).bind fun _ _ => rfl

theorem clock_ram (m : Mbc3) : Yields m.clock fun m' => m'.ram.size = m.ram.size := by
  rw [Mbc3.clock]
  refine .ite (fun _ => rfl) fun _ => (yields_any _).bind fun dh _ =>
    .ite (fun _ => rfl) fun _ => .ite (fun _ => ?_) fun _ => rfl
  exact (rtcIncBelowDays_ram (rtcIncBelowDays_ram (rtcIncBelowDays_ram rtcIncDays_ram)) m).bind
    fun m' hm' => hm'

end Mbc3

theorem Mbc5.write_ram (m : Mbc5) (address : ℕ) (data : UInt8) :
    Yields (m.write address data) fun m' => m'.ram.size = m.ram.size := by
  rw [Mbc5.write]
  refine .ite (fun _ => rfl) fun _ => .ite (fun _ => ?_) fun _ => .ite (fun _ => ?_) fun _ =>
    .ite (fun _ => ?_) fun _ => .ite (fun _ => .ite (fun _ => rfl) fun _ => ?_) fun _ => rfl
  · exact (yields_any _).bind fun _ _ => rfl
  · exact (yields_any _).bind fun _ _ => rfl
  · exact (yields_any _).bind fun _ _ => rfl
  · exact (Buf.yields_set _ _ _ _).bind fun ram hram => hram

namespace Mbc

/-- **Geometry.** No operation changes the length of the RAM. -/
theorem ramKept_of_step (op : Op) (m : Mbc) :
    Yields (step op m) fun m' => m'.ram.size = m.ram.size := by
  cases op with
  | read address => exact (yields_any _).bind fun _ _ => rfl
  | write address data =>
    cases m with
    | romOnly m => exact meets_map.mpr rfl
    | mbc1 m => exact meets_map.mpr (m.write_ram address data)
    | mbc2 m => exact meets_map.mpr (m.write_ram address data)
    | mbc3 m => exact meets_map.mpr (m.write_ram address data)
    | mbc5 m => exact meets_map.mpr (m.write_ram address data)
  | clock =>
    cases m with
    | romOnly m => rfl
    | mbc1 m => rfl
    | mbc2 m => rfl
    | mbc3 m => exact meets_map.mpr m.clock_ram
    | mbc5 m => rfl

/-- A mapper with other contents of its RAM. -/
def withRam (ram : Buf UInt8) : Mbc → Mbc
  | .romOnly m => .romOnly m
  | .mbc1 m => .mbc1 { m with ram }
  | .mbc2 m => .mbc2 { m with ram }
  | .mbc3 m => .mbc3 { m with ram }
  | .mbc5 m => .mbc5 { m with ram }

end Mbc

/-! ### Loading -/

section

variable {b : Build} {cart : Cartridge} {file : Option (Buf UInt8)}

/-- The RAM of a mapper that loads next to a save file, when `ram` is its RAM without one. -/
def restored (battery : Bool) (file : Option (Buf UInt8)) (ram : Buf UInt8) : Buf UInt8 :=
  if battery then file.getD ram else ram

theorem restoreRamIn_none (b : Build) (battery : Bool) (ram : Buf UInt8) :
    restoreRamIn b battery none ram = .ok ram := by
  cases battery <;> rfl

/-- The length of the save file is checked, if it is checked, against the RAM it replaces. -/
theorem restoreRamIn_of_size {battery : Bool} {ram : Buf UInt8}
    (hfile : ∀ data, file = some data → data.size = ram.size) :
    restoreRamIn b battery file ram = .ok (restored battery file ram) := by
  cases battery with
  | false => rfl
  | true =>
    cases file with
    | none => rfl
    | some data =>
      cases b with
      | release => rfl
      | debug =>
        show (assert .readSave (data.size = ram.size) >>= _) = _
        rw [assert_of _ (hfile data rfl)]
        rfl

theorem Mbc1.loadIn_restored {m : Mbc1}
    (h : Mbc1.new.loadIn b { cart with saveFile := none } = .ok m)
    (hfile : ∀ data, file = some data → data.size = m.ram.size) :
    Mbc1.new.loadIn b { cart with saveFile := file } =
      .ok { m with ram := restored (cart.header.cartType = 3) file m.ram } := by
  obtain ⟨banks, hbanks, h⟩ := bind_eq_ok.mp h
  obtain ⟨_, hassert, h⟩ := bind_eq_ok.mp h
  obtain ⟨shift, hshift, h⟩ := bind_eq_ok.mp h
  obtain ⟨mask, hmask, h⟩ := bind_eq_ok.mp h
  obtain ⟨rom, hrom, h⟩ := bind_eq_ok.mp h
  obtain ⟨ram, hram, h⟩ := bind_eq_ok.mp h
  rw [restoreRamIn_none, ok_bind, pure_eq_ok] at h
  subst h
  rw [loadIn]
  dsimp only at *
  rw [hbanks, ok_bind, hassert, ok_bind, hshift, ok_bind, hmask, ok_bind, hrom, ok_bind, hram,
    ok_bind, restoreRamIn_of_size hfile]
  rfl

theorem Mbc2.loadIn_restored {m : Mbc2}
    (h : Mbc2.new.loadIn b { cart with saveFile := none } = .ok m)
    (hfile : ∀ data, file = some data → data.size = m.ram.size) :
    Mbc2.new.loadIn b { cart with saveFile := file } =
      .ok { m with ram := restored (cart.header.cartType = 6) file m.ram } := by
  obtain ⟨banks, hbanks, h⟩ := bind_eq_ok.mp h
  obtain ⟨_, hassert, h⟩ := bind_eq_ok.mp h
  obtain ⟨rom, hrom, h⟩ := bind_eq_ok.mp h
  dsimp only at h
  rw [restoreRamIn_none, ok_bind, pure_eq_ok] at h
  subst h
  have hrom' : loadRom { cart with saveFile := file } banks.sizeBytes = .ok rom := hrom
  rw [loadIn]
  dsimp only at *
  rw [hbanks, ok_bind, hassert, ok_bind, hrom', ok_bind, restoreRamIn_of_size hfile]
  rfl

theorem Mbc3.loadIn_restored {m : Mbc3}
    (h : Mbc3.new.loadIn b { cart with saveFile := none } = .ok m)
    (hfile : ∀ data, file = some data → data.size = m.ram.size) :
    Mbc3.new.loadIn b { cart with saveFile := file } =
      .ok { m with
        ram := restored (cart.header.cartType = 0x10 ∨ cart.header.cartType = 0x13) file
          m.ram } := by
  obtain ⟨banks, hbanks, h⟩ := bind_eq_ok.mp h
  obtain ⟨rbanks, hrbanks, h⟩ := bind_eq_ok.mp h
  obtain ⟨_, hassert, h⟩ := bind_eq_ok.mp h
  obtain ⟨rom, hrom, h⟩ := bind_eq_ok.mp h
  dsimp only at h
  rw [restoreRamIn_none, ok_bind, pure_eq_ok] at h
  subst h
  rw [loadIn]
  dsimp only at *
  rw [hbanks, ok_bind, hrbanks, ok_bind, hassert, ok_bind, hrom, ok_bind,
    restoreRamIn_of_size hfile]
  rfl

theorem Mbc5.loadIn_restored {m : Mbc5}
    (h : Mbc5.new.loadIn b { cart with saveFile := none } = .ok m)
    (hfile : ∀ data, file = some data → data.size = m.ram.size) :
    Mbc5.new.loadIn b { cart with saveFile := file } =
      .ok { m with
        ram := restored (cart.header.cartType = 0x1B ∨ cart.header.cartType = 0x1E) file
          m.ram } := by
  obtain ⟨banks, hbanks, h⟩ := bind_eq_ok.mp h
  obtain ⟨rbanks, hrbanks, h⟩ := bind_eq_ok.mp h
  obtain ⟨_, hassert, h⟩ := bind_eq_ok.mp h
  obtain ⟨rom, hrom, h⟩ := bind_eq_ok.mp h
  dsimp only at h
  rw [restoreRamIn_none, ok_bind, pure_eq_ok] at h
  subst h
  rw [loadIn]
  dsimp only at *
  rw [hbanks, ok_bind, hrbanks, ok_bind, hassert, ok_bind, hrom, ok_bind,
    restoreRamIn_of_size hfile]
  rfl

/-- **Loading.** A save file of the RAM's length replaces the RAM, and changes nothing else. -/
theorem Mbc.ofCartridgeIn_withRam {fresh : Mbc}
    (h : ofCartridgeIn b { cart with saveFile := none } = .ok fresh)
    (hfile : ∀ data, file = some data → data.size = fresh.ram.size) :
    ofCartridgeIn b { cart with saveFile := file } =
      .ok (fresh.withRam (restored cart.header.HasBattery file fresh.ram)) := by
  have hbattery : cart.header.HasBattery ↔ cart.header.cartType.toNat ∈
      [0x3, 0x6, 0x10, 0x13, 0x1B, 0x1E] := by
    simp [CartridgeHeader.HasBattery, ← UInt8.toNat_inj]
  simp only [List.mem_cons, List.not_mem_nil, or_false] at hbattery
  rw [ofCartridgeIn] at h ⊢
  dsimp only at h ⊢
  split at h
  · rename_i ht
    obtain ⟨m, hm, rfl⟩ := map_eq_ok.mp h
    have hiff : cart.header.HasBattery ↔ cart.header.cartType = 3 := by
      rw [hbattery, ← UInt8.toNat_inj, show (3 : UInt8).toNat = 3 from rfl]
      omega
    rw [if_pos ht, Mbc1.loadIn_restored hm hfile, decide_eq_decide.mpr hiff]
    rfl
  rename_i h1
  split at h
  · rename_i ht
    obtain ⟨m, hm, rfl⟩ := map_eq_ok.mp h
    have hiff : cart.header.HasBattery ↔ cart.header.cartType = 6 := by
      rw [hbattery, ← UInt8.toNat_inj, show (6 : UInt8).toNat = 6 from rfl]
      omega
    rw [if_neg h1, if_pos ht, Mbc2.loadIn_restored hm hfile, decide_eq_decide.mpr hiff]
    rfl
  rename_i h2
  split at h
  · rename_i ht
    obtain ⟨m, hm, rfl⟩ := map_eq_ok.mp h
    have hiff : cart.header.HasBattery ↔
        cart.header.cartType = 0x10 ∨ cart.header.cartType = 0x13 := by
      rw [hbattery, ← UInt8.toNat_inj, ← UInt8.toNat_inj,
        show (0x10 : UInt8).toNat = 0x10 from rfl, show (0x13 : UInt8).toNat = 0x13 from rfl]
      omega
    rw [if_neg h1, if_neg h2, if_pos ht, Mbc3.loadIn_restored hm hfile,
      decide_eq_decide.mpr hiff]
    rfl
  rename_i h3
  split at h
  · rename_i ht
    obtain ⟨m, hm, rfl⟩ := map_eq_ok.mp h
    have hiff : cart.header.HasBattery ↔
        cart.header.cartType = 0x1B ∨ cart.header.cartType = 0x1E := by
      rw [hbattery, ← UInt8.toNat_inj, ← UInt8.toNat_inj,
        show (0x1B : UInt8).toNat = 0x1B from rfl, show (0x1E : UInt8).toNat = 0x1E from rfl]
      omega
    rw [if_neg h1, if_neg h2, if_neg h3, if_pos ht, Mbc5.loadIn_restored hm hfile,
      decide_eq_decide.mpr hiff]
    rfl
  · rename_i h4
    obtain ⟨m, hm, rfl⟩ := map_eq_ok.mp h
    rw [if_neg h1, if_neg h2, if_neg h3, if_neg h4]
    exact h

end

namespace Battery

/-! ### The emulator and its save file -/

/-- A cartridge and how the emulator is set up for it. -/
structure Setup where
  build : Build
  cart : Cartridge
  /-- The path of the ROM is one that `save_file_from_rom_path` gives a save file. -/
  hasPath : Bool
  enableSaving : Bool

/-- The mapper has a `save_path`. -/
def Setup.savePath (c : Setup) : Bool := decide c.cart.header.HasBattery && c.hasPath

structure Console where
  mbc : Mbc
  /-- What is in the save file, if there is one. -/
  file : Option (Buf UInt8)

inductive Action
  | mbc (op : Mbc.Op)
  /-- The emulator looks at its events a minute after it saved last. -/
  | minute
  /-- The emulator is closed, and started again. -/
  | close
  /-- The emulator ends in any other way, and is started again. -/
  | kill

def start (c : Setup) (file : Option (Buf UInt8)) : Checked Console := do
  let saveFile := if c.hasPath then file else none
  let mbc ← Mbc.ofCartridgeIn c.build { c.cart with saveFile }
  return { mbc, file }

/-- `SOC::save`: `save` of the mapper. -/
def Console.save (c : Setup) (s : Console) : Console :=
  if c.savePath then { s with file := some s.mbc.ram } else s

/-- `SOC::close`. -/
def Console.close (c : Setup) (s : Console) : Console :=
  if c.enableSaving then s.save c else s

def step (c : Setup) : Action → Console → Checked Console
  | .mbc op, s => do return { s with mbc := ← Mbc.step op s.mbc }
  | .minute, s => return if c.enableSaving then s.save c else s
  | .close, s => start c (s.close c).file
  | .kill, s => start c s.file

/-! ### A cartridge with a battery -/

/-- A mapper that is switched off and on. -/
structure Powered where
  mbc : Mbc
  /-- What its RAM will be if it is switched off now without notice. -/
  kept : Buf UInt8

/-- Switched on, a mapper is as new, but for its RAM. -/
def powerOn (fresh : Mbc) (ram : Buf UInt8) : Powered := { mbc := fresh.withRam ram, kept := ram }

/-- `saves` says whether the RAM is written to where it is kept. -/
def Powered.step (saves : Bool) (fresh : Mbc) : Action → Powered → Checked Powered
  | .mbc op, p => do return { p with mbc := ← Mbc.step op p.mbc }
  | .minute, p => return if saves then { p with kept := p.mbc.ram } else p
  | .close, p => return powerOn fresh (if saves then p.mbc.ram else p.kept)
  | .kill, p => return powerOn fresh p.kept

/-! ### Refinement -/

variable {c : Setup} {fresh : Mbc} {file : Option (Buf UInt8)} {s : Console} {p : Powered}

/-- The save file holds what is kept, and fits. -/
structure Refines (c : Setup) (fresh : Mbc) (s : Console) (p : Powered) : Prop where
  mbc : s.mbc = p.mbc
  kept : restored c.savePath s.file fresh.ram = p.kept
  ram : s.mbc.ram.size = fresh.ram.size
  file : ∀ data, s.file = some data → data.size = fresh.ram.size

theorem size_withRam {m : Mbc} {ram : Buf UInt8} (h : ram.size = m.ram.size) :
    (m.withRam ram).ram.size = m.ram.size := by
  cases m with
  | romOnly m => rfl
  | mbc1 m | mbc2 m | mbc3 m | mbc5 m => exact h

/-- The emulator started next to a save file that fits. -/
theorem refines_start
    (hload : Mbc.ofCartridgeIn c.build { c.cart with saveFile := none } = .ok fresh)
    (hfile : ∀ data, file = some data → data.size = fresh.ram.size) :
    ∃ s, start c file = .ok s ∧
      Refines c fresh s (powerOn fresh (restored c.savePath file fresh.ram)) := by
  have hread : ∀ data, (if c.hasPath then file else none) = some data →
      data.size = fresh.ram.size := by
    intro data hdata
    split at hdata
    · exact hfile data hdata
    · cases hdata
  have hrestored : restored c.cart.header.HasBattery (if c.hasPath then file else none) fresh.ram =
      restored c.savePath file fresh.ram := by
    rw [Setup.savePath]
    cases c.hasPath with
    | true => rw [Bool.and_true]; rfl
    | false => rw [Bool.and_false]; cases decide c.cart.header.HasBattery <;> rfl
  have hsize : (restored c.savePath file fresh.ram).size = fresh.ram.size := by
    rw [restored]
    split
    · cases file with
      | none => rfl
      | some data => exact hfile data rfl
    · rfl
  refine ⟨⟨fresh.withRam _, file⟩, ?_, rfl, rfl, size_withRam hsize, hfile⟩
  rw [start]
  dsimp only
  rw [Mbc.ofCartridgeIn_withRam hload hread, hrestored]
  rfl

/-- Saving, or not, before the emulator ends. -/
theorem Refines.close (h : Refines c fresh s p) :
    Refines c fresh (s.close c)
      { p with kept := if c.enableSaving && c.savePath then p.mbc.ram else p.kept } := by
  rw [Console.close, Console.save]
  cases c.enableSaving with
  | false => exact h
  | true =>
    cases hpath : c.savePath with
    | false => exact h
    | true =>
      refine ⟨h.mbc, ?_, h.ram, fun data hdata => ?_⟩
      · rw [hpath]
        exact congrArg Mbc.ram h.mbc
      · cases hdata
        exact h.ram

/-- The emulator is started again. -/
theorem Refines.restart
    (hload : Mbc.ofCartridgeIn c.build { c.cart with saveFile := none } = .ok fresh)
    (h : Refines c fresh s p) :
    Related (Refines c fresh) (start c s.file) (.ok (powerOn fresh p.kept)) := by
  obtain ⟨s', hstart, hs'⟩ := refines_start hload h.file
  rw [hstart, ← h.kept]
  exact hs'

theorem Refines.step
    (hload : Mbc.ofCartridgeIn c.build { c.cart with saveFile := none } = .ok fresh)
    (action : Action) (s : Console) (p : Powered) (h : Refines c fresh s p) :
    Related (Refines c fresh) (step c action s)
      (Powered.step (c.enableSaving && c.savePath) fresh action p) := by
  cases action with
  | mbc op =>
    have hself : Related (fun m m' => m = m' ∧ m.ram.size = s.mbc.ram.size) (Mbc.step op s.mbc)
        (Mbc.step op s.mbc) :=
      related_self ((Mbc.ramKept_of_step op s.mbc).imp fun _ hram => ⟨rfl, hram⟩)
    rw [Battery.step, Powered.step, ← h.mbc]
    refine hself.bind fun m m' hm => ?_
    obtain ⟨rfl, hram⟩ := hm
    exact ⟨rfl, h.kept, hram.trans h.ram, h.file⟩
  | minute =>
    have hclose := h.close
    cases hsaves : c.enableSaving && c.savePath with
    | true => rw [hsaves] at hclose; exact hclose
    | false => rw [hsaves] at hclose; exact hclose
  | close => exact h.close.restart hload
  | kill => exact h.restart hload

/-- **The save file is a battery.** Over any sequence of operations of the mapper, minutes, proper
and other ends of the emulator, the emulator and the cartridge with a battery do the same. The
save file always has the length of the RAM, so no start fails, and a game finds its RAM as the last
save left it and everything else as it is after the first start. -/
theorem battery_refines
    (hload : Mbc.ofCartridgeIn c.build { c.cart with saveFile := none } = .ok fresh)
    (hfile : ∀ data, file = some data → data.size = fresh.ram.size) (actions : List Action) :
    Related (Refines c fresh) (start c file >>= Machine.exec (step c) actions)
      (Machine.exec (Powered.step (c.enableSaving && c.savePath) fresh) actions
        (powerOn fresh (restored c.savePath file fresh.ram))) := by
  obtain ⟨s, hstart, hs⟩ := refines_start hload hfile
  rw [hstart, ok_bind]
  exact Machine.exec_related (Refines.step hload) actions s _ hs

/-- An MBC5 with a battery and 8 KiB of RAM. -/
def blankBattery : Setup := ⟨.release, .blank 0x1B 2 0xCA, true, true⟩

/-- Store a byte, close the emulator and start it again. -/
def storeAndClose : List Action := [.mbc (.write 0 0x0A), .mbc (.write 0xA000 7), .close]

theorem battery_refines_blank :
    ∃ fresh, Mbc.ofCartridgeIn .release (.blank 0x1B 2 0xCA) = .ok fresh ∧
      Related (Refines blankBattery fresh)
        (start blankBattery none >>= Machine.exec (step blankBattery) storeAndClose)
        (Machine.exec (Powered.step true fresh) storeAndClose (powerOn fresh fresh.ram)) := by
  obtain ⟨fresh, hfresh⟩ := exists_of_isOk
    (x := Mbc.ofCartridgeIn .release (.blank 0x1B 2 0xCA)) (by decide +kernel)
  refine ⟨fresh, hfresh, ?_⟩
  exact battery_refines (c := blankBattery) hfresh (fun data hdata => by cases hdata) storeAndClose

end Battery

end ZenithGb
