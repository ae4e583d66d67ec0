import ZenithGb.Apu.Machine
import ZenithGb.Lib.Stateful
import ZenithGb.Soc.Machine

/-!
# Bus reads have no side effects

The registers of the sound unit and of the serial port are read through functions that take
`&mut self`, down to the length counter and the envelope, so nothing in their types keeps a read
from changing something. Here `clock_read` is written with the state passed through each of these
calls and put back where it was borrowed from; it turns out to be the read of the bus model, which
clocks the system and then only looks.

The other half of the bus that could drift is `clock_timer_write`, a second copy of the clock
sequence. It differs from the first in the timer alone.

## Main results

* `Soc.clockReadMut_eq` — reading with the state passed through is reading
* `Soc.clock_paths_agree` — every read and every timer write leaves the system a clock leaves
* `Soc.exec_interchangeable` — the same over whole sequences of operations
-/

namespace ZenithGb

open Outcome

/-- A function that takes `&mut self`. -/
abbrev Method (σ α : Type) := StateT σ Checked α

/-! ### Reads that borrow the state -/

namespace Channel1

def onSweep : Component Channel1 Sweep :=
  ⟨Channel1.sweep, fun sweep c => { c with sweep }, fun _ => rfl⟩

def onEnvelope : Component Channel1 Envelope :=
  ⟨Channel1.envelope, fun envelope c => { c with envelope }, fun _ => rfl⟩

end Channel1

namespace Channel2

def onEnvelope : Component Channel2 Envelope :=
  ⟨Channel2.envelope, fun envelope c => { c with envelope }, fun _ => rfl⟩

end Channel2

namespace Channel4

def onEnvelope : Component Channel4 Envelope :=
  ⟨Channel4.envelope, fun envelope c => { c with envelope }, fun _ => rfl⟩

end Channel4

namespace Apu

def onChannel1 : Component Apu Channel1 :=
  ⟨Apu.channel1, fun channel1 a => { a with channel1 }, fun _ => rfl⟩

def onChannel2 : Component Apu Channel2 :=
  ⟨Apu.channel2, fun channel2 a => { a with channel2 }, fun _ => rfl⟩

def onChannel3 : Component Apu Channel3 :=
  ⟨Apu.channel3, fun channel3 a => { a with channel3 }, fun _ => rfl⟩

def onChannel4 : Component Apu Channel4 :=
  ⟨Apu.channel4, fun channel4 a => { a with channel4 }, fun _ => rfl⟩

/-- `read_nr10` to `read_nr52`, each through the calls it makes. -/
def readMut : Register → Method Apu UInt8
  | .nr10 => onChannel1.run (Channel1.onSweep.run (Sweep.readNr10 <$> get))
  | .nr11 => onChannel1.run (Channel1.readNr11 <$> get)
  | .nr12 => onChannel1.run (Channel1.onEnvelope.run (Envelope.readNrx2 <$> get))
  | .nr13 => onChannel1.run (Channel1.readNr13 <$> get)
  | .nr14 => onChannel1.run (Channel1.readNr14 <$> get)
  | .nr21 => onChannel2.run (Channel2.readNr21 <$> get)
  | .nr22 => onChannel2.run (Channel2.onEnvelope.run (Envelope.readNrx2 <$> get))
  | .nr23 => onChannel2.run (Channel2.readNr23 <$> get)
  | .nr24 => onChannel2.run (Channel2.readNr24 <$> get)
  | .nr30 => onChannel3.run (Channel3.readNr30 <$> get)
  | .nr31 => onChannel3.run (Channel3.readNr31 <$> get)
  | .nr32 => onChannel3.run (Channel3.readNr32 <$> get)
  | .nr33 => onChannel3.run (Channel3.readNr33 <$> get)
  | .nr34 => onChannel3.run (Channel3.readNr34 <$> get)
  | .nr41 => onChannel4.run (Channel4.readNr41 <$> get)
  | .nr42 => onChannel4.run (Channel4.onEnvelope.run (Envelope.readNrx2 <$> get))
  | .nr43 => onChannel4.run (Channel4.readNr43 <$> get)
  | .nr44 => onChannel4.run (Channel4.readNr44 <$> get)
  | .nr50 => readNr50 <$> get
  | .nr51 => readNr51 <$> get
  | .nr52 => readNr52 <$> get

def readWaveRamMut (address : ℕ) : Method Apu UInt8 :=
  onChannel3.run (look (·.readWaveRam address))

theorem readMut_eq (register : Register) :
    readMut register = look fun a => .ok (a.read register) := by
  cases register with
  | nr10 | nr12 | nr22 | nr42 =>
    rw [readMut, map_get_eq_look, Component.run_look, Component.run_look]
    rfl
  | nr50 | nr51 | nr52 => rfl
  | nr11 | nr13 | nr14 | nr21 | nr23 | nr24 | nr30 | nr31 | nr32 | nr33 | nr34 | nr41 | nr43
  | nr44 =>
    rw [readMut, map_get_eq_look, Component.run_look]
    rfl

theorem readWaveRamMut_eq (address : ℕ) :
    readWaveRamMut address = look (·.readWaveRam address) := by
  rw [readWaveRamMut, Component.run_look]
  rfl

end Apu

namespace Soc

def onApu : Component Soc Apu := ⟨Soc.apu, fun apu s => { s with apu }, fun _ => rfl⟩

def onSerial : Component Soc Serial :=
  ⟨Soc.serial, fun serial s => { s with serial }, fun _ => rfl⟩

/-- The registers of `clock_read`; those of the sound unit and of the serial port are read through
`&mut self`. -/
def readRegMut (address : ℕ) : HwReg → Method Soc UInt8
  | .sb => onSerial.run (Serial.readSb <$> get)
  | .sc => onSerial.run (Serial.readSc <$> get)
  | .nr10 => onApu.run (Apu.readMut .nr10)
  | .nr11 => onApu.run (Apu.readMut .nr11)
  | .nr12 => onApu.run (Apu.readMut .nr12)
  | .nr13 => onApu.run (Apu.readMut .nr13)
  | .nr14 => onApu.run (Apu.readMut .nr14)
  | .nr21 => onApu.run (Apu.readMut .nr21)
  | .nr22 => onApu.run (Apu.readMut .nr22)
  | .nr23 => onApu.run (Apu.readMut .nr23)
  | .nr24 => onApu.run (Apu.readMut .nr24)
  | .waveRam => onApu.run (Apu.readWaveRamMut address)
  | .nr30 => onApu.run (Apu.readMut .nr30)
  | .nr31 => onApu.run (Apu.readMut .nr31)
  | .nr32 => onApu.run (Apu.readMut .nr32)
  | .nr33 => onApu.run (Apu.readMut .nr33)
  | .nr34 => onApu.run (Apu.readMut .nr34)
  | .nr41 => onApu.run (Apu.readMut .nr41)
  | .nr42 => onApu.run (Apu.readMut .nr42)
  | .nr43 => onApu.run (Apu.readMut .nr43)
  | .nr44 => onApu.run (Apu.readMut .nr44)
  | .nr50 => onApu.run (Apu.readMut .nr50)
  | .nr51 => onApu.run (Apu.readMut .nr51)
  | .nr52 => onApu.run (Apu.readMut .nr52)
  | r => look (·.readReg address r)

/-- The memory map of `clock_read`. Outside the registers it borrows nothing mutably. -/
def readBusMut (activeDma : Bool) (address : ℕ) : Method Soc UInt8 :=
  if 0xFF00 ≤ address ∧ address ≤ 0xFF7F then
    match HwReg.ofAddr address with
    | some r => readRegMut address r
    | none => pure 0xFF
  else look (·.readBus activeDma address)

/-- `clock_read`, with the state passed through every call. -/
def clockReadMut (address : UInt16) : Method Soc UInt8 := fun s => do
  let activeDma := s.activeDma.isSome
  let s ← s.clock
  readBusMut activeDma address.toNat s

theorem readRegMut_eq (address : ℕ) (r : HwReg) :
    readRegMut address r = look (·.readReg address r) := by
  cases r with
  | sb | sc =>
    rw [readRegMut, map_get_eq_look, Component.run_look]
    rfl
  | waveRam =>
    rw [readRegMut, Apu.readWaveRamMut_eq, Component.run_look]
    rfl
  | nr10 | nr11 | nr12 | nr13 | nr14 | nr21 | nr22 | nr23 | nr24 | nr30 | nr31 | nr32 | nr33
  | nr34 | nr41 | nr42 | nr43 | nr44 | nr50 | nr51 | nr52 =>
    rw [readRegMut, Apu.readMut_eq, Component.run_look]
    rfl
  | _ => rfl

theorem readBus_of_some {s : Soc} {activeDma : Bool} {address : ℕ} {r : HwReg}
    (hlo : 0xFF00 ≤ address) (hhi : address ≤ 0xFF7F) (hr : HwReg.ofAddr address = some r) :
    s.readBus activeDma address = s.readReg address r := by
  rw [readBus, if_neg (by omega), if_neg (by omega), if_neg (by omega), if_neg (by omega),
    if_neg (by omega), if_neg (by omega), if_pos hhi, hr]

theorem readBus_of_none {s : Soc} {activeDma : Bool} {address : ℕ}
    (hlo : 0xFF00 ≤ address) (hhi : address ≤ 0xFF7F) (hr : HwReg.ofAddr address = none) :
    s.readBus activeDma address = .ok 0xFF := by
  rw [readBus, if_neg (by omega), if_neg (by omega), if_neg (by omega), if_neg (by omega),
    if_neg (by omega), if_neg (by omega), if_pos hhi, hr]

theorem readBusMut_eq (activeDma : Bool) (address : ℕ) :
    readBusMut activeDma address = look (·.readBus activeDma address) := by
  rw [readBusMut]
  split
  · rename_i h
    funext s
    cases hr : HwReg.ofAddr address with
    | some r =>
      rw [look, readBus_of_some h.1 h.2 hr]
      exact congrFun (readRegMut_eq address r) s
    | none =>
      rw [look, readBus_of_none h.1 h.2 hr]
      rfl
  · rfl

/-- **Reading with the state passed through is reading**: `clock_read` clocks the system and then
only looks at it. -/
theorem clockReadMut_eq (s : Soc) (address : UInt16) :
    clockReadMut address s = s.clockRead address := by
  rw [clockReadMut, clockRead]
  refine congrArg (s.clock >>= ·) (funext fun t => ?_)
  rw [readBusMut_eq, look]
  cases t.readBus s.activeDma.isSome address.toNat <;> rfl

theorem clockReadMut_eq_ok {s : Soc} {address : UInt16} {r : UInt8 × Soc}
    (h : clockReadMut address s = .ok r) : s.clock = .ok r.2 := by
  obtain ⟨t, hclock, h⟩ := bind_eq_ok.mp h
  rw [readBusMut_eq] at h
  rw [(look_eq_ok.mp h).2, hclock]

/-! ### The second copy of the clock -/

/-- The timer-write callbacks clock the timer before they write, so what they leave in the context
is what the clock leaves there. -/
theorem timerWriteOf_snd {r : HwReg} {clockCb : Timer → UInt8 → ClockContext → Timer × ClockContext}
    (h : timerWriteOf r = some clockCb) (t : Timer) (data : UInt8) (ctx : ClockContext) :
    (clockCb t data ctx).2 = (t.clock ctx).2 := by
  cases r with
  | div | tac => cases h; rfl
  | tima =>
    cases h
    rw [Timer.clockWriteTima]
    dsimp only
    split <;> rfl
  | tma =>
    cases h
    rw [Timer.clockWriteTma]
    dsimp only
    split <;> rfl
  | _ => cases h

/-- The clock sequence with two timers that leave the same context differs in the timer alone. -/
theorem clockWith_eq_map {f g : Timer → ClockContext → Timer × ClockContext}
    (hfg : ∀ t ctx, (f t ctx).2 = (g t ctx).2) (s : Soc) :
    ∃ timer, s.clockWith f = (fun t => { t with timer }) <$> s.clockWith g := by
  unfold clockWith
  dsimp only
  cases s.clockDma with
  | error e => exact ⟨s.timer, rfl⟩
  | ok s1 =>
  rw [ok_bind, ok_bind]
  cases clock4Mhz s.cpuSpeed s.cycles clockHdma s1 with
  | error e => exact ⟨s.timer, rfl⟩
  | ok s2 =>
  rw [ok_bind, ok_bind]
  cases clock4Mhz s.cpuSpeed s.cycles (fun c : Ppu × ClockContext => c.1.clock c.2)
    (s2.ppu, ⟨s2.rIf, s2.eventBits⟩) with
  | error e => exact ⟨s.timer, rfl⟩
  | ok c =>
  rw [ok_bind, ok_bind]
  refine ⟨(f s2.timer c.2).1, ?_⟩
  -- from here on the two sequences see the same context
  rw [hfg]
  simp only [map_bind, map_pure]

/-- A write to a timer register leaves what a clock leaves, the timer apart, and panics when it
does. -/
theorem clockWrite_timer {address : UInt16}
    (h : ((HwReg.ofAddr address.toNat).bind timerWriteOf).isSome) (s : Soc) (data : UInt8) :
    ∃ timer, s.clockWrite address data = (fun t => { t with timer }) <$> s.clock := by
  obtain ⟨clockCb, hbind⟩ := Option.isSome_iff_exists.mp h
  obtain ⟨r, -, hcb⟩ := Option.bind_eq_some_iff.mp hbind
  have hwrite : s.clockWrite address data = s.clockTimerWrite clockCb data := by
    rw [clockWrite, hbind]
  rw [hwrite, clockTimerWrite_eq_clockWith, clock_eq_clockWith]
  exact clockWith_eq_map (fun t ctx => timerWriteOf_snd hcb t data ctx) s

/-! ### Reads and clocks can stand for one another -/

/-- **The bus only looks, and its two clocks agree.** Two reads that do not panic leave the same
system, the one a plain clock leaves; and a write to DIV, TIMA, TMA or TAC leaves the system a plain
clock leaves but for the timer, and panics when the clock does. Nothing is assumed of the system, so
this holds in either speed. -/
theorem clock_paths_agree (s : Soc) :
    (∀ a b x y, clockReadMut a s = .ok x → clockReadMut b s = .ok y →
      x.2 = y.2 ∧ s.clock = .ok x.2) ∧
    ∀ address ∈ ([0xFF04, 0xFF05, 0xFF06, 0xFF07] : List UInt16), ∀ data, ∃ timer,
      s.clockWrite address data = (fun t => { t with timer }) <$> s.clock := by
  constructor
  · intro a b x y hx hy
    have hclock := clockReadMut_eq_ok hx
    exact ⟨ok_inj.mp (hclock.symm.trans (clockReadMut_eq_ok hy)), hclock⟩
  · intro address haddress data
    have htimer : ((HwReg.ofAddr address.toNat).bind timerWriteOf).isSome := by
      simp only [List.mem_cons, List.not_mem_nil, or_false] at haddress
      rcases haddress with rfl | rfl | rfl | rfl <;> rfl
    exact clockWrite_timer htimer s data

/-- Of a Game Boy Color just switched on, the reads of NR52 and of HRAM leave the same system. -/
theorem clock_paths_agree_new :
    ∃ s x y, cgbNew = .ok s ∧ clockReadMut 0xFF26 s = .ok x ∧ clockReadMut 0xFF80 s = .ok y ∧
      x.2 = y.2 ∧ s.clock = .ok x.2 := by
  have hreads : (do
      let s ← cgbNew
      let _ ← clockReadMut 0xFF26 s
      clockReadMut 0xFF80 s).isOk = true := by decide +kernel
  obtain ⟨y, hy⟩ := exists_of_isOk hreads
  obtain ⟨s, hs, hy⟩ := bind_eq_ok.mp hy
  obtain ⟨x, hx, hy⟩ := bind_eq_ok.mp hy
  exact ⟨s, x, y, hs, hx, hy, (clock_paths_agree s).1 _ _ x y hx hy⟩

/-- Whether an operation is a read or a plain clock. -/
def Op.looks : Op → Bool
  | .clock | .read _ => true
  | _ => false

theorem clock_of_looks {op : Op} {s s' : Soc} (hop : op.looks = true) (h : step op s = .ok s') :
    s.clock = .ok s' := by
  cases op with
  | clock => exact h
  | read address =>
    obtain ⟨r, hread, rfl⟩ := map_eq_ok.mp h
    rw [← clockReadMut_eq] at hread
    exact clockReadMut_eq_ok hread
  | write | clearInterrupt | setCpuHalted | speedSwitch | processEvents => cases hop

/-- **Reads and clocks are interchangeable.** Whatever else happens to the system, replacing reads
and plain clocks by others, one for one, changes nothing in where it ends. -/
theorem exec_interchangeable {ops ops' : List Op}
    (h : List.Forall₂ (fun op op' => op = op' ∨ op.looks = true ∧ op'.looks = true) ops ops')
    {s t u : Soc} (ht : Machine.exec step ops s = .ok t) (hu : Machine.exec step ops' s = .ok u) :
    t = u := by
  refine Machine.exec_eq_of_forall₂ (fun op op' s t u hop ht hu => ?_) h s t u ht hu
  obtain rfl | ⟨hop, hop'⟩ := hop
  · exact ok_inj.mp (ht.symm.trans hu)
  · exact ok_inj.mp ((clock_of_looks hop ht).symm.trans (clock_of_looks hop' hu))

end Soc

end ZenithGb
