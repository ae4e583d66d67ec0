import ZenithGb.Apu.Bounded
import ZenithGb.Mbc.Totality
import ZenithGb.Soc.OamDma

/-!
# The system on chip: where it can crash

The invariants of the components together: `Sound` is what all the checked arithmetic, the indices
and the assertions of the system rely on between two operations. Under it an operation returns, or
it fails with one of the panics of `Crash`, which are few. Whether the mapper is one that can panic
is a matter of the cartridge, so it is a parameter here.

The reads of OAM DMA are not among them: its two highest pages are redirected. VRAM DMA is not
redirected, but its address is refused before it can leave 16 bits.

## Main results

* `Soc.meets_step` — an operation keeps the system sound, or crashes in a known way
* `Soc.sound_new` — the system is sound at power-on
-/

namespace ZenithGb

open Outcome

namespace Soc

/-- The panics of the system, for a mapper that is `trusted` not to panic or is not. -/
inductive Crash (trusted : Prop) : Panic → Prop
  | mapper (m : Mbc) (op : Mbc.Op) (e : Panic) : ¬ trusted → op.OnBus → Mbc.step op m = .error e →
      Crash trusted e
  /-- VRAM DMA from 0xFE00 or above. -/
  | vramDma : Crash trusted (.unreachable .hdmaRead)
  /-- A row of the window whose address in the tile map leaves 16 bits. -/
  | windowRow : Crash trusted (.overflow .windowRow)
  | printer (p : Printer) (byte : UInt8) (e : Panic) : p.sendByte byte = .error e →
      Crash trusted e
  /-- The cycle counter is full. -/
  | cycles : Crash trusted (.overflow .socClock)

variable {trusted : Prop} {s : Soc}

/-! ### The mapper -/

/-- The mapper does not panic, if it is trusted not to. -/
def MapperOk (trusted : Prop) (m : Mbc) : Prop := trusted → m.NeverPanics

theorem meets_mapper {m : Mbc} (h : MapperOk trusted m) (op : Mbc.Op) (hop : op.OnBus) :
    Meets (Mbc.step op m) (MapperOk trusted) (Crash trusted) := by
  by_cases htrusted : trusted
  · obtain ⟨m', hm'⟩ := h htrusted [op] (by simpa using hop)
    obtain ⟨m'', hstep, -⟩ := bind_eq_ok.mp hm'
    rw [hstep]
    intro _ ops hops
    obtain ⟨t, ht⟩ := h htrusted (op :: ops) (by simpa using ⟨hop, hops⟩)
    rw [Machine.exec_cons, hstep, ok_bind] at ht
    exact ⟨t, ht⟩
  · cases hstep : Mbc.step op m with
    | ok m' => exact fun h => absurd h htrusted
    | error e => exact .mapper m op e htrusted hop hstep

theorem meets_mapperRead {m : Mbc} (h : MapperOk trusted m) {address : ℕ}
    (haddress : Mbc.OnBus address) :
    Meets (m.read address) (fun _ => True) (Crash trusted) := by
  have hstep := meets_mapper h (.read address) haddress
  rw [Mbc.step] at hstep
  cases hread : m.read address with
  | ok byte => trivial
  | error e =>
    rw [hread] at hstep
    exact hstep

/-! ### What the system relies on -/

/-- An OAM DMA that copies within OAM. -/
structure OamTransferOk (active : DmaTransfer) : Prop where
  src : active.src ≤ 0xFF00
  count : active.count ≤ 0x9F
  cycles : active.cycles = active.count + 1

/-- A VRAM DMA of whole blocks with a block left; what it has copied came from below 0xFE00. -/
structure VramTransferOk (active : Hdma) : Prop where
  src : active.src ≤ 0xFFF0
  dst : active.dst ≤ 0x1FF0
  initial : active.initial ≤ 0x800
  count : active.count < active.initial
  initialBlocks : active.initial % 0x10 = 0
  countBlocks : active.count % 0x10 = 0
  copied : active.count ≠ 0 → active.src + active.count ≤ 0xFE00

structure Sound (trusted : Prop) (s : Soc) : Prop where
  ppu : Ppu.Inv s.ppu
  apu : s.apu.Bounded
  mapper : MapperOk trusted s.mbc
  shiftCounter : s.serial.shiftCounter ≤ 8
  svbk : s.svbk ≤ 7
  oamDma : ∀ active, s.activeDma = some active → OamTransferOk active
  hdma : ∀ active, s.hdma = some active → VramTransferOk active

/-! ### The DMA engines -/

/-- An index into work RAM. -/
theorem wramIndex_lt (hsvbk : s.svbk ≤ 7) {site : Site} {address : ℕ} (h : address ≤ 0xFDFF)
    {E : Panic → Prop} :
    Meets (s.wramIndex site address) (fun i => i < 0x12000) E := by
  have hbank : s.svbk.toNat ≤ 7 := UInt8.le_iff_toNat_le.mp hsvbk
  rw [wramIndex]
  refine .ite (fun _ => ?_) fun _ => .ite (fun _ => ?_) fun _ => ?_
  · show address - 0xC000 < 0x12000
    omega
  · rw [checkedMul_of_lt _ (by omega), ok_bind, checkedAdd_of_lt _ (by omega)]
    show address - 0xC000 + s.svbk.toNat * 0x2000 < 0x12000
    omega
  · show address - 0xE000 < 0x12000
    omega

/-- A DMA read below 0xFE00 crashes in the mapper only, and above it is the engine's own crash. -/
theorem meets_dmaRead (h : s.Sound trusted) {site : Site} {address : ℕ}
    (habove : ¬ address < 0xFE00 → Crash trusted (.unreachable site)) :
    Meets (s.dmaRead site address) (fun _ => address < 0xFE00) (Crash trusted) := by
  rw [dmaRead]
  refine .ite (fun ha => ?_) fun _ => .ite (fun hb => ?_) fun _ =>
    .ite (fun hc => ?_) fun _ => .ite (fun hd => ?_) fun hlast => habove (by omega)
  · exact (meets_mapperRead h.mapper (.inl ha)).imp fun _ _ => by omega
  · show address < 0xFE00
    omega
  · exact (meets_mapperRead h.mapper (.inr ⟨by omega, hc⟩)).imp fun _ _ => by omega
  · exact (wramIndex_lt h.svbk hd).bind fun i hi => (Mem.meets_get hi _).imp fun _ _ => by omega

/-- Other contents of OAM. -/
theorem inv_withOam {p : Ppu} (h : Ppu.Inv p) (oam : Mem 0xA0 UInt8) :
    Ppu.Inv { p with oam } :=
  { h with }

theorem inv_withVram {p : Ppu} (h : Ppu.Inv p) (addr : ℕ) (data : UInt8) :
    Ppu.Inv (p.writeVram addr data) :=
  ((Ppu.meets_step (.writeVram addr data) h).of_ok rfl).1

theorem Sound.startDma (h : s.Sound trusted) : s.startDma.Sound trusted := by
  rw [Soc.startDma]
  split
  · rename_i d hd
    refine { h with oamDma := ?_ }
    rintro active ⟨⟩
    have hsrc := value_zero_toNat d
    have hlt := d.toNat_lt
    exact ⟨by show (value d 0x0).toNat ≤ 0xFF00; omega, Nat.zero_le _, rfl⟩
  · exact h

theorem meets_stepDma (h : s.Sound trusted) {active : DmaTransfer}
    (hactive : OamTransferOk active) :
    Meets (s.stepDma active) (Sound trusted) (Crash trusted) := by
  obtain ⟨hsrc, hcount, hcycles⟩ := hactive
  have haddress : oamDmaAddress (active.src + active.count) < 0xFE00 := by
    rw [oamDmaAddress]
    split
    · have hmask : (active.src + active.count) &&& 0x1FFF ≤ 0x1FFF := Nat.and_le_right
      omega
    · omega
  rw [stepDma, checkedAdd_of_lt _ (by omega), ok_bind]
  dsimp only
  rw [assert_of _ (.inl haddress), ok_bind]
  refine (meets_dmaRead h fun hnot => absurd haddress hnot).bind fun byte _ => ?_
  rw [Ppu.oamDma_eq s.ppu ⟨active.count, by omega⟩ byte, ok_bind, checkedAdd_of_lt _ (by omega),
    ok_bind, checkedAdd_of_lt _ (by omega), ok_bind]
  refine { h with ppu := inv_withOam h.ppu _, oamDma := fun active' hactive' => ?_ }
  dsimp only at hactive'
  split at hactive'
  · cases hactive'
  · cases hactive'
    exact ⟨hsrc, by show active.count + 1 ≤ 0x9F; omega,
      by show active.cycles + 1 = active.count + 1 + 1; omega⟩

theorem meets_clockDma (h : s.Sound trusted) :
    Meets s.clockDma (Sound trusted) (Crash trusted) := by
  rw [clockDma]
  cases hactive : s.activeDma with
  | none => exact h.startDma
  | some active =>
    exact (meets_stepDma h (h.oamDma active hactive)).bind fun t ht => ht.startDma

/-- **Copying.** The bytes are copied one by one, and the first one from above work RAM crashes. -/
theorem meets_copyHdma {active : Hdma} (hdst : active.dst ≤ 0x1FF0) {start n : ℕ}
    (hbound : start + n ≤ 0x800) (hstart : active.src + start < 0x10000) (h : s.Sound trusted) :
    Meets (copyHdma active start n s)
      (fun t => t.Sound trusted ∧ t.hdma = s.hdma ∧ (n ≠ 0 → active.src + (start + n) ≤ 0xFE00))
      (Crash trusted) := by
  induction n generalizing start s with
  | zero => exact ⟨h, rfl, fun hne => absurd rfl hne⟩
  | succ n ih =>
    rw [copyHdma, List.range'_succ, List.foldlM_cons]
    refine Meets.bind (Q := fun t => t.Sound trusted ∧ t.hdma = s.hdma ∧
      active.src + start < 0xFE00) ?_ fun t ⟨ht, hhdma, hbelow⟩ => ?_
    · rw [copyHdmaByte, checkedAdd_of_lt _ hstart, ok_bind, checkedAdd_of_lt _ (by omega), ok_bind]
      exact (meets_dmaRead h fun _ => .vramDma).bind fun byte hlt =>
        ⟨{ h with ppu := inv_withVram h.ppu _ byte }, rfl, hlt⟩
    · refine (ih (by omega : start + 1 + n ≤ 0x800) (by omega) ht).imp fun u hrest => ?_
      obtain ⟨hu, hkept, hcopied⟩ := hrest
      refine ⟨hu, hkept.trans hhdma, fun _ => ?_⟩
      by_cases hn : n = 0
      · omega
      · have := hcopied hn
        omega

theorem meets_clockHdma (h : s.Sound trusted) :
    Meets (clockHdma s) (Sound trusted) (Crash trusted) := by
  rw [clockHdma]
  cases hhdma : s.hdma with
  | none => exact h
  | some active =>
    obtain ⟨hsrc, hdst, hinitial, hcount, hblocks, hcounted, hcopied⟩ := h.hdma active hhdma
    dsimp only
    refine .ite (fun _ => .ite (fun _ => ?_) fun _ => h) fun _ => ?_
    · have hblock : min 0x10 (active.initial - active.count) = 0x10 := by omega
      have hnext : active.src + active.count < 0x10000 := by
        by_cases hzero : active.count = 0
        · omega
        · have := hcopied hzero
          omega
      rw [stepHblankDma, checkedSub_of_le _ hcount.le, ok_bind]
      dsimp only
      rw [hblock, checkedAdd_of_lt _ (by omega), ok_bind]
      refine (meets_copyHdma hdst (by omega) hnext h).bind fun t hcopy => ?_
      obtain ⟨ht, -, hbelow⟩ := hcopy
      rw [checkedSub_of_le _ (by omega), ok_bind]
      refine { ht with hdma := fun active' hactive' => ?_ }
      dsimp only at hactive'
      split at hactive'
      · cases hactive'
      · cases hactive'
        have hleft : active.count + 0x10 < active.initial := by omega
        have hwhole : (active.count + 0x10) % 0x10 = 0 := by omega
        exact ⟨hsrc, hdst, hinitial, hleft, hblocks, hwhole, fun _ => hbelow (by decide)⟩
    · refine (meets_copyHdma hdst (by omega) (by omega) h).bind fun t hcopy => ?_
      refine { hcopy.1 with hdma := fun active' hactive' => ?_ }
      cases hactive'

/-! ### One M-cycle -/

theorem meets_clock4Mhz {α : Type} {doubleSpeed : Bool} {cycle : ℕ} {cb : α → Checked α} {a : α}
    {Q : α → Prop} {E : Panic → Prop} (ha : Q a) (hcb : Meets (cb a) Q E) :
    Meets (clock4Mhz doubleSpeed cycle cb a) Q E :=
  .ite (fun _ => hcb) fun _ => ha

theorem meets_serialClock {serial : Serial} (h : serial.shiftCounter ≤ 8) (ctx : ClockContext) :
    Meets (serial.clock ctx) (fun r => r.1.shiftCounter ≤ 8) (Crash trusted) := by
  rw [Serial.clock]
  refine .ite (fun _ => h) fun _ => .ite (fun _ => Nat.zero_le 8) fun hne => ?_
  have hsend : Meets (serial.printer.sendByte serial.sb) (fun _ => True) (Crash trusted) := by
    cases hsend : serial.printer.sendByte serial.sb with
    | ok printer => trivial
    | error e => exact .printer _ _ e hsend
  have hle : serial.shiftCounter ≤ 7 := by omega
  refine .ite (fun _ => hsend.bind fun printer _ => ?_) fun _ => ?_
  all_goals
    simp only [pure_bind]
    split
    · rw [checkedSub_of_le _ hle, ok_bind, checkedAdd_of_lt _ (by omega), ok_bind]
      exact Nat.succ_le_succ hle
    · exact h

/-- **An M-cycle** keeps the system sound, or crashes in a known way. -/
theorem meets_clockWith (h : s.Sound trusted)
    (timerClock : Timer → ClockContext → Timer × ClockContext) :
    Meets (s.clockWith timerClock) (Sound trusted) (Crash trusted) := by
  refine (meets_clockDma h).bind fun s1 h1 => ?_
  refine (meets_clock4Mhz h1 (meets_clockHdma h1)).bind fun s2 h2 => ?_
  refine Meets.bind (Q := fun r : Ppu × ClockContext => Ppu.Inv r.1)
    (meets_clock4Mhz h2.ppu ?_) fun r hppu => ?_
  · refine (Ppu.clock_meets h2.ppu _).mono (fun r hr => ?_) fun e he => ?_
    · obtain ⟨vblank, hclocked⟩ := hr
      exact hclocked.inv
    · rw [he.2]
      exact .windowRow
  refine (meets_clock4Mhz h2.mapper (meets_mapper h2.mapper .clock trivial)).bind
    fun mbc hmbc => ?_
  refine (meets_clock4Mhz h2.apu (Meets.ofTotal (Apu.clock_bounded h2.apu))).bind
    fun apu hapu => ?_
  refine (meets_serialClock h2.shiftCounter _).bind fun r' hserial => ?_
  refine (meets_checkedAdd_error .cycles).bind fun cycles _ => ?_
  exact { h2 with ppu := hppu, apu := hapu, mapper := hmbc, shiftCounter := hserial }

theorem meets_clock (h : s.Sound trusted) : Meets s.clock (Sound trusted) (Crash trusted) :=
  meets_clockWith h Timer.clock

/-! ### The bus -/

theorem meets_readReg (h : s.Sound trusted) (address : ℕ) (r : HwReg) {E : Panic → Prop} :
    Meets (s.readReg address r) (fun _ => True) E := by
  cases r with
  | waveRam => exact Meets.ofTotal (Channel3.readWaveRam_total h.apu.channel3 address)
  | hdma5 =>
    show Meets s.readHdma5 _ _
    rw [readHdma5]
    cases hhdma : s.hdma with
    | none => trivial
    | some active =>
      obtain ⟨-, -, -, hcount, hblocks, hcounted, -⟩ := h.hdma active hhdma
      refine .ite (fun _ => ?_) fun _ => trivial
      rw [checkedSub_of_le _ hcount.le, ok_bind, checkedSub_of_le _ (by omega)]
      trivial
  | _ => trivial

theorem meets_readBus (h : s.Sound trusted) (activeDma : Bool) (address : ℕ) :
    Meets (s.readBus activeDma address) (fun _ => True) (Crash trusted) := by
  rw [readBus]
  refine .ite (fun ha => meets_mapperRead h.mapper (.inl ha)) fun _ => .ite (fun _ => trivial)
    fun hb => .ite (fun hc => meets_mapperRead h.mapper (.inr ⟨by omega, hc⟩)) fun _ =>
    .ite (fun hd => ?_) fun _ => .ite (fun he => .ite (fun _ => trivial) fun _ => ?_) fun _ =>
    .ite (fun _ => trivial) fun _ => .ite (fun _ => ?_) fun _ => .ite (fun hf => ?_) fun _ =>
    trivial
  · exact (wramIndex_lt h.svbk hd).bind fun i hi => (Mem.meets_get hi _).imp fun _ _ => trivial
  · have hindex : address &&& 0xFF < 0xA0 := by
      rw [show (0xFF : ℕ) = 2 ^ 8 - 1 from rfl, Nat.and_two_pow_sub_one_eq_mod]
      omega
    rw [Ppu.readOam]
    split
    · trivial
    · trivial
    · exact (Mem.meets_get hindex _).imp fun _ _ => trivial
  · split
    · exact meets_readReg h address _
    · trivial
  · have hindex : address - 0xFF80 < 0x7F := by omega
    generalize address - 0xFF80 = index at hindex ⊢
    exact (Mem.meets_get hindex _).imp fun _ _ => trivial

theorem meets_writeReg (h : s.Sound trusted) (address : ℕ) (data : UInt8) (r : HwReg)
    {E : Panic → Prop} : Meets (s.writeReg address data r) (Sound trusted) E := by
  have hppu : ∀ reg, Ppu.Inv (s.ppu.writeReg data reg) := fun reg =>
    ((Ppu.meets_step (.writeReg reg data) h.ppu).of_ok rfl).1
  have happu : ∀ register, Meets (do return { s with apu := ← s.apu.write data register })
      (Sound trusted) E := fun register =>
    (Meets.ofTotal (Apu.write_bounded h.apu data register)).bind fun apu hapu =>
      { h with apu := hapu }
  have hcgb : ∀ t : Soc, t.Sound trusted → (s.whenCgb t).Sound trusted := by
    intro t ht
    rw [whenCgb]
    split
    · exact h
    · exact ht
  cases r with
  | lcdc => exact { h with ppu := hppu .lcdc }
  | stat => exact { h with ppu := hppu .stat }
  | ly => exact { h with ppu := hppu .ly }
  | scy => exact { h with ppu := hppu .scy }
  | scx => exact { h with ppu := hppu .scx }
  | lyc => exact { h with ppu := hppu .lyc }
  | bgp => exact { h with ppu := hppu .bgp }
  | obp0 => exact { h with ppu := hppu .obp0 }
  | obp1 => exact { h with ppu := hppu .obp1 }
  | wy => exact { h with ppu := hppu .wy }
  | wx => exact { h with ppu := hppu .wx }
  | vbk => exact { h with ppu := hppu .vbk }
  | bcps => exact { h with ppu := hppu .bcps }
  | bcpd => exact { h with ppu := hppu .bcpd }
  | ocps => exact { h with ppu := hppu .ocps }
  | ocpd => exact { h with ppu := hppu .ocpd }
  | opri => exact { h with ppu := hppu .opri }
  | nr10 => exact happu .nr10
  | nr11 => exact happu .nr11
  | nr12 => exact happu .nr12
  | nr13 => exact happu .nr13
  | nr14 => exact happu .nr14
  | nr21 => exact happu .nr21
  | nr22 => exact happu .nr22
  | nr23 => exact happu .nr23
  | nr24 => exact happu .nr24
  | nr30 => exact happu .nr30
  | nr31 => exact happu .nr31
  | nr32 => exact happu .nr32
  | nr33 => exact happu .nr33
  | nr34 => exact happu .nr34
  | nr41 => exact happu .nr41
  | nr42 => exact happu .nr42
  | nr43 => exact happu .nr43
  | nr44 => exact happu .nr44
  | nr50 => exact happu .nr50
  | nr51 => exact happu .nr51
  | nr52 => exact happu .nr52
  | waveRam =>
    have hwave := Channel3.writeWaveRam_bounded h.apu.channel3 address data
    refine Meets.bind (Meets.ofTotal (h.apu.bind3 hwave)) fun apu hapu => ?_
    exact { h with apu := hapu }
  | svbk => exact hcgb _ { h with svbk := and_mask_le _ _ }
  | hdma5 =>
    refine hcgb _ { h with hdma := ?_ }
    rintro active ⟨⟩
    have hlength : (data &&& (0x7F : UInt8)).toNat ≤ 0x7F := toNat_and_le data 0x7F
    have hsrc : (s.hdmaSrc &&& (0xFFF0 : UInt16)).toNat ≤ 0xFFF0 := by
      rw [UInt16.toNat_and]
      exact Nat.and_le_right
    have hdst : (s.hdmaDst &&& (0x1FF0 : UInt16)).toNat ≤ 0x1FF0 := by
      rw [UInt16.toNat_and]
      exact Nat.and_le_right
    refine ⟨hsrc, hdst, ?_, ?_, Nat.mul_mod_left _ _, rfl, fun hne => absurd rfl hne⟩
    · show ((data &&& (0x7F : UInt8)).toNat + 1) * 0x10 ≤ 0x800
      omega
    · exact Nat.mul_pos (Nat.succ_pos _) (by decide)
  | key1 | ff72 | ff73 | ff74 | ff75 => exact hcgb _ { h with }
  | p1 | sb | sc | «if» | dma | hdma1 | hdma2 | hdma3 | hdma4 | div | tac | tima | tma | ff76
  | ff77 => exact { h with }

theorem meets_writeBus (h : s.Sound trusted) (activeDma : Bool) (address : ℕ) (data : UInt8) :
    Meets (s.writeBus activeDma address data) (Sound trusted) (Crash trusted) := by
  have hmapper : Mbc.OnBus address →
      Meets (do return { s with mbc := ← s.mbc.write address data }) (Sound trusted)
        (Crash trusted) := fun haddress =>
    (meets_mapper h.mapper (.write address data) haddress).bind fun mbc hmbc =>
      { h with mapper := hmbc }
  rw [writeBus]
  refine .ite (fun ha => hmapper (.inl ha)) fun _ =>
    .ite (fun _ => { h with ppu := inv_withVram h.ppu address data }) fun hb =>
    .ite (fun hc => hmapper (.inr ⟨by omega, hc⟩)) fun _ =>
    .ite (fun hd => ?_) fun _ => .ite (fun he => .ite (fun _ => h) fun _ => ?_) fun _ =>
    .ite (fun _ => h) fun _ => .ite (fun _ => ?_) fun _ => .ite (fun hf => ?_) fun _ => { h with }
  · refine (wramIndex_lt h.svbk hd).bind fun i hi => ?_
    exact (Mem.meets_set hi data _).bind fun wram _ => { h with }
  · obtain ⟨i, hi⟩ : ∃ i : Fin 0xA0, address = 0xFE00 + i :=
      ⟨⟨address - 0xFE00, by omega⟩, by show address = 0xFE00 + (address - 0xFE00); omega⟩
    have hoam := Ppu.meets_step (.writeOam i data) h.ppu
    rw [Ppu.step, ← hi, hi, Ppu.writeOam_eq] at hoam
    rw [hi, Ppu.writeOam_eq]
    exact { h with ppu := hoam.1 }
  · split
    · exact meets_writeReg h address data _
    · exact h
  · have hindex : address - 0xFF80 < 0x7F := by omega
    generalize address - 0xFF80 = index at hindex ⊢
    exact (Mem.meets_set hindex data _).bind fun hram _ => { h with }

/-! ### Operations -/

/-- **Operations.** An operation keeps the system sound, or crashes in a known way. -/
theorem meets_step (op : Op) (h : s.Sound trusted) :
    Meets (step op s) (Sound trusted) (Crash trusted) := by
  cases op with
  | clock => exact meets_clock h
  | read address =>
    refine meets_map.mpr ((meets_clock h).bind fun t ht => ?_)
    exact (meets_readBus ht _ _).bind fun byte _ => ht
  | write address data =>
    rw [step, clockWrite]
    split
    · rename_i clockCb _
      exact meets_clockWith h fun timer => clockCb timer data
    · exact (meets_clock h).bind fun t ht => meets_writeBus ht _ _ data
  | clearInterrupt interrupt | setCpuHalted halted => exact { h with }
  | speedSwitch =>
    show Sound trusted s.cgbSpeedSwitch
    rw [cgbSpeedSwitch]
    split
    · exact h
    · exact { h with }
  | processEvents inputs =>
    show Sound trusted (s.processEvents inputs).2
    rw [processEvents]
    split
    · exact { h with }
    · rw [inputUpdate]
      dsimp only
      split <;> exact { h with }

theorem sound_new {cartridge : Cartridge} {frameChan : FrameChan} {runForCycles : Option ℕ}
    {ctx : GbCtx} (h : Soc.new cartridge frameChan runForCycles ctx = .ok s) :
    s.Sound s.mbc.NeverPanics := by
  obtain ⟨mbc, -, h⟩ := bind_eq_ok.mp h
  cases h
  exact ⟨Ppu.Inv.new frameChan ctx, Apu.new_bounded ctx, id, Nat.zero_le 8,
    (by decide : (0 : UInt8) ≤ 7), nofun, nofun⟩

end Soc

end ZenithGb
