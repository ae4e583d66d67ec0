import ZenithGb.Soc.Hdma

/-!
# HBlank DMA

The pixel unit raises a flag in the clock that leaves HBlank, and the next clock of the 4 MHz
components reads it, before the pixel unit replaces it. So every flag is seen by exactly one call
of `clock_hdma`, at whatever speed the CPU runs. The call then copies one block, unless the CPU is
halted; VRAM is not locked at that moment, so nothing of the block is lost.

## Main results

* `Soc.Copies`, `Soc.BlockCopied` — what copying bytes means
* `Soc.Cycle.hblankDma` — what one cycle does to an HBlank transfer
* `Soc.Effect.hblankCycle` — where the flag comes from
* `Soc.hblank_dma` — the life of an HBlank transfer
-/

namespace ZenithGb

open Outcome

/-- A transfer after some of its blocks: it is gone after the last. -/
def Hdma.after (started : Hdma) (blocks : ℕ) : Option Hdma :=
  if 0x10 * blocks < started.initial then some { started with count := 0x10 * blocks } else none

theorem Hdma.after_eq_some {started a : Hdma} {blocks : ℕ} :
    started.after blocks = some a ↔
      0x10 * blocks < started.initial ∧ { started with count := 0x10 * blocks } = a := by
  rw [after]
  split <;> rename_i h <;> simp [h]

theorem Hdma.after_eq_none {started : Hdma} {blocks : ℕ} :
    started.after blocks = none ↔ started.initial ≤ 0x10 * blocks := by
  rw [after]
  split <;> rename_i h <;> simp <;> omega

namespace Soc

variable {s s' : Soc} {active : Hdma} {op : Op}

/-! ### Copying -/

/-- `n` bytes of a transfer, from offset `start` on, are copied in order: each is what the memory
map gives at that moment, and goes to its place in the current bank of VRAM. -/
inductive Copies (active : Hdma) : ℕ → ℕ → Soc → Soc → Prop
  | done {start : ℕ} {s : Soc} : Copies active start 0 s s
  | byte {start n : ℕ} {s s' : Soc} (byte : UInt8) :
      s.dmaRead .hdmaRead (active.src + start) = .ok byte →
      Copies active (start + 1) n
        (s.withVram (s.ppu.vram.put (Ppu.vramAddr s.ppu.vbk (active.dst + start)) byte)) s' →
      Copies active start (n + 1) s s'

/-- Outside mode 3 no byte is dropped. -/
theorem copies_of_copyHdma {start n : ℕ} (hmode : s.ppu.statMode ≠ .draw)
    (h : copyHdma active start n s = .ok s') : Copies active start n s s' := by
  induction n generalizing start s with
  | zero =>
    cases h
    exact .done
  | succ n ih =>
    rw [copyHdma, List.range'_succ, List.foldlM_cons] at h
    obtain ⟨t, hbyte, h⟩ := bind_eq_ok.mp h
    obtain ⟨src, hsrc, hbyte⟩ := bind_eq_ok.mp hbyte
    obtain ⟨-, rfl⟩ := checkedAdd_eq_ok.mp hsrc
    obtain ⟨dst, hdst, hbyte⟩ := bind_eq_ok.mp hbyte
    obtain ⟨-, rfl⟩ := checkedAdd_eq_ok.mp hdst
    obtain ⟨byte, hread, hbyte⟩ := bind_eq_ok.mp hbyte
    have hwrite : s.ppu.writeVram (active.dst + start) byte = { s.ppu with
        vram := s.ppu.vram.put (Ppu.vramAddr s.ppu.vbk (active.dst + start)) byte } := by
      rw [Ppu.writeVram]
      split
      · exact absurd ‹_› hmode
      · rfl
    cases hbyte
    rw [hwrite] at h
    exact .byte byte hread (ih (s := s.withVram _) hmode h)

theorem vramAddr_val (bank1 : Bool) (addr : ℕ) :
    (Ppu.vramAddr bank1 addr).val = addr % 0x2000 + if bank1 then 0x2000 else 0 := by
  show (addr &&& 0x1FFF) + _ = _
  rw [show (0x1FFF : ℕ) = 2 ^ 13 - 1 from rfl, Nat.and_two_pow_sub_one_eq_mod]

/-- Copying changes VRAM only. -/
theorem Copies.frame {start n : ℕ} (h : Copies active start n s s') :
    ∃ vram, s' = s.withVram vram := by
  induction h with
  | done => exact ⟨_, rfl⟩
  | byte _ _ _ ih =>
    obtain ⟨vram, rfl⟩ := ih
    exact ⟨vram, rfl⟩

/-- A cell that is not a destination keeps its contents. -/
theorem Copies.cell_of_ne {start n : ℕ} (h : Copies active start n s s') {c : Fin 0x4000}
    (hc : ∀ o, start ≤ o → o < start + n → c ≠ Ppu.vramAddr s.ppu.vbk (active.dst + o)) :
    s'.ppu.vram.cell c = s.ppu.vram.cell c := by
  induction h with
  | done => rfl
  | @byte start n s s' byte _ _ ih =>
    rw [ih fun o hlo hhi => hc o (by omega) (by omega)]
    exact Mem.put_cell_of_ne _ (hc start (by omega) (by omega)) _

theorem dmaRead_withVram (s : Soc) (vram : Mem 0x4000 UInt8) {site : Site} {address : ℕ}
    (h : address ≤ 0x7FFF ∨ 0xA000 ≤ address) :
    (s.withVram vram).dmaRead site address = s.dmaRead site address := by
  have hvram : address ≤ 0x9FFF ↔ address ≤ 0x7FFF := by omega
  unfold dmaRead
  simp only [hvram]
  split <;> rfl

/-- Every byte that does not come from VRAM itself arrives, as long as the destinations are
different cells. -/
theorem Copies.cell {start n : ℕ} (h : Copies active start n s s') (hn : n ≤ 0x2000) {o : ℕ}
    (hlo : start ≤ o) (hhi : o < start + n)
    (hsrc : active.src + o ≤ 0x7FFF ∨ 0xA000 ≤ active.src + o) :
    s.dmaRead .hdmaRead (active.src + o) =
      .ok (s'.ppu.vram.cell (Ppu.vramAddr s.ppu.vbk (active.dst + o))) := by
  induction h with
  | done => omega
  | @byte start n s s' byte hread hrest ih =>
    rcases Nat.lt_or_eq_of_le hlo with hlt | rfl
    · rw [← dmaRead_withVram s _ hsrc]
      exact ih (by omega) hlt (by omega)
    · have hkeep := hrest.cell_of_ne (c := Ppu.vramAddr s.ppu.vbk (active.dst + start))
        fun o' hlo' hhi' heq => by
          have hval := congrArg Fin.val heq
          rw [vramAddr_val, vramAddr_val] at hval
          have hbank : (s.withVram (s.ppu.vram.put
            (Ppu.vramAddr s.ppu.vbk (active.dst + start)) byte)).ppu.vbk = s.ppu.vbk := rfl
          rw [hbank] at hval
          omega
      rw [hkeep, hread]
      exact congrArg Except.ok (Mem.put_cell_self ..).symm

/-- The block of 16 bytes at `start` has been copied, and nothing else has changed. -/
structure BlockCopied (active : Hdma) (start : ℕ) (s s' : Soc) : Prop where
  copies : Copies active start 0x10 s s'
  /-- Each byte is at its place in the current bank. -/
  arrived : ∀ o, start ≤ o → o < start + 0x10 →
    active.src + o ≤ 0x7FFF ∨ 0xA000 ≤ active.src + o → ∀ c : Fin 0x4000,
    c.1 = (active.dst + o) % 0x2000 + (if s.ppu.vbk then 0x2000 else 0) →
    s.dmaRead .hdmaRead (active.src + o) = .ok (s'.ppu.vram.cell c)
  /-- No other cell of VRAM has changed. -/
  others : ∀ c : Fin 0x4000, (∀ o, start ≤ o → o < start + 0x10 →
      c.1 ≠ (active.dst + o) % 0x2000 + if s.ppu.vbk then 0x2000 else 0) →
    s'.ppu.vram.cell c = s.ppu.vram.cell c
  frame : ∃ vram, s' = s.withVram vram

theorem Copies.block {start : ℕ} (h : Copies active start 0x10 s s') :
    BlockCopied active start s s' where
  copies := h
  arrived o hlo hhi hsrc c hc := by
    rw [show c = Ppu.vramAddr s.ppu.vbk (active.dst + o) from
      Fin.ext (hc.trans (vramAddr_val ..).symm)]
    exact h.cell (by decide) hlo hhi hsrc
  others c hc := h.cell_of_ne fun o hlo hhi heq => hc o hlo hhi (by rw [heq, vramAddr_val])
  frame := h.frame

/-! ### The flag -/

/-- Whether the operation clocks the 4 MHz components. -/
def ticksAt (op : Op) (s : Soc) : Bool := op.isCycle && s.ticks

/-- In a cycle that clocks the pixel unit the flag becomes whether it leaves HBlank. -/
theorem Cycle.hblankCycle {s1 s2 : Soc} (h : Cycle s s1 s2 s') (hinv : Ppu.Inv s.ppu) :
    s'.ppu.hblankCycle = true ↔
      if s.ticks then s.ppu.LeavesHblank else s.ppu.hblankCycle = true := by
  obtain ⟨hinv2, -, oam, vram, hs2⟩ := h.ppu_before hinv
  have hppu := h.ppu
  split at hppu
  · rename_i ht
    rw [if_pos ht, (Ppu.tick_of_step hinv2 hppu).2.2.hblankCycle_iff, hs2]
    rfl
  · rename_i ht
    rw [if_neg ht, hppu, hs2]

/-- No write touches the flag. -/
theorem BusWrite.hblankCycle {activeDma : Bool} {address : ℕ} {data : UInt8}
    (h : BusWrite s s' activeDma address data) : s'.ppu.hblankCycle = s.ppu.hblankCycle := by
  cases h with
  | plain hp => rw [hp.ppu]
  | ppuReg reg he => subst he; exact s.ppu.writeReg_hblankCycle data reg
  | vram he => subst he; exact (Ppu.aside_writeVram s.ppu address data).hblankCycle
  | oam i ppu _ hs he =>
    subst he
    rw [Ppu.step, Ppu.writeOam_eq] at hs
    cases hs
    dsimp only
    split <;> rfl
  | dma _ he => subst he; rfl
  | hdma5 _ he =>
    subst he
    rw [writeHdma5, whenCgb]
    split <;> rfl

/-- **Where the flag comes from.** A step that clocks the pixel unit replaces the flag, and no other
step touches it. -/
theorem Effect.hblankCycle (h : Effect s s' op) (hinv : Ppu.Inv s.ppu) :
    s'.ppu.hblankCycle = true ↔
      if ticksAt op s then s.ppu.LeavesHblank else s.ppu.hblankCycle = true := by
  rw [ticksAt]
  cases h with
  | aside hcycle ha => rw [ha.ppu, hcycle]; rfl
  | cycle hcycle hc ha =>
    rw [hcycle, Bool.true_and, ← hc.hblankCycle hinv]
    cases ha with
    | clock he | read _ he => rw [he]
    | write _ _ hw => rw [hw.hblankCycle]

/-- What VRAM DMA sees of the pixel unit is what the pixel unit raised in the clock before: from
one clock of the 4 MHz components to the next, the flag says whether the former left HBlank. -/
def SeenOnce (r : Machine.Run step) : Prop :=
  ∀ i j, i < j → j ≤ r.length → ticksAt (r.input i) (r.state i) = true →
    (∀ l, i < l → l < j → ticksAt (r.input l) (r.state l) = false) →
    ((r.state j).ppu.hblankCycle = true ↔ (r.state i).ppu.LeavesHblank)

theorem seenOnce (r : Machine.Run step) (h : Reachable (r.state 0)) : SeenOnce r := by
  intro i j hij hj htick hidle
  have hflag : ∀ k < r.length, _ := fun k hk =>
    (effect_of_step (r.next k hk)).hblankCycle (h.along (Nat.le_of_lt hk)).ppu.inv
  refine r.invariant (m := i + 1) (I := fun k s => k ≤ j →
      (s.ppu.hblankCycle = true ↔ (r.state i).ppu.LeavesHblank)) (fun _ => ?_)
    (fun k hlo hlt ih hk => ?_) j hij hj le_rfl
  · rw [hflag i (by omega), if_pos htick]
  · rw [hflag k hlt, if_neg (by rw [hidle k hlo hk]; decide), ih (by omega)]

/-! ### The transfer -/

variable {started : Hdma} {blocks : ℕ}

/-- What VRAM DMA makes of `s` when `blocks` blocks of a transfer have been copied, if `moves` says
that it sees the flag and the CPU is not halted. -/
def BlockStep (started : Hdma) (blocks : ℕ) (moves : Bool) (s s' : Soc) : Prop :=
  if moves = true ∧ 0x10 * blocks < started.initial then
    ∃ t, BlockCopied started (0x10 * blocks) s t ∧
      s' = { t with hdma := started.after (blocks + 1) }
  else s' = s

theorem BlockStep.hdma {moves : Bool} (h : BlockStep started blocks moves s s')
    (hdma : s.hdma = started.after blocks) :
    s'.hdma = started.after (blocks + if moves then 1 else 0) := by
  rw [BlockStep] at h
  split at h
  · rename_i hmoves
    obtain ⟨t, -, rfl⟩ := h
    rw [if_pos hmoves.1]
  · rename_i hmoves
    rw [h, hdma]
    by_cases hm : moves = true
    · have hdone : started.initial ≤ 0x10 * blocks := by
        rw [not_and] at hmoves
        exact not_lt.mp (hmoves hm)
      rw [if_pos hm, Hdma.after_eq_none.mpr hdone, Hdma.after_eq_none.mpr (by omega)]
    · rw [if_neg hm, Nat.add_zero]

/-- **VRAM DMA.** With the flag up it copies the next block, of 16 bytes, all of which arrive: the
pixel unit is not in mode 3 then. -/
theorem HdmaStep.blockStep (h : HdmaStep s s') (hinv : Ppu.Inv s.ppu)
    (hblank : started.hblankDma = true) (hinitial : started.initial % 0x10 = 0)
    (hdma : s.hdma = started.after blocks) :
    BlockStep started blocks (s.ppu.hblankCycle && !s.cpuHalted) s s' := by
  rw [BlockStep]
  cases h with
  | idle hnone he =>
    have hdone := Hdma.after_eq_none.mp (hdma.symm.trans hnone)
    rwa [if_neg (by omega)]
  | wait active _ _ hflag he => rwa [if_neg (by rw [hflag]; exact fun h => nomatch h.1)]
  | whole active _ hsome hgeneral =>
    obtain ⟨-, rfl⟩ := Hdma.after_eq_some.mp (hdma.symm.trans hsome)
    exact absurd (hblank.symm.trans hgeneral) nofun
  | block active t hsome _ hflag hle hcopy he =>
    obtain ⟨hlt, rfl⟩ := Hdma.after_eq_some.mp (hdma.symm.trans hsome)
    have hmin : min 0x10 (started.initial - 0x10 * blocks) = 0x10 := by omega
    dsimp only at hcopy he
    rw [hmin] at hcopy he
    rw [if_pos ⟨hflag, hlt⟩]
    have hup : s.ppu.hblankCycle = true := by
      rw [Bool.and_eq_true] at hflag
      exact hflag.1
    refine ⟨t, Copies.block (copies_of_copyHdma (hinv.hblank hup) hcopy), ?_⟩
    rw [he, Hdma.after]
    congr 1
    split
    · rw [if_neg (by omega)]
    · rw [if_pos (by omega), Nat.mul_succ]

/-- In the cycle of this operation VRAM DMA sees the flag, and the CPU is not halted. -/
def movesBlock (op : Op) (s : Soc) : Bool := ticksAt op s && (s.ppu.hblankCycle && !s.cpuHalted)

/-- What a cycle does to an HBlank transfer. -/
theorem Cycle.blockStep {s1 s2 : Soc} (h : Cycle s s1 s2 s') (hinv : Ppu.Inv s.ppu)
    (hop : op.isCycle = true) (hblank : started.hblankDma = true)
    (hinitial : started.initial % 0x10 = 0) (hdma : s.hdma = started.after blocks) :
    BlockStep started blocks (movesBlock op s) s1 s2 ∧
      s'.hdma = started.after (blocks + if movesBlock op s then 1 else 0) := by
  obtain ⟨hs1, oam, hppu⟩ := (dmaStep_of_clockDma h.dma).frame
  have hdma1 : s1.hdma = started.after blocks := by rw [hs1]; exact hdma
  have hflag : (s1.ppu.hblankCycle && !s1.cpuHalted) = (s.ppu.hblankCycle && !s.cpuHalted) := by
    rw [hs1, hppu]
  have hinv1 : Ppu.Inv s1.ppu := by
    rw [hppu]
    exact { hinv with }
  have hstep : BlockStep started blocks (movesBlock op s) s1 s2 := by
    have hhdma := h.hdma
    rw [movesBlock, ticksAt, hop, Bool.true_and, ← hflag]
    split at hhdma
    · rename_i ht
      rw [ht, Bool.true_and]
      exact (hdmaStep_of_clockHdma hhdma).blockStep hinv1 hblank hinitial hdma1
    · rename_i ht
      rw [BlockStep]
      rwa [if_neg fun h => ht (Bool.and_eq_true_iff.mp h.1).1]
  exact ⟨hstep, h.hdma_eq.trans (hstep.hdma hdma1)⟩

/-- An access other than a write to HDMA5 leaves the transfer alone. -/
theorem Access.hdma {active : Bool} (h : Access active s s' op)
    (hop : ∀ d, op ≠ .write 0xFF55 d) : s'.hdma = s.hdma := by
  cases h with
  | clock he | read _ he => rw [he]
  | write address data hw =>
    cases hw with
    | plain hp => exact hp.hdma
    | ppuReg _ he | vram he | dma _ he | oam _ _ _ _ he => subst he; rfl
    | hdma5 haddr =>
      exact absurd (by rw [show address = 0xFF55 from UInt16.toNat_inj.mp haddr]) (hop data)

/-- What a step does to an HBlank transfer: in a cycle VRAM DMA does what `BlockStep` says. -/
def HblankStep (started : Hdma) (blocks : ℕ) (op : Op) (s s' : Soc) : Prop :=
  op.isCycle = true → ∃ s1 s2 s3, Cycle s s1 s2 s3 ∧ Access s.activeDma.isSome s3 s' op ∧
    BlockStep started blocks (movesBlock op s) s1 s2

/-- **One step.** -/
theorem Effect.hblankStep (h : Effect s s' op) (hinv : Ppu.Inv s.ppu)
    (hblank : started.hblankDma = true) (hinitial : started.initial % 0x10 = 0)
    (hdma : s.hdma = started.after blocks) (hop : ∀ d, op ≠ .write 0xFF55 d) :
    HblankStep started blocks op s s' ∧
      s'.hdma = started.after (blocks + if movesBlock op s then 1 else 0) := by
  cases h with
  | aside hcycle ha =>
    refine ⟨fun hc => absurd (hcycle.symm.trans hc) nofun, ?_⟩
    rw [movesBlock, ticksAt, hcycle]
    exact ha.hdma.trans hdma
  | cycle hcycle hc ha =>
    obtain ⟨hstep, h3⟩ := hc.blockStep hinv hcycle hblank hinitial hdma
    exact ⟨fun _ => ⟨_, _, _, hc, ha, hstep⟩, (ha.hdma hop).trans h3⟩

/-! ### The life of a transfer -/

/-- How many calls of `clock_hdma` before position `k` of a run see the flag while the CPU is not
halted. -/
def blockCalls (r : Machine.Run step) (k : ℕ) : ℕ :=
  Nat.count (fun i => movesBlock (r.input i) (r.state i) = true) k

/-- What there is to see of a transfer after some of its blocks. -/
structure HblankTransfer (started : Hdma) (blocks : ℕ) (s : Soc) : Prop where
  /-- The transfer has copied `blocks` blocks, or is gone when that is all of them. -/
  hdma : s.hdma = started.after blocks
  count : ∀ a, s.hdma = some a → a.count % 0x10 = 0 ∧ a.count < a.initial ∧ a.initial ≤ 0x800
  /-- HDMA5 shows the blocks left minus one, with bit 7 clear, and then 0xFF. -/
  hdma5 : ∃ v, s.readHdma5 = .ok v ∧
    if blocks < started.initial / 0x10 then
      v.toNat = started.initial / 0x10 - blocks - 1 ∧ v &&& 0x80 = 0
    else v = 0xFF
  /-- VRAM DMA panics only in the mapper. -/
  safe : ∀ s1, s.clockDma = .ok s1 → Meets (clockHdma s1) (fun _ => True) MapperPanic

theorem sevenBits : ∀ n : Fin 128, (UInt8.ofNat n &&& (0x7F : UInt8)).toNat = n ∧
    UInt8.ofNat n &&& (0x7F : UInt8) &&& 0x80 = 0 := by
  decide +kernel

theorem hblankTransfer (hfits : started.Fits) (hblank : started.hblankDma = true)
    (hsvbk : s.svbk ≤ 7) (hdma : s.hdma = started.after blocks) :
    HblankTransfer started blocks s := by
  have hwhole := hfits.initialBlocks
  have hinitial := hfits.initial
  have hsome : ∀ a, s.hdma = some a → a.Fits := fun a ha => by
    obtain ⟨hlt, rfl⟩ := Hdma.after_eq_some.mp (hdma.symm.trans ha)
    exact { hfits with count := hlt, countBlocks := Nat.mul_mod_right _ _ }
  refine ⟨hdma, fun a ha => ⟨(hsome a ha).countBlocks, (hsome a ha).count, (hsome a ha).initial⟩,
    ?_, fun s1 hs1 => HdmaFits.meets hsome hsvbk hs1⟩
  rw [readHdma5, hdma]
  by_cases hlt : 0x10 * blocks < started.initial
  · have hleft : (started.initial - 0x10 * blocks) / 0x10 - 1 < 128 := by omega
    obtain ⟨hval, hbit⟩ := sevenBits ⟨_, hleft⟩
    rw [Hdma.after, if_pos hlt]
    simp only [hblank, if_true, checkedSub_of_le _ (Nat.le_of_lt hlt), ok_bind]
    rw [checkedSub_of_le _ (by omega)]
    refine ⟨_, rfl, ?_⟩
    rw [if_pos (by omega)]
    exact ⟨hval.trans (by dsimp only; omega), hbit⟩
  · rw [Hdma.after, if_neg hlt]
    refine ⟨_, rfl, ?_⟩
    rw [if_neg (by omega)]

/-- Writing HDMA5 in CGB mode starts the transfer. -/
theorem hdma_of_clockWrite (hcgb : s.ctx.cgb = true) {data : UInt8}
    (h : s.clockWrite 0xFF55 data = .ok s') : s'.hdma = some (s.hdmaOf data) := by
  have hreg : HwReg.ofAddr (0xFF55 : UInt16).toNat = some .hdma5 := by decide
  rw [clockWrite] at h
  rw [hreg] at h
  obtain ⟨t, hclock, h⟩ := bind_eq_ok.mp h
  rw [clock_eq_clockWith] at hclock
  obtain ⟨s1, s2, hc⟩ := cycle_of_clockWith hclock
  rw [writeBus_of_reg (by decide) (by decide) hreg] at h
  have hkept := hc.kept
  have hw : t.writeHdma5 data = s' := ok_inj.mp h
  rw [← hw, writeHdma5_of_cgb (by rw [hkept.ctx]; exact hcgb), hdmaOf, hkept.hdmaSrc, hkept.hdmaDst]
  rfl

/-- A read of HDMA5 shows the register as it is after the cycle of the read. -/
theorem clockRead_hdma5 (h : step (.read 0xFF55) s = .ok s') {v : UInt8}
    (hv : s'.readHdma5 = .ok v) : s.clockRead 0xFF55 = .ok (v, s') := by
  obtain ⟨⟨v', t⟩, hr, rfl⟩ := map_eq_ok.mp h
  obtain ⟨t', hclock, hr⟩ := bind_eq_ok.mp hr
  obtain ⟨v'', hbus, hr⟩ := bind_eq_ok.mp hr
  cases hr
  have hreg : HwReg.ofAddr (0xFF55 : UInt16).toNat = some .hdma5 := by decide
  have hread : t.readBus s.activeDma.isSome (0xFF55 : UInt16).toNat = t.readHdma5 := by
    rw [readBus]
    rw [if_neg (by decide), if_neg (by decide), if_neg (by decide), if_neg (by decide),
      if_neg (by decide), if_neg (by decide), if_pos (by decide), hreg]
    rfl
  rw [clockRead, hclock, ok_bind, hread, hv]
  rfl

/-- **HBlank DMA.** From every reachable system in CGB mode, a write to HDMA5 with bit 7 set, whose
source stays below 0xFE00, starts a transfer that moves every block exactly once, whatever follows
short of another write to HDMA5: each call of `clock_hdma` that sees the flag while the CPU is not
halted copies the next block, each flag is seen by one call, and after the last block the transfer
is gone. HDMA5 tells how many blocks are left. -/
theorem hblank_dma (hs : Reachable s) (hcgb : s.ctx.cgb = true) {data : UInt8}
    (hbit : data &&& 0x80 ≠ 0)
    (hsrc : (s.hdmaSrc &&& (0xFFF0 : UInt16)).toNat + hdmaLength data ≤ 0xFE00)
    (r : Machine.Run step) (hstart : s.clockWrite 0xFF55 data = .ok (r.state 0))
    (hother : ∀ k < r.length, ∀ d, r.input k ≠ .write 0xFF55 d) :
    (∀ k ≤ r.length, HblankTransfer (s.hdmaOf data) (blockCalls r k) (r.state k)) ∧
    (∀ k < r.length, HblankStep (s.hdmaOf data) (blockCalls r k) (r.input k) (r.state k)
      (r.state (k + 1))) ∧
    SeenOnce r ∧
    ∀ k < r.length, r.input k = .read 0xFF55 → ∃ v, (r.state (k + 1)).readHdma5 = .ok v ∧
      (r.state k).clockRead 0xFF55 = .ok (v, r.state (k + 1)) := by
  have hreach : Reachable (r.state 0) := .step (.write 0xFF55 data) hs hstart
  have hfits : (s.hdmaOf data).Fits := fits_hdmaOf hsrc
  have hblank : (s.hdmaOf data).hblankDma = true := bne_iff_ne.mpr hbit
  have hnext : ∀ k < r.length, (r.state k).hdma = (s.hdmaOf data).after (blockCalls r k) → _ :=
    fun k hk hdma => (effect_of_step (r.next k hk)).hblankStep
      (hreach.along (Nat.le_of_lt hk)).ppu.inv hblank hfits.initialBlocks hdma (hother k hk)
  have hdma : ∀ k ≤ r.length, (r.state k).hdma = (s.hdmaOf data).after (blockCalls r k) := by
    intro k hk
    refine r.invariant (I := fun k s' => s'.hdma = (s.hdmaOf data).after (blockCalls r k)) ?_
      (fun k _ hlt hdma => ?_) k (Nat.zero_le k) hk
    · have h0 : (s.hdmaOf data).after 0 = some (s.hdmaOf data) :=
        Hdma.after_eq_some.mpr ⟨hfits.count, rfl⟩
      rw [hdma_of_clockWrite hcgb hstart, blockCalls, Nat.count_zero, h0]
    · rw [blockCalls, Nat.count_succ]
      exact (hnext k hlt hdma).2
  have htransfer : ∀ k ≤ r.length, HblankTransfer (s.hdmaOf data) (blockCalls r k) (r.state k) :=
    fun k hk => hblankTransfer hfits hblank (hreach.along hk).svbk (hdma k hk)
  refine ⟨htransfer, fun k hk => (hnext k hk (hdma k (Nat.le_of_lt hk))).1, seenOnce r hreach,
    fun k hk hin => ?_⟩
  obtain ⟨v, hv, -⟩ := (htransfer (k + 1) hk).hdma5
  exact ⟨v, hv, clockRead_hdma5 (hin ▸ r.next k hk) hv⟩

/-- A transfer of one block from work RAM, which is gone after the first line. -/
theorem hblank_dma_new :
    ∃ s, ∃ r : Machine.Run step, Reachable s ∧ s.clockWrite 0xFF55 0x80 = .ok (r.state 0) ∧
      r.length = 120 ∧ HblankTransfer (s.hdmaOf 0x80) 0 (r.state 0) ∧ 1 ≤ blockCalls r 120 := by
  obtain ⟨t, ht⟩ := exists_of_isOk (x := do
      let s ← cgbNew
      let s ← s.clockWrite 0xFF51 0xC0
      let s ← s.clockWrite 0xFF55 0x80
      Machine.exec step (List.replicate 120 .clock) s) (by decide +kernel)
  have hfacts : (do
      let s ← cgbNew
      let s1 ← s.clockWrite 0xFF51 0xC0
      let s2 ← s1.clockWrite 0xFF55 0x80
      let t ← Machine.exec step (List.replicate 120 .clock) s2
      pure (s1.ctx.cgb, s1.hdmaSrc, t.hdma)).toOption = some (true, 0xC000, none) := by
    decide +kernel
  obtain ⟨s, hnew, ht⟩ := bind_eq_ok.mp ht
  obtain ⟨s1, hsrc, ht⟩ := bind_eq_ok.mp ht
  obtain ⟨s2, hwrite, ht⟩ := bind_eq_ok.mp ht
  rw [hnew, ok_bind, hsrc, ok_bind, hwrite, ok_bind, ht, ok_bind] at hfacts
  obtain ⟨hcgb, hsrc1, hgone⟩ : s1.ctx.cgb = true ∧ s1.hdmaSrc = 0xC000 ∧ t.hdma = none := by
    have h := Option.some.inj hfacts
    exact ⟨congrArg Prod.fst h, congrArg (·.2.1) h, congrArg (·.2.2) h⟩
  obtain ⟨r, hlen, hstart, hend, hin⟩ := Machine.Run.ofExec .clock ht
  rw [List.length_replicate] at hlen hend
  have hreach : Reachable s1 := .step (.write 0xFF51 0xC0) (reachable_cgbNew hnew) hsrc
  rw [← hstart] at hwrite
  obtain ⟨htransfer, -⟩ := hblank_dma hreach hcgb (by decide) (by rw [hsrc1]; decide) r hwrite
    fun k hk d hne => by
      rw [hin, List.getD_replicate _ (hlen ▸ hk)] at hne
      cases hne
  have hdone : (s1.hdmaOf 0x80).after (blockCalls r 120) = none := by
    rw [← (htransfer 120 hlen.ge).hdma, hend, hgone]
  have hle : 0x10 ≤ 0x10 * blockCalls r 120 := Hdma.after_eq_none.mp hdone
  exact ⟨s1, r, hreach, hwrite, hlen, htransfer 0 (Nat.zero_le _), by omega⟩

end Soc

end ZenithGb
