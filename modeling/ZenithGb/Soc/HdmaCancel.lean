import ZenithGb.Soc.HblankDma

/-!
# HDMA5 with bit 7 clear

Writing HDMA5 with bit 7 clear is how a program stops an HBlank transfer. Here it replaces the
transfer by a general one, which the next call of `clock_hdma` performs as a whole. Only mode 3
prevents that, since VRAM drops every byte then; the transfer is gone all the same.

## Main results

* `Soc.Effect.copied` — what VRAM DMA stores in a step
* `Soc.hdma5_stops_iff` — when nothing is copied after such a write
-/

namespace ZenithGb

open Outcome

namespace Soc

variable {s s' : Soc} {op : Op} {data : UInt8}

/-! ### What is copied -/

/-- The bytes a call of `clock_hdma` is to copy. -/
def hdmaDue (s : Soc) : ℕ :=
  match s.hdma with
  | none => 0
  | some active =>
    if active.hblankDma then
      if s.ppu.hblankCycle && !s.cpuHalted then min 0x10 (active.initial - active.count) else 0
    else active.initial

/-- The bytes that arrive in VRAM. -/
def bytesCopied (s : Soc) : ℕ := if s.ppu.statMode = .draw then 0 else s.hdmaDue

/-- The bytes the call of `clock_hdma` copies in a step, if the step has one. -/
def copiedIn (op : Op) (s : Soc) : ℕ := if ticksAt op s then s.bytesCopied else 0

/-- In mode 3 every byte is dropped. -/
theorem eq_of_copyHdma {active : Hdma} {start n : ℕ} (hmode : s.ppu.statMode = .draw)
    (h : copyHdma active start n s = .ok s') : s' = s := by
  refine (foldlM_invariant (E := fun _ => True) (I := fun t => t = s) rfl
    fun offset _ t ht => meets_of_ok fun t' ht' => ?_).of_ok h
  subst ht
  obtain ⟨src, -, ht'⟩ := bind_eq_ok.mp ht'
  obtain ⟨dst, -, ht'⟩ := bind_eq_ok.mp ht'
  obtain ⟨byte, -, ht'⟩ := bind_eq_ok.mp ht'
  cases ht'
  rw [Ppu.writeVram, hmode]

/-- What a call of `clock_hdma` stores: nothing, or bytes of the active transfer in order. -/
def Copied (n : ℕ) (s s' : Soc) : Prop :=
  if n = 0 then s' = { s with hdma := s'.hdma }
  else ∃ active start t, s.hdma = some active ∧ Copies active start n s t ∧
    s' = { t with hdma := s'.hdma }

theorem copied_of_copyHdma {active : Hdma} {start n : ℕ} {t : Soc} {hdma : Option Hdma}
    (hactive : s.hdma = some active) (h : copyHdma active start n s = .ok t) :
    Copied (if s.ppu.statMode = .draw then 0 else n) s { t with hdma } := by
  by_cases hmode : s.ppu.statMode = .draw
  · rw [if_pos hmode, eq_of_copyHdma hmode h]
    rfl
  · rw [if_neg hmode, Copied]
    split
    · rename_i hn
      subst hn
      cases h
      rfl
    · exact ⟨active, start, t, hactive, copies_of_copyHdma hmode h, rfl⟩

/-- **VRAM DMA** copies the bytes it is to copy, unless VRAM is locked. -/
theorem HdmaStep.copied (h : HdmaStep s s') : Copied s.bytesCopied s s' := by
  rw [bytesCopied, hdmaDue]
  cases h with
  | idle hnone he =>
    rw [hnone, he]
    dsimp only
    rw [ite_self]
    rfl
  | wait active hsome hblank hflag he =>
    rw [hsome, he]
    dsimp only
    rw [if_pos hblank, hflag, if_neg Bool.false_ne_true, ite_self]
    rfl
  | block active t hsome hblank hflag _ hcopy he =>
    rw [hsome, he]
    dsimp only
    rw [if_pos hblank, if_pos hflag]
    exact copied_of_copyHdma hsome hcopy
  | whole active t hsome hgeneral hcopy he =>
    rw [hsome, he]
    dsimp only
    simp only [hgeneral, Bool.false_eq_true, if_false]
    exact copied_of_copyHdma hsome hcopy

theorem DmaStep.bytesCopied {s1 : Soc} (h : DmaStep s s1) : s1.bytesCopied = s.bytesCopied := by
  obtain ⟨hs1, oam, hppu⟩ := h.frame
  rw [hs1, hppu]
  rfl

/-- **One step.** In a cycle VRAM DMA stores what `copiedIn` counts. -/
theorem Effect.copied (h : Effect s s' op) (hop : op.isCycle = true) : ∃ s1 s2 s3,
    Cycle s s1 s2 s3 ∧ Access s.activeDma.isSome s3 s' op ∧ Copied (copiedIn op s) s1 s2 := by
  cases h with
  | aside hcycle => exact absurd (hcycle.symm.trans hop) Bool.false_ne_true
  | @cycle s1 s2 s3 _ hc ha =>
    refine ⟨s1, s2, s3, hc, ha, ?_⟩
    have hhdma := hc.hdma
    rw [copiedIn, ticksAt, hop, Bool.true_and]
    split at hhdma
    · rename_i hticks
      rw [if_pos hticks, ← (dmaStep_of_clockDma hc.dma).bytesCopied]
      exact (hdmaStep_of_clockHdma hhdma).copied
    · rename_i hticks
      rw [if_neg hticks, hhdma]
      rfl

/-! ### After the write -/

/-- A call of `clock_hdma` finishes a general transfer, and nothing else touches it. -/
theorem Effect.generalDma (h : Effect s s' op) {active : Hdma} (hsome : s.hdma = some active)
    (hgeneral : active.hblankDma = false) (hop : ∀ d, op ≠ .write 0xFF55 d) :
    s'.hdma = if ticksAt op s then none else some active := by
  rw [ticksAt]
  cases h with
  | aside hcycle ha => rw [hcycle, ha.hdma]; exact hsome
  | @cycle s1 s2 s3 hcycle hc ha =>
    have hs1 : s1.hdma = some active := by
      rw [(dmaStep_of_clockDma hc.dma).frame.1]
      exact hsome
    have hhdma := hc.hdma
    rw [hcycle, Bool.true_and, ha.hdma hop, hc.hdma_eq]
    split at hhdma
    · rename_i hticks
      rw [if_pos hticks]
      cases hdmaStep_of_clockHdma hhdma with
      | idle hnone => cases hnone.symm.trans hs1
      | wait _ hsome' hblank | block _ _ hsome' hblank =>
        cases hsome'.symm.trans hs1
        exact absurd (hblank.symm.trans hgeneral) Bool.noConfusion
      | whole _ _ _ _ _ he => rw [he]
    · rename_i hticks
      rw [if_neg hticks, hhdma, hs1]

/-- Without a transfer, none comes about but by writing HDMA5. -/
theorem Effect.noDma (h : Effect s s' op) (hnone : s.hdma = none)
    (hop : ∀ d, op ≠ .write 0xFF55 d) : s'.hdma = none := by
  cases h with
  | aside _ ha => rw [ha.hdma, hnone]
  | @cycle s1 s2 s3 _ hc ha =>
    have hs1 : s1.hdma = none := by
      rw [(dmaStep_of_clockDma hc.dma).frame.1]
      exact hnone
    have hhdma := hc.hdma
    rw [ha.hdma hop, hc.hdma_eq]
    split at hhdma
    · cases hdmaStep_of_clockHdma hhdma with
      | idle hnone' he => rw [he, hnone']
      | wait _ hsome | block _ _ hsome | whole _ _ hsome => cases hsome.symm.trans hs1
    · rw [hhdma, hs1]

/-- Position `k` of a run has its first call of `clock_hdma`. -/
structure FirstCall (r : Machine.Run step) (k : ℕ) : Prop where
  calls : ticksAt (r.input k) (r.state k) = true
  first : ∀ j < k, ticksAt (r.input j) (r.state j) = false

/-- Before the first call the transfer is there, and after it there is none. -/
theorem generalDma (r : Machine.Run step) {active : Hdma} (h0 : (r.state 0).hdma = some active)
    (hgeneral : active.hblankDma = false)
    (hother : ∀ k < r.length, ∀ d, r.input k ≠ .write 0xFF55 d) :
    ∀ k ≤ r.length, (r.state k).hdma =
      if ∀ j < k, ticksAt (r.input j) (r.state j) = false then some active else none := by
  intro k hk
  refine r.invariant (I := fun k s => s.hdma =
      if ∀ j < k, ticksAt (r.input j) (r.state j) = false then some active else none) ?_
    (fun k _ hlt ih => ?_) k (Nat.zero_le k) hk
  · rw [if_pos fun j hj => absurd hj (Nat.not_lt_zero j)]
    exact h0
  · have heffect := effect_of_step (r.next k hlt)
    split at ih
    · rename_i hidle
      rw [heffect.generalDma ih hgeneral (hother k hlt)]
      by_cases hticks : ticksAt (r.input k) (r.state k) = true
      · rw [if_pos hticks, if_neg fun h => Bool.false_ne_true
          ((h k (Nat.lt_succ_self k)).symm.trans hticks)]
      · rw [if_neg hticks, if_pos]
        intro j hj
        obtain hlt | rfl := Nat.lt_succ_iff_lt_or_eq.mp hj
        · exact hidle j hlt
        · exact Bool.eq_false_iff.mpr hticks
    · rename_i hcalled
      rw [heffect.noDma ih (hother k hlt), if_neg fun h => hcalled fun j hj =>
        h j (Nat.lt_succ_of_lt hj)]

/-- What the steps of such a run copy: the whole transfer at the first call, unless VRAM is locked,
and then nothing. -/
theorem copiedIn_generalDma (r : Machine.Run step) {active : Hdma}
    (h0 : (r.state 0).hdma = some active) (hgeneral : active.hblankDma = false)
    (hother : ∀ k < r.length, ∀ d, r.input k ≠ .write 0xFF55 d) {k : ℕ} (hk : k < r.length) :
    (FirstCall r k → copiedIn (r.input k) (r.state k) =
      if (r.state k).ppu.statMode = .draw then 0 else active.initial) ∧
    (¬ FirstCall r k → copiedIn (r.input k) (r.state k) = 0) := by
  have hdma := generalDma r h0 hgeneral hother k (Nat.le_of_lt hk)
  constructor
  · rintro ⟨hcalls, hfirst⟩
    rw [if_pos hfirst] at hdma
    rw [copiedIn, if_pos hcalls, bytesCopied, hdmaDue, hdma]
    simp only [hgeneral, Bool.false_eq_true, if_false]
  · intro hnot
    rw [copiedIn]
    split
    · rename_i hcalls
      rw [if_neg fun hfirst => hnot ⟨hcalls, hfirst⟩] at hdma
      rw [bytesCopied, hdmaDue, hdma]
      exact ite_self 0
    · rfl

/-- **Stopping an HBlank transfer.** After a write to HDMA5 with bit 7 clear, whatever transfer was
active, a run without another write to HDMA5 copies no byte into VRAM exactly if the pixel unit is
in mode 3 at its first call of `clock_hdma`. -/
theorem hdma5_stops_iff (hcgb : s.ctx.cgb = true) (hbit : data &&& 0x80 = 0)
    (r : Machine.Run step) (hstart : s.clockWrite 0xFF55 data = .ok (r.state 0))
    (hother : ∀ k < r.length, ∀ d, r.input k ≠ .write 0xFF55 d) :
    (∀ k < r.length, copiedIn (r.input k) (r.state k) = 0) ↔
      ∀ k < r.length, FirstCall r k → (r.state k).ppu.statMode = .draw := by
  have h0 : (r.state 0).hdma = some (s.hdmaOf data) := hdma_of_clockWrite hcgb hstart
  have hgeneral : (s.hdmaOf data).hblankDma = false := bne_eq_false_iff_eq.mpr hbit
  have hpos : (s.hdmaOf data).initial ≠ 0 := Nat.mul_ne_zero (Nat.succ_ne_zero _) (by decide)
  refine forall_congr' fun k => forall_congr' fun hk => ?_
  obtain ⟨hcalled, hidle⟩ := copiedIn_generalDma r h0 hgeneral hother hk
  constructor
  · intro hnone hfirst
    rw [hcalled hfirst] at hnone
    by_contra hmode
    rw [if_neg hmode] at hnone
    exact hpos hnone
  · intro hmode
    by_cases hfirst : FirstCall r k
    · rw [hcalled hfirst, if_pos (hmode hfirst)]
    · exact hidle hfirst

/-! ### The two outcomes -/

/-- A write of 0 to HDMA5 after the operations, with an HBlank transfer active, and then a clock. -/
def stopAfter (ops : List Op) : Checked (Soc × Soc × Soc) := do
  let s ← cgbNew >>= Machine.exec step ops
  let s0 ← s.clockWrite 0xFF55 0x00
  let s1 ← s0.clock
  pure (s, s0, s1)

/-- What is looked at of them. -/
def stopFacts (t : Soc × Soc × Soc) : (Bool × Bool × Bool) × PpuMode × UInt8 × UInt8 :=
  ((t.1.ctx.cgb, t.1.hdma.any Hdma.hblankDma, t.2.1.ticks), t.2.1.ppu.statMode,
    t.2.1.ppu.readVramBanked false 0, t.2.2.ppu.readVramBanked false 0)

theorem exists_stopAfter (ops : List Op) (mode : PpuMode) (v v' : UInt8)
    (h : (stopFacts <$> stopAfter ops) = .ok ((true, true, true), mode, v, v')) :
    ∃ s, ∃ r : Machine.Run step, Reachable s ∧ s.ctx.cgb = true ∧
      (∃ active, s.hdma = some active ∧ active.hblankDma = true) ∧
      s.clockWrite 0xFF55 0x00 = .ok (r.state 0) ∧ r.length = 1 ∧ r.input 0 = .clock ∧
      (r.state 0).ticks = true ∧ (r.state 0).ppu.statMode = mode ∧
      (r.state 0).ppu.vram.cell 0 = v ∧ (r.state 1).ppu.vram.cell 0 = v' := by
  obtain ⟨⟨s, s0, s1⟩, hstop, hfacts⟩ := map_eq_ok.mp h
  obtain ⟨t, hexec, hstop⟩ := bind_eq_ok.mp hstop
  obtain ⟨t0, hwrite, hstop⟩ := bind_eq_ok.mp hstop
  obtain ⟨t1, hclock, hstop⟩ := bind_eq_ok.mp hstop
  cases hstop
  obtain ⟨new, hnew, hexec⟩ := bind_eq_ok.mp hexec
  have hflags := congrArg Prod.fst hfacts
  have hblank : s.hdma.any Hdma.hblankDma = true := congrArg (·.2.1) hflags
  refine ⟨s, ⟨1, fun _ => .clock, fun k => if k = 0 then s0 else s1, fun k hk => ?_⟩,
    (reachable_cgbNew hnew).exec hexec, congrArg (·.1) hflags, ?_, hwrite, rfl, rfl,
    congrArg (·.2.2) hflags, congrArg (·.2.1) hfacts, congrArg (·.2.2.1) hfacts,
    congrArg (·.2.2.2) hfacts⟩
  · obtain rfl := Nat.lt_one_iff.mp hk
    exact hclock
  · cases hsome : s.hdma with
    | none =>
      rw [hsome] at hblank
      exact absurd hblank Bool.false_ne_true
    | some active =>
      rw [hsome] at hblank
      exact ⟨active, rfl, hblank⟩

/-- In mode 3 the write does stop the transfer. -/
theorem hdma5_stops_in_mode3 : ∃ s, ∃ r : Machine.Run step, Reachable s ∧ s.ctx.cgb = true ∧
    (∃ active, s.hdma = some active ∧ active.hblankDma = true) ∧
    s.clockWrite 0xFF55 0x00 = .ok (r.state 0) ∧ r.length = 1 ∧
    ∀ k < r.length, copiedIn (r.input k) (r.state k) = 0 := by
  obtain ⟨s, r, hreach, hcgb, hactive, hwrite, hlen, hin, -, hmode, -, -⟩ := exists_stopAfter
    (.write 0xFF55 0x80 :: List.replicate 24 .clock) .draw 0 0 (by decide +kernel)
  refine ⟨s, r, hreach, hcgb, hactive, hwrite, hlen, ?_⟩
  have hzero : ∀ k < r.length, k = 0 := fun k hk => Nat.lt_one_iff.mp (hlen ▸ hk)
  refine (hdma5_stops_iff hcgb (by decide) r hwrite fun k hk d hne => ?_).mpr fun k hk _ => ?_
  · rw [hzero k hk, hin] at hne
    cases hne
  · rw [hzero k hk]
    exact hmode

/-- Outside it the write starts a transfer, here of a byte of work RAM. -/
theorem hdma5_does_not_stop : ∃ s, ∃ r : Machine.Run step, Reachable s ∧ s.ctx.cgb = true ∧
    (∃ active, s.hdma = some active ∧ active.hblankDma = true) ∧
    s.clockWrite 0xFF55 0x00 = .ok (r.state 0) ∧
    (∀ k < r.length, ∀ d, r.input k ≠ .write 0xFF55 d) ∧
    (∃ k < r.length, copiedIn (r.input k) (r.state k) ≠ 0) ∧
    (r.state 0).ppu.vram.cell 0 = 0 ∧ (r.state 1).ppu.vram.cell 0 = 0xAB := by
  obtain ⟨s, r, hreach, hcgb, hactive, hwrite, hlen, hin, hticks, hmode, hv, hv'⟩ :=
    exists_stopAfter [.write 0xC000 0xAB, .write 0xFF51 0xC0, .write 0xFF55 0x80] .oamScan 0 0xAB
      (by decide +kernel)
  have hzero : ∀ k < r.length, k = 0 := fun k hk => Nat.lt_one_iff.mp (hlen ▸ hk)
  have hother : ∀ k < r.length, ∀ d, r.input k ≠ .write 0xFF55 d := by
    intro k hk d hne
    rw [hzero k hk, hin] at hne
    cases hne
  have hpos : 0 < r.length := hlen ▸ Nat.one_pos
  have hfirst : FirstCall r 0 :=
    ⟨by rw [ticksAt, hin]; exact hticks, fun j hj => absurd hj (Nat.not_lt_zero j)⟩
  refine ⟨s, r, hreach, hcgb, hactive, hwrite, hother, ⟨0, hpos, ?_⟩, hv, hv'⟩
  rw [(copiedIn_generalDma r (hdma_of_clockWrite hcgb hwrite) rfl hother hpos).1 hfirst, hmode,
    if_neg (by decide)]
  exact Nat.mul_ne_zero (Nat.succ_ne_zero _) (by decide)

end Soc

end ZenithGb
