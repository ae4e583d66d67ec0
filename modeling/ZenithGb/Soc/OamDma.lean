import ZenithGb.Soc.Machine

/-!
# OAM DMA

A transfer is 161 M-cycles long: one in which the request is taken up, and then one for each byte.
The engine reads through its own copy of the memory map; `readBus_of_dmaRead` says that the copy
agrees with the one the CPU reads through. While a transfer is active the CPU is locked out of OAM,
so what has been copied stays.

## Main results

* `Soc.readBus_of_dmaRead` — the two memory maps agree
* `Soc.CopiedBefore.next` — one cycle copies one byte
* `Soc.oam_dma` — after 161 cycles the whole of OAM has been copied
-/

namespace ZenithGb

open Outcome

namespace Soc

variable {s s' : Soc}

/-! ### The two memory maps -/

theorem wramIndex_site {site site' : Site} {address index : ℕ}
    (h : s.wramIndex site address = .ok index) : s.wramIndex site' address = .ok index := by
  rw [wramIndex] at h ⊢
  split at h
  · rename_i hlo
    rw [if_pos hlo]
    exact h
  rename_i hlo
  rw [if_neg hlo]
  split at h
  · rename_i hmid
    obtain ⟨offset, hoffset, h⟩ := bind_eq_ok.mp h
    rw [if_pos hmid, bind_eq_ok]
    exact ⟨offset, checkedMul_eq_ok.mpr (checkedMul_eq_ok.mp hoffset),
      checkedAdd_eq_ok.mpr (checkedAdd_eq_ok.mp h)⟩
  · rename_i hmid
    rw [if_neg hmid]
    exact h

/-- **The memory maps agree.** What the DMA engines read at an address is what the CPU reads. -/
theorem readBus_of_dmaRead {site : Site} {address : ℕ} {byte : UInt8}
    (h : s.dmaRead site address = .ok byte) (activeDma : Bool) :
    s.readBus activeDma address = .ok byte := by
  rw [dmaRead] at h
  rw [readBus]
  split at h
  · rename_i ha
    rw [if_pos ha]
    exact h
  rename_i ha
  rw [if_neg ha]
  split at h
  · rename_i hb
    rw [if_pos hb]
    exact h
  rename_i hb
  rw [if_neg hb]
  split at h
  · rename_i hc
    rw [if_pos hc]
    exact h
  rename_i hc
  rw [if_neg hc]
  split at h
  · rename_i hd
    obtain ⟨index, hindex, h⟩ := bind_eq_ok.mp h
    rw [if_pos hd, bind_eq_ok]
    exact ⟨index, wramIndex_site hindex, Mem.get_eq_ok.mpr (Mem.get_eq_ok.mp h)⟩
  · cases h

/-- Where byte `i` of a transfer from page `d` comes from: the two highest pages show work RAM. -/
def dmaSource (d : UInt8) (i : ℕ) : ℕ :=
  (if 0xFE ≤ d then d.toNat - 0x20 else d.toNat) * 0x100 + i

theorem value_zero_toNat (d : UInt8) : (value d 0x0).toNat = d.toNat * 0x100 := by
  rw [toNat_value]
  exact Nat.add_zero _

theorem oamDmaAddress_eq (d : UInt8) (i : Fin 0xA0) :
    oamDmaAddress ((value d 0x0).toNat + i) = dmaSource d i := by
  have hd := d.toNat_lt
  have hi := i.2
  rw [value_zero_toNat, oamDmaAddress, dmaSource]
  rw [show (0x1FFF : ℕ) = 2 ^ 13 - 1 from rfl, Nat.and_two_pow_sub_one_eq_mod]
  by_cases h : 0xFE ≤ d
  · have hn : 0xFE ≤ d.toNat := UInt8.le_iff_toNat_le.mp h
    rw [if_pos h, if_pos (by omega)]
    omega
  · have hn : ¬ 0xFE ≤ d.toNat := fun hn => h (UInt8.le_iff_toNat_le.mpr hn)
    rw [if_neg h, if_neg (by omega)]

/-! ### What keeps OAM -/

/-- Only OAM DMA writes OAM in a cycle. -/
theorem Cycle.oam {s1 s2 : Soc} (h : Cycle s s1 s2 s') (hinv : Ppu.Inv s.ppu) :
    s'.ppu.oam = s1.ppu.oam := by
  obtain ⟨hinv2, hoam, -⟩ := h.ppu_before hinv
  have hppu := h.ppu
  split at hppu
  · rw [← hoam]
    exact (Ppu.tick_of_step hinv2 hppu).2.1.oam
  · rw [hppu, hoam]

/-- A write other than to the DMA register neither starts nor stops a transfer. -/
theorem BusWrite.activeDma {active : Bool} {address : ℕ} {data : UInt8}
    (h : BusWrite s s' active address data) (haddr : address ≠ 0xFF46) :
    s'.activeDma = s.activeDma ∧ s'.dmaRequest = s.dmaRequest := by
  cases h with
  | plain hp => exact ⟨hp.activeDma, hp.dmaRequest⟩
  | ppuReg reg he => subst he; exact ⟨rfl, rfl⟩
  | vram he => subst he; exact ⟨rfl, rfl⟩
  | oam i ppu _ _ he => subst he; exact ⟨rfl, rfl⟩
  | dma ha => exact absurd ha haddr
  | hdma5 _ he =>
    subst he
    rw [writeHdma5, whenCgb]
    split <;> exact ⟨rfl, rfl⟩

/-- During a transfer no write reaches OAM. -/
theorem BusWrite.oam_eq {address : ℕ} {data : UInt8} (h : BusWrite s s' true address data) :
    s'.ppu.oam = s.ppu.oam := by
  cases h with
  | plain hp => rw [hp.ppu]
  | ppuReg reg he => subst he; exact s.ppu.writeReg_oam data reg
  | vram he =>
    subst he
    rw [Ppu.writeVram]
    dsimp only
    split <;> rfl
  | oam i ppu hactive => cases hactive
  | dma _ he => subst he; rfl
  | hdma5 _ he =>
    subst he
    rw [writeHdma5, whenCgb]
    split <;> rfl

/-- The CPU reads 0xFF from OAM during a transfer. -/
theorem readBus_oam_locked (s : Soc) {address : ℕ} (hlo : 0xFE00 ≤ address)
    (hhi : address ≤ 0xFE9F) : s.readBus true address = .ok 0xFF := by
  rw [readBus]
  rw [if_neg (by omega), if_neg (by omega), if_neg (by omega), if_neg (by omega), if_pos hhi]
  rfl

/-- The CPU's writes to OAM are dropped during a transfer. -/
theorem writeBus_oam_locked (s : Soc) {address : ℕ} (data : UInt8) (hlo : 0xFE00 ≤ address)
    (hhi : address ≤ 0xFE9F) : s.writeBus true address data = .ok s := by
  rw [writeBus]
  rw [if_neg (by omega), if_neg (by omega), if_neg (by omega), if_neg (by omega), if_pos hhi]
  rfl

/-- An address in OAM is not one of the timer's. -/
theorem timerWriteOf_oam {address : ℕ} (hlo : 0xFE00 ≤ address) (hhi : address ≤ 0xFE9F) :
    (HwReg.ofAddr address).bind timerWriteOf = none := by
  cases h : HwReg.ofAddr address with
  | none => rfl
  | some r =>
    have hrange := ofAddr_range h
    cases r <;> simp only [HwReg.addr, HwReg.span] at hrange <;> omega

/-! ### The transfer -/

/-- Writing the DMA register leaves a request. -/
theorem dmaRequest_of_clockWrite {d : UInt8} (h : s.clockWrite 0xFF46 d = .ok s') :
    s'.dmaRequest = some d := by
  have hreg : HwReg.ofAddr (0xFF46 : UInt16).toNat = some .dma := by decide
  rw [clockWrite] at h
  rw [hreg] at h
  obtain ⟨t, -, h⟩ := bind_eq_ok.mp h
  rw [writeBus_of_reg (by decide) (by decide) hreg] at h
  cases h
  rfl

section

variable (r : Machine.Run step) (d : UInt8)

/-- Before position `k` of a run, bytes 0 to `k - 2` have been copied, each from the state its
cycle began in, and the transfer is at byte `k - 1`. -/
structure CopiedBefore (k : ℕ) (s : Soc) : Prop where
  dmaRequest : s.dmaRequest = none
  activeDma : s.activeDma =
    if k ≤ 160 then some { src := (value d 0x0).toNat, count := k - 1, cycles := k } else none
  copied : ∀ i : Fin 0xA0, i.1 + 1 < k → ∀ active,
    (r.state (i + 1)).readBus active (dmaSource d i) = .ok (s.ppu.oam.cell i)

variable {r d} {op : Op}

/-- What the CPU does in a cycle of a transfer changes neither OAM nor the transfer. -/
theorem Access.oam_locked (h : Access true s s' op) (hop : ∀ d, op ≠ .write 0xFF46 d) :
    s'.ppu.oam = s.ppu.oam ∧ s'.activeDma = s.activeDma ∧ s'.dmaRequest = s.dmaRequest := by
  cases h with
  | clock he => subst he; exact ⟨rfl, rfl, rfl⟩
  | read _ he => subst he; exact ⟨rfl, rfl, rfl⟩
  | write address data hw =>
    have haddr : address.toNat ≠ 0xFF46 := fun ha =>
      hop data (by rw [show address = 0xFF46 from UInt16.toNat_inj.mp ha])
    exact ⟨hw.oam_eq, hw.activeDma haddr⟩

theorem Access.activeDma {active : Bool} (h : Access active s s' op)
    (hop : ∀ d, op ≠ .write 0xFF46 d) :
    s'.activeDma = s.activeDma ∧ s'.dmaRequest = s.dmaRequest := by
  cases h with
  | clock he => subst he; exact ⟨rfl, rfl⟩
  | read _ he => subst he; exact ⟨rfl, rfl⟩
  | write address data hw =>
    have haddr : address.toNat ≠ 0xFF46 := fun ha =>
      hop data (by rw [show address = 0xFF46 from UInt16.toNat_inj.mp ha])
    exact hw.activeDma haddr

/-- The first cycle takes the request up, whatever transfer it interrupts. -/
theorem CopiedBefore.first (hreq : s.dmaRequest = some d) (h : Effect s s' op)
    (hcycle : op.isCycle = true) (hop : ∀ d, op ≠ .write 0xFF46 d) : CopiedBefore r d 1 s' := by
  cases h with
  | aside hne => rw [hcycle] at hne; cases hne
  | @cycle s1 s2 s3 _ hc ha =>
    have hs1 : s1.activeDma = some { src := (value d 0x0).toNat, count := 0, cycles := 1 } := by
      cases dmaStep_of_clockDma hc.dma with
      | idle _ he => rw [he, startDma_of_some hreq]
      | copy active i byte _ _ _ he =>
        have hreq' : (s.copyOamByte active i byte).dmaRequest = some d := hreq
        rw [he, startDma_of_some hreq']
    obtain ⟨hactive, hnone⟩ := ha.activeDma hop
    exact ⟨hnone.trans hc.kept.dmaRequest, (hactive.trans hc.activeDma).trans hs1,
      fun i hi => absurd hi (by omega)⟩

/-- **One cycle copies one byte.** -/
theorem CopiedBefore.next {k : ℕ} (h : CopiedBefore r d k (r.state k)) (hlo : 1 ≤ k) (hhi : k ≤ 160)
    (hinv : Ppu.Inv (r.state k).ppu) (he : Effect (r.state k) (r.state (k + 1)) op)
    (hcycle : op.isCycle = true) (hop : ∀ d, op ≠ .write 0xFF46 d) :
    CopiedBefore r d (k + 1) (r.state (k + 1)) := by
  have hactive := h.activeDma
  rw [if_pos hhi] at hactive
  cases he with
  | aside hne => rw [hcycle] at hne; cases hne
  | @cycle s1 s2 s3 _ hc ha =>
    rw [hactive] at ha
    obtain ⟨hoam, hact, hreq⟩ := ha.oam_locked hop
    cases dmaStep_of_clockDma hc.dma with
    | idle hnone => rw [hactive] at hnone; cases hnone
    | copy active i byte hsome hcount hbyte hs1 =>
      rw [hactive] at hsome
      cases hsome
      replace hcount : k - 1 = i := hcount
      have hnone : ((r.state k).copyOamByte
          { src := (value d 0x0).toNat, count := k - 1, cycles := k } i byte).dmaRequest = none :=
        h.dmaRequest
      rw [startDma_of_none hnone] at hs1
      have hcells : (r.state (k + 1)).ppu.oam = (r.state k).ppu.oam.put i byte := by
        rw [hoam, hc.oam hinv, hs1]
        rfl
      refine ⟨hreq.trans hc.kept.dmaRequest, ?_, fun j hj active => ?_⟩
      · rw [hact, hc.activeDma, hs1]
        show nextTransfer { src := (value d 0x0).toNat, count := k - 1, cycles := k } = _
        rw [nextTransfer]
        have hk : k - 1 + 1 = k := by omega
        dsimp only
        rw [hk]
        by_cases hlast : k = 160
        · rw [if_pos (by omega), if_neg (by omega)]
        · rw [if_neg (by omega), if_pos (by omega)]
          rfl
      · rw [hcells]
        rcases Nat.lt_or_eq_of_le (Nat.le_of_lt_succ hj) with hlt | heq
        · rw [Mem.put_cell_of_ne _ (Fin.ne_of_lt (show j.1 < i.1 by omega))]
          exact h.copied j hlt active
        · have hji : j = i := Fin.ext (show j.1 = i.1 by omega)
          subst hji
          rw [Mem.put_cell_self, heq]
          rw [oamDmaAddress_eq] at hbyte
          exact readBus_of_dmaRead hbyte active

end

/-- **OAM DMA.** From every reachable system, a write to the DMA register followed by 161 cycles
that do not write it again copies the whole page: the transfer is over, and byte `i` of OAM is what
the CPU would have read at the source when cycle `i + 2` began. In cycles 2 to 161 the CPU reads
0xFF from OAM, and writing there is no more than a clock. An earlier transfer makes no
difference. -/
theorem oam_dma (hs : Reachable s) {d : UInt8} (r : Machine.Run step)
    (hstart : s.clockWrite 0xFF46 d = .ok (r.state 0)) (hlen : r.length = 161)
    (hcycle : ∀ k < 161, (r.input k).isCycle = true)
    (hother : ∀ k < 161, ∀ d, r.input k ≠ .write 0xFF46 d) :
    (r.state 161).activeDma = none ∧
    (∀ i : Fin 0xA0, ∀ active, (r.state (i + 1)).readBus active (dmaSource d i) =
      .ok ((r.state 161).ppu.oam.cell i)) ∧
    ∀ k, 1 ≤ k → k ≤ 160 → ∀ address : UInt16, 0xFE00 ≤ address.toNat → address.toNat ≤ 0xFE9F →
      (r.input k = .read address →
        (r.state k).clockRead address = .ok (0xFF, r.state (k + 1))) ∧
      (∀ data, r.input k = .write address data →
        (r.state k).clock = .ok (r.state (k + 1))) := by
  have hreach : Reachable (r.state 0) := .step (.write 0xFF46 d) hs hstart
  have hcopied : ∀ k, 1 ≤ k → k ≤ 161 → CopiedBefore r d k (r.state k) := by
    intro k hlo hhi
    refine r.invariant ?_ (fun j hj hlt h => ?_) k hlo (hlen.symm ▸ hhi)
    · exact .first (dmaRequest_of_clockWrite hstart) (effect_of_step (r.next 0 (by omega)))
        (hcycle 0 (by omega)) (hother 0 (by omega))
    · rw [hlen] at hlt
      exact h.next hj (by omega) (hreach.along (by omega)).ppu.inv
        (effect_of_step (r.next j (by omega)))
        (hcycle j hlt) (hother j hlt)
  refine ⟨(hcopied 161 (by omega) (by omega)).activeDma, fun i => ?_, ?_⟩
  · exact (hcopied 161 (by omega) (by omega)).copied i (by omega)
  intro k hlo hhi address halo hahi
  have hactive : (r.state k).activeDma.isSome = true := by
    rw [(hcopied k hlo (by omega)).activeDma, if_pos hhi]
    rfl
  have hnext := r.next k (by omega)
  constructor
  · intro hin
    rw [hin, step] at hnext
    obtain ⟨⟨byte, t⟩, hread, rfl⟩ := map_eq_ok.mp hnext
    obtain ⟨t', hclock, hread⟩ := bind_eq_ok.mp hread
    rw [hactive, readBus_oam_locked t' halo hahi] at hread
    cases hread
    rw [clockRead, hclock, hactive, ok_bind, readBus_oam_locked _ halo hahi]
    rfl
  · intro data hin
    rw [hin, step, clockWrite, timerWriteOf_oam halo hahi] at hnext
    obtain ⟨t, hclock, hwrite⟩ := bind_eq_ok.mp hnext
    rw [hactive, writeBus_oam_locked t data halo hahi] at hwrite
    cases hwrite
    exact hclock

/-- The page 0xC0 is copied while the CPU does nothing but read OAM. -/
theorem oam_dma_new :
    ∃ r : Machine.Run step, r.length = 161 ∧ (∀ k < 161, r.input k = .read 0xFE00) ∧
      (r.state 161).activeDma = none ∧
      (r.state 80).clockRead 0xFE00 = .ok (0xFF, r.state 81) := by
  obtain ⟨t, ht⟩ := exists_of_isOk (x := do
      let s ← cgbNew
      let s ← s.clockWrite 0xFF46 0xC0
      Machine.exec step (List.replicate 161 (.read 0xFE00)) s) (by decide +kernel)
  obtain ⟨s, hnew, ht⟩ := bind_eq_ok.mp ht
  obtain ⟨s', hwrite, ht⟩ := bind_eq_ok.mp ht
  obtain ⟨r, hlen, hstart, -, hin⟩ := Machine.Run.ofExec (.read 0xFE00) ht
  rw [List.length_replicate] at hlen
  have hread : ∀ k < 161, r.input k = .read 0xFE00 := fun k hk => by
    rw [hin, List.getD_replicate _ hk]
  obtain ⟨hdone, -, hlocked⟩ := oam_dma (reachable_cgbNew hnew) r (d := 0xC0)
    (by rw [hstart]; exact hwrite) hlen (fun k hk => by rw [hread k hk]; rfl)
    fun k hk d hne => by rw [hread k hk] at hne; cases hne
  exact ⟨r, hlen, hread, hdone, (hlocked 80 (by omega) (by omega) 0xFE00 (by decide) (by decide)).1
    (hread 80 (by omega))⟩

end Soc

end ZenithGb
