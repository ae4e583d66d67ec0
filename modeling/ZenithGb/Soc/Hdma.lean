import ZenithGb.Soc.Machine

/-!
# VRAM DMA

A general transfer copies everything in one cycle; an HBlank transfer copies a block of 16 bytes
whenever the pixel unit has raised its flag and the CPU is not halted. Both read through the memory
map of `dma_read!`, which has no arm from 0xFE00 on, so a transfer is safe exactly as long as its
source stays below; nothing in the source makes sure of that.

## Main results

* `Soc.hdma_safe` — VRAM DMA does not panic in a run that starts only transfers from below 0xFE00
* `Soc.hdma_new_unreachable` — and it does panic after one that does not
-/

namespace ZenithGb

open Outcome

/-- The functions of a mapper that a read can panic in. -/
def Site.isMapperRead : Site → Bool
  | .romOnlyRead | .mbc1RamAddress | .mbc1Read | .mbc2Read | .mbc3Read | .mbc5Read => true
  | _ => false

/-- A panic inside the mapper. -/
def MapperPanic (e : Panic) : Prop := e.site.isMapperRead = true

/-! ### Where a read can panic -/

theorem Mbc1.read_meets (m : Mbc1) (address : ℕ) :
    Meets (m.read address) (fun _ => True) MapperPanic := by
  have hram : Meets (m.ramAddress address) (fun _ => True) MapperPanic := by
    have hsite : MapperPanic (.overflow .mbc1RamAddress) := rfl
    unfold ramAddress
    dsimp only
    refine .ite (fun _ => trivial) fun _ => .ite (fun _ => .ite (fun _ => ?_) fun _ => trivial)
      fun _ => rfl
    generalize address - 0xA000 = offset
    exact Meets.bind (Q := fun _ => True) (meets_checkedMul_error hsite)
      fun _ _ => meets_checkedAdd_error hsite
  rw [read]
  exact .ite (fun _ => .ite (fun _ => Buf.meets_get_error _ _ rfl)
    fun _ => Buf.meets_get_error _ _ rfl) fun _ =>
    .ite (fun _ => Buf.meets_get_error _ _ rfl) fun _ =>
    .ite (fun _ => .ite (fun _ => trivial) fun _ =>
      hram.bind fun _ _ => Buf.meets_get_error _ _ rfl) fun _ => rfl

theorem Mbc2.read_meets (m : Mbc2) (address : ℕ) :
    Meets (m.read address) (fun _ => True) MapperPanic := by
  have hsite : MapperPanic (.index .mbc2Read) := rfl
  rw [read]
  exact .ite (fun _ => Buf.meets_get_error _ _ hsite) fun _ =>
    .ite (fun _ => Buf.meets_get_error _ _ hsite) fun _ =>
    .ite (fun _ => .ite (fun _ => trivial) fun _ =>
      (Buf.meets_get_error _ _ hsite).bind fun _ _ => trivial) fun _ => rfl

theorem Mbc3.read_meets (m : Mbc3) (address : ℕ) :
    Meets (m.read address) (fun _ => True) MapperPanic := by
  rw [read]
  refine .ite (fun _ => Buf.meets_get_error _ _ rfl) fun _ =>
    .ite (fun _ => Buf.meets_get_error _ _ rfl) fun _ =>
    .ite (fun _ => .ite (fun _ => trivial) fun _ => ?_) fun _ => rfl
  cases m.rtcSelect with
  | some rtcSelect =>
    dsimp only
    cases m.rtcLatch with
    | some rtcLatch => exact Mem.meets_get_error _ _ rfl
    | none => trivial
  | none =>
    dsimp only
    cases m.ramBank with
    | some ramBank => exact Buf.meets_get_error _ _ rfl
    | none => trivial

theorem Mbc5.read_meets (m : Mbc5) (address : ℕ) :
    Meets (m.read address) (fun _ => True) MapperPanic := by
  rw [read]
  exact .ite (fun _ => Buf.meets_get_error _ _ rfl) fun _ =>
    .ite (fun _ => Buf.meets_get_error _ _ rfl) fun _ =>
    .ite (fun _ => .ite (fun _ => trivial) fun _ => Buf.meets_get_error _ _ rfl) fun _ => rfl

theorem Mbc.read_meets (m : Mbc) (address : ℕ) :
    Meets (m.read address) (fun _ => True) MapperPanic := by
  cases m with
  | romOnly m => exact Buf.meets_get_error _ _ rfl
  | mbc1 m => exact m.read_meets address
  | mbc2 m => exact m.read_meets address
  | mbc3 m => exact m.read_meets address
  | mbc5 m => exact m.read_meets address

/-- A transfer that stays within the memory map: its source below 0xFE00, its destination within 16
bits, whole blocks throughout, and a block left to copy. -/
structure Hdma.Fits (a : Hdma) : Prop where
  src : a.src + a.initial ≤ 0xFE00
  dst : a.dst ≤ 0x1FF0
  initial : a.initial ≤ 0x800
  count : a.count < a.initial
  initialBlocks : a.initial % 0x10 = 0
  countBlocks : a.count % 0x10 = 0

namespace Soc

variable {s s' : Soc} {active : Hdma}

/-! ### Safety -/

/-- Below 0xFE00 only the mapper can make a DMA read panic. -/
theorem dmaRead_meets (hsvbk : s.svbk ≤ 7) {site : Site} {address : ℕ} (haddr : address < 0xFE00) :
    Meets (s.dmaRead site address) (fun _ => True) MapperPanic := by
  have hbank : s.svbk.toNat ≤ 7 := UInt8.le_iff_toNat_le.mp hsvbk
  rw [dmaRead]
  refine .ite (fun _ => s.mbc.read_meets address) fun _ => .ite (fun _ => trivial) fun _ =>
    .ite (fun _ => s.mbc.read_meets address) fun _ => .ite (fun _ => ?_) fun h => absurd haddr ?_
  · have hindex : Meets (s.wramIndex site address) (fun i => i < 0x12000) MapperPanic := by
      rw [wramIndex]
      refine .ite (fun _ => ?_) fun _ => .ite (fun _ => ?_) fun _ => ?_
      · show address - 0xC000 < 0x12000
        omega
      · rw [checkedMul_of_lt _ (by omega), ok_bind, checkedAdd_of_lt _ (by omega)]
        show address - 0xC000 + s.svbk.toNat * 0x2000 < 0x12000
        omega
      · show address - 0xE000 < 0x12000
        omega
    exact hindex.bind fun i hi => (Mem.meets_get hi _).imp fun _ _ => trivial
  · omega

theorem copyHdma_meets (hfits : active.Fits) {start n : ℕ} (hn : start + n ≤ active.initial)
    (hsvbk : s.svbk ≤ 7) : Meets (copyHdma active start n s) (fun _ => True) MapperPanic := by
  have hsrc := hfits.src
  have hdst := hfits.dst
  have hinitial := hfits.initial
  refine (foldlM_invariant (I := fun t : Soc => t.svbk ≤ 7) hsvbk fun offset hmem t ht => ?_).imp
    fun _ _ => trivial
  have hoffset : offset < active.initial := by
    have := List.mem_range'_1.mp hmem
    omega
  rw [copyHdmaByte, checkedAdd_of_lt _ (by omega), ok_bind, checkedAdd_of_lt _ (by omega), ok_bind]
  exact (dmaRead_meets ht (by omega)).bind fun byte _ => ht

/-- A transfer in progress stays within the memory map. -/
def HdmaFits (s : Soc) : Prop := ∀ active, s.hdma = some active → active.Fits

/-- **Safety of VRAM DMA.** A transfer that fits panics only in the mapper. -/
theorem clockHdma_meets (hsvbk : s.svbk ≤ 7) (h : HdmaFits s) :
    Meets (clockHdma s) (fun _ => True) MapperPanic := by
  rw [clockHdma]
  cases hhdma : s.hdma with
  | none => trivial
  | some active =>
    have hfits := h active hhdma
    have hcount := hfits.count
    have hinitial := hfits.initial
    refine .ite (fun _ => .ite (fun _ => ?_) fun _ => trivial) fun _ => ?_
    · rw [stepHblankDma]
      have hle : active.count + min 0x10 (active.initial - active.count) ≤ active.initial := by
        omega
      rw [checkedSub_of_le _ hcount.le, ok_bind]
      dsimp only
      rw [checkedAdd_of_lt _ (by omega), ok_bind]
      refine (copyHdma_meets hfits hle hsvbk).bind fun t _ => ?_
      rw [checkedSub_of_le _ hle]
      trivial
    · exact (copyHdma_meets hfits (by omega) hsvbk).bind fun _ _ => trivial

/-- A block of a transfer that fits is 16 bytes long. -/
theorem Hdma.Fits.block (h : active.Fits) : min 0x10 (active.initial - active.count) = 0x10 := by
  have h1 := h.count
  have h2 := h.initialBlocks
  have h3 := h.countBlocks
  omega

/-- VRAM DMA keeps the transfer within the memory map. -/
theorem HdmaStep.fits (h : HdmaStep s s') (hinv : HdmaFits s) : HdmaFits s' := by
  intro a ha
  cases h with
  | idle _ he | wait _ _ _ _ he => subst he; exact hinv a ha
  | whole _ _ _ _ _ he => subst he; cases ha
  | block active t hhdma _ _ _ _ he =>
    have hfits := hinv active hhdma
    subst he
    have hcount := hfits.count
    have hblocks := hfits.countBlocks
    rw [Hdma.Fits.block hfits] at ha
    dsimp only at ha
    split at ha
    · cases ha
    · cases ha
      exact { hfits with
        count := show active.count + 0x10 < active.initial by omega
        countBlocks := show (active.count + 0x10) % 0x10 = 0 by omega }

/-! ### Starting a transfer -/

/-- The length of the transfer that a value written to HDMA5 starts. -/
def hdmaLength (data : UInt8) : ℕ := ((data &&& (0x7F : UInt8)).toNat + 1) * 0x10

/-- The operation starts no transfer, or one whose source stays below 0xFE00. -/
def Op.FitsHdma (op : Op) (s : Soc) : Prop :=
  ∀ data, op = .write 0xFF55 data → s.ctx.cgb = true →
    (s.hdmaSrc &&& (0xFFF0 : UInt16)).toNat + hdmaLength data ≤ 0xFE00

theorem hdmaLength_le (data : UInt8) : hdmaLength data ≤ 0x800 := by
  have : (data &&& (0x7F : UInt8)).toNat ≤ 0x7F := toNat_and_le data 0x7F
  rw [hdmaLength]
  omega

/-- The transfer that a value written to HDMA5 starts. -/
def hdmaOf (s : Soc) (data : UInt8) : Hdma where
  src := (s.hdmaSrc &&& (0xFFF0 : UInt16)).toNat
  dst := (s.hdmaDst &&& (0x1FF0 : UInt16)).toNat
  initial := hdmaLength data
  count := 0
  hblankDma := data &&& 0x80 != 0

theorem fits_hdmaOf {data : UInt8}
    (hsrc : (s.hdmaSrc &&& (0xFFF0 : UInt16)).toNat + hdmaLength data ≤ 0xFE00) :
    (s.hdmaOf data).Fits where
  src := hsrc
  dst := by
    show (s.hdmaDst &&& (0x1FF0 : UInt16)).toNat ≤ 0x1FF0
    rw [UInt16.toNat_and]
    exact Nat.and_le_right
  initial := hdmaLength_le data
  count := Nat.mul_pos (Nat.succ_pos _) (by decide)
  initialBlocks := Nat.mul_mod_left _ _
  countBlocks := rfl

theorem writeHdma5_of_cgb (hcgb : s.ctx.cgb = true) (data : UInt8) :
    s.writeHdma5 data = { s with hdma := some (s.hdmaOf data) } := by
  rw [writeHdma5, whenCgb, hcgb]
  rfl

theorem writeHdma5_of_not_cgb (hcgb : s.ctx.cgb = false) (data : UInt8) :
    s.writeHdma5 data = s := by
  rw [writeHdma5, whenCgb, hcgb]
  rfl

theorem BusWrite.hdmaFits {activeDma : Bool} {address : ℕ} {data : UInt8}
    (hw : BusWrite s s' activeDma address data) (h : HdmaFits s)
    (hfits : address = 0xFF55 → s.ctx.cgb = true →
      (s.hdmaSrc &&& (0xFFF0 : UInt16)).toNat + hdmaLength data ≤ 0xFE00) : HdmaFits s' := by
  cases hw with
  | plain hp => exact fun a ha => h a (hp.hdma.symm.trans ha)
  | ppuReg _ he | vram he | dma _ he | oam _ _ _ _ he => subst he; exact h
  | hdma5 haddr he =>
    subst he
    cases hcgb : s.ctx.cgb with
    | false => rwa [writeHdma5_of_not_cgb hcgb]
    | true =>
      rw [writeHdma5_of_cgb hcgb]
      rintro _ ⟨⟩
      exact fits_hdmaOf (hfits haddr hcgb)

/-- A cycle keeps the transfer within the memory map. -/
theorem Cycle.hdmaFits {s1 s2 : Soc} (hc : Cycle s s1 s2 s') (h : HdmaFits s) : HdmaFits s' := by
  have hs1 : HdmaFits s1 := by
    rw [(dmaStep_of_clockDma hc.dma).frame.1]
    exact h
  have hs2 : HdmaFits s2 := by
    have hhdma := hc.hdma
    split at hhdma
    · exact (hdmaStep_of_clockHdma hhdma).fits hs1
    · rw [hhdma]
      exact hs1
  exact fun a ha => hs2 a (hc.hdma_eq.symm.trans ha)

/-- **One step.** A step that starts no transfer from above keeps the transfer within the memory
map. -/
theorem Effect.hdmaFits {op : Op} (he : Effect s s' op) (h : HdmaFits s) (hop : op.FitsHdma s) :
    HdmaFits s' := by
  cases he with
  | aside _ ha => exact fun a hs => h a (ha.hdma.symm.trans hs)
  | cycle _ hc ha =>
    have h3 := hc.hdmaFits h
    cases ha with
    | clock he | read _ he => subst he; exact h3
    | write address data hw =>
      refine hw.hdmaFits h3 fun haddr hcgb => ?_
      rw [hc.kept.hdmaSrc]
      rw [hc.kept.ctx] at hcgb
      exact hop data (by rw [show address = 0xFF55 from UInt16.toNat_inj.mp haddr]) hcgb

/-- In a cycle from here VRAM DMA neither reads above 0xFDFF nor leaves 16 bits. -/
def HdmaSafe (s : Soc) : Prop :=
  ∀ s1, s.clockDma = .ok s1 → ∀ e, clockHdma s1 = .error e →
    e ≠ .unreachable .hdmaRead ∧ e ≠ .overflow .hdmaSrc ∧ e ≠ .overflow .hdmaDst

/-- The VRAM DMA of the next cycle panics only in the mapper. -/
theorem HdmaFits.meets (h : HdmaFits s) (hsvbk : s.svbk ≤ 7) {s1 : Soc}
    (hdma : s.clockDma = .ok s1) : Meets (clockHdma s1) (fun _ => True) MapperPanic := by
  rw [(dmaStep_of_clockDma hdma).frame.1]
  exact clockHdma_meets hsvbk h

theorem HdmaFits.safe (h : HdmaFits s) (hsvbk : s.svbk ≤ 7) : HdmaSafe s := by
  intro s1 hdma e he
  have hpanic : MapperPanic e := (h.meets hsvbk hdma).of_error he
  refine ⟨?_, ?_, ?_⟩ <;> rintro rfl <;> cases hpanic

/-- **VRAM DMA never crashes** in a run that starts only transfers whose source stays below 0xFE00:
in every state it reaches, the next cycle's VRAM DMA stays within the memory map and within 16
bits. -/
theorem hdma_safe {cartridge : Cartridge} {frameChan : FrameChan} {runForCycles : Option ℕ}
    {ctx : GbCtx} (r : Machine.Run step)
    (hstart : Soc.new cartridge frameChan runForCycles ctx = .ok (r.state 0))
    (hfits : ∀ k < r.length, (r.input k).FitsHdma (r.state k)) :
    ∀ k ≤ r.length, HdmaSafe (r.state k) := by
  obtain ⟨-, -, -, hhdma, -, -⟩ := new_eq_ok hstart
  have h0 : HdmaFits (r.state 0) := fun a ha => by rw [hhdma] at ha; cases ha
  intro k hk
  have hreach : Reachable (r.state 0) := .start ⟨_, _, _, _, hstart⟩
  have hstep : ∀ j, 0 ≤ j → j < r.length → HdmaFits (r.state j) → HdmaFits (r.state (j + 1)) :=
    fun j _ hj h => (effect_of_step (r.next j hj)).hdmaFits h (hfits j hj)
  have hall := r.invariant (I := fun _ s => HdmaFits s) h0 hstep k (Nat.zero_le k) hk
  exact hall.safe (hreach.along hk).svbk

/-- A general transfer of one block from work RAM. -/
theorem hdma_safe_new :
    ∃ r : Machine.Run step,
      r.length = 3 ∧ r.input 1 = .write 0xFF55 0x00 ∧ HdmaSafe (r.state 3) := by
  obtain ⟨t, ht⟩ := exists_of_isOk
    (x := cgbNew >>= Machine.exec step [.write 0xFF51 0xC0, .write 0xFF55 0x00, .clock])
    (by decide +kernel)
  obtain ⟨s, hnew, ht⟩ := bind_eq_ok.mp ht
  obtain ⟨r, hlen, hstart, -, hin⟩ := Machine.Run.ofExec .clock ht
  have hsrc : (r.state 1).hdmaSrc = 0xC000 := by
    have hnext := r.next 0 (by rw [hlen]; decide)
    rw [hin, hstart] at hnext
    have h : (cgbNew >>= step (.write 0xFF51 0xC0)).toOption.map Soc.hdmaSrc = some 0xC000 := by
      decide +kernel
    rw [hnew, ok_bind, show step (.write 0xFF51 0xC0) s = .ok (r.state 1) from hnext] at h
    exact Option.some.inj h
  refine ⟨r, hlen, hin 1, hdma_safe r (hstart ▸ hnew) (fun k hk data hop _ => ?_) 3
    (by rw [hlen]; rfl)⟩
  rw [hlen] at hk
  rw [hin] at hop
  match k, hk with
  | 0, _ => cases hop
  | 1, _ => cases hop; rw [hsrc]; decide
  | 2, _ => cases hop

/-- A transfer from the last page, just requested. -/
def lastPageTransfer : Checked Soc :=
  cgbNew >>= Machine.exec step [.write 0xFF51 0xFF, .write 0xFF55 0x00]

theorem reachable_lastPageTransfer (h : lastPageTransfer = .ok s) : Reachable s := by
  obtain ⟨s0, hnew, hexec⟩ := bind_eq_ok.mp h
  exact Machine.Reachable.exec (reachable_cgbNew hnew) hexec

/-- A transfer from the last page reaches the arm of `dma_read!` that must not be reached. -/
theorem hdma_new_unreachable :
    ∃ s, Reachable s ∧ s.ctx.cgb = true ∧ ¬ HdmaSafe s ∧
      step .clock s = .error (.unreachable .hdmaRead) := by
  obtain ⟨t, ht⟩ := exists_of_isOk (x := lastPageTransfer >>= clockDma) (by decide +kernel)
  obtain ⟨s, hs, hdma⟩ := bind_eq_ok.mp ht
  have hcgb : lastPageTransfer.toOption.map (fun s : Soc => s.ctx.cgb) = some true := by
    decide +kernel
  have hhdma : error? (lastPageTransfer >>= clockDma >>= clockHdma) =
      some (.unreachable .hdmaRead) := by decide +kernel
  have hclock : error? (lastPageTransfer >>= step .clock) = some (.unreachable .hdmaRead) := by
    decide +kernel
  rw [hs] at hcgb
  rw [hs, ok_bind, hdma, ok_bind, error?_eq_some] at hhdma
  rw [hs, ok_bind, error?_eq_some] at hclock
  refine ⟨s, reachable_lastPageTransfer hs, Option.some.inj hcgb, fun hsafe => ?_, hclock⟩
  exact (hsafe t hdma _ hhdma).1 rfl

end Soc

end ZenithGb
