import ZenithGb.Lib.Run
import ZenithGb.Ppu.DrawSafe

/-!
# The loop of `calc_mode3_len`

`calcMode3Len` computes with natural numbers where no bound of the source is in question. Here
each operation has the width of the source, and the loop keeps a record: which positions of the
reversed buffer it has charged for, and how long it has waited for pixels.

The search of an iteration takes the first sprite that is not in the mask and starts before
`x + 8`. So an iteration that moves on has nothing left that starts there, and at column 160
everything before column 167 has been charged for.

## Main results

* `Ppu.calcMode3LenU8_eq` — the widths of the source make no difference
* `Ppu.headIteration_total` — what one iteration does, and that it keeps the record
* `Ppu.mode3_length` — the loop, and the length of mode 3
-/

namespace ZenithGb

open Outcome

namespace Ppu

/-! ### The widths of the source -/

/-- `findSprite`, with `x + 8` in 8 bits. -/
def findSpriteU8 (spriteMask x : ℕ) : List Sprite → ℕ → Checked (Option ℕ)
  | [], _ => .ok none
  | sp :: rest, i => do
    let spriteBit ← spriteBitOf i
    if spriteMask &&& spriteBit = 0 then
      let bound ← checkedAdd 8 .ppuMode3 x 8
      if sp.x.toNat < bound then return some spriteBit
      else findSpriteU8 spriteMask x rest (i + 1)
    else findSpriteU8 spriteMask x rest (i + 1)

/-- `fetchIteration`, with `8 - (x & 7)` and `x + 1` in 8 bits. -/
def fetchIterationU8 (sprites : List Sprite) (f : FetchState) : Checked FetchState := do
  match ← findSpriteU8 f.spriteMask f.x sprites 0 with
  | some spriteBit =>
    let spritePenalty ← checkedAdd 16 .ppuMode3 f.spritePenalty 6
    return { f with
      spriteMask := f.spriteMask ||| spriteBit, spritePenalty, didSpriteFetch := true }
  | none =>
    let f ←
      if f.didSpriteFetch then do
        let spritePenalty ← checkedAdd 16 .ppuMode3 f.spritePenalty (6 - f.bgFifoCount)
        pure { f with didSpriteFetch := false, spritePenalty }
      else pure f
    let bgFifoCount ← checkedSub .ppuMode3 8 (f.x &&& 0x7)
    let x ← checkedAdd 8 .ppuMode3 f.x 1
    return { f with bgFifoCount, x }

/-- `fetchLoop` over `fetchIterationU8`. -/
def fetchLoopU8 (sprites : List Sprite) : ℕ → FetchState → Checked FetchState
  | fuel, f =>
    if f.x < 160 then
      match fuel with
      | 0 => .error (.diverges .ppuMode3)
      | fuel + 1 => do fetchLoopU8 sprites fuel (← fetchIterationU8 sprites f)
    else .ok f

def spritePenaltyU8 (p : Ppu) : Checked ℕ :=
  if !p.lcdcObjEnable then .ok 0
  else do
    let f ← fetchLoopU8 p.spriteBuffer.reverse (160 + p.spriteBuffer.length) fetchStart
    return f.spritePenalty

/-- `calcMode3Len`, with each sum in 16 bits. -/
def calcMode3LenU8 (p : Ppu) (windowPos : Option UInt8) : Checked ℕ := do
  let scxPenalty := (p.scx &&& (0x7 : UInt8)).toNat
  let windowPenalty := if windowPos.isSome then 6 else 0
  let spritePenalty ← p.spritePenaltyU8
  let mode3Penalties ← checkedAdd 16 .ppuMode3 scxPenalty windowPenalty
  let mode3Penalties ← checkedAdd 16 .ppuMode3 mode3Penalties spritePenalty
  checkedAdd 16 .ppuMode3 cyclesPerDraw (mode3Penalties / 4)

theorem findSpriteU8_eq {spriteMask x : ℕ} (hx : x < 160) :
    ∀ (sprites : List Sprite) (i : ℕ),
      findSpriteU8 spriteMask x sprites i = findSprite spriteMask x sprites i := by
  intro sprites
  induction sprites with
  | nil => intro i; rfl
  | cons sp rest ih =>
    intro i
    rw [findSpriteU8, findSprite, checkedAdd_of_lt _ (by omega)]
    refine congrArg _ (funext fun spriteBit => ?_)
    rw [ok_bind, ih]
    by_cases hmask : spriteMask &&& spriteBit = 0 <;> simp [hmask]

theorem fetchIterationU8_eq (sprites : List Sprite) {f : FetchState} (hx : f.x < 160) :
    fetchIterationU8 sprites f = fetchIteration sprites f := by
  have hand : f.x &&& 0x7 ≤ 7 := Nat.and_le_right
  have hfifo : checkedSub .ppuMode3 8 (f.x &&& 0x7) = .ok (8 - (f.x &&& 0x7)) :=
    checkedSub_of_le _ (by omega)
  have hnext : checkedAdd 8 .ppuMode3 f.x 1 = .ok (f.x + 1) := checkedAdd_of_lt _ (by omega)
  rw [fetchIterationU8, fetchIteration, findSpriteU8_eq hx]
  refine congrArg _ (funext fun r => ?_)
  cases r with
  | some spriteBit => rfl
  | none =>
    by_cases hdid : f.didSpriteFetch = true
    · simp only [hdid, if_true, pure_bind, hfifo, hnext, ok_bind]
    · simp only [hdid, if_false, pure_bind, hfifo, hnext, ok_bind, Bool.false_eq_true]

theorem fetchLoopU8_eq (sprites : List Sprite) :
    ∀ (fuel : ℕ) (f : FetchState), fetchLoopU8 sprites fuel f = fetchLoop sprites fuel f := by
  intro fuel
  induction fuel with
  | zero => intro f; rw [fetchLoopU8, fetchLoop]
  | succ fuel ih =>
    intro f
    rw [fetchLoopU8, fetchLoop]
    by_cases hx : f.x < 160
    · simp only [if_pos hx, fetchIterationU8_eq sprites hx, ih]
    · rw [if_neg hx, if_neg hx]

variable {p : Ppu}

theorem spritePenaltyU8_eq (p : Ppu) : p.spritePenaltyU8 = p.spritePenalty := by
  simp only [spritePenaltyU8, spritePenalty, fetchLoopU8_eq]

theorem calcMode3LenU8_eq (p : Ppu) (windowPos : Option UInt8) :
    p.calcMode3LenU8 windowPos = p.calcMode3Len windowPos := by
  have hscx : (p.scx &&& (0x7 : UInt8)).toNat ≤ 7 := toNat_and_le p.scx 0x7
  have hwin : (if windowPos.isSome then 6 else 0) ≤ 6 := by split <;> omega
  rw [calcMode3LenU8, calcMode3Len, spritePenaltyU8_eq, checkedAdd_of_lt _ (by omega)]
  rfl

/-! ### The record of the loop -/

variable {sprites : List Sprite}

/-- The loop before one of its tests: its variables, the positions charged for, the latest first,
and the cycles added for pixels that had to be waited for. -/
structure Head where
  f : FetchState
  charged : List ℕ
  waited : ℕ
  deriving DecidableEq, Repr

def Head.start : Head := { f := fetchStart, charged := [], waited := 0 }

/-- One iteration, recording the position of the sprite it charges for, or how long it waits. -/
def headIteration (sprites : List Sprite) (h : Head) : Checked Head := do
  let spriteOpt ← findSpriteU8 h.f.spriteMask h.f.x sprites 0
  let f ← fetchIterationU8 sprites h.f
  match spriteOpt with
  | some spriteBit => return { h with f, charged := spriteBit.log2 :: h.charged }
  | none => return { h with f, waited := h.waited + (f.spritePenalty - h.f.spritePenalty) }

/-- The loop reaches `h` before one of its tests. After the last one nothing changes. -/
def LoopReaches (sprites : List Sprite) : Head → Prop :=
  Machine.Reachable (· = Head.start) fun (_ : Unit) h =>
    if h.f.x < 160 then headIteration sprites h else .ok h

/-- What an iteration does: it fetches a sprite that was not fetched before, or moves on. -/
def Progress (n : ℕ) (h h' : Head) : Prop :=
  (∃ k < n, k ∉ h.charged ∧ h'.charged = k :: h.charged ∧ h'.f.x = h.f.x ∧
    h'.f.spritePenalty = h.f.spritePenalty + 6) ∨
  h'.charged = h.charged ∧ h'.f.x = h.f.x + 1

/-- What the record says before each test. -/
structure Head.Inv (sprites : List Sprite) (h : Head) : Prop where
  fetch : FetchInv sprites.length h.f
  x_le : h.f.x ≤ 160
  mask : ∀ k, h.f.spriteMask.testBit k = true ↔ k ∈ h.charged
  nodup : h.charged.Nodup
  early : ∀ k ∈ h.charged, ∃ sp, sprites[k]? = some sp ∧ sp.x.toNat < 167
  passed : 0 < h.f.x → ∀ k sp, sprites[k]? = some sp → sp.x.toNat < h.f.x + 7 → k ∈ h.charged
  penalty : h.f.spritePenalty = 6 * h.charged.length + h.waited

theorem Head.Inv.start (sprites : List Sprite) : Head.start.Inv sprites where
  fetch := .start _
  x_le := by decide
  mask := fun k => by simp [Head.start, fetchStart]
  nodup := List.nodup_nil
  early := by simp [Head.start]
  passed := fun h => absurd h (by decide)
  penalty := rfl

/-- The record after a sprite was charged for. -/
theorem Head.Inv.charge {h : Head} (hi : h.Inv sprites) {f' : FetchState} {k : ℕ} {sp : Sprite}
    (hk : sprites[k]? = some sp) (hlt : sp.x.toNat < 167) (hfresh : k ∉ h.charged)
    (hf : FetchInv sprites.length f') (hx : f'.x = h.f.x)
    (hmask : f'.spriteMask = h.f.spriteMask ||| 2 ^ k)
    (hpen : f'.spritePenalty = h.f.spritePenalty + 6) :
    Head.Inv sprites { h with f := f', charged := k :: h.charged } where
  fetch := hf
  x_le := hx.trans_le hi.x_le
  mask j := by
    rw [hmask, Nat.testBit_or, Bool.or_eq_true, hi.mask j, Nat.testBit_two_pow,
      decide_eq_true_iff, List.mem_cons, or_comm, eq_comm]
  nodup := hi.nodup.cons hfresh
  early := by
    intro j hj
    rcases List.mem_cons.mp hj with rfl | hj
    · exact ⟨sp, hk, hlt⟩
    · exact hi.early j hj
  passed := by
    intro h0 j sp' hj hlt'
    dsimp only at h0 hlt'
    rw [hx] at h0 hlt'
    exact List.mem_cons_of_mem _ (hi.passed h0 j sp' hj hlt')
  penalty := by
    have := hi.penalty
    rw [List.length_cons]
    dsimp only
    omega

/-- The record after the loop moved on, with nothing left that starts before `x + 8`. -/
theorem Head.Inv.move {h : Head} (hi : h.Inv sprites) {f' : FetchState} {wait : ℕ}
    (hnone : ∀ k sp, sprites[k]? = some sp → sp.x.toNat < h.f.x + 8 → k ∈ h.charged)
    (hf : FetchInv sprites.length f') (hx : h.f.x < 160) (hnext : f'.x = h.f.x + 1)
    (hmask : f'.spriteMask = h.f.spriteMask) (hpen : f'.spritePenalty = h.f.spritePenalty + wait) :
    Head.Inv sprites { h with
      f := f', waited := h.waited + (f'.spritePenalty - h.f.spritePenalty) } where
  fetch := hf
  x_le := by
    dsimp only
    omega
  mask j := by
    rw [hmask]
    exact hi.mask j
  nodup := hi.nodup
  early := hi.early
  passed := by
    intro _ k sp hk hlt
    dsimp only at hlt
    exact hnone k sp hk (by omega)
  penalty := by
    have := hi.penalty
    dsimp only
    omega

/-- **One iteration** computes, keeps what the record says, and makes progress. -/
theorem headIteration_total (hn : sprites.length ≤ 16) {h : Head} (hi : h.Inv sprites)
    (hx : h.f.x < 160) :
    Total (headIteration sprites h) fun h' =>
      h'.Inv sprites ∧ Progress sprites.length h h' := by
  have hpen := hi.fetch.penalty_lt hn
  have htotal := fetchIteration_total hn hi.fetch hx
  obtain ⟨r, hfind, hr⟩ := (findSprite_result h.f.spriteMask h.f.x sprites 0 (by omega)).exists_ok
  rw [headIteration, findSpriteU8_eq hx, fetchIterationU8_eq sprites hx, hfind]
  cases r with
  | some spriteBit =>
    obtain ⟨k, sp, hk, rfl, hclear, hlt⟩ := hr
    rw [Nat.zero_add] at hclear hfind ⊢
    have hfresh : k ∉ h.charged := fun hmem => by simp [(hi.mask k).mpr hmem] at hclear
    have hklt : k < sprites.length := (List.getElem?_eq_some_iff.mp hk).1
    rw [fetchIteration_some hfind hpen] at htotal ⊢
    simp only [ok_bind, Nat.log2_two_pow]
    exact ⟨hi.charge hk (by omega) hfresh htotal.1 rfl rfl rfl,
      .inl ⟨k, hklt, hfresh, rfl, rfl, rfl⟩⟩
  | none =>
    rw [fetchIteration_none hfind hpen] at htotal ⊢
    refine ⟨hi.move (fun k sp hk hlt => (hi.mask k).mp ?_) htotal.1 hx rfl rfl rfl,
      .inr ⟨rfl, rfl⟩⟩
    rw [← Nat.zero_add k]
    exact hr k sp hk hlt

/-- Every head the loop reaches is as the record says. -/
theorem LoopReaches.inv (hn : sprites.length ≤ 16) {h : Head} (hr : LoopReaches sprites h) :
    h.Inv sprites := by
  refine hr.induction (fun _ hs => hs ▸ .start sprites) fun _ h h' hi hstep => ?_
  by_cases hx : h.f.x < 160
  · rw [if_pos hx] at hstep
    exact ((headIteration_total hn hi hx).of_ok hstep).1
  · rw [if_neg hx] at hstep
    cases hstep
    exact hi

/-- The record of an iteration does not disturb it. -/
theorem headIteration_of_fetchIterationU8 {h : Head} {f' : FetchState}
    (hf : fetchIterationU8 sprites h.f = .ok f') :
    ∃ h', headIteration sprites h = .ok h' ∧ h'.f = f' := by
  obtain ⟨r, hr, -⟩ := bind_eq_ok.mp hf
  rw [headIteration, hr, hf]
  cases r with
  | some spriteBit => exact ⟨_, rfl, rfl⟩
  | none => exact ⟨_, rfl, rfl⟩

/-- Where the loop ends, it ends at a head that it reaches. -/
theorem LoopReaches.fetchLoopU8 :
    ∀ (fuel : ℕ) {h : Head} {f' : FetchState}, LoopReaches sprites h →
      fetchLoopU8 sprites fuel h.f = .ok f' →
      ∃ h', LoopReaches sprites h' ∧ ¬ h'.f.x < 160 ∧ h'.f = f' := by
  intro fuel
  induction fuel with
  | zero =>
    intro h f' hr hf
    rw [Ppu.fetchLoopU8] at hf
    split at hf
    · cases hf
    · rename_i hx
      exact ⟨h, hr, hx, ok_inj.mp hf⟩
  | succ fuel ih =>
    intro h f' hr hf
    rw [Ppu.fetchLoopU8] at hf
    split at hf
    · rename_i hx
      obtain ⟨g, hg, hrest⟩ := bind_eq_ok.mp hf
      obtain ⟨h', hh', rfl⟩ := headIteration_of_fetchIterationU8 hg
      exact ih (.step () hr ((if_pos hx).trans hh')) hrest
    · rename_i hx
      exact ⟨h, hr, hx, ok_inj.mp hf⟩

/-! ### The length of mode 3 -/

/-- What the loop has charged for when it ends at `h`: every sprite that starts before column 167,
once, and no other. -/
structure Head.Settled (sprites : List Sprite) (h : Head) : Prop where
  x_eq : h.f.x = 160
  nodup : h.charged.Nodup
  charged : ∀ k, k ∈ h.charged ↔ ∃ sp, sprites[k]? = some sp ∧ sp.x.toNat < 167
  penalty : h.f.spritePenalty = 6 * h.charged.length + h.waited

theorem Head.Inv.settled {h : Head} (hi : h.Inv sprites) (hx : ¬ h.f.x < 160) :
    h.Settled sprites where
  x_eq := by
    have := hi.x_le
    omega
  nodup := hi.nodup
  charged k := by
    constructor
    · exact hi.early k
    · rintro ⟨sp, hk, hlt⟩
      exact hi.passed (by omega) k sp hk (by omega)
  penalty := hi.penalty

/-- **The loop charges for each sprite once**, and ends at column 160. -/
theorem spritePenaltyU8_settled (hobj : p.lcdcObjEnable = true)
    (h : p.spriteBuffer.length ≤ 10) :
    ∃ hd, LoopReaches p.spriteBuffer.reverse hd ∧ hd.Settled p.spriteBuffer.reverse ∧
      p.spritePenaltyU8 = .ok hd.f.spritePenalty := by
  have hlen : p.spriteBuffer.reverse.length = p.spriteBuffer.length := List.length_reverse
  obtain ⟨n, hn, -⟩ := (spritePenalty_total h).exists_ok
  rw [← spritePenaltyU8_eq, spritePenaltyU8, hobj] at hn
  obtain ⟨f', hf', -⟩ := bind_eq_ok.mp hn
  obtain ⟨hd, hr, hx, rfl⟩ := LoopReaches.fetchLoopU8 _ (.start rfl) hf'
  refine ⟨hd, hr, (hr.inv (by omega)).settled hx, ?_⟩
  rw [spritePenaltyU8, hobj]
  exact bind_eq_ok.mpr ⟨hd.f, hf', rfl⟩

/-- **The length of mode 3**, for every content of the sprite buffer. In each iteration of the
loop nothing overflows, and it fetches a sprite not fetched before or moves on. With sprites
switched on the loop ends with every sprite before column 167 charged for, once, and no other;
and mode 3 takes between 43 and 73 clocks. -/
theorem mode3_length (p : Ppu) (windowPos : Option UInt8) (h : p.spriteBuffer.length ≤ 10) :
    (∀ hd, LoopReaches p.spriteBuffer.reverse hd → hd.f.x < 160 →
      Total (headIteration p.spriteBuffer.reverse hd) (Progress p.spriteBuffer.length hd)) ∧
    (p.lcdcObjEnable = true →
      ∃ hd, LoopReaches p.spriteBuffer.reverse hd ∧ hd.Settled p.spriteBuffer.reverse ∧
        p.spritePenaltyU8 = .ok hd.f.spritePenalty) ∧
    (p.lcdcObjEnable = false → p.spritePenaltyU8 = .ok 0) ∧
    Total (p.calcMode3LenU8 windowPos) fun len => 43 ≤ len ∧ len ≤ 73 := by
  have hlen : p.spriteBuffer.reverse.length = p.spriteBuffer.length := List.length_reverse
  refine ⟨fun hd hr hx => ?_, fun hobj => spritePenaltyU8_settled hobj h, fun hobj => ?_, ?_⟩
  · rw [← hlen]
    exact (headIteration_total (by omega) (hr.inv (by omega)) hx).imp fun _ h' => h'.2
  · rw [spritePenaltyU8, hobj]
    rfl
  · rw [calcMode3LenU8_eq]
    exact calcMode3Len_total h windowPos

/-- A sprite at the left end of the line and one beyond its right end. -/
def scatteredPpu : Ppu :=
  { Ppu.new .none (.ofMode .modeDmg) with
    lcdcObjEnable := true
    spriteBuffer := [{ y := 16, x := 8, tile := 0, attr := 0 },
      { y := 16, x := 168, tile := 0, attr := 0 }] }

/-- Only the one on the line, which is the last of the reversed buffer, is charged for. -/
theorem mode3_length_scattered : ∃ hd, LoopReaches scatteredPpu.spriteBuffer.reverse hd ∧
    scatteredPpu.spritePenaltyU8 = .ok hd.f.spritePenalty ∧ 1 ∈ hd.charged ∧ 0 ∉ hd.charged := by
  have hlen : scatteredPpu.spriteBuffer.length ≤ 10 := by decide
  obtain ⟨hd, hr, hset, hpen⟩ := (mode3_length scatteredPpu none hlen).2.1 rfl
  refine ⟨hd, hr, hpen, (hset.charged 1).mpr ⟨_, rfl, by decide⟩, fun hmem => ?_⟩
  obtain ⟨sp, hsp, hlt⟩ := (hset.charged 0).mp hmem
  cases hsp
  exact absurd hlt (by decide)

end Ppu

end ZenithGb
