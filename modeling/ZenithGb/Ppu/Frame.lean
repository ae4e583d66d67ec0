import ZenithGb.Ppu.Machine

/-!
# The pixel unit: the timing of a frame

With the LCD on, the beam goes round a cycle of 154 lines of 114 clocks. `Beam.position` says how
far round it is, counted from the start of VBlank, and a clock moves it by one whatever the length
of mode 3 turned out to be: HBlank makes up the difference.

## Main results

* `Ppu.Tick.position` — a clock with the LCD on moves the beam by one
* `Ppu.frame_timing` — the lines, modes and VBlank requests of any run with the LCD kept on
-/

namespace ZenithGb

open Outcome

namespace Ppu

/-- The clocks of the current line that have passed. -/
def Beam.offset (b : Beam) : ℕ :=
  match b.mode with
  | .oamScan => 20 - b.left
  | .draw => 20 + b.drawLength - b.left
  | .hBlank | .vBlank => 114 - b.left

theorem offset_oamScan {p : Ppu} (hm : p.statMode = .oamScan) :
    p.beam.offset = 20 - p.cyclesMode := by
  simp only [Beam.offset, beam, hm]

/-- The clocks since line 144 began. -/
def Beam.position (b : Beam) : ℕ := (b.ly + 10) % 154 * 114 + b.offset

/-- The mode of a visible line after `t` clocks, when mode 3 lasts `d`. -/
def lineMode (d t : ℕ) : PpuMode :=
  if t < 20 then .oamScan else if t < 20 + d then .draw else .hBlank

variable {p p' : Ppu}

/-! ### Reading the position back -/

theorem Inv.offset_lt (h : Inv p) : p.beam.offset < 114 := by
  have hpos := h.cyclesMode
  have hcycles := h.cycles
  obtain ⟨hscan, hdraw, -⟩ := h.within
  have hlen := h.drawLength
  show (match p.statMode with
    | .oamScan => 20 - p.cyclesMode
    | .draw => 20 + p.drawLength - p.cyclesMode
    | .hBlank | .vBlank => 114 - p.cyclesMode) < 114
  cases hm : p.statMode with
  | oamScan => dsimp only; omega
  | draw => have := hlen hm; dsimp only; omega
  | hBlank | vBlank => dsimp only; omega

theorem Inv.position_lt (h : Inv p) : p.beam.position < 17556 := by
  have hoffset := h.offset_lt
  have hly : (p.beam.ly + 10) % 154 < 154 := Nat.mod_lt _ (by decide)
  rw [Beam.position]
  omega

theorem Inv.ly_eq (h : Inv p) : p.ly = (144 + p.beam.position / 114) % 154 := by
  have hoffset := h.offset_lt
  have hly : p.ly ≤ 153 := h.ly_le
  have hdiv : p.beam.position / 114 = (p.ly + 10) % 154 := by
    show ((p.ly + 10) % 154 * 114 + p.beam.offset) / 114 = _
    omega
  rw [hdiv]
  omega

theorem Inv.offset_eq (h : Inv p) : p.beam.offset = p.beam.position % 114 := by
  have hoffset := h.offset_lt
  rw [Beam.position]
  omega

/-- On a visible line the mode is what the clocks of the line and the length of mode 3 say. -/
theorem Inv.statMode_eq (h : Inv p) (hly : p.ly < 144) :
    p.statMode = lineMode p.drawLength p.beam.offset := by
  have hpos := h.cyclesMode
  have hcycles := h.cycles
  have hline := h.line
  obtain ⟨hscan, hdraw, hhblank⟩ := h.within
  show p.statMode = lineMode p.drawLength (match p.statMode with
    | .oamScan => 20 - p.cyclesMode
    | .draw => 20 + p.drawLength - p.cyclesMode
    | .hBlank | .vBlank => 114 - p.cyclesMode)
  rw [lineMode]
  cases hm : p.statMode with
  | oamScan => rw [if_pos (by dsimp only; omega)]
  | draw =>
    have := hdraw hm
    rw [if_neg (by dsimp only; omega), if_pos (by dsimp only; omega)]
  | hBlank =>
    have := hhblank hm
    rw [if_neg (by dsimp only; omega), if_neg (by dsimp only; omega)]
  | vBlank =>
    rw [if_pos hm] at hline
    omega

/-! ### One clock -/

theorem Beam.position_next_clock {b b' : Beam} (hly : b'.ly = b.ly)
    (hoffset : b'.offset = b.offset + 1) (hlt : b'.offset < 114) :
    b'.position = (b.position + 1) % 17556 ∧ (b.position + 1) % 17556 ≠ 0 := by
  have hline : (b.ly + 10) % 154 < 154 := Nat.mod_lt _ (by decide)
  unfold Beam.position
  rw [hly, hoffset]
  generalize (b.ly + 10) % 154 = line at hline
  omega

theorem Beam.position_next_line {b b' : Beam} (hly : b.ly ≤ 153) (hoffset : b.offset = 113)
    (hly' : b'.ly = (b.ly + 1) % 154) (hoffset' : b'.offset = 0) :
    b'.position = (b.position + 1) % 17556 ∧ ((b.position + 1) % 17556 = 0 ↔ b.ly = 143) := by
  unfold Beam.position
  rw [hly', hoffset, hoffset']
  omega

/-- While the mode's counter runs the beam stays on the line. -/
theorem Inv.offset_count (h : Inv p) (hleft : 1 < p.cyclesMode) :
    Beam.offset { p.beam with left := p.cyclesMode - 1 } = p.beam.offset + 1 ∧
      Beam.offset { p.beam with left := p.cyclesMode - 1 } < 114 := by
  have hcycles := h.cycles
  obtain ⟨hscan, hdraw, -⟩ := h.within
  cases hm : p.statMode with
  | oamScan =>
    have := hscan hm
    simp only [Beam.offset, beam, hm]
    omega
  | draw =>
    have := hdraw hm
    have := h.drawLength hm
    simp only [Beam.offset, beam, hm]
    omega
  | hBlank | vBlank =>
    simp only [Beam.offset, beam, hm]
    omega

/-- **The beam.** A clock with the LCD on moves the beam by one, and requests the VBlank interrupt
exactly when it comes round to line 144. -/
theorem Tick.position {vblank : Bool} (ht : Tick p p' vblank) (h : Inv p)
    (hon : p.lcdcEnable = true) :
    p'.beam.position = (p.beam.position + 1) % 17556 ∧
      (vblank = true ↔ (p.beam.position + 1) % 17556 = 0) := by
  have hly := h.ly_le
  have hoffset : p.beam.offset = match p.statMode with
    | .oamScan => 20 - p.cyclesMode
    | .draw => 20 + p.drawLength - p.cyclesMode
    | .hBlank | .vBlank => 114 - p.cyclesMode := rfl
  -- Within a line, and from one line to the next.
  have hclock : ∀ b' : Beam, b'.ly = p.ly → b'.offset = p.beam.offset + 1 → b'.offset < 114 →
      b'.position = (p.beam.position + 1) % 17556 ∧
        (false = true ↔ (p.beam.position + 1) % 17556 = 0) := fun b' h1 h2 h3 =>
    have hb := Beam.position_next_clock (b := p.beam) h1 h2 h3
    ⟨hb.1, iff_of_false nofun hb.2⟩
  have hline : ∀ b' : Beam, p.beam.offset = 113 → b'.ly = (p.ly + 1) % 154 → b'.offset = 0 →
      b'.position = (p.beam.position + 1) % 17556 ∧
        ((p.beam.position + 1) % 17556 = 0 ↔ p.ly = 143) := fun b' h1 h2 h3 =>
    Beam.position_next_line (b := p.beam) hly h1 h2 h3
  cases ht with
  | off hoff => rw [hon] at hoff; cases hoff
  | count _ hleft hb =>
    rw [hb]
    exact hclock _ rfl (h.offset_count hleft).1 (h.offset_count hleft).2
  | change _ hleft htrans =>
    rw [hleft] at hoffset
    cases htrans with
    | drawLine len hm hlo hhi hb =>
      rw [hm] at hoffset
      rw [hb]
      refine hclock _ rfl ?_ ?_
      · rw [hoffset]
        show 20 + len - len = 20 - 1 + 1
        omega
      · show 20 + len - len < 114
        omega
    | hBlank hm hb =>
      have hlen := h.drawLength hm
      rw [hm] at hoffset
      rw [hb]
      refine hclock _ rfl ?_ ?_
      · rw [hoffset]
        show 114 - (94 - p.drawLength) = 20 + p.drawLength - 1 + 1
        omega
      · show 114 - (94 - p.drawLength) < 114
        omega
    | nextLine hm hlt hb =>
      rw [hm] at hoffset
      rw [hb]
      obtain ⟨h1, h2⟩ := hline ⟨p.ly + 1, .oamScan, 20, p.drawLength⟩ hoffset
        (Nat.mod_eq_of_lt (show p.ly + 1 < 154 by omega)).symm rfl
      exact ⟨h1, nofun, fun h0 => by have := h2.mp h0; omega⟩
    | vBlank hm heq hb =>
      rw [hm] at hoffset
      rw [hb]
      obtain ⟨h1, h2⟩ := hline ⟨144, .vBlank, 114, p.drawLength⟩ hoffset (by rw [heq]) rfl
      exact ⟨h1, fun _ => h2.mpr heq, fun _ => rfl⟩
    | vBlankLine hm hlt hb =>
      have hlo := h.line
      rw [if_pos hm] at hlo
      rw [hm] at hoffset
      rw [hb]
      obtain ⟨h1, h2⟩ := hline ⟨p.ly + 1, .vBlank, 114, p.drawLength⟩ hoffset
        (Nat.mod_eq_of_lt (show p.ly + 1 < 154 by omega)).symm rfl
      exact ⟨h1, nofun, fun h0 => by have := h2.mp h0; omega⟩
    | newFrame hm heq hb =>
      rw [hm] at hoffset
      rw [hb]
      obtain ⟨h1, h2⟩ := hline ⟨0, .oamScan, 20, p.drawLength⟩ hoffset (by rw [heq]) rfl
      exact ⟨h1, nofun, fun h0 => by have := h2.mp h0; omega⟩

/-- The clock that draws a line is the only one that changes the length of mode 3. -/
theorem Tick.drawLength_eq {vblank : Bool} (ht : Tick p p' vblank)
    (hon : p.lcdcEnable = true) :
    p'.drawLength = p.drawLength ∨ p.beam.offset = 19 := by
  have hlen : p'.drawLength = p'.beam.drawLength := rfl
  rw [hlen]
  cases ht with
  | off hoff => rw [hon] at hoff; cases hoff
  | count _ _ hb => rw [hb]; exact .inl rfl
  | change _ hleft htrans =>
    cases htrans with
    | drawLine len hm =>
      refine .inr ?_
      show (match p.statMode with
        | .oamScan => 20 - p.cyclesMode
        | .draw => 20 + p.drawLength - p.cyclesMode
        | .hBlank | .vBlank => 114 - p.cyclesMode) = 19
      rw [hm, hleft]
    | hBlank _ hb => rw [hb]; exact .inl rfl
    | nextLine _ _ hb => rw [hb]; exact .inl rfl
    | vBlank _ _ hb => rw [hb]; exact .inl rfl
    | vBlankLine _ _ hb => rw [hb]; exact .inl rfl
    | newFrame _ _ hb => rw [hb]; exact .inl rfl

/-- The clock that ends the object scan measures mode 3. -/
theorem Tick.drawLength_mem {vblank : Bool} (ht : Tick p p' vblank) (h : Inv p)
    (hon : p.lcdcEnable = true) (hly : p.ly < 144) (hoffset : p.beam.offset = 19) :
    43 ≤ p'.drawLength ∧ p'.drawLength ≤ 73 := by
  have hscan : p.statMode = .oamScan := by
    rw [h.statMode_eq hly, hoffset]
    rfl
  have hleft : 20 - p.cyclesMode = 19 := by
    have ho : p.beam.offset = match p.statMode with
      | .oamScan => 20 - p.cyclesMode
      | .draw => 20 + p.drawLength - p.cyclesMode
      | .hBlank | .vBlank => 114 - p.cyclesMode := rfl
    rwa [hscan, hoffset, eq_comm] at ho
  cases ht with
  | off hoff => rw [hon] at hoff; cases hoff
  | count _ hgt => omega
  | change _ _ htrans =>
    cases htrans with
    | drawLine len _ hlo hhi hb =>
      have hlen : p'.drawLength = p'.beam.drawLength := rfl
      rw [hlen, hb]
      exact ⟨hlo, hhi⟩
    | hBlank hm => rw [hscan] at hm; cases hm
    | nextLine hm => rw [hscan] at hm; cases hm
    | vBlank hm => rw [hscan] at hm; cases hm
    | vBlankLine hm => rw [hscan] at hm; cases hm
    | newFrame hm => rw [hscan] at hm; cases hm

/-! ### A run with the LCD on -/

/-- How many clocks a run has performed before position `k`. -/
def clocks (r : Machine.Run step) (k : ℕ) : ℕ := Nat.count (fun i => r.input i = .clock) k

theorem clocks_succ (r : Machine.Run step) (k : ℕ) :
    clocks r (k + 1) = clocks r k + if r.input k = .clock then 1 else 0 := Nat.count_succ ..

theorem clocks_mono (r : Machine.Run step) {j k : ℕ} (h : j ≤ k) : clocks r j ≤ clocks r k :=
  Nat.count_monotone _ h

/-- A run from a state that satisfies the invariant, with the LCD on throughout. -/
structure LitRun where
  run : Machine.Run step
  inv : Inv (run.state 0)
  on : (run.state 0).lcdcEnable = true
  keepsOn : ∀ k < run.length, (run.input k).KeepsLcdOn

namespace LitRun

variable (r : LitRun) {k : ℕ}

theorem lit (hk : k ≤ r.run.length) :
    Inv (r.run.state k) ∧ (r.run.state k).lcdcEnable = true := by
  refine r.run.invariant (I := fun _ p => Inv p ∧ p.lcdcEnable = true) ⟨r.inv, r.on⟩
    (fun i _ hi h => ?_) k (Nat.zero_le k) hk
  obtain ⟨hinv, heffect⟩ := effect_of_step h.1 (r.run.next i hi)
  exact ⟨hinv, (heffect.keepsLcdOn (r.keepsOn i hi) h.2).1⟩

/-- A step of the run: a tick, or nothing that concerns the beam. -/
theorem tick (hk : k < r.run.length) (hc : r.run.input k = .clock) :
    Tick (r.run.state k) (r.run.state (k + 1)) (r.run.state k).requestsVblank := by
  obtain ⟨-, heffect⟩ := effect_of_step (r.lit (by omega)).1 (r.run.next k hk)
  rw [hc] at heffect
  exact heffect.tick.2

theorem beam_of_ne (hk : k < r.run.length) (hc : r.run.input k ≠ .clock) :
    (r.run.state (k + 1)).beam = (r.run.state k).beam := by
  have h := r.lit (Nat.le_of_lt hk)
  obtain ⟨-, heffect⟩ := effect_of_step h.1 (r.run.next k hk)
  exact ((heffect.keepsLcdOn (r.keepsOn k hk) h.2).2 hc).1

/-- **The beam counts the clocks.** -/
theorem position (hk : k ≤ r.run.length) :
    (r.run.state k).beam.position =
      ((r.run.state 0).beam.position + clocks r.run k) % 17556 := by
  refine r.run.phase (· = .clock) (fun p => p.beam.position) r.inv.position_lt (fun i hi => ?_) k hk
  have h := r.lit (Nat.le_of_lt hi)
  by_cases hc : r.run.input i = .clock
  · rw [if_pos hc]
    exact ((r.tick hi hc).position h.1 h.2).1
  · rw [if_neg hc, r.beam_of_ne hi hc]

theorem requestsVblank_iff (hk : k < r.run.length) (hc : r.run.input k = .clock) :
    (r.run.state k).requestsVblank = true ↔
      ((r.run.state 0).beam.position + clocks r.run k + 1) % 17556 = 0 := by
  have h := r.lit (Nat.le_of_lt hk)
  rw [((r.tick hk hc).position h.1 h.2).2, r.position (Nat.le_of_lt hk), Nat.mod_add_mod]

/-! ### A run that starts where line 144 begins -/

section

variable (h0 : (r.run.state 0).beam.position = 0)

include h0

theorem ly_eq (hk : k ≤ r.run.length) :
    (r.run.state k).ly = (144 + clocks r.run k / 114) % 154 := by
  rw [(r.lit hk).1.ly_eq, r.position hk, h0]
  omega

theorem offset_eq (hk : k ≤ r.run.length) :
    (r.run.state k).beam.offset = clocks r.run k % 114 := by
  rw [(r.lit hk).1.offset_eq, r.position hk, h0]
  omega

/-- Once a line has been drawn, the length of its mode 3 stays what it is. -/
theorem drawLength_eq {i line : ℕ} (hi : clocks r.run i = 114 * line + 20) (hik : i ≤ k)
    (hk : k ≤ r.run.length) (hline : clocks r.run k / 114 = line) :
    (r.run.state k).drawLength = (r.run.state i).drawLength := by
  refine r.run.invariant (I := fun j p => clocks r.run j / 114 = line →
    p.drawLength = (r.run.state i).drawLength) (fun _ => rfl) (fun j hij hj ih hnext => ?_) k hik hk
    hline
  have hlo := clocks_mono r.run hij
  have hmono := clocks_mono r.run (Nat.le_add_right j 1)
  rw [← ih (by omega)]
  have h := r.lit (Nat.le_of_lt hj)
  by_cases hc : r.run.input j = .clock
  · rcases (r.tick hj hc).drawLength_eq h.2 with heq | ho
    · exact heq
    · rw [r.offset_eq h0 (Nat.le_of_lt hj)] at ho
      omega
  · exact congrArg Beam.drawLength (r.beam_of_ne hj hc)

/-- **The modes of a line.** Each visible line has one length of mode 3, and goes through the three
modes accordingly. -/
theorem statMode_eq (line : ℕ) :
    ∃ d, 43 ≤ d ∧ d ≤ 73 ∧ ∀ k ≤ r.run.length, clocks r.run k / 114 = line →
      (r.run.state k).ly < 144 → (r.run.state k).statMode = lineMode d (clocks r.run k % 114) := by
  have hmode : ∀ k ≤ r.run.length, (r.run.state k).ly < 144 →
      (r.run.state k).statMode = lineMode (r.run.state k).drawLength (clocks r.run k % 114) := by
    intro k hk hly
    rw [(r.lit hk).1.statMode_eq hly, r.offset_eq h0 hk]
  have hscan : ∀ d d' t, t < 20 → lineMode d t = lineMode d' t := fun d d' t ht => by
    unfold lineMode
    rw [if_pos ht, if_pos ht]
  by_cases hdrawn : (144 + line) % 154 < 144 ∧ 114 * line + 19 < clocks r.run r.run.length
  · -- The line is drawn in the run: its length of mode 3 is the one measured then.
    obtain ⟨hvisible, hdrawn⟩ := hdrawn
    obtain ⟨i, hi, hc, hcount⟩ := Machine.Run.exists_count_eq hdrawn
    replace hcount : clocks r.run i = 114 * line + 19 := hcount
    have hsucc : clocks r.run (i + 1) = 114 * line + 20 := by
      rw [clocks_succ, if_pos hc, hcount]
    have h := r.lit (Nat.le_of_lt hi)
    have hly : (r.run.state i).ly < 144 := by
      rw [r.ly_eq h0 (Nat.le_of_lt hi), hcount]
      omega
    have hoffset : (r.run.state i).beam.offset = 19 := by
      rw [r.offset_eq h0 (Nat.le_of_lt hi), hcount]
      omega
    obtain ⟨hlo, hhi⟩ := (r.tick hi hc).drawLength_mem h.1 h.2 hly hoffset
    refine ⟨_, hlo, hhi, fun k hk hline hly => ?_⟩
    rw [hmode k hk hly]
    rcases Nat.lt_or_ge i k with hik | hki
    · rw [r.drawLength_eq h0 hsucc hik hk hline]
    · have := clocks_mono r.run hki
      exact hscan _ _ _ (by omega)
  · -- Otherwise the run ends before mode 3, and any length will do.
    refine ⟨43, Nat.le_refl _, by decide, fun k hk hline hly => ?_⟩
    rw [hmode k hk hly]
    have hle := clocks_mono r.run hk
    rw [r.ly_eq h0 hk, hline] at hly
    exact hscan _ _ _ (by omega)

end

end LitRun

/-! ### From one VBlank to the next -/

/-- The clock that takes LY from 143 to 144 leaves the beam where VBlank begins. -/
theorem lit_of_vblank {q : Ppu} (hp : Inv p) (hline : p.ly = 143) (hs : step .clock p = .ok q)
    (hvblank : q.ly = 144) : Inv q ∧ q.lcdcEnable = true ∧ q.beam.position = 0 := by
  obtain ⟨hq, hkept, htick⟩ := tick_of_step hp hs
  have hon : p.lcdcEnable = true := by
    by_contra hne
    generalize p.requestsVblank = vblank at htick
    cases htick with
    | off _ hb =>
      have hly : q.ly = p.ly := congrArg Beam.ly hb
      omega
    | count hon => exact hne hon
    | change hon => exact hne hon
  have hpos := (htick.position hp hon).1
  have hp' := hp.ly_eq
  have hq' := hq.ly_eq
  have hlt := hp.position_lt
  exact ⟨hq, hkept.lcdcEnable.trans hon, by omega⟩

/-- **The timing of a frame.** After the clock in which VBlank is entered, with the LCD kept on and
anything written in between, the VBlank interrupt is requested once every 17556 clocks; LY steps
through 144 to 153 and 0 to 143, each for 114 clocks; and every line below 144 spends 20 clocks in
the object scan, some number `d` of clocks in mode 3, and 94 - `d` in HBlank. -/
theorem frame_timing (r : Machine.Run step) (hp : Reachable p) (hline : p.ly = 143)
    (henter : step .clock p = .ok (r.state 0)) (hvblank : (r.state 0).ly = 144)
    (hon : ∀ k < r.length, (r.input k).KeepsLcdOn) :
    (∀ k < r.length, r.input k = .clock →
      ((r.state k).requestsVblank = true ↔ (clocks r k + 1) % 17556 = 0)) ∧
    (∀ k ≤ r.length, (r.state k).ly = (144 + clocks r k / 114) % 154) ∧
    ∀ line, ∃ d, 43 ≤ d ∧ d ≤ 73 ∧ ∀ k ≤ r.length, clocks r k / 114 = line →
      (r.state k).ly < 144 → (r.state k).statMode = lineMode d (clocks r k % 114) := by
  obtain ⟨hinv, hlit, h0⟩ := lit_of_vblank hp.inv hline henter hvblank
  let lit : LitRun := ⟨r, hinv, hlit, hon⟩
  refine ⟨fun k hk hc => ?_, fun k hk => lit.ly_eq h0 hk, lit.statMode_eq h0⟩
  have := lit.requestsVblank_iff hk hc
  rwa [h0, Nat.zero_add] at this

/-- The clocks of a run of nothing but clocks. -/
theorem clocks_of_forall {r : Machine.Run step} (h : r.input = fun _ => .clock) (k : ℕ) :
    clocks r k = k := by
  rw [clocks, h]
  exact (Nat.count_iff_forall.mpr fun _ _ => rfl)

/-- A new pixel unit can be clocked for as long as one likes. -/
theorem exists_lit_new (frameChan : FrameChan) (ctx : GbCtx) (n : ℕ) :
    ∃ r : LitRun, r.run.length = n ∧ (r.run.input = fun _ => .clock) ∧
      r.run.state 0 = new frameChan ctx := by
  obtain ⟨r, hlen, hin, hstart⟩ : ∃ r : Machine.Run step, r.length = n ∧
      (r.input = fun _ => .clock) ∧ r.state 0 = new frameChan ctx := Machine.Run.ofTotal
    (I := fun _ p => Inv p ∧ p.lcdcWndEnable = false) (fun _ => Op.clock)
    ⟨Inv.new frameChan ctx, rfl⟩ (fun _ _ hp => step_clock_total hp.1 hp.2) n
  exact ⟨⟨r, hstart ▸ Inv.new frameChan ctx, hstart ▸ rfl, fun k _ => by rw [hin]; trivial⟩,
    hlen, hin, hstart⟩

/-- A new pixel unit enters VBlank with its 16416th clock, and again 17556 clocks later. -/
theorem frame_timing_new :
    ∃ r : Machine.Run step, r.length = 20000 ∧ (r.state 0).ly = 144 ∧
      (r.state 17555).requestsVblank = true := by
  obtain ⟨lit, hlen, hin, hstart⟩ := exists_lit_new .none (.ofMode .modeDmg) 36416
  have hpos : (lit.run.state 0).beam.position = 1140 := by rw [hstart]; rfl
  have hly : ∀ k ≤ 36416, (lit.run.state k).ly = (144 + (1140 + k) % 17556 / 114) % 154 := by
    intro k hk
    rw [← hlen] at hk
    rw [(lit.lit hk).1.ly_eq, lit.position hk, hpos, clocks_of_forall hin]
  have hreach : Reachable (lit.run.state 16415) :=
    lit.run.reachable (.start ⟨_, _, hstart⟩) (by omega)
  have hclock : ∀ k, (lit.run.drop 16416).input k = .clock := fun k => by
    rw [Machine.Run.drop_input, hin]
  have henter : step .clock (lit.run.state 16415) = .ok ((lit.run.drop 16416).state 0) := by
    rw [Machine.Run.drop_state]
    have hnext := lit.run.next 16415 (by omega)
    rwa [hin] at hnext
  have hvblank : ((lit.run.drop 16416).state 0).ly = 144 := by
    rw [Machine.Run.drop_state]
    exact hly 16416 (by omega)
  have hdrop : (lit.run.drop 16416).length = 20000 := by rw [Machine.Run.drop_length, hlen]
  obtain ⟨hrequest, -, -⟩ := frame_timing (lit.run.drop 16416) hreach (hly 16415 (by omega))
    henter hvblank fun k _ => by rw [hclock]; trivial
  refine ⟨lit.run.drop 16416, hdrop, hvblank, ?_⟩
  rw [hrequest 17555 (by omega) (hclock _), clocks_of_forall (funext hclock)]

end Ppu

end ZenithGb
