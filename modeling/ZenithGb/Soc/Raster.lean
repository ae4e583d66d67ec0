import ZenithGb.Ppu.Frame
import ZenithGb.Soc.Components
import ZenithGb.Soc.Wram

/-!
# The system on chip: the raster

A program sees the pixel unit through LY and counts its own time in M-cycles. While the LCD is on,
one determines the other: the beam moves by one in every M-cycle at normal speed and in every other
one at double speed, whatever the program does in them, and goes round once in 17556 such clocks.

## Main results

* `Soc.dots_eq` — the clocks of the pixel unit, from the cycle counter
* `Soc.raster` — LY after any number of steps
-/

namespace ZenithGb

open Outcome

namespace Soc

variable {s s' : Soc}

/-! ### Clocks of the pixel unit -/

/-- The step from a position clocks the pixel unit. -/
def IsDot (r : Machine.Run step) (i : ℕ) : Prop :=
  ((r.input i).isCycle && (r.state i).ticks) = true

instance (r : Machine.Run step) : DecidablePred (IsDot r) := fun i =>
  inferInstanceAs (Decidable (((r.input i).isCycle && (r.state i).ticks) = true))

/-- How often the pixel unit has been clocked before a position. -/
def dots (r : Machine.Run step) (k : ℕ) : ℕ := Nat.count (IsDot r) k

/-- The M-cycles from `c` up to `c'` that clock the pixel unit, at the speed of the CPU. -/
def dotsBetween (doubleSpeed : Bool) (c c' : ℕ) : ℕ :=
  if doubleSpeed then (c' + 1) / 2 - (c + 1) / 2 else c' - c

theorem ticks_iff (s : Soc) : s.ticks = true ↔ s.cpuSpeed = false ∨ s.cycles % 2 = 0 := by
  rw [ticks, Bool.or_eq_true, Bool.not_eq_true', beq_iff_eq, Nat.and_one_is_mod]

/-- **Time.** As long as the speed stays what it is, the cycle counter tells how often the pixel
unit has been clocked. -/
theorem dots_eq (r : Machine.Run step) {k : ℕ} (hk : k ≤ r.length)
    (hspeed : ∀ i < k, (r.state i).cpuSpeed = (r.state 0).cpuSpeed) :
    (r.state 0).cycles ≤ (r.state k).cycles ∧
      dots r k = dotsBetween (r.state 0).cpuSpeed (r.state 0).cycles (r.state k).cycles := by
  induction k with
  | zero =>
    refine ⟨Nat.le_refl _, ?_⟩
    rw [dots, Nat.count_zero, dotsBetween]
    split <;> omega
  | succ k ih =>
    obtain ⟨hle, hdots⟩ := ih (by omega) fun i hi => hspeed i (by omega)
    have hcycles := (effect_of_step (r.next k hk)).cycles
    have hticks := ticks_iff (r.state k)
    rw [hspeed k (Nat.lt_succ_self k)] at hticks
    rw [dots, Nat.count_succ, ← dots, hdots, hcycles]
    have hdot : IsDot r k ↔ (r.input k).isCycle = true ∧ (r.state k).ticks = true := by
      rw [IsDot, Bool.and_eq_true]
    cases hop : (r.input k).isCycle with
    | false =>
      have hnone : ¬ IsDot r k := fun h => Bool.false_ne_true (hop.symm.trans (hdot.mp h).1)
      rw [if_neg hnone]
      exact ⟨hle, rfl⟩
    | true =>
      have hdot' : IsDot r k ↔ (r.state 0).cpuSpeed = false ∨ (r.state k).cycles % 2 = 0 := by
        rw [hdot, hop, ← hticks]
        exact and_iff_right rfl
      rw [if_pos rfl]
      refine ⟨by omega, ?_⟩
      unfold dotsBetween
      cases hd : (r.state 0).cpuSpeed with
      | false =>
        rw [if_pos (hdot'.mpr (.inl hd))]
        simp only [Bool.false_eq_true, if_false]
        omega
      | true =>
        rw [hd] at hdot'
        simp only [Bool.true_eq_false, false_or] at hdot'
        simp only [if_true]
        split
        · rename_i hdot''
          have := hdot'.mp hdot''
          omega
        · rename_i hdot''
          have : ¬ (r.state k).cycles % 2 = 0 := fun h => hdot'' (hdot'.mpr h)
          omega

/-! ### The beam -/

/-- The operations of the CPU that leave the LCD on. -/
def Op.KeepsLcdOn : Op → Prop
  | .write address data => address = 0xFF40 → Ppu.lcdBit data = true
  | _ => True

theorem mem_ppuWrite {data : UInt8} {reg : HwReg} {o : Ppu.Op} (h : o ∈ ppuWrite data reg) :
    ∃ reg', o = .writeReg reg' data ∧ (reg' = .lcdc → reg = .lcdc) := by
  cases reg with
  | lcdc => exact ⟨.lcdc, List.mem_singleton.mp h, fun _ => rfl⟩
  | stat | ly | scy | scx | lyc | bgp | obp0 | obp1 | wy | wx | vbk | bcps | bcpd | ocps | ocpd
  | opri => exact ⟨_, List.mem_singleton.mp h, fun he => by cases he⟩
  | _ => cases h

/-- What the CPU writes to the pixel unit is no clock, and leaves the LCD on if the write does. -/
theorem quiet_ppuBusWrite {activeDma : Bool} {address : UInt16} {data : UInt8}
    (hkeep : Op.KeepsLcdOn (.write address data)) :
    ∀ o ∈ ppuBusWrite activeDma address.toNat data, o ≠ .clock ∧ o.KeepsLcdOn := by
  intro o ho
  rw [ppuBusWrite] at ho
  split at ho
  · rw [List.mem_singleton.mp ho]
    exact ⟨fun he => (by cases he), trivial⟩
  split at ho
  · split at ho
    · cases ho
    · rw [List.mem_singleton.mp ho]
      exact ⟨fun he => (by cases he), trivial⟩
  · cases hr : HwReg.ofAddr address.toNat with
    | none =>
      rw [atReg_of_none hr] at ho
      cases ho
    | some reg =>
      rw [atReg_of_some hr] at ho
      obtain ⟨reg', rfl, hlcdc⟩ := mem_ppuWrite ho
      refine ⟨fun he => (by cases he), ?_⟩
      by_cases hreg : reg' = .lcdc
      · subst hreg
        have hrange := ofAddr_range hr
        rw [hlcdc rfl] at hrange
        simp only [HwReg.addr, HwReg.span] at hrange
        refine hkeep (UInt16.toNat_inj.mp ?_)
        show address.toNat = 0xFF40
        omega
      · cases reg' with
        | lcdc => exact absurd rfl hreg
        | _ => trivial

/-- A pixel unit with the LCD on and the beam at a place. -/
def LitAt (b : Ppu.Beam) (p : Ppu) : Prop := Ppu.Inv p ∧ p.lcdcEnable = true ∧ p.beam = b

theorem LitAt.exec {b : Ppu.Beam} {p q : Ppu} (h : LitAt b p) {work : List Ppu.Op}
    (hwork : ∀ o ∈ work, o ≠ .clock ∧ o.KeepsLcdOn) (hexec : Machine.exec Ppu.step work p = .ok q) :
    LitAt b q := by
  refine (Machine.exec_meets (E := fun _ => True) (P := fun o : Ppu.Op => o ≠ .clock ∧ o.KeepsLcdOn)
    (fun o p ho hp => meets_of_ok fun p' hs => ?_) work p hwork h).of_ok hexec
  obtain ⟨hinv, hon, hbeam⟩ := hp
  obtain ⟨hinv', heffect⟩ := Ppu.effect_of_step hinv hs
  obtain ⟨hon', hkept⟩ := heffect.keepsLcdOn ho.2 hon
  exact ⟨hinv', hon', (hkept ho.1).1.trans hbeam⟩

/-- **One step** moves the beam by one if it clocks the pixel unit, and not at all otherwise. -/
theorem position_of_step {op : Op} (hinv : Ppu.Inv s.ppu) (hon : s.ppu.lcdcEnable = true)
    (hkeep : op.KeepsLcdOn) (h : step op s = .ok s') :
    Ppu.Inv s'.ppu ∧ s'.ppu.lcdcEnable = true ∧ s'.ppu.beam.position =
      if (op.isCycle && s.ticks) = true then (s.ppu.beam.position + 1) % 17556
      else s.ppu.beam.position := by
  obtain ⟨oam, vram, hworks⟩ := works_of_step h
  have hexec := hworks.ppu
  rw [Machine.exec_append] at hexec
  obtain ⟨p, hdma, hexec⟩ := bind_eq_ok.mp hexec
  rw [ppuWork, Machine.exec_append] at hexec
  obtain ⟨q, hclock, hwrite⟩ := bind_eq_ok.mp hexec
  -- DMA leaves the beam where it is.
  have hp : LitAt s.ppu.beam p := by
    refine LitAt.exec ⟨hinv, hon, rfl⟩ (fun o ho => ?_) hdma
    obtain ho | ho := List.mem_append.mp ho
    · obtain ⟨-, active, i, byte, -, -, rfl⟩ := hworks.dma.oam.2 o ho
      exact ⟨fun he => (by cases he), trivial⟩
    · obtain ⟨-, -, dst, byte, rfl⟩ := hworks.dma.vram o ho
      exact ⟨fun he => (by cases he), trivial⟩
  have hq : Ppu.Inv q ∧ q.lcdcEnable = true ∧ q.beam.position =
      if (op.isCycle && s.ticks) = true then (s.ppu.beam.position + 1) % 17556
      else s.ppu.beam.position := by
    rw [clock4MhzWork] at hclock
    obtain ⟨hinvp, honp, hbeam⟩ := hp
    split at hclock
    · rw [Machine.exec_singleton] at hclock
      obtain ⟨hinvq, hkept, htick⟩ := Ppu.tick_of_step hinvp hclock
      refine ⟨hinvq, hkept.lcdcEnable.trans honp, ?_⟩
      rw [(htick.position hinvp honp).1, hbeam, if_pos ‹_›]
    · cases hclock
      exact ⟨hinvp, honp, by rw [hbeam, if_neg ‹_›]⟩
  rw [← hq.2.2]
  -- So does what the CPU writes.
  have hs : LitAt q.beam s'.ppu := by
    refine LitAt.exec ⟨hq.1, hq.2.1, rfl⟩ ?_ hwrite
    cases op with
    | write address data => exact quiet_ppuBusWrite hkeep
    | _ => exact List.forall_mem_nil _
  exact ⟨hs.1, hs.2.1, by rw [hs.2.2]⟩

/-! ### Runs -/

theorem ofAddr_ly : HwReg.ofAddr 0xFF44 = some .ly := by decide

/-- **The raster.** In every run of a reachable system that leaves the LCD on, the beam has moved on
by the clocks of the pixel unit, and LY, read at any moment, says where it is. -/
theorem raster (r : Machine.Run step) (hreach : Reachable (r.state 0))
    (hon : (r.state 0).ppu.lcdcEnable = true) (hkeep : ∀ k < r.length, (r.input k).KeepsLcdOn)
    {k : ℕ} (hk : k ≤ r.length) :
    (r.state k).ppu.beam.position = ((r.state 0).ppu.beam.position + dots r k) % 17556 ∧
      (∀ activeDma, (r.state k).readBus activeDma 0xFF44 = .ok (UInt8.ofNat
        ((144 + ((r.state 0).ppu.beam.position + dots r k) % 17556 / 114) % 154))) ∧
      ((∀ i < k, (r.state i).cpuSpeed = (r.state 0).cpuSpeed) → dots r k =
        dotsBetween (r.state 0).cpuSpeed (r.state 0).cycles (r.state k).cycles) := by
  have hinv0 : Ppu.Inv (r.state 0).ppu := hreach.ppu.inv
  have hlit : ∀ j ≤ r.length, Ppu.Inv (r.state j).ppu ∧ (r.state j).ppu.lcdcEnable = true :=
    fun j hj => r.invariant (I := fun _ s => Ppu.Inv s.ppu ∧ s.ppu.lcdcEnable = true) ⟨hinv0, hon⟩
      (fun i _ hi h => by
        obtain ⟨hinv, hlcd, -⟩ := position_of_step h.1 h.2 (hkeep i hi) (r.next i hi)
        exact ⟨hinv, hlcd⟩) j (Nat.zero_le j) hj
  have hposition := r.phaseAt (IsDot r) (fun s => s.ppu.beam.position) hinv0.position_lt
    (fun i hi => (position_of_step (hlit i (Nat.le_of_lt hi)).1 (hlit i (Nat.le_of_lt hi)).2
      (hkeep i hi) (r.next i hi)).2.2) k hk
  rw [← dots] at hposition
  refine ⟨hposition, fun activeDma => ?_, fun hspeed => (dots_eq r hk hspeed).2⟩
  rw [readBus, if_neg (by decide), if_neg (by decide), if_neg (by decide), if_neg (by decide),
    if_neg (by decide), if_neg (by decide), if_pos (by decide), ofAddr_ly]
  show Except.ok (UInt8.ofNat (r.state k).ppu.ly) = _
  rw [(hlit k hk).1.ly_eq, hposition]

/-- The first line after power-on, and the first clock of the second one, where LY is 1. -/
theorem raster_newLine : ∃ r : Machine.Run step, cgbNew = .ok (r.state 0) ∧ r.length = 115 ∧
    (r.state 115).ppu.beam.position = (1140 + dots r 115) % 17556 ∧ dots r 115 = 115 ∧
    (r.state 115).readBus false 0xFF44 = .ok 1 := by
  obtain ⟨r, hstart, hlen, hin⟩ := exists_cgbRun (List.replicate 115 .clock) (by decide +kernel)
  have hlen : r.length = 115 := hlen
  have hppu := (new_eq_ok hstart).1
  have hfirst : (r.state 0).ppu.beam.position = 1140 := by rw [hppu]; rfl
  have hclock : ∀ k, r.input k = .clock := by
    intro k
    rw [hin k, List.getD_eq_getElem?_getD, List.getElem?_replicate]
    split <;> rfl
  obtain ⟨hposition, hread, -⟩ := raster r (reachable_cgbNew hstart) (by rw [hppu]; rfl)
    (fun k _ => by rw [hclock k]; trivial) hlen.ge
  rw [hfirst] at hposition hread
  have hlast : (r.state 115).ppu.beam.position = 1255 := by
    refine state_of_cgbNew (f := fun s => s.ppu.beam.position) hstart hlen.ge ?_
    rw [show r.input = fun _ => .clock from funext hclock]
    decide +kernel
  have hcount : dots r 115 ≤ 115 := Nat.count_le _
  have hdots : dots r 115 = 115 := by omega
  refine ⟨r, hstart, hlen, hposition, hdots, ?_⟩
  rw [hread false, hdots]
  rfl

end Soc

end ZenithGb
