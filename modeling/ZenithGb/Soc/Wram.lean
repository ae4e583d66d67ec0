import ZenithGb.Soc.Memory

/-!
# Work RAM: banks and echo

Work RAM is seen in two places, and its upper half is banked. What the decoders make of this is in
`Soc.wramCell`: SVBK is used as it stands, so that 0 selects a bank of its own and not bank 1, and
the echo of the window is not banked, so that it shows the bank of 0 whatever SVBK says.

## Main results

* `Soc.echo_mirrors_iff` — the echo mirrors work RAM except in the window with SVBK not 0
* `Soc.wram_banking` — the window is a store for each bank in every run that does not use 0 and 1
  for the same bank
-/

namespace ZenithGb

open Outcome

namespace Soc

variable {s s' : Soc} {address address' : ℕ}

/-! ### Which accesses meet -/

/-- Two banks of the window have no cell in common. -/
theorem wramCell_window_inj {v w : UInt8} (hv : v ≤ 7) (hw : w ≤ 7) (ha : InWindow address)
    (ha' : InWindow address') (h : wramCell v address = wramCell w address') :
    v = w ∧ address = address' := by
  have hcell := congrArg Fin.val h
  rw [wramCell_window v ha, wramCell_window w ha'] at hcell
  obtain ⟨hlo, hhi⟩ := ha
  obtain ⟨hlo', hhi'⟩ := ha'
  have hv' : v.toNat ≤ 7 := UInt8.le_iff_toNat_le.mp hv
  have hw' : w.toNat ≤ 7 := UInt8.le_iff_toNat_le.mp hw
  exact ⟨UInt8.toNat_inj.mp (by omega), by omega⟩

/-- Outside the window only its echo reaches a cell of the window, and only one of bank 0. -/
theorem wramCell_window_fixed {v w : UInt8} (hw : w ≤ 7) (ha : IsWram address)
    (hfixed : ¬ InWindow address) (ha' : InWindow address')
    (h : wramCell v address = wramCell w address') :
    w = 0 ∧ 0xF000 ≤ address ∧ address ≤ 0xFDFF := by
  have hcell := congrArg Fin.val h
  rw [wramCell_fixed v hfixed, wramCell_window w ha'] at hcell
  obtain ⟨hlo, hhi⟩ := ha
  obtain ⟨hlo', hhi'⟩ := ha'
  rw [InWindow] at hfixed
  have hw' : w.toNat ≤ 7 := UInt8.le_iff_toNat_le.mp hw
  exact ⟨UInt8.toNat_inj.mp (show w.toNat = 0 by omega), by omega, hhi⟩

/-- An address and its echo share their cell, unless the address is banked and the echo is not. -/
theorem wramCell_echo_iff {v : UInt8} (hv : v ≤ 7) (hlo : 0xC000 ≤ address)
    (hhi : address ≤ 0xDDFF) :
    wramCell v (address + 0x2000) = wramCell v address ↔ address < 0xD000 ∨ v = 0 := by
  have hv' : v.toNat ≤ 7 := UInt8.le_iff_toNat_le.mp hv
  have hzero : v = 0 ↔ v.toNat = 0 := UInt8.toNat_inj.symm
  rw [Fin.ext_iff, wramCell_fixed v (by unfold InWindow; omega), hzero]
  by_cases hd : address < 0xD000
  · rw [wramCell_fixed v (by unfold InWindow; omega)]
    omega
  · rw [wramCell_window v ⟨by omega, by omega⟩]
    omega

/-! ### The echo -/

/-- The echo of an address of work RAM shows the same memory, whatever the access goes through. -/
structure EchoMirrors (s : Soc) (a : UInt16) : Prop where
  read : Prod.fst <$> s.clockRead (a + 0x2000) = Prod.fst <$> s.clockRead a
  dmaRead : ∀ site, s.dmaRead site (a + 0x2000).toNat = s.dmaRead site a.toNat
  write : ∀ data, Soc.wram <$> s.clockWrite (a + 0x2000) data = Soc.wram <$> s.clockWrite a data

section

variable {a : UInt16}

theorem echo_toNat (hhi : a.toNat ≤ 0xDDFF) : (a + 0x2000).toNat = a.toNat + 0x2000 := by
  rw [UInt16.toNat_add]
  show (a.toNat + 0x2000) % 0x10000 = _
  omega

/-- A read of work RAM is a clock, which moves neither memory nor bank. -/
theorem clockRead_wram (hsvbk : s.svbk ≤ 7) (ha : IsWram a.toNat) :
    s.clockRead a =
      (fun t => (s.wram.cell (wramCell s.svbk a.toNat), t)) <$> s.clock := by
  rw [clockRead]
  cases hclock : s.clock with
  | error e => rfl
  | ok t =>
    obtain ⟨⟨hwram, -⟩, hbank⟩ := clock_memory hclock
    rw [ok_bind, readBus_wram (by rwa [hbank]) ha, ok_bind, hwram, hbank]
    rfl

/-- A write to work RAM is a clock and a change of its cell. -/
theorem clockWrite_wram (hsvbk : s.svbk ≤ 7) (ha : IsWram a.toNat) (data : UInt8) :
    Soc.wram <$> s.clockWrite a data =
      (fun _ => s.wram.put (wramCell s.svbk a.toNat) data) <$> s.clock := by
  have hhi := ha.2
  rw [clockWrite_eq data (by omega)]
  cases hclock : s.clock with
  | error e => rfl
  | ok t =>
    obtain ⟨⟨hwram, -⟩, hbank⟩ := clock_memory hclock
    rw [ok_bind, writeBus_wram (by rwa [hbank]) ha, ← hwram, hbank]
    rfl

theorem echoMirrors_of_cell (hsvbk : s.svbk ≤ 7) (hlo : 0xC000 ≤ a.toNat) (hhi : a.toNat ≤ 0xDDFF)
    (h : wramCell s.svbk (a.toNat + 0x2000) = wramCell s.svbk a.toNat) : EchoMirrors s a := by
  have ha : IsWram a.toNat := ⟨hlo, by omega⟩
  have hecho : IsWram (a + 0x2000).toNat := by rw [echo_toNat hhi]; exact ⟨by omega, by omega⟩
  have hcell : wramCell s.svbk (a + 0x2000).toNat = wramCell s.svbk a.toNat := by
    rw [echo_toNat hhi, h]
  refine ⟨?_, fun site => ?_, fun data => ?_⟩
  · rw [clockRead_wram hsvbk ha, clockRead_wram hsvbk hecho, hcell]
  · rw [dmaRead_wram hsvbk ha, dmaRead_wram hsvbk hecho, hcell]
  · rw [clockWrite_wram hsvbk ha, clockWrite_wram hsvbk hecho, hcell]

/-- A write that changes the one cell and not the other tells them apart. -/
theorem cell_of_echoMirrors {t : Soc} (hsvbk : s.svbk ≤ 7) (hlo : 0xC000 ≤ a.toNat)
    (hhi : a.toNat ≤ 0xDDFF) (hclock : s.clock = .ok t) (h : EchoMirrors s a) :
    wramCell s.svbk (a.toNat + 0x2000) = wramCell s.svbk a.toNat := by
  have ha : IsWram a.toNat := ⟨hlo, by omega⟩
  have hecho : IsWram (a + 0x2000).toNat := by rw [echo_toNat hhi]; exact ⟨by omega, by omega⟩
  rw [← echo_toNat hhi]
  by_contra hne
  have hw := h.write (s.wram.cell (wramCell s.svbk a.toNat) + 1)
  rw [clockWrite_wram hsvbk ha, clockWrite_wram hsvbk hecho, hclock] at hw
  have hcell := congrArg (fun m => m.cell (wramCell s.svbk a.toNat)) (Except.ok.inj hw)
  dsimp only at hcell
  rw [Mem.put_cell_self, Mem.put_cell_of_ne _ (Ne.symm hne)] at hcell
  have hnat := congrArg UInt8.toNat hcell
  rw [UInt8.toNat_add] at hnat
  have := (s.wram.cell (wramCell s.svbk a.toNat)).toNat_lt
  have hone : (1 : UInt8).toNat = 1 := rfl
  omega

/-- **The echo of work RAM.** Through every decoder the echo shows the memory of 0xC000-0xDDFF if
the address is below the window or SVBK is 0; and only then, for an access that does not panic. -/
theorem echo_mirrors_iff (hs : Reachable s) (hlo : 0xC000 ≤ a.toNat) (hhi : a.toNat ≤ 0xDDFF) :
    (a.toNat < 0xD000 ∨ s.svbk = 0 → EchoMirrors s a) ∧
      ∀ t, s.clock = .ok t → (EchoMirrors s a ↔ a.toNat < 0xD000 ∨ s.svbk = 0) := by
  have hcell := wramCell_echo_iff hs.svbk hlo hhi
  refine ⟨fun h => echoMirrors_of_cell hs.svbk hlo hhi (hcell.mpr h), fun t hclock => ?_⟩
  rw [← hcell]
  exact ⟨cell_of_echoMirrors hs.svbk hlo hhi hclock, echoMirrors_of_cell hs.svbk hlo hhi⟩

end

/-- At power-on SVBK is 0. -/
theorem echo_mirrors_new : ∃ s, Reachable s ∧ EchoMirrors s 0xD000 := by
  obtain ⟨s, hs⟩ := exists_of_isOk (x := cgbNew) (by decide +kernel)
  have hsvbk : s.svbk = 0 := (new_eq_ok hs).2.2.2.2.2
  exact ⟨s, reachable_cgbNew hs, (echo_mirrors_iff (reachable_cgbNew hs) (by decide) (by decide)).1
    (.inr hsvbk)⟩

/-- A Game Boy Color with bank 2 in the window. -/
def cgbBankTwo : Checked Soc := cgbNew >>= step (.write 0xFF70 0x02)

/-- With another bank in the window its echo still shows bank 0. -/
theorem not_echoMirrors_bankTwo :
    ∃ s, Reachable s ∧ s.ctx.cgb = true ∧ s.svbk = 2 ∧ ¬ EchoMirrors s 0xD000 := by
  obtain ⟨t, ht⟩ := exists_of_isOk (x := cgbBankTwo >>= clock) (by decide +kernel)
  obtain ⟨s, hs, hclock⟩ := bind_eq_ok.mp ht
  have hfacts : cgbBankTwo.toOption.map (fun s : Soc => (s.ctx.cgb, s.svbk)) = some (true, 2) := by
    decide +kernel
  rw [hs] at hfacts
  obtain ⟨hcgb, hsvbk⟩ : s.ctx.cgb = true ∧ s.svbk = 2 := Prod.ext_iff.mp (Option.some.inj hfacts)
  obtain ⟨s0, hnew, hwrite⟩ := bind_eq_ok.mp hs
  refine ⟨s, .step _ (reachable_cgbNew hnew) hwrite, hcgb, hsvbk, fun h => ?_⟩
  have hbank : s.svbk ≤ 7 := by rw [hsvbk]; decide
  have hcell := cell_of_echoMirrors hbank (by decide) (by decide) hclock h
  rw [wramCell_echo_iff hbank (by decide) (by decide), hsvbk] at hcell
  revert hcell
  decide

/-! ### The banks -/

/-- The bank the hardware has in the window: 0 selects bank 1. -/
def bankOf (svbk : UInt8) : UInt8 := if svbk = 0 then 1 else svbk

/-- The window is a store for each bank: what a read at position `k` would return is what the last
write to this address under the bank of position `k` has left. -/
def WindowLaw (r : Machine.Run step) (k : ℕ) : Prop :=
  ∀ j < k, ∀ (a : UInt16) (data : UInt8), InWindow a.toNat → r.input j = .write a data →
    bankOf (r.state j).svbk = bankOf (r.state k).svbk →
    (∀ i, j < i → i < k → ∀ data', r.input i = .write a data' →
      bankOf (r.state i).svbk ≠ bankOf (r.state k).svbk) →
    ∀ byte s', (r.state k).clockRead a = .ok (byte, s') → byte = data

/-- What the step from position `j` has to do with a read at position `k`: if it wrote through the
window under the bank of position `k`, then with the same value in SVBK; and if SVBK is 0 at
position `k`, it did not write to the echo of the window. -/
structure SameSelect (r : Machine.Run step) (j k : ℕ) : Prop where
  window : ∀ a data, r.input j = .write a data → InWindow a.toNat →
    bankOf (r.state j).svbk = bankOf (r.state k).svbk → (r.state j).svbk = (r.state k).svbk
  echo : ∀ a data, r.input j = .write a data → (r.state k).svbk = 0 →
    ¬ (0xF000 ≤ a.toNat ∧ a.toNat ≤ 0xFDFF)

/-- The lower half of work RAM does not depend on SVBK. -/
def FixedLaw (s : Soc) : Prop :=
  ∀ (v data : UInt8) (activeDma : Bool) (address : ℕ), 0xC000 ≤ address → address ≤ 0xCFFF →
    ({ s with svbk := v } : Soc).readBus activeDma address = s.readBus activeDma address ∧
      Soc.wram <$> ({ s with svbk := v } : Soc).writeBus activeDma address data =
        Soc.wram <$> s.writeBus activeDma address data

theorem fixedLaw (s : Soc) : FixedLaw s := by
  intro v data activeDma address hlo hhi
  have hindex : ∀ (t : Soc) site, t.wramIndex site address = .ok (address - 0xC000) :=
    fun t site => if_pos hhi
  refine ⟨?_, ?_⟩
  · unfold readBus
    rw [if_neg (by omega), if_neg (by omega), if_neg (by omega), if_pos (by omega), hindex,
      if_neg (by omega), if_neg (by omega), if_neg (by omega), if_pos (by omega), hindex]
  · unfold writeBus
    rw [if_neg (by omega), if_neg (by omega), if_neg (by omega), if_pos (by omega), hindex,
      if_neg (by omega), if_neg (by omega), if_neg (by omega), if_pos (by omega), hindex,
      ok_bind, ok_bind]
    show Soc.wram <$> (s.wram.set (Panic.index .clockWrite) (address - 0xC000) data >>= fun wram =>
      .ok { s with wram, svbk := v }) = _
    cases s.wram.set (Panic.index .clockWrite) (address - 0xC000) data <;> rfl

/-- A step that keeps the conditions leaves the cell of the window that is read alone, unless it
writes this address under this bank. -/
theorem SameSelect.keeps {r : Machine.Run step} {j k : ℕ} {a : UInt16} (h : SameSelect r j k)
    (hj : (r.state j).svbk ≤ 7) (hk : (r.state k).svbk ≤ 7) (ha : InWindow a.toNat)
    (hnot : ∀ data, r.input j = .write a data →
      bankOf (r.state j).svbk ≠ bankOf (r.state k).svbk) :
    ((r.state j).wramAfter (r.input j)).cell (wramCell (r.state k).svbk a.toNat) =
      (r.state j).wram.cell (wramCell (r.state k).svbk a.toNat) := by
  cases hin : r.input j with
  | write a' data =>
    rw [wramAfter]
    split
    · rename_i hwram
      refine Mem.put_cell_of_ne _ (fun he => ?_) _
      by_cases hwin : InWindow a'.toNat
      · obtain ⟨hsvbk, haddr⟩ := wramCell_window_inj hk hj ha hwin he
        have haddr' : a' = a := UInt16.toNat_inj.mp haddr.symm
        exact hnot data (haddr' ▸ hin) (congrArg bankOf hsvbk.symm)
      · obtain ⟨hzero, hecho⟩ := wramCell_window_fixed hk hwram hwin ha he.symm
        exact h.echo a' data hin hzero hecho
    · rfl
  | _ => rfl

/-- **The banks of work RAM.** In a run that has not written through the window with 0 in SVBK and
with 1 in SVBK for the same bank, nor through the echo of the window while SVBK is 0 for a read, the
window is a store for each bank. The lower half of work RAM is the same under every bank. -/
theorem wram_banking {r : Machine.Run step} (h : Reachable (r.state 0)) {k : ℕ}
    (hk : k ≤ r.length) (hsame : ∀ j < k, SameSelect r j k) :
    WindowLaw r k ∧ FixedLaw (r.state k) := by
  refine ⟨fun j hj a data ha hin hbank hlast byte s' hread => ?_, fixedLaw _⟩
  have hwram : IsWram a.toNat := ⟨by have := ha.1; omega, by have := ha.2; omega⟩
  have hsvbk : ∀ i ≤ r.length, (r.state i).svbk ≤ 7 := fun i hi => (h.along hi).svbk
  have hcell : (r.state k).wram.cell (wramCell (r.state k).svbk a.toNat) = data := by
    refine r.invariant (m := j + 1)
      (I := fun i s => i ≤ k → s.wram.cell (wramCell (r.state k).svbk a.toNat) = data) (fun _ => ?_)
      (fun i hji hi hcell hik => ?_) k hj hk (Nat.le_refl k)
    · rw [(memory_of_step (hsvbk j (by omega)) (r.next j (by omega))).1, hin, wramAfter,
        if_pos hwram, (hsame j hj).window a data hin ha hbank]
      exact Mem.put_cell_self _ _ _
    · rw [(memory_of_step (hsvbk i (by omega)) (r.next i hi)).1,
        (hsame i hik).keeps (hsvbk i (by omega)) (hsvbk k hk) ha (hlast i (by omega) hik)]
      exact hcell (by omega)
  rw [clockRead_wram (hsvbk k hk) hwram] at hread
  obtain ⟨t, -, ht⟩ := map_eq_ok.mp hread
  rw [← hcell]
  exact (congrArg Prod.fst ht).symm

/-- What is computed of a run on a new Game Boy Color is so of its states. -/
theorem state_of_cgbNew {α : Type} {r : Machine.Run step} {k : ℕ} {f : Soc → α} {v : α}
    (hstart : cgbNew = .ok (r.state 0)) (hk : k ≤ r.length)
    (hv : (cgbNew >>= Machine.exec step ((List.range k).map r.input)).toOption.map f = some v) :
    f (r.state k) = v := by
  rw [hstart, ok_bind, r.exec_input hk] at hv
  exact Option.some.inj hv

theorem exists_cgbRun (ops : List Op)
    (hok : (cgbNew >>= Machine.exec step ops).isOk = true) :
    ∃ r : Machine.Run step, cgbNew = .ok (r.state 0) ∧ r.length = ops.length ∧
      ∀ k, r.input k = ops.getD k .clock := by
  obtain ⟨t, ht⟩ := exists_of_isOk hok
  obtain ⟨s, hnew, hexec⟩ := bind_eq_ok.mp ht
  obtain ⟨r, hlen, hstart, -, hin⟩ := Machine.Run.ofExec .clock hexec
  exact ⟨r, hstart ▸ hnew, hlen, hin⟩

/-- Writing through the window under bank 2. -/
theorem wram_banking_bankTwo :
    ∃ r : Machine.Run step, r.length = 2 ∧ r.input 1 = .write 0xD000 0x55 ∧
      (r.state 2).svbk = 2 ∧ WindowLaw r 2 := by
  obtain ⟨r, hstart, hlen, hin⟩ :=
    exists_cgbRun [.write 0xFF70 0x02, .write 0xD000 0x55] (by decide +kernel)
  replace hlen : r.length = 2 := hlen
  have hin0 : r.input 0 = .write 0xFF70 0x02 := hin 0
  have hin1 : r.input 1 = .write 0xD000 0x55 := hin 1
  have hsvbk1 : (r.state 1).svbk = 2 := state_of_cgbNew hstart (by omega) (by
    rw [show (List.range 1).map r.input = [r.input 0] from rfl, hin0]
    decide +kernel)
  have hsvbk2 : (r.state 2).svbk = 2 := state_of_cgbNew hstart (by omega) (by
    rw [show (List.range 2).map r.input = [r.input 0, r.input 1] from rfl, hin0, hin1]
    decide +kernel)
  refine ⟨r, hlen, hin1, hsvbk2, (wram_banking (reachable_cgbNew hstart) hlen.ge
    fun j hj => ⟨fun a data hop ha _ => ?_, fun a data _ hzero => ?_⟩).1⟩
  · match j, hj with
    | 0, _ =>
      rw [hin0] at hop
      cases hop
      exact absurd ha (by decide)
    | 1, _ => rw [hsvbk1, hsvbk2]
  · rw [hsvbk2] at hzero
    cases hzero

/-- What is written under 0 is not there under 1. -/
theorem not_windowLaw_zeroOne :
    ∃ r : Machine.Run step, cgbNew = .ok (r.state 0) ∧ (r.state 0).ctx.cgb = true ∧
      r.length = 2 ∧ r.input 0 = .write 0xD000 0x55 ∧ r.input 1 = .write 0xFF70 0x01 ∧
      ¬ WindowLaw r 2 := by
  obtain ⟨r, hstart, hlen, hin⟩ :=
    exists_cgbRun [.write 0xD000 0x55, .write 0xFF70 0x01] (by decide +kernel)
  have hin0 : r.input 0 = .write 0xD000 0x55 := hin 0
  have hin1 : r.input 1 = .write 0xFF70 0x01 := hin 1
  have hstate : ∀ {α : Type} {f : Soc → α} {v : α}, (cgbNew >>= Machine.exec step
      [.write 0xD000 0x55, .write 0xFF70 0x01]).toOption.map f = some v → f (r.state 2) = v :=
    fun hv => state_of_cgbNew hstart hlen.ge (by
      rw [show (List.range 2).map r.input = [r.input 0, r.input 1] from rfl, hin0, hin1]
      exact hv)
  have hcgb : (r.state 0).ctx.cgb = true := by rw [(new_eq_ok hstart).2.2.2.2.1]; rfl
  have hsvbk0 : (r.state 0).svbk = 0 := (new_eq_ok hstart).2.2.2.2.2
  have hsvbk2 : (r.state 2).svbk = 1 := hstate (by decide +kernel)
  have hread : (Prod.fst <$> (r.state 2).clockRead 0xD000).toOption = some 0 :=
    hstate (f := fun s => (Prod.fst <$> s.clockRead 0xD000).toOption) (by decide +kernel)
  refine ⟨r, hstart, hcgb, hlen, hin0, hin1, fun hlaw => ?_⟩
  have hlast : ∀ i, 0 < i → i < 2 → ∀ data', r.input i = .write 0xD000 data' →
      bankOf (r.state i).svbk ≠ bankOf (r.state 2).svbk := by
    intro i hlo hhi data' hop
    rw [show i = 1 by omega, hin1] at hop
    cases hop
  cases hbyte : (r.state 2).clockRead 0xD000 with
  | error e => rw [hbyte] at hread; cases hread
  | ok p =>
    rw [hbyte] at hread
    have hzero : p.1 = 0 := Option.some.inj hread
    have hdata := hlaw 0 (by decide) 0xD000 0x55 (by decide) hin0
      (by rw [hsvbk0, hsvbk2]; rfl) hlast p.1 p.2 hbyte
    rw [hzero] at hdata
    cases hdata

end Soc

end ZenithGb
