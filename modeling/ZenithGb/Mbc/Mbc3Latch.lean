import ZenithGb.Mbc.Mbc3Clock

/-!
# The latched registers of MBC3

A program never reads the running clock. A write of 0 and then 1 to 0x6000-0x7FFF copies the
registers to a latch, and reads are served from there, so that what they give depends on the history
of writes only. A write to a register changes both the register and its latched copy.

## Main results

* `Mbc3.step_latch` — what one operation does to the latch
* `Mbc3.rtc_latch_isolated` — what a read of a register gives, by the history
-/

namespace ZenithGb

open Outcome

namespace Mbc3

/-- The addresses of the latch. -/
def OnLatch (address : ℕ) : Prop := 0x6000 ≤ address ∧ address ≤ 0x7FFF

/-- The addresses of the external window. -/
def OnWindow (address : ℕ) : Prop := 0xA000 ≤ address ∧ address ≤ 0xBFFF

/-- A write to the latch. -/
def WritesLatch (op : Mbc.Op) : Prop := ∃ address data, op = .write address data ∧ OnLatch address

/-- An effective write of `data` to the register `i`: RAM is enabled and the register selected. -/
def WritesRegister (i : Fin 5) (data : UInt8) (m : Mbc3) (op : Mbc.Op) : Prop :=
  ∃ address, op = .write address data ∧ OnWindow address ∧ m.ramEnabled = true ∧
    m.rtcSelect = some i.val

/-- The operation at `k` latches: it writes 1, and the write before it to these addresses, the last
one there was, wrote 0. -/
def Latches (r : Machine.Run step) (k : ℕ) : Prop :=
  (∃ address, r.input k = .write address 1 ∧ OnLatch address) ∧
    ∃ j address, Machine.Last (fun j => WritesLatch (r.input j)) j k ∧
      r.input j = .write address 0

variable {m m' : Mbc3} {op : Mbc.Op}

/-- The external window lies above the other addresses a mapper serves. -/
theorem OnWindow.not_le {address bound : ℕ} (ha : OnWindow address) (hbound : bound < 0xA000) :
    ¬ address ≤ bound :=
  Nat.not_le.mpr (hbound.trans_le ha.1)

theorem WritesRegister.not_writesLatch {i : Fin 5} {data : UInt8}
    (h : WritesRegister i data m op) : ¬ WritesLatch op := by
  obtain ⟨address, rfl, hw, -⟩ := h
  rintro ⟨address', data', hop, ha⟩
  cases hop
  exact hw.not_le (by decide) ha.2

/-! ### One operation -/

/-- What an operation does to the latch: writes to it, writes one of its registers, or neither. -/
inductive LatchStep (m : Mbc3) (op : Mbc.Op) (m' : Mbc3) : Prop
  | latch {address : ℕ} {data : UInt8} (hop : op = .write address data) (ha : OnLatch address)
    (hnext : m'.rtcLatchNext = (data == 0))
    (hlatch : m'.rtcLatch = if m.rtcLatchNext && data == 1 then some m.rtcRegisters
      else m.rtcLatch)
  | register {i : Fin 5} {data : UInt8} (hop : WritesRegister i data m op)
    (hnext : m'.rtcLatchNext = m.rtcLatchNext)
    (hlatch : m'.rtcLatch = m.rtcLatch.map (·.put i (data &&& rtcMask i)))
  | other (hlatch : ¬ WritesLatch op) (hregister : ∀ i data, ¬ WritesRegister i data m op)
    (hnext : m'.rtcLatchNext = m.rtcLatchNext) (hlatch : m'.rtcLatch = m.rtcLatch)

/-- Only writes reach the latch. -/
theorem LatchStep.of_not_write (hop : ∀ address data, op ≠ .write address data)
    (hnext : m'.rtcLatchNext = m.rtcLatchNext) (hlatch : m'.rtcLatch = m.rtcLatch) :
    LatchStep m op m' := by
  refine .other ?_ ?_ hnext hlatch
  · rintro ⟨address, data, h, -⟩
    exact hop address data h
  · rintro i data ⟨address, h, -⟩
    exact hop address data h

/-- A write to a register puts the masked byte in it and in its latched copy. -/
theorem writeRtc_eq_ok {rtcSelect : ℕ} {data : UInt8} (h : m.writeRtc rtcSelect data = .ok m') :
    ∃ i : Fin 5, i.val = rtcSelect ∧ ∃ left, m' = { m with
      rtcRegisters := m.rtcRegisters.put i (data &&& rtcMask i)
      rtcLatch := m.rtcLatch.map (·.put i (data &&& rtcMask i)), rtcCyclesLeft := left } := by
  obtain ⟨mask, hmask, h⟩ := bind_eq_ok.mp h
  obtain ⟨regs, hregs, h⟩ := bind_eq_ok.mp h
  obtain ⟨hlt, rfl⟩ := Mem.set_eq_ok.mp hregs
  obtain rfl : rtcMask ⟨rtcSelect, hlt⟩ = mask :=
    ok_inj.mp ((rtcRegisterMask_eq ⟨rtcSelect, hlt⟩).symm.trans hmask)
  refine ⟨⟨rtcSelect, hlt⟩, rfl, ?_⟩
  dsimp only at h
  split at h
  · rename_i latch hlatch
    obtain ⟨latch', hset, hret⟩ := bind_eq_ok.mp h
    cases hret
    refine ⟨if rtcSelect = 0 then gbClocksPerSecond else m.rtcCyclesLeft, ?_⟩
    rw [hlatch, ← (Mem.set_eq_ok.mp hset).2]
    rfl
  · rename_i hlatch
    cases h
    refine ⟨if rtcSelect = 0 then gbClocksPerSecond else m.rtcCyclesLeft, ?_⟩
    rw [hlatch]
    rfl

/-- The clock changes the registers and the divider alone. -/
theorem clock_eq_ok (hinv : RtcInv m) (h : m.clock = .ok m') :
    ∃ regs left, m' = { m with rtcRegisters := regs, rtcCyclesLeft := left } := by
  rw [clock] at h
  split at h
  · cases h
    exact ⟨_, _, rfl⟩
  obtain ⟨dh, -, h⟩ := bind_eq_ok.mp h
  split at h
  · cases h
    exact ⟨_, _, rfl⟩
  split at h
  · obtain ⟨t, ht, hret⟩ := bind_eq_ok.mp h
    obtain ⟨regs, rfl, -⟩ := (keepsMasks_rtcInc m hinv.masked).of_ok ht
    cases hret
    exact ⟨_, _, rfl⟩
  · cases h
    exact ⟨_, _, rfl⟩

theorem write_latch {address : ℕ} {data : UInt8} (hrtc : m.hasRtc = true)
    (h : m.write address data = .ok m') : LatchStep m (.write address data) m' := by
  have hother : ¬ OnLatch address → ¬ (OnWindow address ∧ m.ramEnabled = true ∧
      ∃ i : Fin 5, m.rtcSelect = some i.val) → m'.rtcLatchNext = m.rtcLatchNext →
      m'.rtcLatch = m.rtcLatch → LatchStep m (.write address data) m' := by
    intro hlatch hregister hnext hsame
    refine .other ?_ ?_ hnext hsame
    · rintro ⟨address', data', hop, ha⟩
      cases hop
      exact hlatch ha
    · rintro i data' ⟨address', hop, ha, henabled, hselect⟩
      cases hop
      exact hregister ⟨ha, henabled, i, hselect⟩
  have hoff : ∀ {bound}, address ≤ bound → bound ≤ 0x5FFF →
      ¬ OnLatch address ∧ ¬ OnWindow address := by
    intro bound hle hbound
    rw [OnLatch, OnWindow]
    omega
  rw [write] at h
  split at h
  · rename_i h1
    obtain ⟨hl, hw⟩ := hoff h1 (by decide)
    cases h
    exact hother hl (fun hwin => hw hwin.1) rfl rfl
  split at h
  · rename_i h2
    obtain ⟨hl, hw⟩ := hoff h2 (by decide)
    dsimp only at h
    split at h
    · cases h
      exact hother hl (fun hwin => hw hwin.1) rfl rfl
    · obtain ⟨romBank, -, hret⟩ := bind_eq_ok.mp h
      cases hret
      exact hother hl (fun hwin => hw hwin.1) rfl rfl
  split at h
  · rename_i h3
    obtain ⟨hl, hw⟩ := hoff h3 le_rfl
    split at h
    · obtain ⟨ramBank, -, hret⟩ := bind_eq_ok.mp h
      cases hret
      exact hother hl (fun hwin => hw hwin.1) rfl rfl
    · split at h
      · rw [hrtc] at h
        cases h
        exact hother hl (fun hwin => hw hwin.1) rfl rfl
      · cases h
        exact hother hl (fun hwin => hw hwin.1) rfl rfl
  split at h
  · rename_i h3 h4
    have ha : OnLatch address := ⟨Nat.lt_of_not_le h3, h4⟩
    rw [hrtc] at h
    cases h
    refine .latch rfl ha rfl ?_
    dsimp only
    split <;> rfl
  rename_i h4
  have hl : ¬ OnLatch address := fun ha => h4 ha.2
  split at h
  · rename_i hwin
    split at h
    · rename_i hdisabled
      cases h
      exact hother hl (fun hwin => by simp [hwin.2.1] at hdisabled) rfl rfl
    · rename_i henabled
      have henabled : m.ramEnabled = true := by simpa using henabled
      split at h
      · rename_i rtcSelect hselect
        obtain ⟨i, rfl, left, rfl⟩ := writeRtc_eq_ok h
        exact .register ⟨address, rfl, hwin, henabled, hselect⟩ rfl rfl
      · rename_i hselect
        have hnone : ¬ (OnWindow address ∧ m.ramEnabled = true ∧
            ∃ i : Fin 5, m.rtcSelect = some i.val) := by
          rintro ⟨-, -, i, hi⟩
          rw [hselect] at hi
          cases hi
        split at h
        · obtain ⟨ram, -, hret⟩ := bind_eq_ok.mp h
          cases hret
          exact hother hl hnone rfl rfl
        · cases h
          exact hother hl hnone rfl rfl
  · rename_i hwin
    cases h
    exact hother hl (fun hwin' => hwin hwin'.1) rfl rfl

/-- **What one operation does to the latch.** -/
theorem step_latch (hinv : RtcInv m) (hrtc : m.hasRtc = true) (h : step op m = .ok m') :
    LatchStep m op m' := by
  cases op with
  | read address =>
    obtain ⟨byte, -, hret⟩ := bind_eq_ok.mp h
    cases hret
    refine .of_not_write ?_ rfl rfl
    intro address' data hop
    cases hop
  | write address data => exact write_latch hrtc h
  | clock =>
    obtain ⟨regs, left, rfl⟩ := clock_eq_ok hinv h
    refine .of_not_write ?_ rfl rfl
    intro address data hop
    cases hop

theorem step_hasRtc (hinv : RtcInv m) (h : step op m = .ok m') : m'.hasRtc = m.hasRtc := by
  obtain ⟨-, hclock⟩ | ⟨-, hsame⟩ | ⟨-, hsets⟩ := step_rtc h
  · obtain ⟨regs, left, rfl⟩ := clock_eq_ok hinv hclock
    rfl
  · exact hsame.hasRtc
  · exact hsets.hasRtc

theorem load_latch {cartridge : Cartridge} (h : Mbc3.new.load cartridge = .ok m) :
    m.rtcLatchNext = false ∧ m.rtcLatch = none := by
  obtain ⟨banks, -, h⟩ := bind_eq_ok.mp h
  obtain ⟨ramBanks, -, h⟩ := bind_eq_ok.mp h
  obtain ⟨-, -, h⟩ := bind_eq_ok.mp h
  obtain ⟨rom, -, h⟩ := bind_eq_ok.mp h
  obtain ⟨ram, -, h⟩ := bind_eq_ok.mp h
  cases h
  exact ⟨rfl, rfl⟩

/-! ### A run from the loaded cartridge -/

/-- A run of an MBC3 with an RTC, from the loaded cartridge on. -/
structure FromLoad (r : Machine.Run step) : Prop where
  load : ∃ cartridge, Mbc3.new.load cartridge = .ok (r.state 0)
  hasRtc : (r.state 0).hasRtc = true

variable {r : Machine.Run step} {k n : ℕ} {i : Fin 5}

theorem FromLoad.inv (h : FromLoad r) (hk : k ≤ r.length) :
    RtcInv (r.state k) ∧ (r.state k).hasRtc = true := by
  have hinv : ∀ k ≤ r.length, RtcInv (r.state k) := fun k hk =>
    Reachable.rtc (r.reachable (Machine.Reachable.start h.load) hk)
  refine ⟨hinv k hk, ?_⟩
  refine r.invariant (I := fun _ m => m.hasRtc = true) h.hasRtc (fun k _ hlt ih => ?_) k
    (Nat.zero_le k) hk
  rw [step_hasRtc (hinv k hlt.le) (r.next k hlt)]
  exact ih

theorem FromLoad.latchStep (h : FromLoad r) (hk : k < r.length) :
    LatchStep (r.state k) (r.input k) (r.state (k + 1)) :=
  step_latch (h.inv hk.le).1 (h.inv hk.le).2 (r.next k hk)

/-- The mapper remembers whether the last write to the latch wrote 0. -/
theorem FromLoad.rtcLatchNext (h : FromLoad r) (hn : n ≤ r.length) :
    (r.state n).rtcLatchNext = true ↔
      ∃ j address, Machine.Last (fun j => WritesLatch (r.input j)) j n ∧
        r.input j = .write address 0 := by
  have hkeep : ∀ k < r.length, ¬ WritesLatch (r.input k) →
      (r.state (k + 1)).rtcLatchNext = (r.state k).rtcLatchNext := by
    intro k hk hwrites
    cases h.latchStep hk with
    | latch hop ha hnext hlatch => exact absurd ⟨_, _, hop, ha⟩ hwrites
    | register hop hnext hlatch => exact hnext
    | other hnone hregister hnext hlatch => exact hnext
  obtain ⟨j, hj⟩ | hnone := Machine.last_or_none (fun j => WritesLatch (r.input j)) n
  · have hheld := r.held_of_last (f := Mbc3.rtcLatchNext) hkeep hn hj
    obtain ⟨address, data, hop, ha⟩ := hj.holds
    have hdata : (r.state (j + 1)).rtcLatchNext = (data == 0) := by
      cases h.latchStep (hj.lt.trans_le hn) with
      | latch hop' ha' hnext hlatch =>
        rw [hop] at hop'
        cases hop'
        exact hnext
      | register hop' hnext hlatch =>
        exact absurd ⟨_, _, hop, ha⟩ hop'.not_writesLatch
      | other hnone hregister hnext hlatch => exact absurd ⟨_, _, hop, ha⟩ hnone
    rw [hheld, hdata, beq_iff_eq]
    constructor
    · rintro rfl
      exact ⟨j, address, hj, hop⟩
    · rintro ⟨j', address', hj', hop'⟩
      obtain rfl := hj'.unique hj
      rw [hop] at hop'
      cases hop'
      rfl
  · rw [r.held_of_none (f := Mbc3.rtcLatchNext) hkeep (Nat.zero_le n) hn
      fun j _ hlt => hnone j hlt]
    obtain ⟨cartridge, hload⟩ := h.load
    rw [(load_latch hload).1]
    refine iff_of_false Bool.false_ne_true ?_
    rintro ⟨j, address, hj, -⟩
    exact hnone j hj.lt hj.holds

theorem FromLoad.latches_iff (h : FromLoad r) (hk : k < r.length) :
    Latches r k ↔ (∃ address, r.input k = .write address 1 ∧ OnLatch address) ∧
      (r.state k).rtcLatchNext = true :=
  and_congr_right fun _ => (h.rtcLatchNext hk.le).symm

theorem FromLoad.rtcLatch_of_latches (h : FromLoad r) (hk : k < r.length) (hl : Latches r k) :
    (r.state (k + 1)).rtcLatch = some (r.state k).rtcRegisters := by
  obtain ⟨⟨address, hop, ha⟩, hnext⟩ := (h.latches_iff hk).mp hl
  cases h.latchStep hk with
  | latch hop' ha' hnext' hlatch =>
    rw [hop] at hop'
    cases hop'
    rw [hlatch, hnext]
    rfl
  | register hop' => exact absurd ⟨_, _, hop, ha⟩ hop'.not_writesLatch
  | other hnone => exact absurd ⟨_, _, hop, ha⟩ hnone

theorem FromLoad.rtcLatch_of_writes (h : FromLoad r) (hk : k < r.length) {data : UInt8}
    (hw : WritesRegister i data (r.state k) (r.input k)) :
    (r.state (k + 1)).rtcLatch = (r.state k).rtcLatch.map (·.put i (data &&& rtcMask i)) := by
  cases h.latchStep hk with
  | latch hop ha => exact absurd ⟨_, _, hop, ha⟩ hw.not_writesLatch
  | register hw' hnext hlatch =>
    obtain ⟨address, hop, -, -, hselect⟩ := hw
    obtain ⟨address', hop', -, -, hselect'⟩ := hw'
    rw [hop] at hop'
    rw [hselect] at hselect'
    cases hop'
    obtain rfl := Fin.ext (Option.some_inj.mp hselect')
    exact hlatch
  | other hnone hregister => exact absurd hw (hregister i data)

/-- An operation that neither latches nor writes the register leaves its latched copy. -/
theorem FromLoad.rtcLatch_kept (h : FromLoad r) (hk : k < r.length)
    (hkeeps : ¬ (Latches r k ∨ ∃ data, WritesRegister i data (r.state k) (r.input k))) :
    (r.state (k + 1)).rtcLatch.map (·.cell i) = (r.state k).rtcLatch.map (·.cell i) := by
  obtain ⟨hl, hw⟩ := not_or.mp hkeeps
  cases h.latchStep hk with
  | @latch address data hop ha hnext hlatch =>
    have hnot : ((r.state k).rtcLatchNext && data == 1) = false := by
      rw [Bool.eq_false_iff, ne_eq, Bool.and_eq_true, beq_iff_eq]
      rintro ⟨hnext', rfl⟩
      exact hl ((h.latches_iff hk).mpr ⟨⟨address, hop, ha⟩, hnext'⟩)
    rw [hlatch, hnot]
    rfl
  | @register i' data hw' hnext hlatch =>
    have hne : i ≠ i' := by
      rintro rfl
      exact hw ⟨data, hw'⟩
    rw [hlatch, Option.map_map]
    refine Option.map_congr fun regs _ => ?_
    exact Mem.put_cell_of_ne _ hne _
  | other hnone hregister hnext hlatch => rw [hlatch]

theorem FromLoad.rtcLatch_isSome (h : FromLoad r) (hlast : Machine.Last (Latches r) k n)
    (hn : n ≤ r.length) : ∀ j, k < j → j ≤ n → (r.state j).rtcLatch.isSome = true := by
  intro j hkj hjn
  refine r.invariant (I := fun _ m => m.rtcLatch.isSome = true) (m := k + 1) ?_
    (fun j _ hlt ih => ?_) j hkj (hjn.trans hn)
  · rw [h.rtcLatch_of_latches (hlast.lt.trans_le hn) hlast.holds]
    rfl
  · cases h.latchStep hlt with
    | latch hop ha hnext hlatch =>
      rw [hlatch]
      split
      · rfl
      · exact ih
    | register hop hnext hlatch => rw [hlatch, Option.isSome_map, ih]
    | other hnone hregister hnext hlatch => rw [hlatch, ih]

theorem FromLoad.rtcLatch_none (h : FromLoad r) (hn : n ≤ r.length)
    (hnone : ∀ k < n, ¬ Latches r k) : (r.state n).rtcLatch = none := by
  obtain ⟨cartridge, hload⟩ := h.load
  have hmap : ∀ k ≤ n, (r.state k).rtcLatch = none := by
    intro k
    induction k with
    | zero =>
      intro _
      exact (load_latch hload).2
    | succ k ih =>
      intro hk
      cases h.latchStep (Nat.lt_of_lt_of_le hk hn) with
      | @latch address data hop ha hnext hlatch =>
        rw [hlatch, ih (Nat.le_of_lt hk), if_neg]
        rw [Bool.and_eq_true, beq_iff_eq]
        rintro ⟨hnext', rfl⟩
        exact hnone k hk
          ((h.latches_iff (Nat.lt_of_lt_of_le hk hn)).mpr ⟨⟨address, hop, ha⟩, hnext'⟩)
      | register hop hnext hlatch => rw [hlatch, ih (Nat.le_of_lt hk)]; rfl
      | other hother hregister hnext hlatch => rw [hlatch, ih (Nat.le_of_lt hk)]
  exact hmap n le_rfl

/-! ### Reads -/

/-- A read of the selected register, with RAM enabled, is served from the latch. -/
theorem read_register (henabled : m.ramEnabled = true) (hselect : m.rtcSelect = some i.val)
    {address : ℕ} (ha : OnWindow address) :
    m.read address = .ok ((m.rtcLatch.map (·.cell i)).getD 0xFF) := by
  have h1 : ¬ address ≤ 0x3FFF := ha.not_le (by decide)
  have h2 : ¬ address ≤ 0x7FFF := ha.not_le (by decide)
  rw [OnWindow] at ha
  rw [read, if_neg h1, if_neg h2, if_pos ha, henabled, hselect]
  cases m.rtcLatch with
  | none => rfl
  | some regs => exact Mem.get_of_lt _ _ i.isLt

theorem read_of_clocks (c : ℕ) : ∀ m, RtcInv m →
    Total (Machine.exec step (List.replicate c .clock) m) fun m' =>
      RtcInv m' ∧ ∀ address, m'.read address = m.read address := by
  induction c with
  | zero =>
    intro m hinv
    exact ⟨hinv, fun _ => rfl⟩
  | succ c ih =>
    intro m hinv
    rw [List.replicate_succ, Machine.exec_cons]
    obtain ⟨m', hm', hinv'⟩ := (total_clock hinv).exists_ok
    show Total (m.clock >>= _) _
    rw [hm', ok_bind]
    refine (ih m' hinv').imp fun m'' hm'' => ⟨hm''.1, fun address => ?_⟩
    obtain ⟨regs, left, rfl⟩ := clock_eq_ok hinv hm'
    rw [hm''.2]
    rfl

/-- **The latch isolates the clock.** From the loaded cartridge on, a read of the selected register
gives 0xFF while nothing has latched; then the value the register had at the last latch, or the
masked byte of the last effective write to it since. Clocks do not change it. -/
theorem rtc_latch_isolated (h : FromLoad r) (hn : n ≤ r.length)
    (henabled : (r.state n).ramEnabled = true) (hselect : (r.state n).rtcSelect = some i.val)
    {address : ℕ} (ha : OnWindow address) :
    ((∀ k < n, ¬ Latches r k) → (r.state n).read address = .ok 0xFF) ∧
    (∀ k, Machine.Last (Latches r) k n →
      ((∀ j, k < j → j < n → ∀ data, ¬ WritesRegister i data (r.state j) (r.input j)) →
        (r.state n).read address = .ok ((r.state k).rtcRegisters.cell i)) ∧
      ∀ j data, k < j →
        Machine.Last (fun j => ∃ data, WritesRegister i data (r.state j) (r.input j)) j n →
        WritesRegister i data (r.state j) (r.input j) →
        (r.state n).read address = .ok (data &&& rtcMask i)) ∧
    ∀ c, Total (Machine.exec step (List.replicate c .clock) (r.state n)) fun m' =>
      m'.read address = (r.state n).read address := by
  have hread := read_register henabled hselect ha
  have hkeep := fun k hk => h.rtcLatch_kept (k := k) (i := i) hk
  refine ⟨?_, ?_, ?_⟩
  · intro hnone
    rw [hread, h.rtcLatch_none hn hnone]
    rfl
  · intro k hlast
    constructor
    · intro hnone
      have hheld := r.held_of_none (f := fun m => m.rtcLatch.map (·.cell i)) hkeep hlast.lt hn
        (fun j hj hlt hmoves => hmoves.elim (hlast.none_after j hj hlt)
          fun ⟨data, hw⟩ => hnone j hj hlt data hw)
      rw [hread, hheld, h.rtcLatch_of_latches (hlast.lt.trans_le hn) hlast.holds]
      rfl
    · intro j data hkj hwrite hw
      have hheld := r.held_of_none (f := fun m => m.rtcLatch.map (·.cell i)) hkeep hwrite.lt hn
        (fun l hl hlt hmoves => hmoves.elim (hlast.none_after l (hkj.trans hl) hlt)
          (hwrite.none_after l hl hlt))
      obtain ⟨regs, hregs⟩ :=
        Option.isSome_iff_exists.mp (h.rtcLatch_isSome hlast hn j hkj hwrite.lt.le)
      rw [hread, hheld, h.rtcLatch_of_writes (hwrite.lt.trans_le hn) hw, hregs]
      show Except.ok ((regs.put i _).cell i) = _
      rw [Mem.put_cell, if_pos rfl]
  · intro c
    exact (read_of_clocks c _ (h.inv hn).1).imp fun m' hm' => hm'.2 address

/-- The seconds are set to 5 and latched: reads give 5. -/
theorem rtc_latch_isolated_seconds :
    ∃ r : Machine.Run step, FromLoad r ∧ r.length = 5 ∧ Machine.Last (Latches r) 4 5 ∧
      (r.state 5).read 0xA000 = .ok 5 := by
  obtain ⟨m, hm⟩ := exists_of_isOk (x := Mbc3.new.load (.blank 0x0F 0 0xD8)) (by decide +kernel)
  let ops : List Mbc.Op := [.write 0x0000 0x0A, .write 0x4000 0x08, .write 0xA000 5,
    .write 0x6000 0, .write 0x6000 1]
  have hrtc : (Mbc3.new.load (.blank 0x0F 0 0xD8)).toOption.map Mbc3.hasRtc = some true := by
    decide +kernel
  have hend : (Mbc3.new.load (.blank 0x0F 0 0xD8) >>= Machine.exec step ops).toOption.map
      (fun m => (m.ramEnabled, m.rtcSelect)) = some (true, some 0) := by decide +kernel
  have hset : (Mbc3.new.load (.blank 0x0F 0 0xD8) >>= Machine.exec step (ops.take 4)).toOption.map
      (fun m => m.rtcRegisters.cell 0) = some 5 := by decide +kernel
  rw [hm] at hrtc hend hset
  rw [ok_bind] at hend hset
  obtain ⟨m', hm', hfacts⟩ := Option.map_eq_some_iff.mp hend
  obtain ⟨r, hlen, hstart, hlast, hin⟩ :=
    Machine.Run.ofExec .clock (Outcome.toOption_eq_some.mp hm')
  have hlen : r.length = 5 := hlen
  have hload : FromLoad r := by
    refine ⟨⟨_, hm.trans (congrArg _ hstart.symm)⟩, ?_⟩
    rw [hstart]
    exact Option.some_inj.mp hrtc
  have hlatches : Latches r 4 := by
    refine ⟨⟨0x6000, hin 4, by decide, by decide⟩, 3, 0x6000, ⟨by decide, ?_, ?_⟩, hin 3⟩
    · exact ⟨0x6000, 0, hin 3, by decide, by decide⟩
    · intro j hj hlt
      omega
  have hlatch : Machine.Last (Latches r) 4 5 :=
    ⟨by decide, hlatches, fun j hj hlt => by omega⟩
  have hinput : (List.range 4).map r.input = ops.take 4 := by
    simp only [List.range_succ, List.range_zero, List.nil_append, List.map_append, List.map_cons,
      List.map_nil, hin]
    rfl
  have hfour := r.exec_input (k := 4) (by omega)
  rw [hinput, hstart] at hfour
  rw [hfour] at hset
  obtain ⟨henabled, hselect⟩ := Prod.mk.inj hfacts
  obtain rfl : r.state 5 = m' := hlast
  refine ⟨r, hload, hlen, hlatch, ?_⟩
  have hread := ((rtc_latch_isolated hload (n := 5) hlen.ge henabled (i := 0) hselect
    (show OnWindow 0xA000 from ⟨by decide, by decide⟩)).2.1 4 hlatch).1
    (fun j hj hlt => by omega)
  rw [hread]
  exact congrArg _ (Option.some_inj.mp hset)

end Mbc3

end ZenithGb
