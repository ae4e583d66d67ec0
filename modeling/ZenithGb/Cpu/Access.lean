import ZenithGb.Cpu.State
import ZenithGb.Lib.Stateful

/-!
# The CPU: what its bus accesses do

Each access of the CPU returned exactly when the system's access did, and moves PC or SP on.

## Main results

* `Exec.clockRead_eq_ok`, `Exec.clockWrite_eq_ok` — the accesses themselves
* `Exec.clockFetch_eq_ok`, `Exec.clockPushU8_eq_ok`, `Exec.clockPopU16_eq_ok` — through PC and SP
-/

namespace ZenithGb

open Outcome

namespace Exec

variable {m m' : Machine} {u : Unit}

/-- A check that passes leaves the machine alone. -/
theorem run_check_eq_ok {α : Type} {y : Checked α} {a : α} :
    check y m = .ok (a, m') ↔ y = .ok a ∧ m = m' := by
  constructor
  · intro h
    obtain ⟨v, hv, h⟩ := bind_eq_ok.mp h
    cases h
    exact ⟨hv, rfl⟩
  · rintro ⟨rfl, rfl⟩
    rfl

theorem clock_eq_ok :
    clock m = .ok (u, m') ↔ ∃ soc, m.soc.clock = .ok soc ∧ m' = { m with soc } := by
  refine bind_eq_ok.trans (exists_congr fun soc => and_congr_right fun _ => ?_)
  exact pure_eq_ok.trans ⟨fun h => by cases h; rfl, fun h => by rw [h]⟩

theorem clockRead_eq_ok {address : UInt16} {byte : UInt8} :
    clockRead address m = .ok (byte, m') ↔
      ∃ soc, m.soc.clockRead address = .ok (byte, soc) ∧ m' = { m with soc } := by
  constructor
  · intro h
    obtain ⟨⟨b, soc⟩, hread, h⟩ := bind_eq_ok.mp h
    cases h
    exact ⟨soc, hread, rfl⟩
  · rintro ⟨soc, hread, rfl⟩
    exact bind_eq_ok.mpr ⟨(byte, soc), hread, rfl⟩

theorem clockWrite_eq_ok {address : UInt16} {data : UInt8} :
    clockWrite address data m = .ok (u, m') ↔
      ∃ soc, m.soc.clockWrite address data = .ok soc ∧ m' = { m with soc } := by
  refine bind_eq_ok.trans (exists_congr fun soc => and_congr_right fun _ => ?_)
  exact pure_eq_ok.trans ⟨fun h => by cases h; rfl, fun h => by rw [h]⟩

/-- The byte at PC. -/
theorem clockConsumeByteFromPc_eq_ok {byte : UInt8} :
    clockConsumeByteFromPc m = .ok (byte, m') ↔ ∃ soc,
      m.soc.clockRead m.cpu.regPc = .ok (byte, soc) ∧
        m' = ⟨m.cpu.setPc (m.cpu.regPc + 1), soc⟩ :=
  clockRead_eq_ok (m := ⟨m.cpu.setPc (m.cpu.regPc + 1), m.soc⟩)

theorem clockFetch_eq_ok : clockFetch m = .ok (u, m') ↔ ∃ opcode soc,
    m.soc.clockRead m.cpu.regPc = .ok (opcode, soc) ∧
      m' = ⟨{ m.cpu with regPc := m.cpu.regPc + 1, opcode }, soc⟩ := by
  constructor
  · intro h
    obtain ⟨opcode, m1, hbyte, h⟩ := run_bind_eq_ok.mp h
    obtain ⟨soc, hread, rfl⟩ := clockConsumeByteFromPc_eq_ok.mp hbyte
    cases h
    exact ⟨opcode, soc, hread, rfl⟩
  · rintro ⟨opcode, soc, hread, rfl⟩
    exact run_bind_eq_ok.mpr
      ⟨opcode, _, clockConsumeByteFromPc_eq_ok.mpr ⟨soc, hread, rfl⟩, rfl⟩

theorem clockPushU8_eq_ok {val : UInt8} : clockPushU8 val m = .ok (u, m') ↔ ∃ soc,
    m.soc.clockWrite (m.cpu.regSp - 1) val = .ok soc ∧
      m' = ⟨m.cpu.setSp (m.cpu.regSp - 1), soc⟩ :=
  clockWrite_eq_ok (m := ⟨m.cpu.setSp (m.cpu.regSp - 1), m.soc⟩)

theorem clockPopU8_eq_ok {byte : UInt8} : clockPopU8 m = .ok (byte, m') ↔ ∃ soc,
    m.soc.clockRead m.cpu.regSp = .ok (byte, soc) ∧
      m' = ⟨m.cpu.setSp (m.cpu.regSp + 1), soc⟩ :=
  clockRead_eq_ok (m := ⟨m.cpu.setSp (m.cpu.regSp + 1), m.soc⟩)

theorem clockPopU16_eq_ok {val : UInt16} : clockPopU16 m = .ok (val, m') ↔
    ∃ lsb soc msb soc', m.soc.clockRead m.cpu.regSp = .ok (lsb, soc) ∧
      soc.clockRead (m.cpu.regSp + 1) = .ok (msb, soc') ∧ val = value msb lsb ∧
        m' = ⟨m.cpu.setSp (m.cpu.regSp + 1 + 1), soc'⟩ := by
  constructor
  · intro h
    obtain ⟨lsb, m1, hlsb, h⟩ := run_bind_eq_ok.mp h
    obtain ⟨soc, hread, rfl⟩ := clockPopU8_eq_ok.mp hlsb
    obtain ⟨msb, m2, hmsb, h⟩ := run_bind_eq_ok.mp h
    obtain ⟨soc', hread', rfl⟩ := clockPopU8_eq_ok.mp hmsb
    cases h
    exact ⟨lsb, soc, msb, soc', hread, hread', rfl, rfl⟩
  · rintro ⟨lsb, soc, msb, soc', hread, hread', rfl, rfl⟩
    refine run_bind_eq_ok.mpr ⟨lsb, _, clockPopU8_eq_ok.mpr ⟨soc, hread, rfl⟩, ?_⟩
    exact run_bind_eq_ok.mpr ⟨msb, _, clockPopU8_eq_ok.mpr ⟨soc', hread', rfl⟩, rfl⟩

end Exec

end ZenithGb
