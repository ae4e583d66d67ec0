import ZenithGb.Mbc.Totality

/-!
# Banking: what the mappers share

Each mapper with banks is compared with a reference: the values its registers were last given, and
the bytes behind its windows as functions. Here are the parts that do not depend on the mapper:
how a byte written to a register is read, the number of banks, a window into a bank, and the run
of operations that carries a refinement from the loaded cartridge on.

## Main results

* `get_bank`, `get_romWindows` — a window into a bank shows the reference's bytes
* `Mbc.run_refines` — a refinement kept by reads, writes and clocks is kept by every sequence
-/

namespace ZenithGb

open Outcome

/-! ### Registers -/

/-- A byte enables the RAM by its low nibble. -/
theorem enabled_eq (data : UInt8) : (data &&& 0xF == 0xA) = decide (data.toNat % 16 = 0xA) := by
  have hlow : (data &&& 0xF).toNat = data.toNat % 16 := toNat_and_low (b := 4) rfl data
  rw [Bool.eq_iff_iff, beq_iff_eq, decide_eq_true_iff, ← hlow, ← UInt8.toNat_inj]
  rfl

/-! ### Banks -/

/-- The number of banks fits the types the loader counts with. -/
theorem romBanks_of_lt {hdr : CartridgeHeader} (h : hdr.romSize.toNat < 49) :
    romBanks hdr = .ok ⟨2 ^ (hdr.romSize.toNat + 1), 0x8000 * 2 ^ hdr.romSize.toNat⟩ := by
  have hsize : 0x8000 * 2 ^ hdr.romSize.toNat < 2 ^ 64 :=
    calc 0x8000 * 2 ^ hdr.romSize.toNat = 2 ^ (15 + hdr.romSize.toNat) := (pow_add 2 15 _).symm
      _ < 2 ^ 64 := Nat.pow_lt_pow_right (by decide) (by omega)
  rw [romBanks, checkedAdd_of_lt _ (by omega), ok_bind, checkedShl64, if_pos (by omega), ok_bind,
    checkedShl64, if_pos (by omega), ok_bind, show 32 * bytes1Kib = 0x8000 from rfl,
    checkedMul_of_lt _ hsize]
  rfl

/-- A window of `w` cells into bank `k` of `n` shows what the buffer holds. -/
theorem get_bank {α : Type} {b : Buf α} {f : ℕ → α} (hb : b.Holds f) {w n k o : ℕ}
    (hsize : b.size = w * n) (hk : k < n) (ho : o < w) (e : Panic) :
    b.get e (w * k + o) = .ok (f (w * k + o)) :=
  hb.get e (hsize ▸ bank_offset_lt hk ho)

/-- The two ROM windows show what the ROM holds, the upper one in a bank that there is. -/
theorem get_romWindows {rom : Buf UInt8} {f : ℕ → UInt8} {banks bank address : ℕ} {e : Panic}
    {rest : Checked UInt8} {r : UInt8} (hf : rom.Holds f) (hrom : rom.size = 0x4000 * banks)
    (htwo : 2 ≤ banks) (hbank : bank < banks) (hrest : ¬ address ≤ 0x7FFF → rest = .ok r) :
    (if address ≤ 0x3FFF then rom.get e address
      else if address ≤ 0x7FFF then rom.get e (0x4000 * bank + (address - 0x4000))
      else rest) =
    .ok (if address ≤ 0x3FFF then f address
      else if address ≤ 0x7FFF then f (0x4000 * bank + (address - 0x4000))
      else r) := by
  by_cases h1 : address ≤ 0x3FFF
  · rw [if_pos h1, if_pos h1, hf.get _ (by omega)]
  rw [if_neg h1, if_neg h1]
  by_cases h2 : address ≤ 0x7FFF
  · rw [if_pos h2, if_pos h2, get_bank hf hrom hbank (by omega)]
  · rw [if_neg h2, if_neg h2, hrest h2]

/-- The bytes of the ROM file, and 0 past its end. -/
def Cartridge.romByte (cart : Cartridge) (i : ℕ) : UInt8 :=
  if h : i < cart.data.size then cart.data.cell ⟨i, h⟩ else 0

theorem Cartridge.holds_romByte (cart : Cartridge) : cart.data.Holds cart.romByte :=
  fun i h => by rw [romByte, dif_pos h]

/-! ### Runs -/

namespace Mbc

variable {σ : Type}

/-- What an operation does to a reference that only changes by writes. -/
def Op.applyTo (write : σ → ℕ → UInt8 → σ) (t : σ) : Op → σ
  | .write address data => write t address data
  | .read _ | .clock => t

/-- **A refinement kept by each operation is kept by every sequence**, from the loaded cartridge
on, as long as the operations are among those in `P`. -/
theorem run_refines {R : Mbc → σ → Prop} (astep : σ → Op → σ) {P : Op → Prop} {start : σ}
    {cart : Cartridge} {ops : List Op} (hload : Total (ofCartridge cart) fun M => R M start)
    (hread : ∀ {M t address}, P (.read address) → R M t →
      Total (M.read address) fun _ => R M (astep t (.read address)))
    (hwrite : ∀ {M t address data}, P (.write address data) → R M t →
      Total (M.write address data) fun M' => R M' (astep t (.write address data)))
    (hclock : ∀ {M t}, P .clock → R M t → Total M.clock fun M' => R M' (astep t .clock))
    (hops : ∀ op ∈ ops, P op) :
    Total (ofCartridge cart >>= Machine.exec step ops) fun M => R M (ops.foldl astep start) := by
  have hstep : ∀ op M t, P op → R M t → Total (step op M) fun M' => R M' (astep t op) := by
    intro op M t hop hR
    cases op with
    | read address => exact (hread hop hR).bind fun _ h => h
    | write address data => exact hwrite hop hR
    | clock => exact hclock hop hR
  exact hload.bind fun M hM => Machine.exec_refines hstep ops M start hops hM

end Mbc

end ZenithGb
