import Mathlib.Data.Fin.VecNotation
import Mathlib.Tactic.IntervalCases
import ZenithGb.Lib.Store
import ZenithGb.Serial.PrinterPanics

/-!
# The picture the printer decodes

The buffer is a sequence of tiles of 16 bytes, 20 to a row, and a picture of as many lines as it has
40 bytes. `print` goes wrong in two ways. It counts lines by bytes but reads them by tiles, so that
a buffer which ends inside a row of tiles is indexed beyond its end. And it reduces the number of
the tile modulo 360 but not the number of lines, so that from line 144 on it draws the first tiles
again.

## Main results

* `Printer.print_pixel` — every pixel `print` draws
* `Printer.decodes_iff` — the buffers it decodes
-/

namespace ZenithGb

open Outcome

/-- `PRINTER_PALETTE`, as red, green and blue. -/
def printerPalette : Mem 4 (UInt8 × UInt8 × UInt8) :=
  ⟨![(0x88, 0xA0, 0x48), (0x48, 0x68, 0x30), (0x28, 0x40, 0x20), (0x18, 0x28, 0x08)]⟩

theorem printerPalette_injective : Function.Injective printerPalette.cell := by
  intro i j
  revert i j
  decide

namespace Printer

/-- The second half of `print`: the colours of the pixels it sets, row by row. -/
def image (p : Printer) (numSheets margins palette exposure : UInt8) :
    Checked (List (List (UInt8 × UInt8 × UInt8))) := do
  let rt ← p.print numSheets margins palette exposure
  rt.mapM fun row => row.mapM fun gbColor =>
    printerPalette.get (.index .printerPrint) gbColor.toNat

/-! ### What a picture is to show -/

/-- The 2-bit colour at a line and a column of a tile of the buffer: two bytes a line, the low plane
first, the leftmost pixel in bit 7. -/
def tileColour (ram : List UInt8) (tile line column : ℕ) : Option ℕ := do
  let low ← ram[tile * 16 + 2 * line]?
  let high ← ram[tile * 16 + 2 * line + 1]?
  return low.toNat / 2 ^ (7 - column) % 2 + 2 * (high.toNat / 2 ^ (7 - column) % 2)

/-- The entry of the palette byte that the colour selects. -/
def entry (ram : List UInt8) (palette : UInt8) (tile line column : ℕ) : Option ℕ :=
  (tileColour ram tile line column).map fun colour => palette.toNat / 4 ^ colour % 4

theorem entry_of_getElem? {ram : List UInt8} {tile line : ℕ} {low high : UInt8}
    (hlow : ram[tile * 16 + 2 * line]? = some low)
    (hhigh : ram[tile * 16 + 2 * line + 1]? = some high) (palette : UInt8) (column : ℕ) :
    entry ram palette tile line column = some (palette.toNat / 4 ^
      (low.toNat / 2 ^ (7 - column) % 2 + 2 * (high.toNat / 2 ^ (7 - column) % 2)) % 4) := by
  rw [entry, tileColour, hlow, hhigh]
  rfl

/-- The tile under a pixel. -/
def tileAt (x y : ℕ) : ℕ := x / 8 + 20 * (y / 8)

/-- `print` returns a picture with a line for every 40 bytes, and each pixel shows its tile. -/
def Decodes (p : Printer) (numSheets margins palette exposure : UInt8) : Prop :=
  ∃ img, p.image numSheets margins palette exposure = .ok img ∧
    img.length = p.ram.length / 40 ∧
    ∀ y < p.ram.length / 40, ∀ x < 160, ∃ e : Fin 4,
      entry p.ram palette (tileAt x y) (y % 8) (x % 8) = some e.val ∧
        (img[y]?.bind fun row => row[x]?) = some (printerPalette.cell e)

/-! ### One line of a tile -/

theorem toNat_planeBit (b : UInt8) {k : ℕ} (hk : k < 8) :
    ((b >>> UInt8.ofNat k) &&& 0x1).toNat = b.toNat / 2 ^ k % 2 := by
  have hshift : (UInt8.ofNat k).toNat = k := UInt8.toNat_ofNat_of_lt' (show k < 256 by omega)
  rw [toNat_shiftRight_and_one _ (by omega), hshift]

theorem toNat_paletteColor (palette : UInt8) {c : UInt8} (hc : c.toNat < 4) :
    ((palette >>> (c * 2)) &&& 0x3).toNat = palette.toNat / 4 ^ c.toNat % 4 := by
  have hshift : (c * 2).toNat % 8 = 2 * c.toNat := by
    rw [UInt8.toNat_mul]
    show c.toNat * 2 % 256 % 8 = _
    omega
  rw [toNat_and_low (b := 2) rfl, UInt8.toNat_shiftRight, hshift, Nat.shiftRight_eq_div_pow,
    pow_mul]
  rfl

/-- Two plane bits are a colour. -/
theorem toNat_colour {lb hb : UInt8} (hlb : lb.toNat < 2) (hhb : hb.toNat < 2) :
    (lb ||| (hb <<< 1)).toNat = lb.toNat + 2 * hb.toNat := by
  have hshift : (hb <<< 1).toNat = hb.toNat <<< 1 := by
    rw [UInt8.toNat_shiftLeft]
    show hb.toNat <<< 1 % 2 ^ 8 = _
    rw [Nat.shiftLeft_eq]
    omega
  rw [UInt8.toNat_or, hshift, Nat.or_comm, ← Nat.shiftLeft_add_eq_or_of_lt hlb, Nat.shiftLeft_eq]
  omega

/-- A pixel of a line. -/
theorem tileLine_getElem? (palette lsb msb : UInt8) {column : ℕ} (hcolumn : column < 8) :
    ∃ b, (tileLine palette lsb msb)[column]? = some b ∧ b.toNat = palette.toNat / 4 ^
      (lsb.toNat / 2 ^ (7 - column) % 2 + 2 * (msb.toNat / 2 ^ (7 - column) % 2)) % 4 := by
  have hindex : ([7, 6, 5, 4, 3, 2, 1, 0] : List UInt8)[column]? =
      some (UInt8.ofNat (7 - column)) := by
    interval_cases column <;> rfl
  have hlow := toNat_planeBit lsb (show 7 - column < 8 by omega)
  have hhigh := toNat_planeBit msb (show 7 - column < 8 by omega)
  have hcolour := toNat_colour (hlow ▸ Nat.mod_lt _ (by decide)) (hhigh ▸ Nat.mod_lt _ (by decide))
  rw [hlow, hhigh] at hcolour
  refine ⟨_, by rw [tileLine, List.getElem?_map, hindex]; rfl, ?_⟩
  rw [← hcolour]
  exact toNat_paletteColor palette (by rw [hcolour]; omega)

/-! ### The pixels `print` draws -/

variable {p : Printer} {numSheets margins palette exposure : UInt8}

theorem ramGet_eq_ok {i : ℕ} {b : UInt8} : p.ramGet i = .ok b ↔ p.ram[i]? = some b := by
  rw [ramGet]
  cases p.ram[i]? with
  | none =>
    constructor
    · intro h
      cases h
    · intro h
      cases h
  | some b' => rw [ok_inj, Option.some_inj]

/-- An element of a concatenation of lists of one length. -/
theorem flatten_getElem? {α : Type} {w : ℕ} {ls : List (List α)} (h : ∀ l ∈ ls, l.length = w)
    {j : ℕ} (hj : j < w) : ∀ i, ls.flatten[w * i + j]? = ls[i]?.bind fun l => l[j]? := by
  induction ls with
  | nil => intro i; rfl
  | cons l ls ih =>
    intro i
    have hlen : l.length = w := h l List.mem_cons_self
    rw [List.flatten_cons]
    cases i with
    | zero =>
      rw [Nat.mul_zero, Nat.zero_add, List.getElem?_append_left (by omega)]
      rfl
    | succ i =>
      have hrest := ih (fun l' hl' => h l' (List.mem_cons_of_mem l hl')) i
      rw [Nat.mul_succ, List.getElem?_append_right (by omega), List.getElem?_cons_succ, ← hrest]
      congr 1
      omega

/-- A tile of a line, as it is read from the buffer. -/
theorem tileLine_of_ram {tile line : ℕ} {l : List UInt8}
    (h : (do
      let tileLsb ← p.ramGet (tile * 16 + 2 * line)
      let tileMsb ← p.ramGet (tile * 16 + 2 * line + 1)
      return tileLine palette tileLsb tileMsb : Checked (List UInt8)) = .ok l) :
    l.length = 8 ∧ ∀ column < 8, ∃ b, l[column]? = some b ∧
      entry p.ram palette tile line column = some b.toNat := by
  obtain ⟨lsb, hlsb, h⟩ := bind_eq_ok.mp h
  obtain ⟨msb, hmsb, h⟩ := bind_eq_ok.mp h
  cases h
  refine ⟨rfl, fun column hcolumn => ?_⟩
  obtain ⟨b, hb, hvalue⟩ := tileLine_getElem? palette lsb msb hcolumn
  refine ⟨b, hb, ?_⟩
  rw [entry_of_getElem? (ramGet_eq_ok.mp hlsb) (ramGet_eq_ok.mp hmsb), hvalue]

/-- **The pixels of a picture** show tiles whose numbers are reduced modulo 360. -/
theorem print_pixel {rt : List (List UInt8)}
    (h : p.print numSheets margins palette exposure = .ok rt) :
    rt.length = p.ram.length / 40 ∧ ∀ y < p.ram.length / 40, ∀ x < 160,
      ∃ b, (rt[y]?.bind fun row => row[x]?) = some b ∧
        entry p.ram palette (tileAt x y % 360) (y % 8) (x % 8) = some b.toNat := by
  obtain ⟨hlen, hrows⟩ := mapM_getElem? h
  rw [List.length_range] at hlen
  refine ⟨hlen, fun y hy x hx => ?_⟩
  obtain ⟨row, hrow, hrt⟩ := hrows y y (List.getElem?_range hy)
  obtain ⟨tiles, htiles, hrow⟩ := bind_eq_ok.mp hrow
  cases hrow
  have height : ∀ l ∈ tiles, l.length = 8 := by
    intro l hl
    obtain ⟨xCoord, -, hl⟩ := exists_of_mem_mapM htiles hl
    exact (tileLine_of_ram hl).1
  obtain ⟨-, hcolumns⟩ := mapM_getElem? htiles
  obtain ⟨l, hl, htile⟩ := hcolumns (x / 8) (x / 8) (List.getElem?_range (by omega))
  obtain ⟨b, hb, hentry⟩ := (tileLine_of_ram hl).2 (x % 8) (Nat.mod_lt x (by decide))
  refine ⟨b, ?_, hentry⟩
  rw [hrt, Option.bind_some, ← Nat.div_add_mod x 8,
    flatten_getElem? height (Nat.mod_lt x (by decide)), htile]
  exact hb

/-- Only entries of the palette are drawn. -/
theorem print_lt {rt : List (List UInt8)} (h : p.print numSheets margins palette exposure = .ok rt)
    {row : List UInt8} (hrow : row ∈ rt) {c : UInt8} (hc : c ∈ row) : c.toNat < 4 := by
  obtain ⟨y, -, hy⟩ := exists_of_mem_mapM h hrow
  obtain ⟨tiles, htiles, hy⟩ := bind_eq_ok.mp hy
  cases hy
  obtain ⟨l, hl, hc⟩ := List.mem_flatten.mp hc
  obtain ⟨xCoord, -, hx⟩ := exists_of_mem_mapM htiles hl
  obtain ⟨lsb, -, hx⟩ := bind_eq_ok.mp hx
  obtain ⟨msb, -, hx⟩ := bind_eq_ok.mp hx
  cases hx
  obtain ⟨bitIdx, -, rfl⟩ := List.mem_map.mp hc
  exact Nat.lt_succ_of_le (toNat_and_le _ 0x3)

/-- The image has the colours of the picture. -/
theorem image_of_print {rt : List (List UInt8)}
    (h : p.print numSheets margins palette exposure = .ok rt) :
    ∃ img, p.image numSheets margins palette exposure = .ok img ∧ img.length = rt.length ∧
      ∀ (y x : ℕ) (b : UInt8), (rt[y]?.bind fun row => row[x]?) = some b → ∃ hb : b.toNat < 4,
        (img[y]?.bind fun row => row[x]?) = some (printerPalette.cell ⟨b.toNat, hb⟩) := by
  have hcolours : Succeeds (rt.mapM fun row => row.mapM fun gbColor =>
      printerPalette.get (Panic.index .printerPrint) gbColor.toNat) := by
    refine (succeeds_mapM rt).mpr fun row hrow => (succeeds_mapM row).mpr fun c hc => ?_
    exact ⟨_, Mem.get_of_lt _ _ (print_lt h hrow hc)⟩
  obtain ⟨img, himg⟩ := hcolours
  obtain ⟨hlen, hrows⟩ := mapM_getElem? himg
  refine ⟨img, by rw [image, h, ok_bind, himg], hlen, fun y x b hb => ?_⟩
  obtain ⟨row, hrow, hb⟩ := Option.bind_eq_some_iff.mp hb
  obtain ⟨row', hrow', hy⟩ := hrows y row hrow
  obtain ⟨colour, hcolour, hx⟩ := (mapM_getElem? hrow').2 x b hb
  obtain ⟨hlt, rfl⟩ := Mem.get_eq_ok.mp hcolour
  exact ⟨hlt, by rw [hy]; exact hx⟩

/-! ### What it decodes -/

/-- From line 144 on, the pixels are those of the tiles 360 before. -/
def Repeats (ram : List UInt8) (palette : UInt8) : Prop :=
  ∀ y, 144 ≤ y → y < ram.length / 40 → ∀ x < 160,
    entry ram palette (tileAt x y) (y % 8) (x % 8) =
      entry ram palette (tileAt x y % 360) (y % 8) (x % 8)

/-- A decoded picture is one that was drawn. -/
theorem Decodes.printable (h : p.Decodes numSheets margins palette exposure) :
    Printable p.ram.length := by
  obtain ⟨img, himg, -⟩ := h
  obtain ⟨rt, hprint, -⟩ := bind_eq_ok.mp himg
  exact succeeds_print.mp ⟨rt, hprint⟩

/-- A decoded picture shows the same as the one that was drawn. -/
theorem Decodes.repeats (h : p.Decodes numSheets margins palette exposure) :
    Repeats p.ram palette := by
  obtain ⟨img, himg, -, hpixels⟩ := h
  obtain ⟨rt, hprint, -⟩ := bind_eq_ok.mp himg
  obtain ⟨img', himg', -, hcolours⟩ := image_of_print hprint
  obtain rfl : img = img' := ok_inj.mp (himg.symm.trans himg')
  intro y _ hy x hx
  obtain ⟨e, hentry, hpixel⟩ := hpixels y hy x hx
  obtain ⟨b, hb, hdrawn⟩ := (print_pixel hprint).2 y hy x hx
  obtain ⟨hlt, hcolour⟩ := hcolours y x b hb
  have hsame : e = ⟨b.toNat, hlt⟩ :=
    printerPalette_injective (Option.some_inj.mp (hpixel.symm.trans hcolour))
  rw [hentry, hdrawn, hsame]

/-- **What the printer decodes.** A buffer long enough for the tiles it reads, whose lines from 144
on show what the tiles 360 before show. -/
theorem decodes_iff (p : Printer) (numSheets margins palette exposure : UInt8) :
    p.Decodes numSheets margins palette exposure ↔
      Printable p.ram.length ∧ Repeats p.ram palette := by
  constructor
  · intro h
    exact ⟨h.printable, h.repeats⟩
  · rintro ⟨hprintable, hrepeats⟩
    have hprints : Succeeds (p.print numSheets margins palette exposure) :=
      succeeds_print.mpr hprintable
    obtain ⟨rt, hprint⟩ := hprints
    obtain ⟨hlen, hpixels⟩ := print_pixel hprint
    obtain ⟨img, himg, hlen', hcolours⟩ := image_of_print hprint
    refine ⟨img, himg, hlen'.trans hlen, fun y hy x hx => ?_⟩
    obtain ⟨b, hb, hdrawn⟩ := hpixels y hy x hx
    obtain ⟨hlt, hcolour⟩ := hcolours y x b hb
    refine ⟨⟨b.toNat, hlt⟩, ?_, hcolour⟩
    rw [← hdrawn]
    by_cases hfirst : y < 144
    · have htile : tileAt x y < 360 := by
        rw [tileAt]
        omega
      rw [Nat.mod_eq_of_lt htile]
    · exact hrepeats y (Nat.le_of_not_lt hfirst) hy x hx

/-- One line of bytes is not a line of tiles; and after 18 rows of white tiles, a row of black ones
is drawn white. -/
theorem not_decodes :
    (¬ { new with ram := List.replicate 40 0 }.Decodes 1 0 0xE4 0x40) ∧
      ¬ { new with ram := List.replicate 5760 0 ++ List.replicate 320 0xFF }.Decodes 1 0 0xE4
        0x40 := by
  constructor
  · intro h
    exact absurd h.printable (by decide)
  · intro h
    have hlen : (List.replicate 5760 (0 : UInt8) ++ List.replicate 320 0xFF).length = 6080 := by
      rw [List.length_append, List.length_replicate, List.length_replicate]
    have hwhite : ∀ i < 5760, (List.replicate 5760 (0 : UInt8) ++ List.replicate 320 0xFF)[i]? =
        some 0 := by
      intro i hi
      rw [List.getElem?_append_left (by rwa [List.length_replicate]),
        List.getElem?_replicate_of_lt hi]
    have hblack : ∀ i < 320,
        (List.replicate 5760 (0 : UInt8) ++ List.replicate 320 0xFF)[5760 + i]? = some 0xFF := by
      intro i hi
      rw [List.getElem?_append_right (by rw [List.length_replicate]; omega), List.length_replicate,
        Nat.add_sub_cancel_left, List.getElem?_replicate_of_lt hi]
    generalize List.replicate 5760 (0 : UInt8) ++ List.replicate 320 0xFF = ram
      at h hlen hwhite hblack
    have hfirst : entry ram 0xE4 360 0 0 = entry ram 0xE4 0 0 0 :=
      h.repeats 144 le_rfl (by rw [hlen]; decide) 0 (by decide)
    have hdrawn : entry ram 0xE4 0 0 0 = some 0 :=
      @entry_of_getElem? ram 0 0 0 0 (hwhite 0 (by decide)) (hwhite 1 (by decide)) 0xE4 0
    have hown : entry ram 0xE4 360 0 0 = some 3 :=
      @entry_of_getElem? ram 360 0 0xFF 0xFF (hblack 0 (by decide)) (hblack 1 (by decide)) 0xE4 0
    rw [hdrawn, hown] at hfirst
    exact absurd hfirst (by decide)

end Printer

end ZenithGb
