import PinPrinter.Glyph
import PinPrinter.Ink

/-! # The sheet

One sheet of paper as a rectangle of pixels. All drawing clips to the sheet: what falls outside of
it is dropped. Every drawing operation is a sequence of changes of single pixels.
-/

namespace PinPrinter

/-- A sheet of paper. -/
structure Sheet where
  width : Nat
  height : Nat
  dpi : Nat
  pixels : Vector UInt8 (width * height)
  deriving DecidableEq

namespace Sheet

/-- A blank sheet. -/
def blank (width height dpi : Nat) : Sheet :=
  ⟨width, height, dpi, Vector.replicate (width * height) 0⟩

instance : Inhabited Sheet :=
  ⟨blank 0 0 0⟩

/-- The sheet with every pixel blank again. -/
def clear (s : Sheet) : Sheet :=
  blank s.width s.height s.dpi

/-- Nothing has been printed on the sheet. -/
def isBlank (s : Sheet) : Bool :=
  s.pixels.all (· == 0)

/-- The pixel of an index, row by row; beyond the end it is blank. -/
def pixel (s : Sheet) (index : Nat) : UInt8 :=
  s.pixels[index]?.getD 0

theorem index_lt {width height column row : Nat} (hc : column < width) (hr : row < height) :
    row * width + column < width * height := by
  have step : (row + 1) * width ≤ height * width := Nat.mul_le_mul_right width hr
  rw [Nat.succ_mul] at step
  rw [Nat.mul_comm width height]
  omega

/-- The column is read back from an index. -/
theorem index_mod {width column : Nat} (on : column < width) (row : Nat) :
    (row * width + column) % width = column := by
  rw [Nat.mul_add_mod', Nat.mod_eq_of_lt on]

/-- The row is read back from an index. -/
theorem index_div {width column : Nat} (on : column < width) (row : Nat) :
    (row * width + column) / width = row := by
  rw [Nat.mul_comm, Nat.mul_add_div (Nat.zero_lt_of_lt on), Nat.div_eq_of_lt on, Nat.add_zero]

/-- The index of the pixel at a place, if the place is on the sheet. -/
def index? (s : Sheet) (x y : Int) : Option (Fin (s.width * s.height)) :=
  if on : (0 ≤ x ∧ x < s.width) ∧ 0 ≤ y ∧ y < s.height then
    some ⟨y.toNat * s.width + x.toNat, index_lt (by omega) (by omega)⟩
  else none

/-- The pixel at a place, if the place is on the sheet. -/
def get? (s : Sheet) (x y : Int) : Option UInt8 :=
  (s.index? x y).map fun i => s.pixels[i]

/-- Change the pixel at a place, if the place is on the sheet. -/
def modify (s : Sheet) (x y : Int) (f : UInt8 → UInt8) : Sheet :=
  match s with
  | ⟨width, height, dpi, pixels⟩ =>
    if on : (0 ≤ x ∧ x < width) ∧ 0 ≤ y ∧ y < height then
      have inside : y.toNat * width + x.toNat < width * height := index_lt (by omega) (by omega)
      let old := pixels[y.toNat * width + x.toNat]
      ⟨width, height, dpi, pixels.set (y.toNat * width + x.toNat) (f old) inside⟩
    else ⟨width, height, dpi, pixels⟩

/-- The whole numbers from `first` up to, and without, `last`, as far as they lie in `[0, size)`.
What lies outside of the sheet need not be visited. -/
def span (first last : Int) (size : Nat) : List Nat :=
  let start := first.toNat
  List.range' start (min last.toNat size - start)

/-- Ink of some coverage falls on a pixel: it replaces what is there. -/
def replaceInk (ink : Ink) (coverage _old : UInt8) : UInt8 :=
  (coverage >>> 3) ||| ink.bits

/-- Ink of some coverage joins what is on a pixel: intensities add up to full ink at most. -/
def joinInk (ink : Ink) (coverage old : UInt8) : UInt8 :=
  let added := coverage >>> 3
  if Pixel.intensityMask < (old &&& Pixel.intensityMask) + added then
    old ||| (ink.bits ||| Pixel.intensityMask)
  else (old + added) ||| ink.bits

/-- Print a glyph with its top left corner at a place. Only pixels with coverage are touched. -/
def blit (s : Sheet) (g : Glyph) (x y : Int) (additive : Bool) (ink : Ink) : Sheet :=
  let press := if additive then joinInk ink else replaceInk ink
  (List.range g.height).foldl (fun s row =>
    (List.range g.width).foldl (fun s column =>
      let coverage := g.coverageAt column row
      if coverage = 0 then s else s.modify (x + column) (y + row) (press coverage)) s) s

/-- The length in pixels after which a broken rule repeats. -/
def rulePeriod (dpi : Nat) : Nat :=
  max 1 (dpi / 15)

/-- A column lies in a gap of a broken rule: gaps take the last fifth of every period. -/
def inGap (dpi column : Nat) : Bool :=
  rulePeriod dpi * 4 / 5 < column % rulePeriod dpi

/-- Rule a line three pixels high around row `y`, both ends included. -/
def rule (s : Sheet) (first last y : Int) (broken : Bool) : Sheet :=
  let center : UInt8 := if broken then 240 else 255
  (span first (last + 1) s.width).foldl (fun s (column : Nat) =>
    if broken && inGap s.dpi column then s
    else
      ((s.modify column (y - 1) fun _ => 240).modify column y fun _ => center).modify
        column (y + 1) fun _ => 240) s

/-- Join full ink to every pixel of a box. The far edges have 64 bits: those of a box that is too
large lie in front of the near ones, and nothing is drawn. -/
def fill (s : Sheet) (x y : Int) (width height : Nat) (ink : Ink) : Sheet :=
  let value := ink.bits ||| Pixel.intensityMask
  -- Only here does it matter that places have 64 bits. A pixel of a glyph or a rule whose place is
  -- too large for them is off the sheet, and so is the place that it comes back at.
  (span y (Rounding.wrap 64 (y + height)) s.height).foldl (fun s (row : Nat) =>
    (span x (Rounding.wrap 64 (x + width)) s.width).foldl (fun s (column : Nat) =>
      s.modify column row (· ||| value)) s) s

/-- The red, green and blue of every pixel, row by row. -/
def rgb (s : Sheet) : ByteArray :=
  s.pixels.foldl (fun bytes pixel =>
    let c := Pixel.palette.get ⟨pixel.toNat, pixel.toNat_lt⟩
    ((bytes.push c.red).push c.green).push c.blue)
    (ByteArray.emptyWithCapacity (3 * s.width * s.height))

/-- The grey level of every pixel, row by row. -/
def luma (s : Sheet) : Array UInt8 :=
  s.pixels.toArray.map fun pixel => Pixel.greys.get ⟨pixel.toNat, pixel.toNat_lt⟩

end Sheet

end PinPrinter
