import PinPrinter.Face
import PinPrinter.Rounding
import PinPrinter.Typeface

/-! # Glyphs

A glyph is a rectangle of coverage, placed against the pen on the baseline. The built-in face is
scaled to a cell by taking for each pixel the nearest one of its pattern; italics lean by moving
each row sideways.
-/

namespace PinPrinter

/-- A rendered character. -/
structure Glyph where
  width : Nat
  height : Nat
  /-- The column of the left edge, counted from the pen. -/
  left : Int
  /-- The rows above the baseline. -/
  top : Int
  /-- The way to the next character, in pixels. -/
  advance : Float
  /-- The coverage of each pixel, row by row, 255 for full. -/
  coverage : Array UInt8
  deriving DecidableEq, Repr, Inhabited

namespace Glyph

/-- Every pixel of the rectangle has a coverage. -/
def WellFormed (g : Glyph) : Prop :=
  g.coverage.size = g.width * g.height

/-- The coverage in a column and a row. -/
def coverageAt (g : Glyph) (column row : Nat) : UInt8 :=
  g.coverage[row * g.width + column]?.getD 0

/-- A glyph without ink. -/
def empty (advance : Float) : Glyph :=
  ⟨0, 0, 0, 0, advance, #[]⟩

/-- A pattern of the built-in face, scaled to a cell. -/
def scaled (pattern width height : Nat) (top : Int) : Glyph where
  width := width
  height := height
  left := 0
  top := top
  advance := Float.ofNat width
  coverage := Array.ofFn fun i : Fin (width * height) =>
    let column := i.val % width * Face.width / width
    let row := i.val / width * Face.height / height
    if Face.inked pattern column row then 255 else 0

/-- The least of the shifts of the first rows. -/
def leastShift (shift : Nat → Int) (rows : Nat) : Int :=
  (List.range rows).foldl (fun least row => min least (shift row)) (shift 0)

/-- The greatest of the shifts of the first rows. -/
def greatestShift (shift : Nat → Int) (rows : Nat) : Int :=
  (List.range rows).foldl (fun greatest row => max greatest (shift row)) (shift 0)

/-- Move each row sideways by a shift of its own, and widen the glyph so that nothing is cut. -/
def shifted (g : Glyph) (shift : Nat → Int) : Glyph :=
  if g.width = 0 ∨ g.height = 0 then g
  else
    let least := leastShift shift g.height
    let width := g.width + (greatestShift shift g.height - least).toNat
    { g with
      width := width
      left := g.left + least
      coverage := Array.ofFn fun i : Fin (width * g.height) =>
        let row := i.val / width
        let column : Int := (i.val % width : Nat) - (shift row - least)
        if 0 ≤ column ∧ column < g.width then g.coverageAt column.toNat row else 0 }

/-- How far italics lean: rows above the baseline go right by this share of their height. -/
def italicLean : Float := 0.2

/-- The sideways shift of a row of a leaning glyph, which lies some rows below the top one. The row
is a number of 32 bits, and so is the shift. -/
def leanShift (top : Int) (factor : Float) (row : Nat) : Int :=
  Rounding.clamp 32
    (Rounding.nearest (Float.ofInt (top - Rounding.wrap 32 row) * factor))

/-- What is worked out for a leaning glyph stays within 32 bits: the height of every row over the
baseline, the columns by which the glyph grows, and its new left edge. -/
structure Leanable (g : Glyph) (factor : Float) : Prop where
  rows : ∀ row < g.height, Rounding.Fits 32 (g.top - Rounding.wrap 32 row)
  growth : Rounding.Fits 32 (greatestShift (leanShift g.top factor) g.height -
    leastShift (leanShift g.top factor) g.height)
  left : Rounding.Fits 32 (g.left + leastShift (leanShift g.top factor) g.height)

instance (g : Glyph) (factor : Float) : Decidable (g.Leanable factor) :=
  decidable_of_iff (_ ∧ _ ∧ _)
    ⟨fun ⟨rows, growth, left⟩ => ⟨rows, growth, left⟩,
      fun ⟨rows, growth, left⟩ => ⟨rows, growth, left⟩⟩

/-- The glyph leant around the baseline; none if 32 bits are too few for it. -/
def sheared? (g : Glyph) (factor : Float) : Option Glyph :=
  if g.width = 0 ∨ g.height = 0 then some g
  else if g.Leanable factor then some (g.shifted (leanShift g.top factor))
  else none

end Glyph

namespace Font

/-- The largest size in points; a larger request is drawn at this size. -/
def maxPoints : Float := 72.0

/-- The share of a line above the baseline. -/
def ascentShare : Float := 0.8

/-- A size in points as pixels. -/
def pixels (points : Float) (dpi : Nat) : Float :=
  let points := if points < 0.0 then 0.0 else points
  let points := if maxPoints < points then maxPoints else points
  points / 72.0 * Float.ofNat dpi

/-- The horizontal size in pixels. -/
def horizontalPixels (font : Font) (dpi : Nat) : Float :=
  pixels font.horizontalPoints dpi

/-- The vertical size in pixels. -/
def verticalPixels (font : Font) (dpi : Nat) : Float :=
  pixels font.verticalPoints dpi

/-- The height of a line in pixels, at least one. -/
def lineHeight (font : Font) (dpi : Nat) : Nat :=
  max 1 (Rounding.nearest (font.verticalPixels dpi)).toNat

/-- The rows of a line above its baseline. -/
def ascent (font : Font) (dpi : Nat) : Nat :=
  (Rounding.nearest (Float.ofNat (font.lineHeight dpi) * ascentShare)).toNat

/-- The width of a character cell in pixels, at least one. -/
def cellWidth (font : Font) (dpi : Nat) : Nat :=
  max 1 (Rounding.nearest (font.horizontalPixels dpi * 0.5)).toNat

/-- A character set in the built-in face. One that the face lacks leaves its cell empty. -/
def upright (font : Font) (dpi : Nat) (c : Char) : Glyph :=
  match Face.pattern? c with
  | none => Glyph.empty (Float.ofNat (font.cellWidth dpi))
  | some pattern =>
    Glyph.scaled pattern (font.cellWidth dpi) (font.lineHeight dpi) (font.ascent dpi)

end Font

end PinPrinter
