import PinPrinter.Sheet

/-! # Bit images

Graphics come in columns of one, three or six bytes, the highest bit on top. The density says how
far apart the dots stand. Where dots may stand side by side they are enlarged, so that an image
stays solid on a sheet that is finer than the image.
-/

namespace PinPrinter.BitImage

/-- The layout of a bit image. -/
structure Density where
  horizontalDpi : Nat
  verticalDpi : Nat
  /-- Whether dots may stand side by side. -/
  adjacent : Bool
  columnBytes : Nat
  deriving DecidableEq, Repr

/-- The density of a number. -/
def Density.ofNumber? (m : UInt8) : Option Density :=
  match m.toNat with
  | 0 => some ⟨60, 60, true, 1⟩
  | 1 => some ⟨120, 60, true, 1⟩
  | 2 => some ⟨120, 60, false, 1⟩
  | 3 => some ⟨60, 240, false, 1⟩
  | 4 => some ⟨80, 60, true, 1⟩
  | 6 => some ⟨90, 60, true, 1⟩
  | 32 => some ⟨60, 180, true, 3⟩
  | 33 => some ⟨120, 180, true, 3⟩
  | 38 => some ⟨90, 180, true, 3⟩
  | 39 => some ⟨180, 180, true, 3⟩
  | 40 => some ⟨360, 180, false, 3⟩
  | 71 => some ⟨180, 360, true, 6⟩
  | 72 => some ⟨360, 360, false, 6⟩
  | 73 => some ⟨360, 360, true, 6⟩
  | _ => none

namespace Density

/-- The width of a dot in pixels. -/
def dotWidth (d : Density) (dpi : Nat) : Nat :=
  if d.adjacent then max 1 (dpi / d.horizontalDpi) else 1

/-- The height of a dot in pixels. -/
def dotHeight (d : Density) (dpi : Nat) : Nat :=
  if d.adjacent then max 1 (dpi / d.verticalDpi) else 1

/-- The way to the next column in inches. -/
def columnWidth (d : Density) : Float :=
  1.0 / Float.ofNat d.horizontalDpi

/-- The way to the next dot of a column in inches. -/
def dotPitch (d : Density) : Float :=
  1.0 / Float.ofNat d.verticalDpi

end Density

/-- The rows of a column that have a dot, from the top. -/
def inkedRows (column : Array UInt8) : List Nat :=
  (List.range (8 * column.size)).filter fun row =>
    (column[row / 8]?.getD 0).toNat.testBit (7 - row % 8)

/-- Print a column with its top at a place in inches. -/
def printColumn (d : Density) (s : Sheet) (column : Array UInt8) (x y : Float) (ink : Ink) :
    Sheet :=
  let left := Rounding.pixel x s.dpi
  (inkedRows column).foldl (fun s row =>
    s.fill left (Rounding.pixel (y + Float.ofNat row * d.dotPitch) s.dpi)
      (d.dotWidth s.dpi) (d.dotHeight s.dpi) ink) s

end PinPrinter.BitImage
