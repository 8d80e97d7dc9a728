/-! # Bars and spaces

Every bar code is a row of modules of one width, each of them a bar or a space. Symbols are put
together from short patterns, which are written as text: `1` for a bar and `0` for a space.
-/

namespace PinPrinter.Barcode

/-- The modules of a symbol, true for a bar. -/
abbrev Modules := List Bool

/-- Read a pattern. -/
def modules (pattern : String) : Modules :=
  pattern.toList.map (· == '1')

/-- Why data cannot be shown in a symbology. -/
inductive Refusal where
  /-- Too little or too much data. -/
  | length
  /-- A character that the symbology lacks. -/
  | character
  deriving DecidableEq, Repr

/-- The text of a refusal. -/
def Refusal.message : Refusal → String
  | .length => "Barcode data length is invalid"
  | .character => "Barcode data is invalid"

/-- The value of a decimal digit. -/
def digit? (c : Char) : Option Nat :=
  if c.isDigit then some (c.toNat - '0'.toNat) else none

/-- The sum of the numbers at even places plus that at odd places, each multiplied. -/
def weighted (even odd : Nat) : List Nat → Nat
  | [] => 0
  | d :: rest => even * d + weighted odd even rest

/-- The digit that brings a sum to a multiple of ten. -/
def checkDigit (sum : Nat) : Nat :=
  (10 - sum % 10) % 10

end PinPrinter.Barcode
