/-! # Character style

The flags that a character is printed with, the kinds of score lines, and the print quality.
-/

namespace PinPrinter

/-- The style of characters. -/
structure Style where
  proportional : Bool := false
  condensed : Bool := false
  bold : Bool := false
  doubleStrike : Bool := false
  wide : Bool := false
  italic : Bool := false
  underline : Bool := false
  /-- Double width up to the end of the line. -/
  wideLine : Bool := false
  tall : Bool := false
  superscript : Bool := false
  subscript : Bool := false
  strikethrough : Bool := false
  overscore : Bool := false
  deriving DecidableEq, Repr, Inhabited

namespace Style

/-- The flags in their order, the lowest bit first. -/
def toList (s : Style) : List Bool :=
  [s.proportional, s.condensed, s.bold, s.doubleStrike, s.wide, s.italic, s.underline, s.wideLine,
    s.tall, s.superscript, s.subscript, s.strikethrough, s.overscore]

/-- The flags as the bits of a number. -/
def toBits (s : Style) : Nat :=
  s.toList.foldr (fun flag bits => 2 * bits + flag.toNat) 0

/-- The flags that are set in a number; higher bits are dropped. -/
def ofBits (bits : Nat) : Style where
  proportional := bits.testBit 0
  condensed := bits.testBit 1
  bold := bits.testBit 2
  doubleStrike := bits.testBit 3
  wide := bits.testBit 4
  italic := bits.testBit 5
  underline := bits.testBit 6
  wideLine := bits.testBit 7
  tall := bits.testBit 8
  superscript := bits.testBit 9
  subscript := bits.testBit 10
  strikethrough := bits.testBit 11
  overscore := bits.testBit 12

/-- Some line is to be drawn along the characters. -/
def scored (s : Style) : Bool :=
  s.underline || s.strikethrough || s.overscore

/-- Characters are raised or lowered, and smaller for it. -/
def script (s : Style) : Bool :=
  s.superscript || s.subscript

/-- No line along the characters. -/
def withoutScores (s : Style) : Style :=
  { s with underline := false, strikethrough := false, overscore := false }

/-- The style with the flags of the master command as its byte has them, and the others kept. -/
def master (s : Style) (bits : UInt8) : Style :=
  { s with
    proportional := bits.toNat.testBit 1
    condensed := bits.toNat.testBit 2
    bold := bits.toNat.testBit 3
    doubleStrike := bits.toNat.testBit 4
    wide := bits.toNat.testBit 5
    italic := bits.toNat.testBit 6
    underline := bits.toNat.testBit 7 }

end Style

/-- The kind of a score line. -/
inductive Score where
  | none
  | single
  | double
  | singleBroken
  | doubleBroken
  deriving DecidableEq, Repr, Inhabited

namespace Score

/-- The kind of line of a number. -/
def ofNumber (d : UInt8) : Score :=
  match d.toNat with
  | 1 => .single
  | 2 => .double
  | 5 => .singleBroken
  | 6 => .doubleBroken
  | _ => .none

/-- Two lines are drawn. -/
def isDouble : Score → Bool
  | .double | .doubleBroken => true
  | _ => false

/-- The line has gaps. -/
def isBroken : Score → Bool
  | .singleBroken | .doubleBroken => true
  | _ => false

/-- The name of a kind of line. -/
def name : Score → String
  | .none => "None"
  | .single => "Single"
  | .double => "Double"
  | .singleBroken => "SingleBroken"
  | .doubleBroken => "DoubleBroken"

end Score

/-- The quality of printing. -/
inductive Quality where
  | draft
  | letter
  deriving DecidableEq, Repr, Inhabited

/-- The name of a quality. -/
def Quality.name : Quality → String
  | .draft => "Draft"
  | .letter => "LetterQuality"

end PinPrinter
