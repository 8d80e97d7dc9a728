/-! # Typefaces

The typefaces that a command can select, and the font that the registers ask for: a typeface at a
size and a pitch.
-/

namespace PinPrinter

/-- A selectable typeface. -/
inductive Typeface where
  | roman
  | sansSerif
  | courier
  | prestige
  | script
  | ocrB
  | ocrA
  | orator
  | oratorS
  | scriptC
  | romanT
  | sansSerifH
  | svBusaba
  | svJittra
  deriving DecidableEq, Repr, Inhabited

namespace Typeface

/-- The typeface of a number; the last two stand apart from the others. -/
def ofNumber? (n : UInt8) : Option Typeface :=
  match n.toNat with
  | 0 => some roman
  | 1 => some sansSerif
  | 2 => some courier
  | 3 => some prestige
  | 4 => some script
  | 5 => some ocrB
  | 6 => some ocrA
  | 7 => some orator
  | 8 => some oratorS
  | 9 => some scriptC
  | 10 => some romanT
  | 11 => some sansSerifH
  | 30 => some svBusaba
  | 31 => some svJittra
  | _ => none

/-- The name of a typeface. -/
def name : Typeface → String
  | roman => "Roman"
  | sansSerif => "SansSerif"
  | courier => "Courier"
  | prestige => "Prestige"
  | script => "Script"
  | ocrB => "OcrB"
  | ocrA => "OcrA"
  | orator => "Orator"
  | oratorS => "OratorS"
  | scriptC => "ScriptC"
  | romanT => "RomanT"
  | sansSerifH => "SansSerifH"
  | svBusaba => "SvBusaba"
  | svJittra => "SvJittra"

/-- The file that would hold the outlines of a typeface; one without a file of its own shares that
of Roman. -/
def fontFile : Typeface → String
  | sansSerif => "sansserif.ttf"
  | courier => "courier.ttf"
  | script => "script.ttf"
  | ocrA | ocrB => "ocra.ttf"
  | _ => "roman.ttf"

end Typeface

/-- The font that the registers ask for. -/
structure Font where
  typeface : Typeface := .roman
  /-- The horizontal size in points. -/
  horizontalPoints : Float := 10.5
  /-- The vertical size in points. -/
  verticalPoints : Float := 10.5
  /-- The characters to the inch at fixed pitch. -/
  cpi : Float := 10.0
  italic : Bool := false

end PinPrinter
