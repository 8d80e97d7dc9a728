import PinPrinter.OutlineFace

/-! # The type case

Rendering a glyph costs more than looking it up, so the type case keeps the glyphs of the latest
size. What a glyph depends on besides its character is the size alone: fonts that differ only in
pitch, or in typefaces that share a font file, share their glyphs.
-/

namespace PinPrinter

/-- What a glyph depends on besides its character. -/
structure TypeSize where
  file : String
  horizontal : UInt64
  vertical : UInt64
  italic : Bool
  deriving DecidableEq, Repr

/-- The size of a font, with the points taken bit by bit. -/
def Font.size (font : Font) : TypeSize :=
  ⟨font.typeface.fontFile, font.horizontalPoints.toBits, font.verticalPoints.toBits, font.italic⟩

/-- The glyphs of one size that have been rendered so far, and the faces to render others in. -/
structure TypeCase where
  dpi : Nat
  /-- The face of outlines in a file of the font directory, if there is one. -/
  face : String → Option OutlineFace := fun _ => none
  size : Option TypeSize := none
  glyphs : List (Char × Glyph) := []

namespace TypeCase

/-- The type case with only glyphs of the size of a font in it. -/
def prepare (case : TypeCase) (font : Font) : TypeCase :=
  if case.size = some font.size then case
  else { case with size := some font.size, glyphs := [] }

/-- The face of outlines of a typeface, if its file has one. -/
def faceOf (case : TypeCase) (typeface : Typeface) : Option OutlineFace :=
  case.face typeface.fontFile

/-- A glyph as the font draws it. -/
def draw (case : TypeCase) (font : Font) (c : Char) : Glyph :=
  font.render (case.faceOf font.typeface) case.dpi c

/-- The measures of a line of a font. -/
def measures (case : TypeCase) (font : Font) : Measures :=
  font.measures (case.faceOf font.typeface) case.dpi

/-- Take a glyph from the case, rendering it on the first request. -/
def take (case : TypeCase) (font : Font) (c : Char) : TypeCase × Glyph :=
  let case := case.prepare font
  match case.glyphs.lookup c with
  | some glyph => (case, glyph)
  | none =>
    let glyph := case.draw font c
    ({ case with glyphs := (c, glyph) :: case.glyphs }, glyph)

end TypeCase

end PinPrinter
