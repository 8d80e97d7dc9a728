import PinPrinter.Glyph

/-! # Outline faces

A typeface can have a file of outlines in the font directory. What reads such a file and draws from
it comes from outside of the printer: here a face is what it tells about its measures and its
characters. A typeface without one is set in the built-in face.
-/

namespace PinPrinter

/-- The size that a face is drawn at, in pixels: how far it reaches from the lowest descender to the
highest ascender, in either direction. -/
structure OutlineScale where
  x : Float
  y : Float
  deriving DecidableEq, Repr

/-- A pixel that an outline covers, counted from the top left corner, with a coverage of 255 for
full. -/
structure OutlineDot where
  column : Nat
  row : Nat
  coverage : UInt8
  deriving DecidableEq, Repr

/-- An outline as it falls on the pixels: its bounds, counted from the pen and downwards, and the
pixels that it covers. -/
structure Outline where
  left : Float
  upper : Float
  width : Float
  height : Float
  dots : List OutlineDot
  deriving DecidableEq, Repr

/-- A face of outlines. It works in single precision, to which it rounds the scale by itself. -/
structure OutlineFace where
  /-- The units of the em square, where the file tells them. -/
  unitsPerEm : Option Float
  /-- The units from the lowest descender to the highest ascender. -/
  unscaledHeight : Float
  ascent : OutlineScale → Float
  height : OutlineScale → Float
  advance : OutlineScale → Char → Float
  /-- The outline of a character; none if there is nothing to draw. -/
  outline : OutlineScale → Char → Option Outline

namespace OutlineFace

/-- The units of an em square that nothing is told about. -/
def usualUnits : Float := 1000.0

/-- A font has the size of its em square; the scale is that of the whole height. -/
def scale (face : OutlineFace) (font : Font) (dpi : Nat) : OutlineScale :=
  let share := face.unscaledHeight / face.unitsPerEm.getD usualUnits
  ⟨font.horizontalPixels dpi * share, font.verticalPixels dpi * share⟩

/-- Put the pixels of an outline into a rectangle; those beside it are left out. -/
def plot (width height : Nat) (dots : List OutlineDot) : Array UInt8 :=
  dots.foldl (fun coverage dot =>
    if dot.column < width ∧ dot.row < height then
      coverage.setIfInBounds (dot.row * width + dot.column) dot.coverage
    else coverage) (Array.replicate (width * height) 0)

/-- A character set in the face. -/
def glyph (face : OutlineFace) (font : Font) (dpi : Nat) (c : Char) : Glyph :=
  let scale := face.scale font dpi
  let advance := face.advance scale c
  match face.outline scale c with
  | none => Glyph.empty advance
  | some outline =>
    let width := (Rounding.truncate outline.width).toNat
    let height := (Rounding.truncate outline.height).toNat
    { width := width
      height := height
      left := Rounding.clamp 32 (Rounding.truncate outline.left)
      top := Rounding.clamp 32 (Rounding.truncate (-outline.upper))
      advance := advance
      coverage := plot width height outline.dots }

end OutlineFace

/-- The measures of a line, in pixels. -/
structure Measures where
  /-- The part of the line above the baseline. -/
  ascent : Float
  height : Float
  deriving DecidableEq, Repr

namespace Font

/-- A character as the font draws it, in a face of outlines or in the built-in one. A glyph for
which 32 bits are too few to lean stays upright. -/
def render (font : Font) (face : Option OutlineFace) (dpi : Nat) (c : Char) : Glyph :=
  let glyph := match face with
    | some face => face.glyph font dpi c
    | none => font.upright dpi c
  if font.italic then (glyph.sheared? Glyph.italicLean).getD glyph else glyph

/-- The measures of a line in a face of outlines or in the built-in one. -/
def measures (font : Font) (face : Option OutlineFace) (dpi : Nat) : Measures :=
  match face with
  | some face =>
    let scale := face.scale font dpi
    ⟨face.ascent scale, face.height scale⟩
  | none => ⟨Float.ofNat (font.ascent dpi), Float.ofNat (font.lineHeight dpi)⟩

end Font

end PinPrinter
