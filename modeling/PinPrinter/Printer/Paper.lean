import PinPrinter.Barcode
import PinPrinter.BitImage
import PinPrinter.Outbox
import PinPrinter.Registers
import PinPrinter.TypeCase

/-! # The paper

What is printed on and with: the sheet, the pen above it, the glyphs at hand, and the outbox that
finished sheets go to. A sheet that nothing was printed on is never sent off.
-/

namespace PinPrinter

/-- The place of the pen in inches. -/
structure Pen where
  x : Float
  y : Float
  deriving Inhabited

/-- The pen at the left and the top margin. -/
def Registers.home (r : Registers) : Pen :=
  ⟨r.leftMargin, r.topMargin⟩

/-- The sheet and what belongs to it. -/
structure Paper where
  sheet : Sheet
  pen : Pen
  glyphs : TypeCase
  outbox : Outbox
  /-- What became of the sheets that were sent off, in order. -/
  artifacts : Array Artifact := #[]

namespace Paper

/-! ## Sheets -/

/-- Send off the sheet, if anything is on it. A sheet that cannot be sent off is lost. -/
def emit (p : Paper) : Paper :=
  if p.sheet.isBlank then p
  else
    match p.outbox.deliver p.sheet with
    | (outbox, .ok artifact) =>
      { p with outbox := outbox, artifacts := p.artifacts.push artifact }
    | (outbox, .error _) => { p with outbox := outbox }

/-- Take a blank sheet, with the pen above a place of it. -/
def load (p : Paper) (pen : Pen) : Paper :=
  { p with sheet := p.sheet.clear, pen := pen }

/-- Send off the sheet and take a blank one. -/
def turn (p : Paper) (r : Registers) (x : Float) : Paper :=
  p.emit.load ⟨x, r.topMargin⟩

/-- Finish the document or job that is open. -/
def finish (p : Paper) : Paper :=
  { p with outbox := p.outbox.finish.1 }

/-! ## Characters -/

/-- The rows between the two lines of a double score. -/
def scoreGap : Int := 5

/-- The places where a glyph is struck, counted from its own: once more to the right of the first
stroke, below both for double strike, and up to three pixels on for bold. -/
def strikes (style : Style) : List (Int × Int) :=
  [(1, 0)] ++ (if style.doubleStrike then [(0, 1), (1, 1)] else []) ++
    (if style.bold then [(1, 0), (2, 0), (3, 0)] else [])

/-- Strike a glyph with its top left corner at a place. -/
def strike (s : Sheet) (g : Glyph) (style : Style) (ink : Ink) (x y : Int) : Sheet :=
  (strikes style).foldl (fun s by_ => s.blit g (x + by_.1) (y + by_.2) true ink)
    (s.blit g x y false ink)

/-- The row of a score line, for characters whose line starts at row `top`. -/
def scoreRow (r : Registers) (top : Int) (lineHeight : Float) : Int :=
  if r.style.underline then top + Rounding.truncate (lineHeight * 0.9)
  else if r.style.strikethrough then top + Rounding.truncate (lineHeight * 0.45)
  else if r.score.isDouble then top - scoreGap
  else top

/-- Draw the score line between two columns, if one is asked for. -/
def drawScore (r : Registers) (s : Sheet) (first last top : Int) (lineHeight : Float) : Sheet :=
  if r.score = .none ∨ r.style.scored = false then s
  else
    let row := scoreRow r top lineHeight
    let s := s.rule first last row r.score.isBroken
    if r.score.isDouble then s.rule first last (row + scoreGap) r.score.isBroken else s

/-- The way to the next character in inches. -/
def advanceOf (r : Registers) (g : Glyph) (dpi : Nat) : Float :=
  (if r.style.proportional then g.advance / Float.ofNat dpi else r.fixedAdvance) +
    r.extraSpacing

/-- The character that a byte prints; the byte 1 prints a space. -/
def characterOf (r : Registers) (byte : UInt8) : Char :=
  r.translate (if byte = 0x01 then 0x20 else byte)

/-- Strike a character and its score, and move the pen past it: the paper, and the way that the pen
went. -/
def stamp (p : Paper) (r : Registers) (byte : UInt8) : Paper × Float :=
  match p with
  | ⟨sheet, pen, glyphs, outbox, artifacts⟩ =>
    let (glyphs, glyph) := glyphs.take r.font (characterOf r byte)
    let measures := glyphs.measures r.font
    let dpi := sheet.dpi
    let left := Rounding.pixel pen.x dpi
    let top := Rounding.pixel pen.y dpi
    let row := top - glyph.top + Rounding.truncate measures.ascent
    let row := if r.style.subscript then row + glyph.height / 2 else row
    let sheet := strike sheet glyph r.style r.ink (left + glyph.left) row
    let advance := advanceOf r glyph dpi
    let pen : Pen := ⟨pen.x + advance, pen.y⟩
    let sheet := drawScore r sheet left (Rounding.pixel pen.x dpi) top measures.height
    (⟨sheet, pen, glyphs, outbox, artifacts⟩, advance)

/-! ## Graphics -/

/-- Print a column of a bit image, if its density is a known one. -/
def printColumn (p : Paper) (r : Registers) (density : Option BitImage.Density)
    (column : Array UInt8) : Paper :=
  match density with
  | none => p
  | some density =>
    match p with
    | ⟨sheet, pen, glyphs, outbox, artifacts⟩ =>
      ⟨BitImage.printColumn density sheet column pen.x pen.y r.ink,
        ⟨pen.x + density.columnWidth, pen.y⟩, glyphs, outbox, artifacts⟩

/-- Print a bar code that some encoders make. One that is refused leaves the paper as it is. -/
def printBarcodeWith (encoders : Barcode.Encoders) (p : Paper) (r : Registers)
    (data : List UInt8) : Paper :=
  match (Barcode.parse data).bind fun code =>
    code.printWith encoders p.sheet p.pen.x p.pen.y r.ink with
  | .ok (sheet, width) => { p with sheet := sheet, pen := ⟨p.pen.x + width, p.pen.y⟩ }
  | .error _ => p

/-- Print a bar code. One that is refused leaves the paper as it is. -/
def printBarcode (p : Paper) (r : Registers) (data : List UInt8) : Paper :=
  p.printBarcodeWith .standard r data

end Paper

end PinPrinter
