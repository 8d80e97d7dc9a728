import PinPrinter.Barcode.Article
import PinPrinter.Barcode.Code128
import PinPrinter.Barcode.Code39
import PinPrinter.Barcode.Interleaved
import PinPrinter.Error
import PinPrinter.Sheet

/-! # Bar codes

The data of a bar code command opens with six bytes about the symbol. The symbol is drawn at the
pen as a row of bars without text, and the pen goes to its end. All that can fail fails before the
first bar is drawn.
-/

namespace PinPrinter

/-- A request for a bar code. -/
structure Barcode where
  symbology : Symbology
  /-- The width of a module in 1/180 inch. -/
  moduleWidth : Nat
  /-- What is added to the width of a space, in 1/360 inch. -/
  spaceAdjustment : Int
  /-- The length of the bars in 1/180 inch. -/
  barLength : Nat
  flags : UInt8
  data : List UInt8
  deriving DecidableEq, Repr

namespace Barcode

/-- A byte read as a signed number. -/
def signed (b : UInt8) : Int :=
  if b.toNat < 128 then b.toNat else (b.toNat : Int) - 256

/-- Read the data of a bar code command. -/
def parse : List UInt8 → Except Error Barcode
  | selector :: width :: space :: low :: high :: flags :: data =>
    match Symbology.ofSelector? selector with
    | none => .error (.unknownSymbology selector)
    | some symbology => .ok
      { symbology := symbology
        moduleWidth := max 2 (min width.toNat 5)
        spaceAdjustment := max (-3) (min (signed space) 3)
        barLength := low.toNat + 256 * high.toNat
        flags := flags
        data := data }
  | payload => .error (.barcodeHeader payload.length)

/-- The data as text, one character a byte. -/
def text (b : Barcode) : List Char :=
  b.data.map fun byte => Char.ofNat byte.toNat

/-- The digits of the data; all else is passed over. -/
def digits (b : Barcode) : List Nat :=
  b.text.filterMap digit?

/-- Data of Code 128 opens with the letter of a set. Set B stands in for set A and, where there is
no letter, for the set that is not named. -/
def code128Text (b : Barcode) : List Char :=
  match b.text with
  | 'C' :: rest => Code128.CodeSet.c.selector :: rest
  | 'A' :: rest => Code128.CodeSet.b.selector :: rest
  | 'B' :: rest => Code128.CodeSet.b.selector :: rest
  | text => Code128.CodeSet.b.selector :: text

/-- The encoders behind the symbologies. Each of them makes the modules of a symbol, or refuses the
data. -/
structure Encoders where
  articleLong : List Nat → Except Refusal Modules
  articleShort : List Nat → Except Refusal Modules
  interleaved : List Nat → Except Refusal Modules
  code39 : List Char → Except Refusal Modules
  code128 : List Char → Except Refusal Modules

/-- The encoders of the printer. -/
def Encoders.standard : Encoders where
  articleLong := Article.encodeLong
  articleShort := Article.encodeShort
  interleaved := Interleaved.encode
  code39 := Code39.encode
  code128 := Code128.encode

/-- The modules of the symbol that some encoders make. -/
def encodeWith (encoders : Encoders) (b : Barcode) : Except Error Modules :=
  let refused (modules : Except Refusal Modules) : Except Error Modules :=
    modules.mapError (.barcodeData b.symbology)
  match b.symbology with
  | .ean13 => refused (encoders.articleLong (b.digits.take 12))
  | .upcA => refused (encoders.articleLong (0 :: b.digits.take 11))
  | .ean8 => refused (encoders.articleShort (b.digits.take 7))
  | .interleaved2of5 => refused (encoders.interleaved b.digits)
  | .code39 => refused (encoders.code39 b.text)
  | .code128 => refused (encoders.code128 b.code128Text)
  | .upcE | .postnet => .error (.unsupportedSymbology b.symbology)

/-- The modules of the symbol. -/
def encode (b : Barcode) : Except Error Modules :=
  b.encodeWith .standard

/-- The width of a bar in inches. -/
def barWidth (b : Barcode) : Float :=
  Float.ofNat b.moduleWidth / 180.0

/-- The width of a space in inches, at least none. -/
def spaceWidth (b : Barcode) : Float :=
  let space := b.barWidth + Float.ofInt b.spaceAdjustment / 360.0
  if space < 0.0 then 0.0 else space

/-- The length of the bars in pixels, at least one. -/
def barHeight (b : Barcode) (dpi : Nat) : Nat :=
  max 1 (Rounding.nearest (Float.ofNat b.barLength / 180.0 * Float.ofNat dpi)).toNat

/-- Draw one module at a place and go to its end. A bar is at least one pixel wide. -/
def drawModule (b : Barcode) (y : Float) (ink : Ink) (place : Sheet × Float) (bar : Bool) :
    Sheet × Float :=
  let (s, x) := place
  if bar then
    let left := Rounding.pixel x s.dpi
    let right := Rounding.pixel (x + b.barWidth) s.dpi
    let width := (max (right - left) 1).toNat
    let height := b.barHeight s.dpi
    (s.fill left (Rounding.pixel y s.dpi) width height ink, x + b.barWidth)
  else (s, x + b.spaceWidth)

/-- Draw modules from a place on. -/
def draw (b : Barcode) (s : Sheet) (x y : Float) (ink : Ink) (modules : Modules) : Sheet × Float :=
  modules.foldl (b.drawModule y ink) (s, x)

/-- Draw the symbol that some encoders make with its top left corner at a place, and tell its width
in inches. -/
def printWith (encoders : Encoders) (b : Barcode) (s : Sheet) (x y : Float) (ink : Ink) :
    Except Error (Sheet × Float) :=
  match b.encodeWith encoders with
  | .error e => .error e
  | .ok modules =>
    let (s, cursor) := b.draw s x y ink modules
    .ok (s, cursor - x)

/-- Draw the symbol with its top left corner at a place, and tell its width in inches. -/
def print (b : Barcode) (s : Sheet) (x y : Float) (ink : Ink) : Except Error (Sheet × Float) :=
  b.printWith .standard s x y ink

end Barcode

end PinPrinter
