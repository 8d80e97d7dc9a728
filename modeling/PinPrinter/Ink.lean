import PinPrinter.Rounding

/-! # Ink

A pixel is three bits of colour above five bits of intensity. Inks are subtractive: printing one
over another joins their colour bits, as a colour ribbon does. The value zero is blank paper.
-/

namespace PinPrinter

/-- The colour of the ribbon. -/
inductive Ink where
  | black
  | magenta
  | cyan
  | violet
  | yellow
  | red
  | green
  deriving DecidableEq, Repr, Inhabited

namespace Ink

/-- The ink behind a selector; all others are black. -/
def ofSelector (n : UInt8) : Ink :=
  match n.toNat with
  | 1 => magenta
  | 2 => cyan
  | 3 => violet
  | 4 => yellow
  | 5 => red
  | 6 => green
  | _ => black

/-- The name of an ink. -/
def name : Ink → String
  | black => "Black"
  | magenta => "Magenta"
  | cyan => "Cyan"
  | violet => "Violet"
  | yellow => "Yellow"
  | red => "Red"
  | green => "Green"

/-- The colour bits of an ink. -/
def band : Ink → UInt8
  | magenta => 1
  | cyan => 2
  | violet => 3
  | yellow => 4
  | red => 5
  | green => 6
  | black => 7

/-- The colour bits in their place in a pixel. -/
def bits (ink : Ink) : UInt8 :=
  ink.band <<< 5

end Ink

namespace Pixel

/-- The bits of a pixel that hold its intensity; all of them are full ink. -/
def intensityMask : UInt8 := 0x1F

/-- A colour as it is shown. -/
structure Color where
  red : UInt8
  green : UInt8
  blue : UInt8
  deriving DecidableEq, Repr, Inhabited

/-- The light that each colour takes out of red, green and blue at full intensity. -/
def absorption (band : UInt8) : Color :=
  let full (bit : UInt8) : UInt8 := if band &&& bit = 0 then 0 else 255
  -- Magenta takes green, cyan takes red and yellow takes blue.
  ⟨full 2, full 1, full 4⟩

/-- A channel fades from white towards its full absorption. -/
private def channel (absorbed intensity : UInt8) : UInt8 :=
  (255.0 - (absorbed.toFloat / 30.9) * intensity.toFloat).toUInt8

/-- The colour of a pixel. -/
def color (pixel : UInt8) : Color :=
  let absorbed := absorption (pixel >>> 5)
  let intensity := pixel &&& intensityMask
  ⟨channel absorbed.red intensity, channel absorbed.green intensity,
    channel absorbed.blue intensity⟩

/-- The grey level of a pixel, weighted as the eye weighs the colours. -/
def luminance (pixel : UInt8) : UInt8 :=
  let c := color pixel
  UInt8.ofNat (Rounding.nearest
    (0.299 * c.red.toFloat + 0.587 * c.green.toFloat + 0.114 * c.blue.toFloat)).toNat

/-- The colours of all pixel values. -/
def palette : Vector Color 256 :=
  Vector.ofFn fun pixel : Fin 256 => color (UInt8.ofNat pixel.val)

/-- The grey levels of all pixel values. -/
def greys : Vector UInt8 256 :=
  Vector.ofFn fun pixel : Fin 256 => luminance (UInt8.ofNat pixel.val)

end Pixel

end PinPrinter
