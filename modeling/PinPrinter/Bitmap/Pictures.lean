import PinPrinter.Bitmap.Bmp
import PinPrinter.Folder

/-! # Pictures of pages

A page is written as a picture by an encoder of its format, which comes from outside and may refuse
a page. Both formats have sizes of 32 bits, so a page that is larger is not handed to an encoder.
-/

namespace PinPrinter

open Rounding (power)

/-- A page that an encoder refuses: why, and what it has written until then. -/
structure PictureRefusal where
  reason : String
  written : ByteArray

/-- An encoder of pictures: what is in the file of a page. -/
def PictureEncoder : Type :=
  Sheet → Except PictureRefusal Content

/-- The encoders of the formats. -/
structure PictureEncoders where
  png : PictureEncoder
  bmp : PictureEncoder

/-- The format has no picture without pixels; the chunk that ends a picture is written all the
same. -/
def Png.encoder : PictureEncoder := fun s =>
  if s.width = 0 then .error ⟨"Zero width not allowed", closing⟩
  else if s.height = 0 then .error ⟨"Zero height not allowed", closing⟩
  else .ok (.picture s)

/-- The sizes that the header tells have 32 bits. -/
def Bmp.encoder : PictureEncoder := fun s =>
  let size := imageSize s.width s.height
  if power 32 ≤ size then
    .error ⟨"The Image's dimensions are either too small or too large", .empty⟩
  else if power 32 ≤ headerSize + size then
    .error ⟨"Format error encoding Bmp:\ncalculated BMP header size larger than 2^32", .empty⟩
  else .ok (.bytes (encode s))

/-- The encoders that pages are written with. -/
def PictureEncoders.standard : PictureEncoders where
  png := Png.encoder
  bmp := Bmp.encoder

namespace Picture

/-- The sizes of a page are checked before it is encoded. -/
def checkSizes (s : Sheet) : Except Error Unit :=
  if power 32 ≤ s.width then .error (.pageWidth s.width)
  else if power 32 ≤ s.height then .error (.pageHeight s.height)
  else .ok ()

/-- What is in the file of a page, and why it is not a picture if it is none. -/
def encode (encoder : PictureEncoder) (s : Sheet) : Content × Option Error :=
  match checkSizes s with
  | .error e => (.bytes .empty, some e)
  | .ok () =>
    match encoder s with
    | .error refusal => (.bytes refusal.written, some (.picture refusal.reason))
    | .ok content => (content, none)

end Picture

end PinPrinter
