import PinPrinter.Bitmap.Bytes
import PinPrinter.Sheet

/-! # BMP pictures

An uncompressed picture of 24 bits a pixel: a header of 54 bytes, then the rows from the bottom up,
each pixel as blue, green and red, and each row filled up with zeros to a multiple of four bytes.
-/

namespace PinPrinter.Bmp

/-- The size of the header. -/
def headerSize : Nat := 54

/-- The zeros that fill up a row of `width` pixels. -/
def padding (width : Nat) : Nat :=
  (4 - 3 * width % 4) % 4

/-- The size of the rows of a picture. -/
def imageSize (width height : Nat) : Nat :=
  (3 * width + padding width) * height

/-- The header of a picture. -/
def header (width height : Nat) : List UInt8 :=
  ['B'.toUInt8, 'M'.toUInt8] ++
    Bytes.littleEndian 4 (headerSize + imageSize width height) ++
    Bytes.littleEndian 2 0 ++ Bytes.littleEndian 2 0 ++ Bytes.littleEndian 4 headerSize ++
    Bytes.littleEndian 4 40 ++ Bytes.littleEndian 4 width ++ Bytes.littleEndian 4 height ++
    Bytes.littleEndian 2 1 ++ Bytes.littleEndian 2 24 ++ Bytes.littleEndian 4 0 ++
    Bytes.littleEndian 4 (imageSize width height) ++ Bytes.littleEndian 4 0 ++
    Bytes.littleEndian 4 0 ++ Bytes.littleEndian 4 0 ++ Bytes.littleEndian 4 0

/-- The bytes of a pixel. -/
def pixelBytes (pixel : UInt8) : List UInt8 :=
  let c := Pixel.palette.get ⟨pixel.toNat, pixel.toNat_lt⟩
  [c.blue, c.green, c.red]

/-- Append a row of pixels, filled up. -/
def appendRow (s : Sheet) (out : ByteArray) (row : Nat) : ByteArray :=
  let out := (List.range s.width).foldl (fun out column =>
    Bytes.append out (pixelBytes (s.pixel (row * s.width + column)))) out
  Bytes.append out (List.replicate (padding s.width) 0)

/-- A sheet as a picture. -/
def encode (s : Sheet) : ByteArray :=
  (List.range s.height).reverse.foldl (appendRow s) (Bytes.append .empty (header s.width s.height))

end PinPrinter.Bmp
