import PinPrinter.Bitmap.Bytes
import PinPrinter.Sheet

/-! # PNG pictures

A picture of three bytes a pixel in the PNG format. Its data is stored without compression: a
reader gets the same picture from it, whatever the compression.
-/

namespace PinPrinter.Png

/-- One bit of the checksum of a chunk. -/
private def crcBit (c : UInt32) : UInt32 :=
  if c &&& 1 = 0 then c >>> 1 else (c >>> 1) ^^^ 0xEDB88320

/-- The checksums of single bytes. -/
private def crcTable : Array UInt32 :=
  Array.ofFn fun n : Fin 256 => (List.range 8).foldl (fun c _ => crcBit c) (UInt32.ofNat n.val)

/-- The checksum of a chunk. -/
def crc (bytes : ByteArray) : UInt32 :=
  let step (c : UInt32) (b : UInt8) : UInt32 :=
    (c >>> 8) ^^^ (crcTable[((c ^^^ b.toUInt32) &&& 0xFF).toNat]?.getD 0)
  bytes.foldl step 0xFFFFFFFF ^^^ 0xFFFFFFFF

/-- The checksum of stored data: two sums modulo a prime. -/
def adler (bytes : ByteArray) : Nat :=
  let (low, high) := bytes.foldl (fun (sums : Nat × Nat) b =>
    let low := (sums.1 + b.toNat) % 65521
    (low, (sums.2 + low) % 65521)) (1, 0)
  high * 65536 + low

/-- A chunk: length, type, data and checksum. -/
def chunk (type : String) (data : ByteArray) : ByteArray :=
  let body := type.toUTF8 ++ data
  Bytes.append (Bytes.append .empty (Bytes.bigEndian 4 data.size) ++ body)
    (Bytes.bigEndian 4 (crc body).toNat)

/-- Data in stored blocks, the last of them marked. -/
def stored (data : ByteArray) : ByteArray :=
  let size := 65535
  let blocks := max 1 ((data.size + size - 1) / size)
  let body := (List.range blocks).foldl (fun out i =>
    let block := data.extract (i * size) ((i + 1) * size)
    let last : UInt8 := if i + 1 = blocks then 1 else 0
    Bytes.append out (last :: Bytes.littleEndian 2 block.size ++
      Bytes.littleEndian 2 (65535 - block.size)) ++ block) (Bytes.append .empty [0x78, 0x01])
  Bytes.append body (Bytes.bigEndian 4 (adler data))

/-- The rows of a picture, each opened by the byte that says it is not filtered. -/
def scanlines (s : Sheet) : ByteArray :=
  (List.range s.height).foldl (fun out row =>
    (List.range s.width).foldl (fun out column =>
      let pixel := s.pixel (row * s.width + column)
      let c := Pixel.palette.get ⟨pixel.toNat, pixel.toNat_lt⟩
      Bytes.append out [c.red, c.green, c.blue]) (out.push 0)) .empty

/-- The chunk that ends a picture. -/
def closing : ByteArray :=
  chunk "IEND" .empty

/-- A sheet as a picture. -/
def encode (s : Sheet) : ByteArray :=
  let header := Bytes.bigEndian 4 s.width ++ Bytes.bigEndian 4 s.height ++ [8, 2, 0, 0, 0]
  Bytes.append .empty [0x89, 0x50, 0x4E, 0x47, 0x0D, 0x0A, 0x1A, 0x0A] ++
    chunk "IHDR" (Bytes.append .empty header) ++ chunk "IDAT" (stored (scanlines s)) ++
    closing

end PinPrinter.Png
