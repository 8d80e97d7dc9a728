import Mathlib.Algebra.Group.Nat.Defs
import Mathlib.Data.List.Basic
import PinPrinter.Bitmap.Bmp
import PinPrinter.Proofs.BlankSheet

/-! # Reading a BMP picture

A reader of uncompressed pictures of 24 bits a pixel goes by the header: it looks for the rows where
the header says that they begin, and takes from each of them as many bytes as a whole number of
words has. What it finds in the picture of a sheet is the colour of every pixel in its place.
-/

namespace PinPrinter

namespace Bytes

/-- The number that bytes spell, the lowest first. -/
def number : List UInt8 → Nat
  | [] => 0
  | byte :: rest => byte.toNat + 256 * number rest

/-- The number in some bytes of a file. -/
def field (bytes : List UInt8) (offset width : Nat) : Nat :=
  number ((bytes.drop offset).take width)

theorem number_littleEndian {width n : Nat} (small : n < 256 ^ width) :
    number (littleEndian width n) = n := by
  induction width generalizing n with
  | zero =>
    rw [Nat.pow_zero] at small
    exact (Nat.lt_one_iff.mp small).symm
  | succ width ih =>
    have rest : n / 256 < 256 ^ width := by
      rw [Nat.pow_succ] at small
      omega
    rw [littleEndian, number, ih rest, UInt8.toNat_ofNat']
    omega

/-- The number that stands first. -/
theorem field_littleEndian {width n : Nat} (small : n < 256 ^ width) (rest : List UInt8) :
    field (littleEndian width n ++ rest) 0 width = n := by
  rw [field, List.drop_zero, List.take_left' (length_littleEndian width n),
    number_littleEndian small]

/-- A field behind some bytes is found without them. -/
theorem field_append {front : List UInt8} {offset : Nat} (behind : front.length ≤ offset)
    (rest : List UInt8) (width : Nat) :
    field (front ++ rest) offset width = field rest (offset - front.length) width := by
  rw [field, field, List.drop_append, List.drop_of_length_le behind, List.nil_append]

theorem toList_append (out : ByteArray) (bytes : List UInt8) :
    (append out bytes).data.toList = out.data.toList ++ bytes := by
  rw [append]
  induction bytes generalizing out with
  | nil => exact (List.append_nil _).symm
  | cons byte rest ih =>
    rw [List.foldl_cons, ih, ByteArray.data_push, Array.toList_push, List.append_assoc]
    rfl

/-- Where each step appends some bytes, all of them are appended in the end. -/
theorem toList_foldl {α : Type} {step : ByteArray → α → ByteArray} {piece : α → List UInt8}
    (appends : ∀ out a, (step out a).data.toList = out.data.toList ++ piece a) (all : List α)
    (out : ByteArray) :
    (all.foldl step out).data.toList = out.data.toList ++ all.flatMap piece := by
  induction all generalizing out with
  | nil => exact (List.append_nil _).symm
  | cons a rest ih => rw [List.foldl_cons, ih, appends, List.append_assoc, List.flatMap_cons]

end Bytes

namespace Bmp

open Bytes (field number)

/-! ## The reader -/

/-- What is seen in a picture, its rows from the top down. -/
structure Picture where
  width : Nat
  height : Nat
  rows : List (List Pixel.Color)
  deriving DecidableEq

/-- The colour in a column and a row of a picture. -/
def Picture.color? (p : Picture) (column row : Nat) : Option Pixel.Color :=
  p.rows[row]? >>= (·[column]?)

/-- Read the colours of so many pixels. -/
def readColors : Nat → List UInt8 → Option (List Pixel.Color × List UInt8)
  | 0, bytes => some ([], bytes)
  | count + 1, blue :: green :: red :: rest =>
    (readColors count rest).map fun (colors, rest) => (⟨red, green, blue⟩ :: colors, rest)
  | _ + 1, _ => none

/-- The bytes of a row, which are whole words. -/
def stride (width : Nat) : Nat :=
  (3 * width + 3) / 4 * 4

/-- Read a row: its colours, and nothing but zeros behind them. -/
def readRow (width : Nat) (bytes : List UInt8) : Option (List Pixel.Color) :=
  match readColors width bytes with
  | some (colors, rest) => if rest.all (· == 0) then some colors else none
  | none => none

/-- Read so many rows up to the end of the file. -/
def readRows (width : Nat) : Nat → List UInt8 → Option (List (List Pixel.Color))
  | 0, bytes => if bytes.isEmpty then some [] else none
  | count + 1, bytes =>
    match readRow width (bytes.take (stride width)) with
    | some row => (readRows width count (bytes.drop (stride width))).map (row :: ·)
    | none => none

/-- Read a picture. Its sizes are signed numbers, of which a negative height would tell that the
rows are from the top down. -/
def read? (bytes : List UInt8) : Option Picture :=
  let width := field bytes 18 4
  let height := field bytes 22 4
  if bytes.take 2 = ['B'.toUInt8, 'M'.toUInt8] ∧ field bytes 2 4 = bytes.length ∧
      field bytes 6 2 = 0 ∧ field bytes 8 2 = 0 ∧ field bytes 14 4 = 40 ∧
      width < 2 ^ 31 ∧ height < 2 ^ 31 ∧ field bytes 26 2 = 1 ∧ field bytes 28 2 = 24 ∧
      field bytes 30 4 = 0 ∧ field bytes 34 4 = stride width * height then
    (readRows width height (bytes.drop (field bytes 10 4))).map fun rows =>
      ⟨width, height, rows.reverse⟩
  else none

/-! ## What is written -/

theorem stride_eq (width : Nat) : stride width = 3 * width + padding width := by
  unfold stride padding
  omega

/-- The bytes of a row of a sheet. -/
def rowBytes (s : Sheet) (row : Nat) : List UInt8 :=
  (List.range s.width).flatMap (fun column => pixelBytes (s.pixel (row * s.width + column))) ++
    List.replicate (padding s.width) 0

theorem toList_encode (s : Sheet) :
    (encode s).data.toList =
      header s.width s.height ++ (List.range s.height).reverse.flatMap (rowBytes s) := by
  have appends (out : ByteArray) (row : Nat) :
      (appendRow s out row).data.toList = out.data.toList ++ rowBytes s row := by
    rw [appendRow, Bytes.toList_append, Bytes.toList_foldl fun out column =>
      Bytes.toList_append out (pixelBytes (s.pixel (row * s.width + column))), List.append_assoc]
    rfl
  have empty : ByteArray.empty.data.toList = [] := rfl
  rw [encode, Bytes.toList_foldl appends, Bytes.toList_append, empty, List.nil_append]

theorem length_rowBytes (s : Sheet) (row : Nat) : (rowBytes s row).length = stride s.width := by
  have three (pixel : UInt8) : (pixelBytes pixel).length = 3 := rfl
  simp [rowBytes, List.length_flatMap, three, stride_eq, Nat.mul_comm]

/-! ## What is read -/

theorem palette_get (pixel : UInt8) :
    Pixel.palette.get ⟨pixel.toNat, pixel.toNat_lt⟩ = Pixel.color pixel := by
  have place : pixel.toNat < 256 := pixel.toNat_lt
  change Pixel.palette[pixel.toNat] = _
  rw [Pixel.palette, Vector.getElem_ofFn, UInt8.ofNat_toNat]

/-- The colours of a row of a sheet. -/
def rowColors (s : Sheet) (row : Nat) : List Pixel.Color :=
  (List.range s.width).map fun column => Pixel.color (s.pixel (row * s.width + column))

theorem readColors_flatMap (pixels : List UInt8) (rest : List UInt8) :
    readColors pixels.length (pixels.flatMap pixelBytes ++ rest) =
      some (pixels.map Pixel.color, rest) := by
  induction pixels with
  | nil => rfl
  | cons pixel others ih =>
    have bytes : (pixel :: others).flatMap pixelBytes ++ rest =
        (Pixel.color pixel).blue :: (Pixel.color pixel).green :: (Pixel.color pixel).red ::
          (others.flatMap pixelBytes ++ rest) := by
      rw [List.flatMap_cons, pixelBytes, palette_get, List.append_assoc]
      rfl
    rw [bytes, List.length_cons, readColors, ih]
    rfl

theorem readRow_rowBytes (s : Sheet) (row : Nat) :
    readRow s.width (rowBytes s row) = some (rowColors s row) := by
  let pixels := (List.range s.width).map fun column => s.pixel (row * s.width + column)
  have bytes : rowBytes s row =
      pixels.flatMap pixelBytes ++ List.replicate (padding s.width) 0 := by
    rw [rowBytes, List.flatMap_map]
  have read := readColors_flatMap pixels (List.replicate (padding s.width) 0)
  rw [← bytes, List.length_map, List.length_range] at read
  have zeros : (List.replicate (padding s.width) (0 : UInt8)).all (· == 0) = true := by simp
  rw [readRow, read]
  dsimp only
  rw [zeros, if_pos rfl, List.map_map]
  rfl

theorem readRows_flatMap (s : Sheet) (rows : List Nat) :
    readRows s.width rows.length (rows.flatMap (rowBytes s)) = some (rows.map (rowColors s)) := by
  induction rows with
  | nil => rfl
  | cons row rest ih =>
    have length := length_rowBytes s row
    rw [List.length_cons, List.flatMap_cons, readRows, ← length, List.take_left, List.drop_left,
      readRow_rowBytes]
    dsimp only
    rw [ih]
    rfl

theorem length_header (width height : Nat) : (header width height).length = headerSize := by
  simp [header, headerSize]

/-- What the fields of the header say. -/
theorem fields_header {width height : Nat} (wide : width < 2 ^ 32) (high : height < 2 ^ 32)
    (small : headerSize + imageSize width height < 2 ^ 32) (rest : List UInt8) :
    let bytes := header width height ++ rest
    field bytes 2 4 = headerSize + imageSize width height ∧ field bytes 6 2 = 0 ∧
      field bytes 8 2 = 0 ∧ field bytes 10 4 = headerSize ∧ field bytes 14 4 = 40 ∧
      field bytes 18 4 = width ∧ field bytes 22 4 = height ∧ field bytes 26 2 = 1 ∧
      field bytes 28 2 = 24 ∧ field bytes 30 4 = 0 ∧
      field bytes 34 4 = imageSize width height := by
  have size : imageSize width height < 2 ^ 32 := Nat.lt_of_le_of_lt (Nat.le_add_left ..) small
  simp +decide only [header, List.append_assoc, Bytes.field_append, Bytes.length_littleEndian,
    List.length_cons, List.length_nil]
  refine ⟨?_, ?_, ?_, ?_, ?_, ?_, ?_, ?_, ?_, ?_, ?_⟩ <;>
    exact Bytes.field_littleEndian (by first | assumption | decide) _

/-- The reader finds the sizes in the header, and the rows behind it. -/
theorem read?_header {width height : Nat} (wide : 0 < width) (high : 0 < height)
    (small : headerSize + imageSize width height < 2 ^ 32) {rest : List UInt8}
    (length : rest.length = imageSize width height) :
    read? (header width height ++ rest) =
      (readRows width height rest).map fun rows => ⟨width, height, rows.reverse⟩ := by
  have size : imageSize width height = stride width * height := by rw [imageSize, stride_eq]
  have row : 3 * width ≤ stride width := by
    rw [stride_eq]
    exact Nat.le_add_right ..
  have columns : stride width ≤ imageSize width height := by
    rw [size]
    exact Nat.le_mul_of_pos_right _ high
  have rows : 3 * height ≤ imageSize width height := by
    rw [size]
    exact Nat.mul_le_mul_right _ (by omega)
  have letters : (header width height ++ rest).take 2 = ['B'.toUInt8, 'M'.toUInt8] := by
    simp only [header, List.append_assoc, List.cons_append, List.take_succ_cons, List.take_zero]
  have whole : (header width height ++ rest).length = headerSize + imageSize width height := by
    rw [List.length_append, length_header, length]
  have behind : (header width height ++ rest).drop headerSize = rest :=
    List.drop_left' (length_header width height)
  obtain ⟨file, first, second, start, block, across, down, planes, bits, plain, image⟩ :=
    fields_header (by omega) (by omega) small rest
  rw [read?, file, first, second, start, block, across, down, planes, bits, plain, image, behind,
    if_pos ⟨letters, whole.symm, rfl, rfl, rfl, by omega, by omega, rfl, rfl, rfl, size⟩]

/-- Reading the picture of a sheet gives back its size, and at each of its places the colour of the
pixel there. -/
theorem read?_encode (s : Sheet) (wide : 0 < s.width) (high : 0 < s.height)
    (small : headerSize + imageSize s.width s.height < 2 ^ 32) :
    ∃ picture, read? (encode s).data.toList = some picture ∧
      picture.width = s.width ∧ picture.height = s.height ∧
        ∀ x y : Nat, x < s.width → y < s.height →
          ∃ pixel, s.get? x y = some pixel ∧ picture.color? x y = some (Pixel.color pixel) := by
  have length : ((List.range s.height).reverse.flatMap (rowBytes s)).length =
      imageSize s.width s.height := by
    simp [List.length_flatMap, length_rowBytes, imageSize, stride_eq, Nat.mul_comm]
  have rows := readRows_flatMap s (List.range s.height).reverse
  rw [List.length_reverse, List.length_range] at rows
  refine ⟨⟨s.width, s.height, (List.range s.height).map (rowColors s)⟩, ?_, rfl, rfl, ?_⟩
  · rw [toList_encode, read?_header wide high small length, rows, Option.map_some,
      ← List.map_reverse, List.reverse_reverse]
  · intro x y left above
    have on : s.On x y := ⟨⟨by omega, by omega⟩, by omega, by omega⟩
    refine ⟨_, Sheet.get?_of_on on, ?_⟩
    simp [Picture.color?, rowColors, left, above]

/-- A sheet of three columns and two rows, whose rows are filled up with three zeros. -/
theorem read?_encode_uneven :
    let s : Sheet := ⟨3, 2, 72, #v[0x00, 0xFF, 0x3F, 0x5F, 0x9F, 0xE1]⟩
    0 < s.width ∧ 0 < s.height ∧ headerSize + imageSize s.width s.height < 2 ^ 32 ∧
      ∃ picture, read? (encode s).data.toList = some picture ∧
        picture.color? 2 0 = some (Pixel.color 0x3F) ∧
        picture.color? 0 1 = some (Pixel.color 0x5F) := by
  intro s
  have small : headerSize + imageSize s.width s.height < 2 ^ 32 := by decide
  obtain ⟨picture, read, -, -, colors⟩ := read?_encode s (by decide) (by decide) small
  obtain ⟨first, stands, seen⟩ := colors 2 0 (by decide) (by decide)
  obtain ⟨second, stands', seen'⟩ := colors 0 1 (by decide) (by decide)
  obtain rfl : 0x3F = first := Option.some.inj stands
  obtain rfl : 0x5F = second := Option.some.inj stands'
  exact ⟨by decide, by decide, small, picture, read, seen, seen'⟩

end Bmp

end PinPrinter
