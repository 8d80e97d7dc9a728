/-! # Numbers as bytes

Fixed-width numbers in either order of their bytes.
-/

namespace PinPrinter.Bytes

/-- A number as `width` bytes, the lowest first. -/
def littleEndian : Nat → Nat → List UInt8
  | 0, _ => []
  | width + 1, n => UInt8.ofNat (n % 256) :: littleEndian width (n / 256)

/-- A number as `width` bytes, the highest first. -/
def bigEndian (width n : Nat) : List UInt8 :=
  (littleEndian width n).reverse

/-- Append bytes to a byte array. -/
def append (out : ByteArray) (bytes : List UInt8) : ByteArray :=
  bytes.foldl ByteArray.push out

@[simp] theorem length_littleEndian (width n : Nat) : (littleEndian width n).length = width := by
  induction width generalizing n with
  | zero => rfl
  | succ width ih => simp [littleEndian, ih]

end PinPrinter.Bytes
