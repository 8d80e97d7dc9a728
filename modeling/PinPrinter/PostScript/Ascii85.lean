/-! # Bytes as visible characters

Four bytes are a number that is written with five digits of base 85, the digits being the
characters from `!` to `u`; four zero bytes are one `z`. A last group of fewer bytes has one digit
more than it has bytes. Lines have 79 columns at most, and none starts with the sign that would
make it a comment.
-/

namespace PinPrinter.Ascii85

/-- The number of columns of a line. -/
def lineWidth : Nat := 79

/-- The five digits of a number, the highest first, each by a division by its power of 85. -/
def digits (n : Nat) : List UInt8 :=
  [n / 52200625, n / 614125, n / 7225, n / 85, n].map fun q => UInt8.ofNat (q % 85 + 33)

/-- The number of four bytes. -/
def value (a b c d : UInt8) : Nat :=
  ((a.toNat * 256 + b.toNat) * 256 + c.toNat) * 256 + d.toNat

/-- The characters of a whole group. -/
def group (a b c d : UInt8) : List UInt8 :=
  if value a b c d = 0 then ['z'.toUInt8] else digits (value a b c d)

/-- Append the characters of bytes to what has been encoded. -/
def symbolsOnto (out : Array UInt8) : List UInt8 → Array UInt8
  | a :: b :: c :: d :: rest => symbolsOnto (out ++ group a b c d) rest
  | [a, b, c] => out ++ (digits (value a b c 0)).take 4
  | [a, b] => out ++ (digits (value a b 0 0)).take 3
  | [a] => out ++ (digits (value a 0 0 0)).take 2
  | [] => out

/-- The characters of bytes, without line ends. -/
def symbols (bytes : List UInt8) : Array UInt8 :=
  symbolsOnto #[] bytes

/-- Text that is being laid out in lines. -/
structure Lines where
  text : Array UInt8 := #[]
  /-- The number of characters on the line that is not full yet. -/
  column : Nat := 0
  deriving DecidableEq, Repr

namespace Lines

/-- Put a character on the line, and start a new one when it is full. -/
def put (l : Lines) (c : UInt8) : Lines :=
  let text := l.text.push c
  if lineWidth ≤ l.column + 1 then ⟨text.push 0x0A, 0⟩ else ⟨text, l.column + 1⟩

/-- Put a character on the line; a space keeps a comment sign from the first column. -/
def emit (l : Lines) (c : UInt8) : Lines :=
  if l.column = 0 ∧ c = '%'.toUInt8 then (l.put ' '.toUInt8).put c else l.put c

/-- The end marker goes on the line if both of its characters fit. -/
def finish (l : Lines) : Array UInt8 :=
  let text := if lineWidth - 2 < l.column then l.text.push 0x0A else l.text
  text ++ #['~'.toUInt8, '>'.toUInt8, 0x0A]

end Lines

/-- Bytes as lines of visible characters, with the end marker. -/
def encode (bytes : List UInt8) : Array UInt8 :=
  ((symbols bytes).foldl Lines.emit {}).finish

end PinPrinter.Ascii85
