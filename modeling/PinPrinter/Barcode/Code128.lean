import PinPrinter.Barcode.Modules

/-! # Code 128

Three sets give each of about a hundred patterns three meanings. Characters outside of the byte
range select a set: at the start they choose the pattern that opens the symbol, later the pattern
that switches to the set. Set C has two digits to a pattern. A weighted sum of all patterns closes
the symbol.
-/

namespace PinPrinter.Barcode.Code128

private def patterns : Array String := #[
  "11011001100", "11001101100", "11001100110", "10010011000", "10010001100", "10001001100",
  "10011001000", "10011000100", "10001100100", "11001001000", "11001000100", "11000100100",
  "10110011100", "10011011100", "10011001110", "10111001100", "10011101100", "10011100110",
  "11001110010", "11001011100", "11001001110", "11011100100", "11001110100", "11101101110",
  "11101001100", "11100101100", "11100100110", "11101100100", "11100110100", "11100110010",
  "11011011000", "11011000110", "11000110110", "10100011000", "10001011000", "10001000110",
  "10110001000", "10001101000", "10001100010", "11010001000", "11000101000", "11000100010",
  "10110111000", "10110001110", "10001101110", "10111011000", "10111000110", "10001110110",
  "11101110110", "11010001110", "11000101110", "11011101000", "11011100010", "11011101110",
  "11101011000", "11101000110", "11100010110", "11101101000", "11101100010", "11100011010",
  "11101111010", "11001000010", "11110001010", "10100110000", "10100001100", "10010110000",
  "10010000110", "10000101100", "10000100110", "10110010000", "10110000100", "10011010000",
  "10011000010", "10000110100", "10000110010", "11000010010", "11001010000", "11110111010",
  "11000010100", "10001111010", "10100111100", "10010111100", "10010011110", "10111100100",
  "10011110100", "10011110010", "11110100100", "11110010100", "11110010010", "11011011110",
  "11011110110", "11110110110", "10101111000", "10100011110", "10001011110", "10111101000",
  "10111100010", "11110101000", "11110100010", "10111011110", "10111101110", "11101011110",
  "11110101110", "11010000100", "11010010000", "11010011100"]

private def stop : Modules := modules "1100011101011"

/-- The three meanings of a pattern. -/
inductive CodeSet where
  | a
  | b
  | c
  deriving DecidableEq, Repr

namespace CodeSet

/-- The character that selects a set. -/
def selector : CodeSet → Char
  | a => '\u00c0'
  | b => '\u0181'
  | c => '\u0106'

/-- The set that a character selects. -/
def ofSelector? (x : Char) : Option CodeSet :=
  [a, b, c].find? fun set => set.selector = x

/-- The number of the pattern that opens a symbol in a set. -/
def opening : CodeSet → Nat
  | a => 103
  | b => 104
  | c => 105

/-- The number of the pattern that switches from a set to another one. -/
def switch? : CodeSet → CodeSet → Option Nat
  | a, b => some 100
  | a, c => some 99
  | b, a => some 101
  | b, c => some 99
  | c, a => some 101
  | c, b => some 100
  | _, _ => none

/-- The number of a character in a set. Set C has no single characters. -/
def index? (set : CodeSet) (x : Char) : Option Nat :=
  let n := x.toNat
  match set with
  | a => if 0x20 ≤ n ∧ n ≤ 0x5F then some (n - 0x20) else if n < 0x20 then some (n + 64) else none
  | b => if 0x20 ≤ n ∧ n ≤ 0x7E then some (n - 0x20) else if n = 0xF7 then some 95 else none
  | c => none

end CodeSet

/-- The pattern numbers of what follows in a set; `half` is the first digit of a pair. -/
def indices? (set : CodeSet) (half : Option Nat) : List Char → Option (List Nat)
  | [] => if half.isSome then none else some []
  | x :: rest =>
    match CodeSet.ofSelector? x with
    | some next =>
      if half.isSome then none
      else
        match set.switch? next with
        | none => none
        | some index => (indices? next none rest).map (index :: ·)
    | none =>
      match set, digit? x with
      | .c, some digit =>
        match half with
        | none => indices? .c (some digit) rest
        | some tens => (indices? .c none rest).map ((10 * tens + digit) :: ·)
      | _, _ =>
        match set.index? x with
        | none => none
        | some index => (indices? set half rest).map (index :: ·)

/-- The sum that checks a symbol: each number counts by its place, the first one like the second. -/
def checksum (numbers : List Nat) : Nat :=
  numbers.zipIdx.foldl (fun sum (number, place) => sum + number * max 1 place) 0 % 103

/-- The symbol of a text that opens with the selector of a set. -/
def encode (text : List Char) : Except Refusal Modules :=
  if (String.ofList text).utf8ByteSize < 2 then .error .length
  else
    match text with
    | [] => .error .length
    | x :: rest =>
      match CodeSet.ofSelector? x with
      | none => .error .character
      | some set =>
        match indices? set none rest with
        | none => .error .character
        | some numbers =>
          let numbers := set.opening :: numbers
          let pattern (n : Nat) : Modules := modules (patterns[n]?.getD "")
          .ok (numbers.flatMap pattern ++ pattern (checksum numbers) ++ stop)

end PinPrinter.Barcode.Code128
