import PinPrinter.Barcode.Modules

/-! # Code 39

Digits, capital letters and a few signs, each of twelve modules with a space behind it, between two
guards. There is no check character.
-/

namespace PinPrinter.Barcode.Code39

/-- The characters of the symbology. -/
def alphabet : String :=
  "0123456789ABCDEFGHIJKLMNOPQRSTUVWXYZ-. $/+%"

private def patterns : List String := [
    "101001101101", "110100101011", "101100101011", "110110010101", "101001101011",
    "110100110101", "101100110101", "101001011011", "110100101101", "101100101101",
    "110101001011", "101101001011", "110110100101", "101011001011", "110101100101",
    "101101100101", "101010011011", "110101001101", "101101001101", "101011001101",
    "110101010011", "101101010011", "110110101001", "101011010011", "110101101001",
    "101101101001", "101010110011", "110101011001", "101101011001", "101011011001",
    "110010101011", "100110101011", "110011010101", "100101101011", "110010110101",
    "100110110101", "100101011011", "110010101101", "100110101101", "100100100101",
    "100100101001", "100101001001", "101001001001"]

private def guard : Modules := modules "100101101101"

private def gap : Modules := [false]

/-- The pattern of a character. -/
def pattern? (c : Char) : Option Modules :=
  (alphabet.toList.zip patterns).lookup c |>.map modules

/-- The symbol of a text. -/
def encode (text : List Char) : Except Refusal Modules :=
  let length := (String.ofList text).utf8ByteSize
  if length < 1 ∨ 256 < length then .error .length
  else
    match text.mapM pattern? with
    | none => .error .character
    | some patterns => .ok (guard ++ gap ++ patterns.flatMap (· ++ gap) ++ guard)

end PinPrinter.Barcode.Code39
