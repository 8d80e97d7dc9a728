import PinPrinter.Barcode.Modules

/-! # Article numbers

The symbols of article numbers have thirteen or eight digits, of which the last one checks the
others. A digit is seven modules in one of three sets; the first digit of the long form is told by
the sets of the six that follow it.
-/

namespace PinPrinter.Barcode.Article

/-- The three forms of a digit. -/
inductive DigitSet where
  | a
  | b
  | c
  deriving DecidableEq, Repr

private def patternsA : List String :=
  ["0001101", "0011001", "0010011", "0111101", "0100011", "0110001", "0101111", "0111011",
    "0110111", "0001011"]

private def patternsB : List String :=
  ["0100111", "0110011", "0011011", "0100001", "0011101", "0111001", "0000101", "0010001",
    "0001001", "0010111"]

private def patternsC : List String :=
  ["1110010", "1100110", "1101100", "1000010", "1011100", "1001110", "1010000", "1000100",
    "1001000", "1110100"]

/-- The pattern of a digit in a set. -/
def pattern (set : DigitSet) (digit : Nat) : Modules :=
  let patterns := match set with
    | .a => patternsA
    | .b => patternsB
    | .c => patternsC
  modules (patterns[digit]?.getD "")

/-- The sets of the left half that tell each first digit, `1` for set B. -/
private def parities : List String :=
  ["00000", "01011", "01101", "01110", "10011", "11001", "11100", "10101", "10110", "11010"]

/-- The sets of the third to the seventh digit, which tell the first one. -/
def leftSets (first : Nat) : List DigitSet :=
  (parities[first]?.getD "").toList.map fun c => if c = '1' then .b else .a

private def guard : Modules := modules "101"

private def middle : Modules := modules "01010"

/-- Digits in one set. -/
def encodeAll (set : DigitSet) (digits : List Nat) : Modules :=
  digits.flatMap (pattern set)

/-- The symbol of twelve digits, with its check digit. -/
def long (digits : List Nat) : Modules :=
  let check := checkDigit (weighted 1 3 (digits.take 12))
  let left := ((digits.drop 2).take 5).zipWith (fun d set => pattern set d)
    (leftSets (digits[0]?.getD 0))
  guard ++ pattern .a (digits[1]?.getD 0) ++ left.flatten ++ middle ++
    encodeAll .c ((digits.drop 7).take 5) ++ pattern .c check ++ guard

/-- The symbol of seven digits, with its check digit. -/
def short (digits : List Nat) : Modules :=
  let check := checkDigit (weighted 3 1 (digits.take 7))
  guard ++ encodeAll .a (digits.take 4) ++ middle ++ encodeAll .c ((digits.drop 4).take 3) ++
    pattern .c check ++ guard

/-- The symbol of a long article number, if the number of digits is right. -/
def encodeLong (digits : List Nat) : Except Refusal Modules :=
  if digits.length = 12 then .ok (long digits) else .error .length

/-- The symbol of a short article number, if the number of digits is right. -/
def encodeShort (digits : List Nat) : Except Refusal Modules :=
  if digits.length = 7 then .ok (short digits) else .error .length

end PinPrinter.Barcode.Article
