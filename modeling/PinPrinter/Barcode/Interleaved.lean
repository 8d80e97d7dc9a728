import PinPrinter.Barcode.Modules

/-! # Interleaved two of five

Digits come in pairs. Each digit is five elements, two of them wide; those of the first digit of a
pair are bars and those of the second one are the spaces between them.
-/

namespace PinPrinter.Barcode.Interleaved

/-- The elements of each digit, `W` for a wide one. -/
private def elements : List String :=
  ["NNWWN", "WNNNW", "NWNNW", "WWNNN", "NNWNW", "WNWNN", "NWWNN", "NNNWW", "WNNWN", "NWNWN"]

/-- The widths of the elements of a digit. -/
def widths (digit : Nat) : List Nat :=
  (elements[digit]?.getD "").toList.map fun c => if c = 'W' then 3 else 1

/-- A pair of digits: bars of the first one with spaces of the second one. -/
def pair (first second : Nat) : Modules :=
  ((widths first).zipWith (fun bar space => List.replicate bar true ++ List.replicate space false)
    (widths second)).flatten

/-- The pairs of a list of digits. -/
def pairs : List Nat → Modules
  | first :: second :: rest => pair first second ++ pairs rest
  | _ => []

/-- The symbol of some digits; a check digit makes their number even. -/
def encode (digits : List Nat) : Except Refusal Modules :=
  if digits = [] ∨ 256 < digits.length then .error .length
  else
    let digits :=
      if digits.length % 2 = 1 then digits ++ [checkDigit (weighted 3 1 digits)] else digits
    .ok (modules "1010" ++ pairs digits ++ modules "1101")

end PinPrinter.Barcode.Interleaved
