/-! # JSON

Values of the JSON format, read and written. An object keeps its members in their order, repeated
keys included. A string whose escapes do not spell characters, such as half of a pair, can be passed
over but has no value.
-/

namespace PinPrinter

/-- A JSON value. -/
inductive Json where
  | null
  | bool (value : Bool)
  /-- A whole number without sign, fraction and exponent. -/
  | natural (value : Nat)
  /-- Any other number, as it is written. -/
  | number (text : String)
  | string (value : Option String)
  | array (elements : List Json)
  | object (members : List (Option String × Json))

namespace Json

/-! ## Reading -/

/-- The characters that may stand between the parts of a value. -/
def isBlank (c : Char) : Bool :=
  c == ' ' || c == '\n' || c == '\t' || c == '\r'

/-- Pass over blanks. -/
def skipBlanks (text : List Char) : List Char :=
  text.dropWhile isBlank

/-- The value of a hexadecimal digit. -/
def hexDigit? (c : Char) : Option Nat :=
  if c.isDigit then some (c.toNat - '0'.toNat)
  else if 'a' ≤ c ∧ c ≤ 'f' then some (c.toNat - 'a'.toNat + 10)
  else if 'A' ≤ c ∧ c ≤ 'F' then some (c.toNat - 'A'.toNat + 10)
  else none

/-- A number of four hexadecimal digits. -/
def hexWord? : List Char → Option (Nat × List Char)
  | a :: b :: c :: d :: rest => do
    let a ← hexDigit? a
    let b ← hexDigit? b
    let c ← hexDigit? c
    let d ← hexDigit? d
    return (((a * 16 + b) * 16 + c) * 16 + d, rest)
  | _ => none

/-- The number of the second half of a pair, where one follows. -/
def lowHalf? : List Char → Option (Nat × List Char)
  | '\\' :: 'u' :: rest =>
    match hexWord? rest with
    | some (low, rest) => if 0xDC00 ≤ low ∧ low ≤ 0xDFFF then some (low, rest) else none
    | none => none
  | _ => none

/-- The character of an escaped number; none for half of a pair. -/
def escaped? (word : Nat) (rest : List Char) : Option Char × List Char :=
  if 0xD800 ≤ word ∧ word ≤ 0xDBFF then
    match lowHalf? rest with
    | some (low, rest) =>
      (some (Char.ofNat (0x10000 + (word - 0xD800) * 0x400 + (low - 0xDC00))), rest)
    | none => (none, rest)
  else if 0xDC00 ≤ word ∧ word ≤ 0xDFFF then (none, rest)
  else (some (Char.ofNat word), rest)

/-- The character of an escape of one letter. -/
def letterEscape? (c : Char) : Option Char :=
  match c.toNat with
  | 0x22 => some '\x22'
  | 0x5C => some '\\'
  | 0x2F => some '/'
  | 0x62 => some '\x08'
  | 0x66 => some '\x0c'
  | 0x6E => some '\n'
  | 0x72 => some '\r'
  | 0x74 => some '\t'
  | _ => none

/-- Read a string behind its opening quote. Each character takes one unit of `fuel`; `read` holds
the characters so far, reversed, as long as all of them have a value. -/
def readString (fuel : Nat) (read : Option (List Char)) (text : List Char) :
    Option (Option String × List Char) :=
  match fuel, text with
  | fuel + 1, c :: rest =>
    if c = '\x22' then some (read.map fun chars => String.ofList chars.reverse, rest)
    else if c = '\\' then
      match rest with
      | [] => none
      | 'u' :: rest =>
        match hexWord? rest with
        | none => none
        | some (word, rest) =>
          let (char, rest) := escaped? word rest
          readString fuel (read.bind fun chars => char.map (· :: chars)) rest
      | letter :: rest =>
        match letterEscape? letter with
        | none => none
        | some char => readString fuel (read.map (char :: ·)) rest
    else if c.toNat < 0x20 then none
    else readString fuel (read.map (c :: ·)) rest
  | _, _ => none

/-- The digits at the front. -/
def digits (text : List Char) : List Char × List Char :=
  (text.takeWhile Char.isDigit, text.dropWhile Char.isDigit)

/-- The fraction at the front, if there is one; none if it has no digits. -/
def fraction? : List Char → Option (List Char × List Char)
  | '.' :: rest =>
    let (ds, rest) := digits rest
    if ds.isEmpty then none else some ('.' :: ds, rest)
  | text => some ([], text)

/-- The exponent at the front, if there is one; none if it has no digits. -/
def exponent? : List Char → Option (List Char × List Char)
  | c :: rest =>
    if c = 'e' ∨ c = 'E' then
      let (sign, rest) := match rest with
        | '+' :: rest => (['+'], rest)
        | '-' :: rest => (['-'], rest)
        | rest => ([], rest)
      let (ds, rest) := digits rest
      if ds.isEmpty then none else some (c :: sign ++ ds, rest)
    else some ([], c :: rest)
  | [] => some ([], [])

/-- The whole part of a number: a zero stands alone. -/
def whole? (text : List Char) : Option (List Char × List Char) :=
  match text with
  | '0' :: rest =>
    match rest with
    | c :: _ => if c.isDigit then none else some (['0'], rest)
    | [] => some (['0'], [])
  | _ =>
    let (ds, rest) := digits text
    if ds.isEmpty then none else some (ds, rest)

/-- The value of decimal digits. -/
def decimal (ds : List Char) : Nat :=
  ds.foldl (fun n c => 10 * n + (c.toNat - '0'.toNat)) 0

/-- Read a number. -/
def readNumber (text : List Char) : Option (Json × List Char) :=
  let (sign, text) := match text with
    | '-' :: rest => (['-'], rest)
    | text => ([], text)
  match whole? text with
  | none => none
  | some (ds, rest) =>
    match fraction? rest with
    | none => none
    | some (fraction, rest) =>
      match exponent? rest with
      | none => none
      | some (exponent, rest) =>
        if sign.isEmpty && fraction.isEmpty && exponent.isEmpty then
          some (.natural (decimal ds), rest)
        else some (.number (String.ofList (sign ++ ds ++ fraction ++ exponent)), rest)

/-- Pass over a word. -/
def readWord (word : List Char) (value : Json) (text : List Char) : Option (Json × List Char) :=
  if word.isPrefixOf text then some (value, text.drop word.length) else none

mutual

/-- Read a value; each value takes one unit of `fuel`. -/
def readValue (fuel : Nat) (text : List Char) : Option (Json × List Char) :=
  match fuel with
  | 0 => none
  | fuel + 1 =>
    match skipBlanks text with
    | [] => none
    | c :: rest =>
      match c.toNat with
      | 0x22 => (readString (rest.length + 1) (some []) rest).map fun (s, rest) => (.string s, rest)
      | 0x5B =>
        match skipBlanks rest with
        | ']' :: rest => some (.array [], rest)
        | rest => (readElements fuel rest).map fun (elements, rest) => (.array elements, rest)
      | 0x7B =>
        match skipBlanks rest with
        | '\x7d' :: rest => some (.object [], rest)
        | rest => (readMembers fuel rest).map fun (members, rest) => (.object members, rest)
      | 0x6E => readWord "null".toList .null (c :: rest)
      | 0x74 => readWord "true".toList (.bool true) (c :: rest)
      | 0x66 => readWord "false".toList (.bool false) (c :: rest)
      | _ => readNumber (c :: rest)

/-- Read the elements of an array up to its end; there is at least one. -/
def readElements (fuel : Nat) (text : List Char) : Option (List Json × List Char) :=
  match fuel with
  | 0 => none
  | fuel + 1 =>
    match readValue fuel text with
    | none => none
    | some (value, rest) =>
      match skipBlanks rest with
      | ',' :: rest => (readElements fuel rest).map fun (values, rest) => (value :: values, rest)
      | ']' :: rest => some ([value], rest)
      | _ => none

/-- Read the members of an object up to its end; there is at least one. -/
def readMembers (fuel : Nat) (text : List Char) :
    Option (List (Option String × Json) × List Char) :=
  match fuel with
  | 0 => none
  | fuel + 1 =>
    match skipBlanks text with
    | '\x22' :: rest =>
      match readString (rest.length + 1) (some []) rest with
      | none => none
      | some (key, rest) =>
        match skipBlanks rest with
        | ':' :: rest =>
          match readValue fuel rest with
          | none => none
          | some (value, rest) =>
            match skipBlanks rest with
            | ',' :: rest =>
              (readMembers fuel rest).map fun (members, rest) => ((key, value) :: members, rest)
            | '\x7d' :: rest => some ([(key, value)], rest)
            | _ => none
        | _ => none
    | _ => none

end

/-- Read a text that holds one value and nothing else. Every value, element and member takes at
least one character, so a few units for each character are enough. -/
def parse (text : String) : Option Json :=
  let chars := text.toList
  match readValue (2 * chars.length + 2) chars with
  | some (value, rest) => if (skipBlanks rest).isEmpty then some value else none
  | none => none

/-! ## Writing -/

/-- A small hexadecimal digit. -/
def hexDigit (n : Nat) : Char :=
  if n < 10 then Char.ofNat ('0'.toNat + n) else Char.ofNat ('a'.toNat + n - 10)

/-- A character as it stands in a string. -/
def escape (c : Char) : List Char :=
  match c.toNat with
  | 0x22 => ['\\', '\x22']
  | 0x5C => ['\\', '\\']
  | 0x08 => ['\\', 'b']
  | 0x0C => ['\\', 'f']
  | 0x0A => ['\\', 'n']
  | 0x0D => ['\\', 'r']
  | 0x09 => ['\\', 't']
  | n => if n < 0x20 then ['\\', 'u', '0', '0', hexDigit (n / 16), hexDigit (n % 16)] else [c]

/-- A string between quotes. -/
def quote (s : String) : List Char :=
  '\x22' :: s.toList.flatMap escape ++ ['\x22']

mutual

/-- The shortest text of a value. -/
def render : Json → List Char
  | null => "null".toList
  | bool true => "true".toList
  | bool false => "false".toList
  | natural n => (toString n).toList
  | number text => text.toList
  | string value => quote (value.getD "")
  | array elements => '[' :: renderElements elements ++ [']']
  | object members => '\x7b' :: renderMembers members ++ ['\x7d']

/-- Elements with commas between them. -/
def renderElements : List Json → List Char
  | [] => []
  | [value] => render value
  | value :: rest => render value ++ ',' :: renderElements rest

/-- Members with commas between them. -/
def renderMembers : List (Option String × Json) → List Char
  | [] => []
  | [(key, value)] => quote (key.getD "") ++ ':' :: render value
  | (key, value) :: rest => quote (key.getD "") ++ ':' :: render value ++ ',' :: renderMembers rest

end

end Json

end PinPrinter
