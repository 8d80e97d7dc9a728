import Mathlib.Data.List.Basic
import PinPrinter.Json

/-! # Reading what is written

A value that can be written is read back from its text, whatever follows it, as long as that does
not go on with a number.
-/

namespace PinPrinter.Json

/-! ## Values that can be written -/

/-- Digits, one at least. -/
structure IsDigits (ds : List Char) : Prop where
  some : ds ≠ []
  all : ∀ c ∈ ds, c.isDigit = true

/-- A whole number has no zero in front, unless it is zero. -/
inductive IsWhole : List Char → Prop
  | zero : IsWhole ['0']
  | digits {d : Char} {ds : List Char} (first : d ≠ '0') (digits : IsDigits (d :: ds)) :
    IsWhole (d :: ds)

/-- A fraction, which may be missing. -/
inductive IsFraction : List Char → Prop
  | missing : IsFraction []
  | digits {ds : List Char} (digits : IsDigits ds) : IsFraction ('.' :: ds)

/-- An exponent, which may be missing. -/
inductive IsExponent : List Char → Prop
  | missing : IsExponent []
  | unsigned {mark : Char} {ds : List Char} (marks : mark = 'e' ∨ mark = 'E')
    (digits : IsDigits ds) : IsExponent (mark :: ds)
  | signed {mark sign : Char} {ds : List Char} (marks : mark = 'e' ∨ mark = 'E')
    (signs : sign = '+' ∨ sign = '-') (digits : IsDigits ds) : IsExponent (mark :: sign :: ds)

/-- A number that is more than its whole part. -/
inductive IsNumeral : List Char → Prop
  | negative {whole fraction exponent : List Char} (isWhole : IsWhole whole)
    (isFraction : IsFraction fraction) (isExponent : IsExponent exponent) :
    IsNumeral ('-' :: (whole ++ fraction ++ exponent))
  | positive {whole fraction exponent : List Char} (isWhole : IsWhole whole)
    (isFraction : IsFraction fraction) (isExponent : IsExponent exponent)
    (more : fraction ≠ [] ∨ exponent ≠ []) : IsNumeral (whole ++ fraction ++ exponent)

/-- A value that has a text: its numbers are spelled as such, its strings and keys have values. -/
inductive Writable : Json → Prop
  | null : Writable .null
  | bool (value : Bool) : Writable (.bool value)
  | natural (value : Nat) : Writable (.natural value)
  | number {text : String} (numeral : IsNumeral text.toList) : Writable (.number text)
  | string (value : String) : Writable (.string (some value))
  | array {elements : List Json} (all : ∀ value ∈ elements, Writable value) :
    Writable (.array elements)
  | object {members : List (Option String × Json)}
    (keys : ∀ member ∈ members, member.1.isSome = true)
    (values : ∀ member ∈ members, Writable member.2) : Writable (.object members)

/-! ## Numbers -/

/-- Nothing here would make a number longer. -/
def Stops (rest : List Char) : Prop :=
  ∀ c ∈ rest.head?, c.isDigit = false ∧ c ≠ '.' ∧ c ≠ 'e' ∧ c ≠ 'E'

theorem stops_nil : Stops [] :=
  nofun

theorem stops_cons {c : Char} (rest : List Char)
    (other : c.isDigit = false ∧ c ≠ '.' ∧ c ≠ 'e' ∧ c ≠ 'E') : Stops (c :: rest) := by
  rintro _ ⟨⟩
  exact other

/-- No digit stands here. -/
def NoDigit (rest : List Char) : Prop :=
  ∀ c ∈ rest.head?, c.isDigit = false

theorem digits_append {ds rest : List Char} (all : ∀ c ∈ ds, c.isDigit = true)
    (ends : NoDigit rest) : digits (ds ++ rest) = (ds, rest) := by
  rw [digits, List.takeWhile_append_of_pos all, List.dropWhile_append_of_pos all]
  cases rest with
  | nil => rw [List.takeWhile_nil, List.dropWhile_nil, List.append_nil]
  | cons c rest =>
    have other : ¬ c.isDigit = true := Bool.eq_false_iff.mp (ends c rfl)
    rw [List.takeWhile_cons_of_neg other, List.dropWhile_cons_of_neg other, List.append_nil]

theorem isDigits_singleton {d : Char} (digit : d.isDigit = true) : IsDigits [d] :=
  ⟨List.cons_ne_nil _ _, List.forall_mem_singleton.mpr digit⟩

theorem IsDigits.isEmpty {ds : List Char} (isDigits : IsDigits ds) : ds.isEmpty = false :=
  List.isEmpty_eq_false_iff.mpr isDigits.some

theorem IsDigits.first {ds rest tail : List Char} {c : Char} (isDigits : IsDigits ds)
    (equal : ds ++ rest = c :: tail) : c.isDigit = true := by
  cases ds with
  | nil => exact absurd rfl isDigits.some
  | cons d ds =>
    obtain rfl : d = c := (List.cons.inj equal).1
    exact isDigits.all d (List.mem_cons_self ..)

theorem IsWhole.isDigits {whole : List Char} (isWhole : IsWhole whole) : IsDigits whole := by
  cases isWhole with
  | zero => exact isDigits_singleton rfl
  | digits _ isDigits => exact isDigits

theorem IsFraction.noDigit {fraction rest : List Char} (isFraction : IsFraction fraction)
    (ends : NoDigit rest) : NoDigit (fraction ++ rest) := by
  cases isFraction with
  | missing => exact ends
  | digits => rintro _ ⟨⟩; rfl

theorem IsExponent.stops {exponent rest : List Char} (isExponent : IsExponent exponent)
    (ends : Stops rest) :
    ∀ c ∈ (exponent ++ rest).head?, c.isDigit = false ∧ c ≠ '.' := by
  cases isExponent with
  | missing => exact fun c first => ⟨(ends c first).1, (ends c first).2.1⟩
  | unsigned marks | signed marks =>
    rintro _ ⟨⟩
    obtain rfl | rfl := marks <;> decide

theorem whole?_append {whole rest : List Char} (isWhole : IsWhole whole) (ends : NoDigit rest) :
    whole? (whole ++ rest) = some (whole, rest) := by
  cases isWhole with
  | zero =>
    cases rest with
    | nil => rfl
    | cons c rest =>
      change (if c.isDigit = true then none else some (['0'], c :: rest)) = _
      rw [ends c rfl, if_neg Bool.false_ne_true]
  | @digits d ds first isDigits =>
    have read := digits_append isDigits.all ends
    unfold whole?
    split
    · next other _ equal => exact absurd (List.cons.inj equal).1 first
    · dsimp only
      rw [read, isDigits.isEmpty, if_neg Bool.false_ne_true]

theorem fraction?_append {fraction rest : List Char} (isFraction : IsFraction fraction)
    (ends : ∀ c ∈ rest.head?, c.isDigit = false ∧ c ≠ '.') :
    fraction? (fraction ++ rest) = some (fraction, rest) := by
  cases isFraction with
  | missing =>
    rw [List.nil_append]
    unfold fraction?
    split
    · next tail => exact absurd rfl (ends '.' rfl).2
    · rfl
  | digits isDigits =>
    rw [List.cons_append, fraction?, digits_append isDigits.all fun c first => (ends c first).1]
    dsimp only
    rw [isDigits.isEmpty, if_neg Bool.false_ne_true]

theorem exponent?_append {exponent rest : List Char} (isExponent : IsExponent exponent)
    (ends : Stops rest) : exponent? (exponent ++ rest) = some (exponent, rest) := by
  have noDigit : NoDigit rest := fun c first => (ends c first).1
  cases isExponent with
  | missing =>
    cases rest with
    | nil => rfl
    | cons c rest =>
      obtain ⟨-, -, small, capital⟩ := ends c rfl
      unfold exponent?
      exact if_neg (not_or.mpr ⟨small, capital⟩)
  | @unsigned mark ds marks isDigits =>
    have read := digits_append isDigits.all noDigit
    unfold exponent?
    dsimp only [List.cons_append]
    rw [if_pos marks]
    split
    · next equal => exact Bool.noConfusion (isDigits.first equal : '+'.isDigit = true)
    · next equal => exact Bool.noConfusion (isDigits.first equal : '-'.isDigit = true)
    · rw [read]
      dsimp only
      rw [isDigits.isEmpty, if_neg Bool.false_ne_true]
      rfl
  | @signed mark sign ds marks signs isDigits =>
    have signed : exponent? (mark :: sign :: (ds ++ rest)) =
        if (digits (ds ++ rest)).1.isEmpty then none
        else some (mark :: sign :: (digits (ds ++ rest)).1, (digits (ds ++ rest)).2) := by
      obtain rfl | rfl := marks <;> obtain rfl | rfl := signs <;> rfl
    rw [List.cons_append, List.cons_append, signed, digits_append isDigits.all noDigit]
    dsimp only
    rw [isDigits.isEmpty, if_neg Bool.false_ne_true]

/-- What is read from the parts of a number. -/
theorem readNumber_parts {sign whole fraction exponent rest : List Char}
    (signs : sign = [] ∨ sign = ['-']) (isWhole : IsWhole whole)
    (isFraction : IsFraction fraction) (isExponent : IsExponent exponent) (ends : Stops rest) :
    readNumber (sign ++ (whole ++ (fraction ++ (exponent ++ rest)))) =
      some (if sign.isEmpty && fraction.isEmpty && exponent.isEmpty then .natural (decimal whole)
        else .number (String.ofList (sign ++ whole ++ fraction ++ exponent)), rest) := by
  have stops := isExponent.stops ends
  have readWhole := whole?_append isWhole (isFraction.noDigit fun c first => (stops c first).1)
  have readFraction := fraction?_append isFraction stops
  have readExponent := exponent?_append isExponent ends
  have unsigned : ∀ tail, whole ++ (fraction ++ (exponent ++ rest)) ≠ '-' :: tail := by
    intro tail equal
    exact Bool.noConfusion (isWhole.isDigits.first equal : '-'.isDigit = true)
  unfold readNumber
  split
  next front text parts =>
    -- The sign is told from what is behind it, as no digit is a sign.
    have parts : (front, text) = (sign, whole ++ (fraction ++ (exponent ++ rest))) := by
      rw [← parts]
      obtain rfl | rfl := signs
      · split
        · next equal => exact absurd equal (unsigned _)
        · rfl
      · rfl
    cases parts
    rw [readWhole]
    dsimp only
    rw [readFraction]
    dsimp only
    rw [readExponent]
    dsimp only
    exact (apply_ite (fun json => some (json, rest)) _ _ _).symm

/-- The digits of a number do not begin with a zero. -/
theorem head_toDigits_ne {n : Nat} (positive : 0 < n) :
    ∀ d ∈ (Nat.toDigits 10 n).head?, d ≠ '0' := by
  induction n using Nat.strongRecOn with
  | ind n ih =>
    by_cases small : n < 10
    · rw [Nat.toDigits_of_lt_base small]
      rintro _ ⟨⟩ zero
      exact absurd (Nat.digitChar_eq_zero.mp zero) (Nat.ne_of_gt positive)
    · have large : 10 ≤ n := Nat.le_of_not_lt small
      rw [Nat.toDigits_of_base_le (by decide) large,
        List.head?_append_of_ne_nil _ Nat.toDigits_ne_nil]
      exact ih (n / 10) (by omega) (by omega)

/-- The text of a natural number is a whole number of its value. -/
theorem isWhole_toDigits (n : Nat) : IsWhole (Nat.toDigits 10 n) := by
  have isDigits : IsDigits (Nat.toDigits 10 n) := ⟨Nat.toDigits_ne_nil, fun c member =>
    Nat.isDigit_of_mem_toDigits (by decide) (by decide) member⟩
  cases n with
  | zero => exact .zero
  | succ n =>
    have first := head_toDigits_ne (Nat.succ_pos n)
    generalize Nat.toDigits 10 (n + 1) = ds at isDigits first
    cases ds with
    | nil => exact absurd rfl isDigits.some
    | cons d ds => exact .digits (first d rfl) isDigits

theorem toList_toString (n : Nat) : (toString n).toList = Nat.toDigits 10 n := by
  rw [Nat.toString_eq_ofList_toDigits, String.toList_ofList]

theorem decimal_toDigits (n : Nat) : decimal (Nat.toDigits 10 n) = n :=
  Nat.ofDigitChars_ten_toDigits

theorem readNumber_natural (n : Nat) {rest : List Char} (ends : Stops rest) :
    readNumber ((toString n).toList ++ rest) = some (.natural n, rest) := by
  have read := readNumber_parts (.inl rfl) (isWhole_toDigits n) .missing .missing ends
  rw [decimal_toDigits] at read
  rw [toList_toString]
  exact read

theorem readNumber_numeral {text rest : List Char} (numeral : IsNumeral text) (ends : Stops rest) :
    readNumber (text ++ rest) = some (.number (String.ofList text), rest) := by
  cases numeral with
  | negative isWhole isFraction isExponent =>
    have read := readNumber_parts (.inr rfl) isWhole isFraction isExponent ends
    rw [if_neg (by rintro ⟨⟩)] at read
    rw [List.cons_append, List.append_assoc, List.append_assoc]
    exact read
  | positive isWhole isFraction isExponent more =>
    have read := readNumber_parts (.inl rfl) isWhole isFraction isExponent ends
    rw [if_neg] at read
    · rw [List.append_assoc, List.append_assoc]
      exact read
    · simpa [imp_iff_not_or] using more

/-! ## Strings -/

theorem hexDigit?_hexDigit {n : Nat} (small : n < 16) : hexDigit? (hexDigit n) = some n := by
  revert n
  decide

/-- A small number is read back from its two digits behind two zeros. -/
theorem hexWord?_hexDigit {n : Nat} (small : n < 256) (rest : List Char) :
    hexWord? ('0' :: '0' :: hexDigit (n / 16) :: hexDigit (n % 16) :: rest) = some (n, rest) := by
  have high := hexDigit?_hexDigit (n := n / 16) (by omega)
  have low := hexDigit?_hexDigit (n := n % 16) (by omega)
  have zero : hexDigit? '0' = some 0 := rfl
  have value : ((0 * 16 + 0) * 16 + n / 16) * 16 + n % 16 = n := by omega
  rw [hexWord?, zero, high, low]
  exact congrArg (fun value => some (value, rest)) value

/-- A number that is escaped with four digits. -/
theorem readString_unicode {text rest : List Char} {word : Nat}
    (found : hexWord? text = some (word, rest)) (fuel : Nat) (read : Option (List Char)) :
    readString (fuel + 1) read ('\\' :: 'u' :: text) =
      readString fuel (read.bind fun chars => (escaped? word rest).1.map (· :: chars))
        (escaped? word rest).2 := by
  have notQuote : '\\' ≠ '\x22' := by decide
  rw [readString.eq_def]
  dsimp only
  rw [if_neg notQuote, if_pos rfl]
  split
  · next equal => cases equal
  · next equal =>
    cases equal
    rw [found]
  · next other equal =>
    cases equal
    exact absurd rfl other

/-- A character is read back from its spelling in a string. -/
theorem readString_escape (fuel : Nat) (chars : List Char) (c : Char) (rest : List Char) :
    readString (fuel + 1) (some chars) (escape c ++ rest) =
      readString fuel (some (c :: chars)) rest := by
  unfold escape
  split
  case h_8 quote backslash _ _ _ _ _ =>
    split
    next control =>
      have word := hexWord?_hexDigit (n := c.toNat) (by omega) rest
      have char : escaped? c.toNat rest = (some c, rest) := by
        rw [escaped?, if_neg (by omega), if_neg (by omega), Char.ofNat_toNat]
      change readString (fuel + 1) (some chars) ('\\' :: 'u' :: '0' :: '0' :: _ :: _ :: rest) = _
      rw [readString_unicode word, char]
      rfl
    next plain =>
      have notQuote : c ≠ '\x22' := by rintro rfl; exact quote rfl
      have notBackslash : c ≠ '\\' := by rintro rfl; exact backslash rfl
      rw [List.singleton_append, readString.eq_def]
      dsimp only
      rw [if_neg notQuote, if_neg notBackslash, if_neg plain]
      rfl
  all_goals
    next code =>
      obtain rfl : c = Char.ofNat _ := (Char.ofNat_toNat c).symm.trans (congrArg Char.ofNat code)
      rfl

/-- A string is read back behind its opening quote. -/
theorem readString_flatMap {fuel : Nat} (chars read rest : List Char)
    (enough : chars.length < fuel) :
    readString fuel (some read) (chars.flatMap escape ++ '\x22' :: rest) =
      some (some (String.ofList (read.reverse ++ chars)), rest) := by
  induction chars generalizing fuel read with
  | nil =>
    cases fuel with
    | zero => exact absurd enough (Nat.not_lt_zero _)
    | succ fuel => simp [readString]
  | cons c chars ih =>
    cases fuel with
    | zero => exact absurd enough (Nat.not_lt_zero _)
    | succ fuel =>
      rw [List.flatMap_cons, List.append_assoc, readString_escape,
        ih (c :: read) (Nat.lt_of_succ_lt_succ enough), List.reverse_cons, List.append_assoc]
      rfl

/-! ## Values -/

/-- A value is read back from its text, whatever follows. -/
structure Reads (value : Json) : Prop where
  /-- Its text begins with neither a blank nor the end of an array. -/
  begins : ∃ c rest, value.render = c :: rest ∧ isBlank c = false ∧ c ≠ ']'
  /-- As much fuel as the text has characters is enough. -/
  read {fuel : Nat} {rest : List Char} (enough : value.render.length ≤ fuel) (ends : Stops rest) :
    readValue fuel (value.render ++ rest) = some (value, rest)

theorem skipBlanks_of_not_isBlank {c : Char} (other : isBlank c = false) (rest : List Char) :
    skipBlanks (c :: rest) = c :: rest :=
  List.dropWhile_cons_of_neg (Bool.eq_false_iff.mp other)

theorem reads_null : Reads .null where
  begins := ⟨'n', _, rfl, rfl, by decide⟩
  read {fuel rest} enough _ := by
    cases fuel with
    | zero => exact absurd enough (by decide)
    | succ fuel => rfl

theorem reads_bool (value : Bool) : Reads (.bool value) := by
  cases value with
  | _ =>
    refine ⟨⟨_, _, rfl, rfl, by decide⟩, fun {fuel rest} enough _ => ?_⟩
    cases fuel with
    | zero => exact absurd enough (by decide)
    | succ fuel => rfl

/-- A text that begins with a sign or a digit, and is read as a number, is that of a value. -/
theorem reads_of_readNumber {value : Json} {c : Char} {text : List Char}
    (render : value.render = c :: text) (first : c = '-' ∨ c.isDigit = true)
    (read : ∀ rest, Stops rest → readNumber (value.render ++ rest) = some (value, rest)) :
    Reads value := by
  have range : 0x2D ≤ c.toNat ∧ c.toNat ≤ 0x39 := by
    obtain rfl | digit := first
    · decide
    · obtain ⟨low, high⟩ := Char.isDigit_iff_toNat.mp digit
      exact ⟨Nat.le_trans (by decide) low, high⟩
  have notBlank : isBlank c = false := by
    rw [Bool.eq_false_iff]
    intro blank
    simp only [isBlank, Bool.or_eq_true, beq_iff_eq] at blank
    obtain ((rfl | rfl) | rfl) | rfl := blank <;> exact absurd range.1 (by decide)
  refine ⟨⟨c, text, render, notBlank, ?_⟩, fun {fuel rest} enough ends => ?_⟩
  · rintro rfl
    exact absurd range.2 (by decide)
  · have read := read rest ends
    rw [render, List.cons_append] at read
    rw [render] at enough
    rw [render, List.cons_append]
    cases fuel with
    | zero => exact absurd enough (Nat.not_succ_le_zero _)
    | succ fuel =>
      rw [readValue, skipBlanks_of_not_isBlank notBlank]
      dsimp only
      -- None of the characters that begin another value is in the range.
      split
      case h_7 => exact read
      all_goals omega

theorem reads_natural (value : Nat) : Reads (.natural value) := by
  have written : (natural value).render = Nat.toDigits 10 value := by
    rw [Json.render, toList_toString]
  have isDigits := (isWhole_toDigits value).isDigits
  cases text : Nat.toDigits 10 value with
  | nil => exact absurd text Nat.toDigits_ne_nil
  | cons d ds =>
    rw [text] at isDigits
    exact reads_of_readNumber (written.trans text) (.inr (isDigits.all d (List.mem_cons_self ..)))
      fun rest ends => by rw [Json.render]; exact readNumber_natural value ends

theorem reads_number {text : String} (numeral : IsNumeral text.toList) : Reads (.number text) := by
  have first : ∃ c rest, text.toList = c :: rest ∧ (c = '-' ∨ c.isDigit = true) := by
    generalize text.toList = chars at numeral
    cases numeral with
    | negative => exact ⟨'-', _, rfl, .inl rfl⟩
    | @positive whole fraction exponent isWhole =>
      have isDigits := isWhole.isDigits
      cases whole with
      | nil => exact absurd rfl isDigits.some
      | cons d ds => exact ⟨d, _, rfl, .inr (isDigits.all d (List.mem_cons_self ..))⟩
  obtain ⟨c, rest, chars, first⟩ := first
  have render : (number text).render = c :: rest := by rw [Json.render, chars]
  refine reads_of_readNumber render first ?_
  intro rest ends
  rw [Json.render, readNumber_numeral numeral ends, String.ofList_toList]

theorem length_escape_pos (c : Char) : 0 < (escape c).length := by
  unfold escape
  split
  case h_8 => split <;> exact Nat.zero_lt_succ _
  all_goals exact Nat.zero_lt_succ _

theorem length_le_length_flatMap_escape (chars : List Char) :
    chars.length ≤ (chars.flatMap escape).length := by
  induction chars with
  | nil => exact Nat.le_refl 0
  | cons c chars ih =>
    have spelled := length_escape_pos c
    rw [List.flatMap_cons, List.length_append, List.length_cons]
    omega

/-- A quoted string is read back behind its first quote. -/
theorem readString_quote (value : String) (rest : List Char) :
    ∃ text, quote value ++ rest = '\x22' :: text ∧
      readString (text.length + 1) (some []) text = some (some value, rest) := by
  refine ⟨value.toList.flatMap escape ++ '\x22' :: rest, by simp [quote], ?_⟩
  have enough := length_le_length_flatMap_escape value.toList
  rw [readString_flatMap value.toList [] rest (by rw [List.length_append, List.length_cons]; omega),
    List.reverse_nil, List.nil_append, String.ofList_toList]

theorem reads_string (value : String) : Reads (.string (some value)) := by
  refine ⟨⟨'\x22', _, rfl, rfl, by decide⟩, fun {fuel rest} enough _ => ?_⟩
  obtain ⟨text, quoted, read⟩ := readString_quote value rest
  cases fuel with
  | zero => exact absurd enough (Nat.not_succ_le_zero _)
  | succ fuel =>
    change readValue (fuel + 1) (quote value ++ rest) = _
    rw [quoted, readValue, skipBlanks_of_not_isBlank rfl]
    change (readString (text.length + 1) (some []) text).map _ = _
    rw [read]
    rfl

theorem renderElements_cons (value other : Json) (others : List Json) :
    renderElements (value :: other :: others) =
      value.render ++ ',' :: renderElements (other :: others) :=
  rfl

/-- Elements are read back up to the end of their array. -/
theorem readElements_render {values : List Json} (any : values ≠ [])
    (reads : ∀ value ∈ values, Reads value) {fuel : Nat}
    (enough : (renderElements values).length < fuel) (rest : List Char) :
    readElements fuel (renderElements values ++ ']' :: rest) = some (values, rest) := by
  -- An element takes a unit of fuel from those behind it, which its comma makes up for.
  induction values generalizing fuel with
  | nil => exact absurd rfl any
  | cons value others ih =>
    have own := reads value (List.mem_cons_self ..)
    cases fuel with
    | zero => exact absurd enough (Nat.not_lt_zero _)
    | succ fuel =>
      cases others with
      | nil =>
        rw [renderElements] at enough ⊢
        rw [readElements, own.read (Nat.le_of_lt_succ enough) (stops_cons _ (by decide))]
        dsimp only
        rw [skipBlanks_of_not_isBlank rfl]
        rfl
      | cons other others =>
        rw [renderElements_cons, List.length_append, List.length_cons] at enough
        rw [renderElements_cons, List.append_assoc, List.cons_append, readElements,
          own.read (by omega) (stops_cons _ (by decide))]
        dsimp only
        rw [skipBlanks_of_not_isBlank rfl]
        change (readElements fuel _).map _ = _
        rw [ih (List.cons_ne_nil _ _) (fun value member => reads value (.tail _ member)) (by omega)]
        rfl

/-- An array that does not end at once has elements. -/
theorem readValue_array (fuel : Nat) {rest text : List Char} {c : Char}
    (begins : skipBlanks rest = c :: text) (other : c ≠ ']') :
    readValue (fuel + 1) ('[' :: rest) =
      (readElements fuel (c :: text)).map fun read => (.array read.1, read.2) := by
  rw [readValue, skipBlanks_of_not_isBlank rfl]
  simp only [Char.reduceToNat]
  rw [begins]
  split
  · next equal => exact absurd (List.cons.inj equal).1 other
  · rfl

theorem reads_array {elements : List Json} (reads : ∀ value ∈ elements, Reads value) :
    Reads (.array elements) := by
  refine ⟨⟨'[', _, rfl, rfl, by decide⟩, fun {fuel rest} enough _ => ?_⟩
  change ('[' :: (renderElements elements ++ [']'])).length ≤ fuel at enough
  change readValue fuel ('[' :: (renderElements elements ++ [']'] ++ rest)) = _
  rw [List.length_cons, List.length_append, List.length_singleton] at enough
  cases fuel with
  | zero => omega
  | succ fuel =>
    rw [List.append_assoc, List.singleton_append]
    cases elements with
    | nil => rfl
    | cons value others =>
      have read := readElements_render (List.cons_ne_nil value others) reads
        (Nat.lt_of_lt_of_le (Nat.lt_succ_self _) (Nat.le_of_succ_le_succ enough)) rest
      obtain ⟨c, text, begins, notBlank, notEnd⟩ := (reads value (List.mem_cons_self ..)).begins
      have first : ∃ text, renderElements (value :: others) ++ ']' :: rest = c :: text := by
        cases others with
        | nil => exact ⟨_, by rw [renderElements, begins]; rfl⟩
        | cons other others => exact ⟨_, by rw [renderElements_cons, begins]; rfl⟩
      obtain ⟨text, first⟩ := first
      rw [first] at read ⊢
      rw [readValue_array fuel (skipBlanks_of_not_isBlank notBlank text) notEnd, read]
      rfl

theorem renderMembers_single (key : Option String) (value : Json) :
    renderMembers [(key, value)] = quote (key.getD "") ++ ':' :: value.render :=
  rfl

theorem renderMembers_cons (key : Option String) (value : Json) (other : Option String × Json)
    (others : List (Option String × Json)) :
    renderMembers ((key, value) :: other :: others) =
      quote (key.getD "") ++ ':' :: (value.render ++ ',' :: renderMembers (other :: others)) := by
  change quote (key.getD "") ++ ':' :: value.render ++ ',' :: renderMembers (other :: others) = _
  rw [List.append_assoc, List.cons_append]

/-- A member is read, and with it what follows: the end of the object, or other members. -/
theorem readMembers_member {fuel : Nat} (key : String) {value : Json} {tail rest : List Char}
    {result : Option (List (Option String × Json) × List Char)}
    (read : readValue fuel (value.render ++ tail) = some (value, tail))
    (follows : tail = '\x7d' :: rest ∧ result = some ([(some key, value)], rest) ∨
      tail = ',' :: rest ∧
        result = (readMembers fuel rest).map fun read => ((some key, value) :: read.1, read.2)) :
    readMembers (fuel + 1) (quote key ++ ':' :: (value.render ++ tail)) = result := by
  obtain ⟨text, quoted, spelled⟩ := readString_quote key (':' :: (value.render ++ tail))
  rw [quoted, readMembers, skipBlanks_of_not_isBlank rfl]
  split
  case h_2 other => exact absurd rfl (other _)
  case h_1 equal =>
    cases equal
    rw [spelled]
    dsimp only
    rw [skipBlanks_of_not_isBlank rfl]
    split
    case h_2 other => exact absurd rfl (other _)
    case h_1 equal =>
      cases equal
      rw [read]
      dsimp only
      obtain ⟨rfl, rfl⟩ | ⟨rfl, rfl⟩ := follows
      · rw [skipBlanks_of_not_isBlank rfl]
        rfl
      · rw [skipBlanks_of_not_isBlank rfl]
        rfl

/-- Members are read back up to the end of their object. -/
theorem readMembers_render {members : List (Option String × Json)} (any : members ≠ [])
    (keys : ∀ member ∈ members, member.1.isSome = true)
    (reads : ∀ member ∈ members, Reads member.2) {fuel : Nat}
    (enough : (renderMembers members).length < fuel) (rest : List Char) :
    readMembers fuel (renderMembers members ++ '\x7d' :: rest) = some (members, rest) := by
  induction members generalizing fuel with
  | nil => exact absurd rfl any
  | cons member others ih =>
    obtain ⟨key, value⟩ := member
    obtain ⟨key, rfl⟩ := Option.isSome_iff_exists.mp (keys _ (List.mem_cons_self ..))
    have own : Reads value := reads _ (List.mem_cons_self ..)
    cases fuel with
    | zero => exact absurd enough (Nat.not_lt_zero _)
    | succ fuel =>
      cases others with
      | nil =>
        rw [renderMembers_single, List.length_append, List.length_cons] at enough
        have short : value.render.length ≤ fuel := by omega
        have ends : Stops ('\x7d' :: rest) := stops_cons rest (by decide)
        rw [renderMembers_single, List.append_assoc, List.cons_append]
        exact readMembers_member key (own.read short ends) (.inl ⟨rfl, rfl⟩)
      | cons other others =>
        rw [renderMembers_cons, List.length_append, List.length_cons, List.length_append,
          List.length_cons] at enough
        have short : value.render.length ≤ fuel := by omega
        have shorter : (renderMembers (other :: others)).length < fuel := by omega
        have ends : Stops (',' :: (renderMembers (other :: others) ++ '\x7d' :: rest)) :=
          stops_cons _ (by decide)
        have later := ih (List.cons_ne_nil _ _) (fun member inside => keys member (.tail _ inside))
          (fun member inside => reads member (.tail _ inside)) shorter
        rw [renderMembers_cons, List.append_assoc, List.cons_append, List.append_assoc,
          List.cons_append]
        refine readMembers_member key (own.read short ends) (.inr ⟨rfl, ?_⟩)
        rw [later]
        rfl

/-- An object that has a key has members. -/
theorem readValue_object (fuel : Nat) (text : List Char) :
    readValue (fuel + 1) ('\x7b' :: '\x22' :: text) =
      (readMembers fuel ('\x22' :: text)).map fun read => (.object read.1, read.2) := by
  rw [readValue, skipBlanks_of_not_isBlank rfl]
  simp only [Char.reduceToNat]
  rw [skipBlanks_of_not_isBlank rfl]
  rfl

theorem reads_object {members : List (Option String × Json)}
    (keys : ∀ member ∈ members, member.1.isSome = true)
    (reads : ∀ member ∈ members, Reads member.2) : Reads (.object members) := by
  refine ⟨⟨'\x7b', _, rfl, rfl, by decide⟩, fun {fuel rest} enough _ => ?_⟩
  change ('\x7b' :: (renderMembers members ++ ['\x7d'])).length ≤ fuel at enough
  change readValue fuel ('\x7b' :: (renderMembers members ++ ['\x7d'] ++ rest)) = _
  rw [List.length_cons, List.length_append, List.length_singleton] at enough
  cases fuel with
  | zero => omega
  | succ fuel =>
    rw [List.append_assoc, List.singleton_append]
    cases members with
    | nil => rfl
    | cons member others =>
      have read := readMembers_render (List.cons_ne_nil member others) keys reads
        (Nat.lt_of_lt_of_le (Nat.lt_succ_self _) (Nat.le_of_succ_le_succ enough)) rest
      have first : ∃ text, renderMembers (member :: others) ++ '\x7d' :: rest = '\x22' :: text := by
        cases others with
        | nil => exact ⟨_, rfl⟩
        | cons other others => exact ⟨_, rfl⟩
      obtain ⟨text, first⟩ := first
      rw [first] at read ⊢
      rw [readValue_object fuel text, read]
      rfl

theorem Writable.reads {value : Json} (writable : Writable value) : Reads value := by
  induction writable with
  | null => exact reads_null
  | bool value => exact reads_bool value
  | natural value => exact reads_natural value
  | number numeral => exact reads_number numeral
  | string value => exact reads_string value
  | array _ reads => exact reads_array reads
  | object keys _ reads => exact reads_object keys reads

/-- A value that can be written is what its text holds. -/
theorem parse_render {value : Json} (writable : Writable value) :
    parse (String.ofList value.render) = some value := by
  have enough : value.render.length ≤ 2 * value.render.length + 2 := by omega
  have read := writable.reads.read enough stops_nil
  rw [List.append_nil] at read
  rw [parse, String.toList_ofList, read]
  rfl

end PinPrinter.Json
