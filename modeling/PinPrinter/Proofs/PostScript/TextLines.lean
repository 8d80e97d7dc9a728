/-! # Text as lines, words and numbers

The bytes of a text, cut at its line ends, and a line cut at its spaces. Joining the pieces undoes
the cut, and a number that is written in decimal digits is read back.
-/

namespace PinPrinter.PostScript

/-- The bytes of a text. -/
def ascii (text : String) : List UInt8 :=
  text.toUTF8.data.toList

/-- The byte that ends a line. -/
def lineEnd : UInt8 := 0x0A

/-- The byte between words. -/
def space : UInt8 := 0x20

/-- Cut bytes at a separator. A separator at the end opens no further piece. -/
def pieces (separator : UInt8) : List UInt8 → List (List UInt8)
  | [] => []
  | c :: rest =>
    if c = separator then [] :: pieces separator rest
    else
      match pieces separator rest with
      | [] => [[c]]
      | piece :: later => (c :: piece) :: later

/-- The bytes of lines, each with its end. -/
def unlines (lines : List (List UInt8)) : List UInt8 :=
  lines.flatMap (· ++ [lineEnd])

/-- Words with a space between each two. -/
def unwords : List (List UInt8) → List UInt8
  | [] => []
  | [word] => word
  | word :: rest => word ++ space :: unwords rest

/-- Some bytes are a word: there is one, and none of them is a space or a control code. -/
def IsWord (word : List UInt8) : Prop :=
  word ≠ [] ∧ ∀ c ∈ word, space < c

instance (word : List UInt8) : Decidable (IsWord word) :=
  have : Decidable (∀ c ∈ word, space < c) := List.decidableBAll (space < ·) word
  inferInstanceAs (Decidable (word ≠ [] ∧ ∀ c ∈ word, space < c))

/-- The digits of a number. -/
def decimal (n : Nat) : List UInt8 :=
  ascii (toString n)

/-- The decimal digit of a byte. -/
def digit? (c : UInt8) : Option Nat :=
  if 0x30 ≤ c ∧ c ≤ 0x39 then some (c.toNat - 0x30) else none

/-- The number that decimal digits continue. -/
def numberFrom? : Nat → List UInt8 → Option Nat
  | n, [] => some n
  | n, c :: rest => (digit? c).bind fun d => numberFrom? (10 * n + d) rest

/-- The number of decimal digits, of which there must be one. -/
def number? : List UInt8 → Option Nat
  | [] => none
  | digits => numberFrom? 0 digits

theorem pieces_append_separator {separator : UInt8} {piece : List UInt8}
    (whole : separator ∉ piece) (rest : List UInt8) :
    pieces separator (piece ++ separator :: rest) = piece :: pieces separator rest := by
  induction piece with
  | nil => simp [pieces]
  | cons c piece ih =>
    have other : c ≠ separator := by
      rintro rfl
      exact whole (List.mem_cons_self ..)
    have later := ih fun member => whole (List.mem_cons_of_mem _ member)
    rw [List.cons_append, pieces, if_neg other, later]

theorem pieces_of_not_mem {separator : UInt8} {piece : List UInt8} (nonempty : piece ≠ [])
    (whole : separator ∉ piece) : pieces separator piece = [piece] := by
  induction piece with
  | nil => exact absurd rfl nonempty
  | cons c piece ih =>
    have other : c ≠ separator := by
      rintro rfl
      exact whole (List.mem_cons_self ..)
    rw [pieces, if_neg other]
    cases piece with
    | nil => rfl
    | cons d piece =>
      rw [ih (List.cons_ne_nil _ _) fun member => whole (List.mem_cons_of_mem _ member)]

theorem unlines_append (first second : List (List UInt8)) :
    unlines (first ++ second) = unlines first ++ unlines second :=
  List.flatMap_append

/-- Lines are read back from their bytes. -/
theorem pieces_unlines {lines : List (List UInt8)} (whole : ∀ line ∈ lines, lineEnd ∉ line) :
    pieces lineEnd (unlines lines) = lines := by
  induction lines with
  | nil => rfl
  | cons line rest ih =>
    have cut := pieces_append_separator (whole line (List.mem_cons_self ..)) (unlines rest)
    rw [ih fun other member => whole other (List.mem_cons_of_mem _ member)] at cut
    simpa only [unlines, List.flatMap_cons, List.append_assoc, List.cons_append,
      List.nil_append] using cut

/-! ## Words -/

theorem IsWord.space_not_mem {word : List UInt8} (isWord : IsWord word) : space ∉ word := by
  intro member
  exact absurd (isWord.2 _ member) (by decide)

theorem IsWord.lineEnd_not_mem {word : List UInt8} (isWord : IsWord word) : lineEnd ∉ word := by
  intro member
  exact absurd (isWord.2 _ member) (by decide)

theorem IsWord.append {first second : List UInt8} (isFirst : IsWord first)
    (isSecond : IsWord second) : IsWord (first ++ second) := by
  constructor
  · intro empty
    exact isFirst.1 (List.append_eq_nil_iff.mp empty).1
  · intro c member
    rcases List.mem_append.mp member with before | behind
    · exact isFirst.2 c before
    · exact isSecond.2 c behind

/-- Words are read back from their line. -/
theorem pieces_unwords {words : List (List UInt8)} (isWord : ∀ word ∈ words, IsWord word) :
    pieces space (unwords words) = words := by
  induction words with
  | nil => rfl
  | cons word rest ih =>
    have first := isWord word (List.mem_cons_self ..)
    cases rest with
    | nil => exact pieces_of_not_mem first.1 first.space_not_mem
    | cons next rest =>
      have later := ih fun other member => isWord other (List.mem_cons_of_mem _ member)
      rw [unwords, pieces_append_separator first.space_not_mem, later]
      exact List.cons_ne_nil _ _

theorem lineEnd_not_mem_unwords {words : List (List UInt8)}
    (isWord : ∀ word ∈ words, IsWord word) : lineEnd ∉ unwords words := by
  induction words with
  | nil => exact List.not_mem_nil
  | cons word rest ih =>
    have first := (isWord word (List.mem_cons_self ..)).lineEnd_not_mem
    cases rest with
    | nil => exact first
    | cons next rest =>
      have later := ih fun other member => isWord other (List.mem_cons_of_mem _ member)
      intro member
      rcases List.mem_append.mp member with before | behind
      · exact first before
      · rcases List.mem_cons.mp behind with equal | behind
        · exact absurd equal (by decide)
        · exact later behind

/-! ## Decimal numbers -/

/-- The byte of a decimal digit. -/
theorem utf8EncodeChar_of_isDigit {c : Char} (isDigit : c.isDigit = true) :
    String.utf8EncodeChar c = [UInt8.ofNat c.toNat] ∧ 0x30 ≤ c.toNat ∧ c.toNat ≤ 0x39 := by
  simp only [Char.isDigit, Bool.and_eq_true, decide_eq_true_eq, UInt32.le_iff_toNat_le] at isDigit
  obtain ⟨low, high⟩ := isDigit
  have low : 0x30 ≤ c.toNat := low
  have high : c.toNat ≤ 0x39 := high
  refine ⟨?_, low, high⟩
  have single : c.val.toNat ≤ 127 := Nat.le_trans high (by decide)
  simp only [String.utf8EncodeChar, if_pos single]
  rfl

theorem ascii_eq_flatMap (text : String) :
    ascii text = text.toList.flatMap String.utf8EncodeChar := by
  rw [ascii, String.toUTF8, ← String.utf8Encode_toList, List.utf8Encode]
  simp

theorem decimal_eq_map (n : Nat) :
    decimal n = (Nat.toDigits 10 n).map fun c => UInt8.ofNat c.toNat := by
  have written : (toString n).toList = Nat.toDigits 10 n := by
    rw [Nat.toString_eq_ofList_toDigits, String.toList_ofList]
  rw [decimal, ascii_eq_flatMap, written]
  have digits : ∀ c ∈ Nat.toDigits 10 n, c.isDigit = true := fun c member =>
    Nat.isDigit_of_mem_toDigits (by decide) (by decide) member
  generalize Nat.toDigits 10 n = cs at digits
  induction cs with
  | nil => rfl
  | cons c rest ih =>
    have head := (utf8EncodeChar_of_isDigit (digits c (List.mem_cons_self ..))).1
    have tail := ih fun d member => digits d (List.mem_cons_of_mem _ member)
    rw [List.flatMap_cons, head, tail]
    rfl

/-- A number is written with digits only. -/
theorem digit_of_mem_decimal {n : Nat} {c : UInt8} (member : c ∈ decimal n) :
    0x30 ≤ c ∧ c ≤ 0x39 := by
  rw [decimal_eq_map] at member
  obtain ⟨d, digit, rfl⟩ := List.mem_map.mp member
  obtain ⟨-, low, high⟩ := utf8EncodeChar_of_isDigit
    (Nat.isDigit_of_mem_toDigits (by decide) (by decide) digit)
  have value : (UInt8.ofNat d.toNat).toNat = d.toNat := by
    simp only [UInt8.toNat_ofNat']
    omega
  simp only [UInt8.le_iff_toNat_le, value, UInt8.toNat_ofNat]
  exact ⟨low, high⟩

theorem isWord_decimal (n : Nat) : IsWord (decimal n) := by
  constructor
  · rw [decimal_eq_map]
    intro empty
    exact Nat.toDigits_ne_nil (List.map_eq_nil_iff.mp empty)
  · intro c member
    exact UInt8.lt_of_lt_of_le (by decide) (digit_of_mem_decimal member).1

theorem numberFrom?_digits {cs : List Char} (digits : ∀ c ∈ cs, c.isDigit = true) (n : Nat) :
    numberFrom? n (cs.map fun c => UInt8.ofNat c.toNat) = some (Nat.ofDigitChars 10 cs n) := by
  induction cs generalizing n with
  | nil => rfl
  | cons c rest ih =>
    obtain ⟨-, low, high⟩ := utf8EncodeChar_of_isDigit (digits c (List.mem_cons_self ..))
    have value : (UInt8.ofNat c.toNat).toNat = c.toNat := by
      simp only [UInt8.toNat_ofNat']
      omega
    have read : digit? (UInt8.ofNat c.toNat) = some (c.toNat - 0x30) := by
      simp only [digit?, UInt8.le_iff_toNat_le, value, UInt8.toNat_ofNat]
      exact if_pos ⟨low, high⟩
    rw [List.map_cons, numberFrom?, read, Option.bind_some,
      ih fun d member => digits d (List.mem_cons_of_mem _ member), Nat.ofDigitChars_cons]
    rfl

/-- A number is read back from its decimal digits. -/
theorem number?_decimal (n : Nat) : number? (decimal n) = some n := by
  have read := numberFrom?_digits (fun c member =>
    Nat.isDigit_of_mem_toDigits (b := 10) (n := n) (by decide) (by decide) member) 0
  rw [Nat.ofDigitChars_ten_toDigits] at read
  rw [decimal_eq_map]
  cases cs : Nat.toDigits 10 n with
  | nil => exact absurd cs Nat.toDigits_ne_nil
  | cons c rest =>
    rw [cs] at read
    exact read

/-- Only the character that ends a line is written with the byte that does. -/
theorem toNat_eq_of_lineEnd_mem {c : Char} (member : lineEnd ∈ String.utf8EncodeChar c) :
    c.toNat = 10 := by
  have same (n : Nat) (equal : lineEnd = UInt8.ofNat n) : n % 256 = 10 := by
    have value := congrArg UInt8.toNat equal
    simp only [UInt8.toNat_ofNat'] at value
    exact value.symm
  change c.val.toNat = 10
  simp only [String.utf8EncodeChar] at member
  split at member
  · have value := same _ (List.mem_singleton.mp member)
    omega
  -- Every byte of a longer code is 128 or above.
  · split at member
    · simp only [List.mem_cons, List.not_mem_nil, or_false] at member
      rcases member with equal | equal <;> have value := same _ equal <;> omega
    · split at member
      · simp only [List.mem_cons, List.not_mem_nil, or_false] at member
        rcases member with equal | equal | equal <;> have value := same _ equal <;> omega
      · simp only [List.mem_cons, List.not_mem_nil, or_false] at member
        rcases member with equal | equal | equal | equal <;> have value := same _ equal <;> omega

/-- A text of one line has no byte that ends a line. -/
theorem lineEnd_not_mem_ascii {text : String} (oneLine : '\n' ∉ text.toList) :
    lineEnd ∉ ascii text := by
  rw [ascii_eq_flatMap]
  intro member
  obtain ⟨c, present, byte⟩ := List.mem_flatMap.mp member
  have same : c = '\n' := Char.toNat_inj.mp (toNat_eq_of_lineEnd_mem byte)
  exact oneLine (same ▸ present)

end PinPrinter.PostScript
