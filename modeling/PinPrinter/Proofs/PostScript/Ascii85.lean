import Mathlib.Algebra.Group.Nat.Defs
import PinPrinter.Bitmap.Bytes
import PinPrinter.PostScript.Ascii85

/-! # Visible characters are read back

`read?` takes characters in groups, as an interpreter of page images does: a `z` is four zero bytes,
five digits are four bytes, and a short group at the end, filled up with the highest digit, is one
byte less than it has digits. It gives back the bytes that were encoded.
-/

namespace PinPrinter.Ascii85

/-- The character for four zero bytes. -/
def zeros : UInt8 := 'z'.toUInt8

/-- The highest digit, which fills up a short group. -/
def filler : UInt8 := 'u'.toUInt8

/-- A digit of base 85. -/
def isDigit (c : UInt8) : Bool :=
  33 ≤ c && c ≤ 117

/-- The number that digits of base 85 stand for. -/
def valueOf (digits : List UInt8) : Nat :=
  digits.foldl (fun n d => n * 85 + (d.toNat - 33)) 0

/-- The four bytes of digits, which must be digits of a number of 32 bits. -/
def readGroup? (digits : List UInt8) : Option (List UInt8) :=
  if digits.all isDigit ∧ valueOf digits < 2 ^ 32 then
    some (Bytes.bigEndian 4 (valueOf digits))
  else none

/-- Read characters without line ends. -/
def read? : List UInt8 → Option (List UInt8)
  | [] => some []
  | c :: rest =>
    if c = zeros then (read? rest).map ([0, 0, 0, 0] ++ ·)
    else
      let digits := c :: rest.take 4
      if digits.length < 2 then none
      else
        (readGroup? (digits ++ List.replicate (5 - digits.length) filler)).bind fun group =>
          (read? (rest.drop 4)).map (group.take (digits.length - 1) ++ ·)
termination_by symbols => symbols.length
decreasing_by all_goals simp only [List.length_drop, List.length_cons]; omega

/-! ## Digits -/

theorem isDigit_of_mem_digits {n : Nat} {c : UInt8} (member : c ∈ digits n) :
    isDigit c = true := by
  obtain ⟨q, -, rfl⟩ := List.mem_map.mp member
  have value : (UInt8.ofNat (q % 85 + 33)).toNat = q % 85 + 33 := by
    simp only [UInt8.toNat_ofNat']
    omega
  simp only [isDigit, UInt8.le_iff_toNat_le, value, UInt8.toNat_ofNat, Bool.and_eq_true,
    decide_eq_true_eq]
  omega

theorem toNat_digit (q : Nat) : (UInt8.ofNat (q % 85 + 33)).toNat - 33 = q % 85 := by
  simp only [UInt8.toNat_ofNat']
  omega

theorem toNat_filler : filler.toNat - 33 = 84 := by
  decide

/-- Of a number cut to its first digits, filled up with the highest digit, no more is lost than
the digits that were cut can hold. -/
theorem valueOf_take_digits {n keep : Nat} (bound : n < 2 ^ 32) (atLeast : 2 ≤ keep)
    (atMost : keep ≤ 5) :
    n ≤ valueOf ((digits n).take keep ++ List.replicate (5 - keep) filler) ∧
      valueOf ((digits n).take keep ++ List.replicate (5 - keep) filler) < n + 85 ^ (5 - keep) := by
  have cases : keep = 2 ∨ keep = 3 ∨ keep = 4 ∨ keep = 5 := by omega
  rcases cases with rfl | rfl | rfl | rfl <;>
    simp only [valueOf, digits, List.map_cons, List.map_nil, List.take_succ_cons, List.take_zero,
      Nat.reduceSub, List.replicate, List.cons_append, List.nil_append, List.foldl_cons,
      List.foldl_nil, toNat_digit, toNat_filler, Nat.zero_mul, Nat.zero_add, Nat.reducePow]
  · omega
  · omega
  · omega
  · omega

/-- The first digits of a number, filled up, are read as the four bytes of a number that is hardly
larger. -/
theorem exists_readGroup? {n keep : Nat} (atLeast : 2 ≤ keep) (atMost : keep ≤ 5)
    (room : n + 85 ^ (5 - keep) ≤ 2 ^ 32) :
    ∃ m, readGroup? ((digits n).take keep ++ List.replicate (5 - keep) filler) =
      some (Bytes.bigEndian 4 m) ∧ n ≤ m ∧ m < n + 85 ^ (5 - keep) := by
  have positive : 0 < 85 ^ (5 - keep) := Nat.pow_pos (by decide)
  obtain ⟨least, most⟩ := valueOf_take_digits (n := n) (by omega) atLeast atMost
  refine ⟨_, ?_, least, most⟩
  refine if_pos ⟨?_, by omega⟩
  rw [List.all_eq_true]
  intro c member
  rcases List.mem_append.mp member with digit | filled
  · exact isDigit_of_mem_digits (List.mem_of_mem_take digit)
  · rw [List.eq_of_mem_replicate filled]
    decide

theorem ne_zeros_of_isDigit {c : UInt8} (digit : isDigit c = true) : c ≠ zeros := by
  rintro rfl
  exact absurd digit (by decide)

/-! ## Groups -/

/-- A group of digits is read whole; only the last one can be short. -/
theorem read?_append {group : List UInt8} (digits : ∀ c ∈ group, isDigit c = true)
    (atLeast : 2 ≤ group.length) (atMost : group.length ≤ 5) {rest : List UInt8}
    (last : group.length < 5 → rest = []) :
    read? (group ++ rest) =
      (readGroup? (group ++ List.replicate (5 - group.length) filler)).bind fun bytes =>
        (read? rest).map (bytes.take (group.length - 1) ++ ·) := by
  match group with
  | c :: more =>
    have plain : c ≠ zeros := ne_zeros_of_isDigit (digits c (List.mem_cons_self ..))
    simp only [List.length_cons] at atLeast atMost last
    have taken : (more ++ rest).take 4 = more := by
      by_cases full : more.length = 4
      · rw [← full, List.take_left]
      · rw [last (by omega), List.append_nil, List.take_of_length_le (by omega)]
    have dropped : (more ++ rest).drop 4 = rest := by
      by_cases full : more.length = 4
      · rw [← full, List.drop_left]
      · rw [last (by omega), List.append_nil, List.drop_eq_nil_of_le (by omega)]
    have several : ¬ (c :: more).length < 2 := by simp only [List.length_cons]; omega
    rw [List.cons_append, read?, if_neg plain]
    simp only [taken, dropped, if_neg several, List.cons_append]

theorem length_take_digits {n keep : Nat} (atMost : keep ≤ 5) :
    ((digits n).take keep).length = keep := by
  simp only [digits, List.length_take, List.length_map, List.length_cons, List.length_nil]
  omega

/-- The first digits of a number are read as the first bytes of a number that is hardly larger. -/
theorem exists_read?_digits (n keep : Nat) (rest : List UInt8) (atLeast : 2 ≤ keep)
    (atMost : keep ≤ 5) (room : n + 85 ^ (5 - keep) ≤ 2 ^ 32) (last : keep < 5 → rest = []) :
    ∃ m, read? ((digits n).take keep ++ rest) =
        (read? rest).map ((Bytes.bigEndian 4 m).take (keep - 1) ++ ·) ∧
      n ≤ m ∧ m < n + 85 ^ (5 - keep) := by
  obtain ⟨m, read, least, most⟩ := exists_readGroup? atLeast atMost room
  have length : ((digits n).take keep).length = keep := length_take_digits atMost
  refine ⟨m, ?_, least, most⟩
  rw [read?_append (fun c member => isDigit_of_mem_digits (List.mem_of_mem_take member))
    (by omega) (by omega) (by rwa [length]), length, read, Option.bind_some]

theorem bigEndian_four (m : Nat) :
    Bytes.bigEndian 4 m =
      [m / 16777216, m / 65536, m / 256, m].map fun q => UInt8.ofNat (q % 256) := by
  simp only [Bytes.bigEndian, Bytes.littleEndian, List.reverse_cons, List.reverse_nil,
    List.nil_append, List.cons_append, List.map_cons, List.map_nil, Nat.div_div_eq_div_mul]

/-- The byte of a number whose value modulo 256 it is. -/
theorem ofNat_mod_eq {a : UInt8} {q : Nat} (same : q % 256 = a.toNat) :
    UInt8.ofNat (q % 256) = a := by
  rw [same, UInt8.ofNat_toNat]

theorem value_lt (a b c d : UInt8) : value a b c d < 2 ^ 32 := by
  have la := a.toNat_lt
  have lb := b.toNat_lt
  have lc := c.toNat_lt
  have ld := d.toNat_lt
  unfold value
  omega

/-- The first bytes of a number that differs from the number of four bytes in the others only. -/
theorem take_bigEndian {a b c d : UInt8} {m cut : Nat} (short : cut ≤ 3)
    (same : m / 256 ^ cut = value a b c d / 256 ^ cut) :
    (Bytes.bigEndian 4 m).take (4 - cut) = [a, b, c, d].take (4 - cut) := by
  have la := a.toNat_lt
  have lb := b.toNat_lt
  have lc := c.toNat_lt
  have ld := d.toNat_lt
  rw [bigEndian_four]
  unfold value at same
  have cases : cut = 0 ∨ cut = 1 ∨ cut = 2 ∨ cut = 3 := by omega
  rcases cases with rfl | rfl | rfl | rfl <;>
    simp only [Nat.reducePow, Nat.div_one] at same <;>
    simp only [Nat.reduceSub, List.map_cons, List.map_nil, List.take_succ_cons, List.take_zero]
  · rw [ofNat_mod_eq (a := a) (by omega), ofNat_mod_eq (a := b) (by omega),
      ofNat_mod_eq (a := c) (by omega), ofNat_mod_eq (a := d) (by omega)]
  · rw [ofNat_mod_eq (a := a) (by omega), ofNat_mod_eq (a := b) (by omega),
      ofNat_mod_eq (a := c) (by omega)]
  · rw [ofNat_mod_eq (a := a) (by omega), ofNat_mod_eq (a := b) (by omega)]
  · rw [ofNat_mod_eq (a := a) (by omega)]

/-- The digits of a number whose last bytes are zero can be cut by as many as there are such
bytes. -/
theorem read?_digits (a b c d : UInt8) (cut : Nat) (rest : List UInt8) (short : cut ≤ 3)
    (low : value a b c d % 256 ^ cut = 0) (last : 0 < cut → rest = []) :
    read? ((digits (value a b c d)).take (5 - cut) ++ rest) =
      (read? rest).map ([a, b, c, d].take (4 - cut) ++ ·) := by
  have bound := value_lt a b c d
  have left : 5 - (5 - cut) = cut := by omega
  have room : value a b c d + 256 ^ cut ≤ 2 ^ 32 := by
    have cases : cut = 0 ∨ cut = 1 ∨ cut = 2 ∨ cut = 3 := by omega
    rcases cases with rfl | rfl | rfl | rfl <;> omega
  have smaller : 85 ^ cut ≤ 256 ^ cut := Nat.pow_le_pow_left (by decide) cut
  obtain ⟨m, read, least, most⟩ := exists_read?_digits (value a b c d) (5 - cut) rest
    (by omega) (by omega) (by rw [left]; omega) (fun cut => last (by omega))
  rw [left] at most
  have same : m / 256 ^ cut = value a b c d / 256 ^ cut := by
    have cases : cut = 0 ∨ cut = 1 ∨ cut = 2 ∨ cut = 3 := by omega
    rcases cases with rfl | rfl | rfl | rfl <;> omega
  have kept : 5 - cut - 1 = 4 - cut := by omega
  rw [read, kept, take_bigEndian short same]

theorem read?_group (a b c d : UInt8) (rest : List UInt8) :
    read? (group a b c d ++ rest) = (read? rest).map ([a, b, c, d] ++ ·) := by
  unfold group
  split
  · rename_i zero
    have bytes : a.toNat = 0 ∧ b.toNat = 0 ∧ c.toNat = 0 ∧ d.toNat = 0 := by
      unfold value at zero
      omega
    obtain ⟨ha, hb, hc, hd⟩ := bytes
    obtain rfl : a = 0 := UInt8.toNat_inj.mp ha
    obtain rfl : b = 0 := UInt8.toNat_inj.mp hb
    obtain rfl : c = 0 := UInt8.toNat_inj.mp hc
    obtain rfl : d = 0 := UInt8.toNat_inj.mp hd
    have marker : 'z'.toUInt8 = zeros := rfl
    rw [List.cons_append, read?, if_pos marker]
    rfl
  · exact read?_digits a b c d 0 rest (by decide) (Nat.mod_one _) fun positive =>
      absurd positive (Nat.lt_irrefl 0)

/-- What is appended for some bytes is read back as them. -/
theorem exists_symbols (out : Array UInt8) (bytes : List UInt8) :
    ∃ code, (symbolsOnto out bytes).toList = out.toList ++ code ∧ read? code = some bytes := by
  fun_induction symbolsOnto out bytes with
  | case1 out a b c d rest ih =>
    obtain ⟨code, written, read⟩ := ih
    refine ⟨group a b c d ++ code, ?_, ?_⟩
    · rw [written, Array.toList_appendList, List.append_assoc]
    · rw [read?_group, read]
      rfl
  | case2 out a b c =>
    refine ⟨(digits (value a b c 0)).take 4, Array.toList_appendList .., ?_⟩
    have read := read?_digits a b c 0 1 []
      (by decide) (by simp [value]) (fun _ => rfl)
    simpa [read?] using read
  | case3 out a b =>
    refine ⟨(digits (value a b 0 0)).take 3, Array.toList_appendList .., ?_⟩
    have read := read?_digits a b 0 0 2 []
      (by decide) (by simp only [value, UInt8.toNat_zero]; omega) (fun _ => rfl)
    simpa [read?] using read
  | case4 out a =>
    refine ⟨(digits (value a 0 0 0)).take 2, Array.toList_appendList .., ?_⟩
    have read := read?_digits a 0 0 0 3 []
      (by decide) (by simp only [value, UInt8.toNat_zero]; omega) (fun _ => rfl)
    simpa [read?] using read
  | case5 out => exact ⟨[], by simp, by simp [read?]⟩

theorem read?_symbols (bytes : List UInt8) : read? (symbols bytes).toList = some bytes := by
  obtain ⟨code, written, read⟩ := exists_symbols #[] bytes
  rw [symbols, written]
  exact read

end PinPrinter.Ascii85
