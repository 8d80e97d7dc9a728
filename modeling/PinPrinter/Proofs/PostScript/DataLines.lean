import PinPrinter.Proofs.PostScript.Ascii85
import PinPrinter.Proofs.PostScript.TextLines

/-! # The lines of image data

Characters of base 85 are laid out in lines of limited width. `exists_lines` says what these lines
are: none is too long or looks like a comment, they hold the characters in their order with nothing
but spaces between them, and the end marker stands at the end of the last one.
-/

namespace PinPrinter.Ascii85

open PostScript (lineEnd space unlines)

/-- White space, which a reader passes over. -/
def isBlank (c : UInt8) : Bool :=
  c == 0x00 || c == 0x09 || c == 0x0A || c == 0x0C || c == 0x0D || c == 0x20

/-- A character that stands for data. -/
def IsSymbol (c : UInt8) : Prop :=
  isDigit c = true ∨ c = zeros

/-- The sign that starts a comment. -/
def commentSign : UInt8 := '%'.toUInt8

/-- The sign that starts the end marker. -/
def endSign : UInt8 := '~'.toUInt8

/-- The end marker. -/
def endMarker : List UInt8 :=
  [endSign, '>'.toUInt8]

/-- Read characters that are laid out in lines. -/
def decode? (text : List UInt8) : Option (List UInt8) :=
  read? (text.filter fun c => !isBlank c)

/-- A line of data. -/
structure DataLine (line : List UInt8) : Prop where
  fits : line.length ≤ lineWidth
  visible : ∀ c ∈ line, IsSymbol c ∨ c = space
  notComment : line.head? ≠ some commentSign

/-- What has been laid out of some symbols: whole lines, and one that is not full yet. -/
structure LaidOut (symbols : List UInt8) (full : List (List UInt8)) (current : List UInt8)
    (l : Lines) : Prop where
  text : l.text.toList = unlines full ++ current
  column : l.column = current.length
  room : current.length < lineWidth
  lines : ∀ line ∈ full, DataLine line
  last : DataLine current
  content : ((full.flatten ++ current).filter fun c => !isBlank c) = symbols

theorem isSymbol_of_mem_group {a b c d e : UInt8} (member : e ∈ group a b c d) : IsSymbol e := by
  unfold group at member
  split at member
  · exact .inr (List.mem_singleton.mp member)
  · exact .inl (isDigit_of_mem_digits member)

theorem isSymbol_of_mem_symbolsOnto {out : Array UInt8} {bytes : List UInt8}
    (before : ∀ c ∈ out.toList, IsSymbol c) :
    ∀ c ∈ (symbolsOnto out bytes).toList, IsSymbol c := by
  have short {n keep : Nat} {out : Array UInt8} (before : ∀ c ∈ out.toList, IsSymbol c) :
      ∀ c ∈ (out ++ (digits n).take keep).toList, IsSymbol c := by
    intro c member
    rw [Array.toList_appendList] at member
    rcases List.mem_append.mp member with old | new
    · exact before c old
    · exact .inl (isDigit_of_mem_digits (List.mem_of_mem_take new))
  fun_induction symbolsOnto out bytes with
  | case1 out a b c d rest ih =>
    apply ih
    intro e member
    rw [Array.toList_appendList] at member
    rcases List.mem_append.mp member with old | new
    · exact before e old
    · exact isSymbol_of_mem_group new
  | case2 out a b c => exact short before
  | case3 out a b => exact short before
  | case4 out a => exact short before
  | case5 out => exact before

theorem isSymbol_of_mem_symbols {bytes : List UInt8} {c : UInt8}
    (member : c ∈ (symbols bytes).toList) : IsSymbol c :=
  isSymbol_of_mem_symbolsOnto (by simp) c member

theorem IsSymbol.toNat_bounds {c : UInt8} (symbol : IsSymbol c) :
    33 ≤ c.toNat ∧ c.toNat ≤ 122 := by
  rcases symbol with digit | rfl
  · simp only [isDigit, UInt8.le_iff_toNat_le, UInt8.toNat_ofNat, Bool.and_eq_true,
      decide_eq_true_eq] at digit
    omega
  · decide

theorem IsSymbol.not_isBlank {c : UInt8} (symbol : IsSymbol c) : isBlank c = false := by
  have bounds := symbol.toNat_bounds
  cases blank : isBlank c with
  | false => rfl
  | true =>
    simp only [isBlank, Bool.or_eq_true, beq_iff_eq] at blank
    rcases blank with ((((rfl | rfl) | rfl) | rfl) | rfl) | rfl <;> simp at bounds

theorem DataLine.nil : DataLine [] where
  fits := Nat.zero_le _
  visible := by simp
  notComment := by simp

/-- No line of data has a line end in it. -/
theorem DataLine.lineEnd_not_mem {line : List UInt8} (data : DataLine line) : lineEnd ∉ line := by
  intro member
  rcases data.visible _ member with symbol | blank
  · exact absurd symbol.toNat_bounds (by decide)
  · exact absurd blank (by decide)

/-- The end marker is not part of the data. -/
theorem DataLine.endSign_not_mem {line : List UInt8} (data : DataLine line) : endSign ∉ line := by
  intro member
  rcases data.visible _ member with symbol | blank
  · exact absurd symbol.toNat_bounds (by decide)
  · exact absurd blank (by decide)

theorem DataLine.concat {line : List UInt8} (data : DataLine line) {c : UInt8}
    (room : line.length < lineWidth) (visible : IsSymbol c ∨ c = space)
    (notFirst : line = [] → c ≠ commentSign) : DataLine (line ++ [c]) where
  fits := by
    simp only [List.length_append, List.length_cons, List.length_nil]
    omega
  visible := by
    intro d member
    rcases List.mem_append.mp member with old | new
    · exact data.visible d old
    · obtain rfl := List.mem_singleton.mp new
      exact visible
  notComment := by
    cases line with
    | nil => simpa using notFirst rfl
    | cons first rest => simpa using data.notComment

/-! ## Laying out -/

section

variable {symbols : List UInt8} {full : List (List UInt8)} {current : List UInt8} {l : Lines}

/-- A character is put on a line that is not full with it. -/
theorem LaidOut.put_open (laid : LaidOut symbols full current l) {c : UInt8}
    (visible : IsSymbol c ∨ c = space) (notFirst : current = [] → c ≠ commentSign)
    (short : current.length + 1 < lineWidth) :
    LaidOut (symbols ++ [c].filter fun c => !isBlank c) full (current ++ [c]) (l.put c) := by
  have unfilled : ¬ lineWidth ≤ l.column + 1 := by
    rw [laid.column]
    omega
  have put : l.put c = ⟨l.text.push c, l.column + 1⟩ := if_neg unfilled
  constructor
  · rw [put, Array.toList_push, laid.text, List.append_assoc]
  · rw [put, List.length_append, List.length_singleton, laid.column]
  · rwa [List.length_append, List.length_singleton]
  · exact laid.lines
  · exact laid.last.concat laid.room visible notFirst
  · rw [← List.append_assoc, List.filter_append, laid.content]

/-- A character that fills its line is followed by a line end. -/
theorem LaidOut.put_full (laid : LaidOut symbols full current l) {c : UInt8}
    (visible : IsSymbol c ∨ c = space) (notFirst : current = [] → c ≠ commentSign)
    (filled : lineWidth ≤ current.length + 1) :
    LaidOut (symbols ++ [c].filter fun c => !isBlank c) (full ++ [current ++ [c]]) []
      (l.put c) := by
  have put : l.put c = ⟨(l.text.push c).push lineEnd, 0⟩ := if_pos (by rwa [laid.column])
  constructor
  · rw [put, Array.toList_push, Array.toList_push, laid.text, PostScript.unlines_append]
    simp [unlines]
  · rw [put, List.length_nil]
  · exact Nat.lt_of_sub_pos (by decide)
  · intro line member
    rcases List.mem_append.mp member with old | new
    · exact laid.lines line old
    · obtain rfl := List.mem_singleton.mp new
      exact laid.last.concat laid.room visible notFirst
  · exact .nil
  · rw [List.append_nil, List.flatten_append, List.flatten_singleton, ← List.append_assoc,
      List.filter_append, laid.content]

/-- A symbol is laid out behind the others; before a comment sign in the first column stands a
space. -/
theorem LaidOut.emit (laid : LaidOut symbols full current l) {c : UInt8} (symbol : IsSymbol c) :
    ∃ full current, LaidOut (symbols ++ [c]) full current (l.emit c) := by
  have kept : ([c].filter fun c => !isBlank c) = [c] := by simp [symbol.not_isBlank]
  by_cases comment : l.column = 0 ∧ c = commentSign
  · have first : current = [] := by
      rw [← List.length_eq_zero_iff, ← laid.column]
      exact comment.1
    subst first
    have spaced := laid.put_open (c := space) (.inr rfl) (fun _ => by decide) (by decide)
    have placed := spaced.put_open (.inl symbol) (fun empty => by simp at empty) (by decide)
    have gap : ([space].filter fun c => !isBlank c) = [] := by decide
    rw [gap, List.append_nil, kept] at placed
    have step : l.emit c = (l.put space).put c := if_pos comment
    rw [step]
    exact ⟨_, _, placed⟩
  · have notFirst : current = [] → c ≠ commentSign := by
      rintro rfl equal
      exact comment ⟨laid.column, equal⟩
    have step : l.emit c = l.put c := if_neg comment
    rw [step]
    by_cases short : current.length + 1 < lineWidth
    · have placed := laid.put_open (.inl symbol) notFirst short
      rw [kept] at placed
      exact ⟨_, _, placed⟩
    · have placed := laid.put_full (.inl symbol) notFirst (Nat.le_of_not_lt short)
      rw [kept] at placed
      exact ⟨_, _, placed⟩

theorem LaidOut.foldl_emit (laid : LaidOut symbols full current l) {more : List UInt8}
    (visible : ∀ c ∈ more, IsSymbol c) :
    ∃ full current, LaidOut (symbols ++ more) full current (more.foldl Lines.emit l) := by
  induction more generalizing symbols full current l with
  | nil => exact ⟨full, current, by simpa using laid⟩
  | cons c rest ih =>
    obtain ⟨nextFull, nextCurrent, next⟩ := laid.emit (visible c (List.mem_cons_self ..))
    obtain ⟨lastFull, lastCurrent, last⟩ :=
      ih next fun d member => visible d (List.mem_cons_of_mem _ member)
    exact ⟨lastFull, lastCurrent, by simpa using last⟩

/-- The end marker goes on the line that is not full yet, or on one of its own. -/
theorem LaidOut.finish (laid : LaidOut symbols full current l) :
    ∃ lines last, l.finish.toList = unlines (lines ++ [last ++ endMarker]) ∧
      (∀ line ∈ lines, DataLine line) ∧ DataLine last ∧
      last.length + endMarker.length ≤ lineWidth ∧
      ((lines.flatten ++ last).filter fun c => !isBlank c) = symbols := by
  by_cases narrow : lineWidth - 2 < l.column
  · refine ⟨full ++ [current], [], ?_, ?_, .nil, by decide, ?_⟩
    · rw [Lines.finish, if_pos narrow]
      simp [laid.text, unlines, endMarker, lineEnd, endSign]
    · intro line member
      rcases List.mem_append.mp member with old | new
      · exact laid.lines line old
      · obtain rfl := List.mem_singleton.mp new
        exact laid.last
    · simpa using laid.content
  · refine ⟨full, current, ?_, laid.lines, laid.last, ?_, laid.content⟩
    · rw [Lines.finish, if_neg narrow]
      simp [laid.text, unlines, endMarker, lineEnd, endSign]
    · rw [laid.column] at narrow
      simp only [lineWidth, endMarker, List.length_cons, List.length_nil] at narrow ⊢
      omega

end

/-! ## Encoded bytes -/

/-- The lines of encoded bytes. -/
theorem exists_lines (bytes : List UInt8) :
    ∃ lines last, (encode bytes).toList = unlines (lines ++ [last ++ endMarker]) ∧
      (∀ line ∈ lines, DataLine line) ∧ DataLine last ∧
      last.length + endMarker.length ≤ lineWidth ∧
      ((lines.flatten ++ last).filter fun c => !isBlank c) = (symbols bytes).toList := by
  have start : LaidOut [] [] [] {} :=
    ⟨rfl, rfl, by decide, by simp, .nil, rfl⟩
  have visible : ∀ c ∈ (symbols bytes).toList, IsSymbol c := fun c member =>
    isSymbol_of_mem_symbols member
  obtain ⟨full, current, laid⟩ := start.foldl_emit visible
  rw [List.nil_append, Array.foldl_toList] at laid
  exact laid.finish

/-- Encoded bytes are cut into the lines that they are laid out in. -/
theorem pieces_encode {bytes : List UInt8} {lines : List (List UInt8)} {last : List UInt8}
    (text : (encode bytes).toList = unlines (lines ++ [last ++ endMarker]))
    (data : ∀ line ∈ lines, DataLine line) (lastData : DataLine last) :
    PostScript.pieces lineEnd (encode bytes).toList = lines ++ [last ++ endMarker] := by
  rw [text]
  apply PostScript.pieces_unlines
  intro line member
  rcases List.mem_append.mp member with inner | final
  · exact (data line inner).lineEnd_not_mem
  · obtain rfl := List.mem_singleton.mp final
    intro inLast
    rcases List.mem_append.mp inLast with inData | atEnd
    · exact lastData.lineEnd_not_mem inData
    · exact absurd atEnd (by decide)

theorem filter_unlines (lines : List (List UInt8)) :
    ((unlines lines).filter fun c => !isBlank c) = lines.flatten.filter fun c => !isBlank c := by
  induction lines with
  | nil => rfl
  | cons line rest ih =>
    have gap : ([lineEnd].filter fun c => !isBlank c) = [] := by decide
    have cut : unlines (line :: rest) = line ++ [lineEnd] ++ unlines rest := rfl
    rw [cut, List.filter_append, List.filter_append, gap, List.append_nil, ih, List.flatten_cons,
      List.filter_append]

/-- Characters in lines are read as they are without them. -/
theorem decode?_lines {lines : List (List UInt8)} {last : List UInt8} {bytes : List UInt8}
    (content : ((lines.flatten ++ last).filter fun c => !isBlank c) = (symbols bytes).toList) :
    decode? (unlines lines ++ last) = some bytes := by
  rw [decode?, List.filter_append, filter_unlines, ← List.filter_append, content, read?_symbols]

end PinPrinter.Ascii85
