import PinPrinter.Proofs.PostScript.Document

/-! # The comments of a document

A line that starts with the comment sign tells a reader how a document is made up, so no line of
image data may look like one. Data is laid out in short lines of visible characters, none of which
starts with that sign, and the end marker stands nowhere but at the end. The comments of a document
are then those of its header, one for every page, and those of its trailer.
-/

namespace PinPrinter.Ascii85

open PostScript (lineEnd space unlines pieces)

/-- Encoded bytes end with the end marker, in front of which are visible characters, spaces and
line ends. -/
theorem exists_data (bytes : List UInt8) :
    ∃ data, (encode bytes).toList = data ++ endMarker ++ [lineEnd] ∧
      ∀ c ∈ data, IsSymbol c ∨ c = space ∨ c = lineEnd := by
  obtain ⟨lines, last, text, data, lastData, -⟩ := exists_lines bytes
  refine ⟨unlines lines ++ last, ?_, ?_⟩
  · rw [text]
    simp [unlines]
  · intro c member
    rcases List.mem_append.mp member with inLines | inLast
    · obtain ⟨line, present, inLine⟩ := List.mem_flatMap.mp inLines
      rcases List.mem_append.mp inLine with inData | atEnd
      · exact ((data line present).visible c inData).imp_right .inl
      · exact .inr (.inr (List.mem_singleton.mp atEnd))
    · exact (lastData.visible c inLast).imp_right .inl

/-- No line of encoded bytes is too long or looks like a comment. -/
theorem pageLine_pieces_encode (bytes : List UInt8) :
    ∀ line ∈ pieces lineEnd (encode bytes).toList,
      line.length ≤ lineWidth ∧ PostScript.PageLine line := by
  obtain ⟨lines, last, text, data, lastData, fits, -⟩ := exists_lines bytes
  rw [pieces_encode text data lastData]
  simp only [List.forall_mem_append, List.forall_mem_singleton]
  constructor
  · intro line member
    exact ⟨(data line member).fits, PostScript.pageLine_of_dataLine (data line member)⟩
  · exact ⟨by rwa [List.length_append], PostScript.pageLine_endMarker lastData⟩

end PinPrinter.Ascii85

namespace PinPrinter.PostScript

/-- A line looks like a comment. -/
def isComment (line : List UInt8) : Bool :=
  line.head? == some Ascii85.commentSign

/-- The lines of a text that look like comments. -/
def comments (text : List UInt8) : List (List UInt8) :=
  (pieces lineEnd text).filter isComment

theorem isComment_headerLines (widthPoints heightPoints : Nat) (date : String) :
    ∀ line ∈ headerLines widthPoints heightPoints date, isComment line = true := by
  simp only [headerLines, List.forall_mem_cons]
  exact ⟨by decide, by decide, rfl, by decide, rfl, by decide, by decide, by decide, by simp⟩

theorem isComment_trailerLines (pages : Nat) :
    ∀ line ∈ trailerLines pages, isComment line = true := by
  simp only [trailerLines, List.forall_mem_cons]
  exact ⟨rfl, by decide, by simp⟩

theorem not_isComment_of_pageLine {line : List UInt8} (inPage : PageLine line) :
    ¬ isComment line = true := by
  rw [isComment, beq_iff_eq]
  exact inPage.notComment

/-- The only comments of the pages are their headings. -/
theorem filter_isComment_sectionLines (widthPoints heightPoints before : Nat)
    (sheets : List Sheet) :
    (sectionLines widthPoints heightPoints before sheets).filter isComment =
      (List.range' (before + 1) sheets.length).map headingLine := by
  induction sheets generalizing before with
  | nil => rfl
  | cons s rest ih =>
    have heading : isComment (headingLine (before + 1)) = true := rfl
    have body : (bodyLines widthPoints heightPoints s).filter isComment = [] :=
      List.filter_eq_nil_iff.mpr fun line member =>
        not_isComment_of_pageLine (pageLine_bodyLines widthPoints heightPoints s line member)
    rw [sectionLines, List.filter_cons_of_pos heading, List.filter_append, body, List.nil_append,
      ih, List.length_cons, List.range'_succ, List.map_cons]

/-- The comments of a document are those of its header, the headings of its pages, and those of its
trailer. -/
theorem comments_document (width height : Float) {date : String} (oneLine : '\n' ∉ date.toList)
    (sheets : List Sheet) :
    comments ((sheets.foldl Document.addPage (.start width height date)).close).data.toList =
      headerLines (points width) (points height) date ++
        (List.range' 1 sheets.length).map headingLine ++ trailerLines sheets.length := by
  have header := List.filter_eq_self.mpr
    (isComment_headerLines (points width) (points height) date)
  have trailer := List.filter_eq_self.mpr (isComment_trailerLines sheets.length)
  rw [comments, pieces_document width height oneLine, List.filter_append, List.filter_append,
    header, trailer, filter_isComment_sectionLines]

/-- Encoded bytes are digits of base 85, `z`, spaces and line ends, with the end marker on the last
line and its sign nowhere else. Their lines have 79 columns at most, and none looks like a comment.
So the comments of a document, whose date stands on one line, are those that it is written with:
the header, a heading for each page, and the trailer. -/
theorem clean_document (bytes : List UInt8) (width height : Float) {date : String}
    (oneLine : '\n' ∉ date.toList) (sheets : List Sheet) :
    let text := (Ascii85.encode bytes).toList
    (∃ data, text = data ++ ['~'.toUInt8, '>'.toUInt8, '\n'.toUInt8] ∧
        (∀ c ∈ data, ('!'.toUInt8 ≤ c ∧ c ≤ 'u'.toUInt8) ∨ c = 'z'.toUInt8 ∨ c = ' '.toUInt8 ∨
          c = '\n'.toUInt8) ∧
        '~'.toUInt8 ∉ data) ∧
      (∀ line ∈ pieces '\n'.toUInt8 text, line.length ≤ 79 ∧ line.head? ≠ some '%'.toUInt8) ∧
      comments ((sheets.foldl Document.addPage (.start width height date)).close).data.toList =
        headerLines (points width) (points height) date ++
          (List.range' 1 sheets.length).map headingLine ++ trailerLines sheets.length := by
  intro text
  refine ⟨?_, ?_, comments_document width height oneLine sheets⟩
  · obtain ⟨data, ended, visible⟩ := Ascii85.exists_data bytes
    have symbols : ∀ c ∈ data, ('!'.toUInt8 ≤ c ∧ c ≤ 'u'.toUInt8) ∨ c = 'z'.toUInt8 ∨
        c = ' '.toUInt8 ∨ c = '\n'.toUInt8 := by
      intro c member
      rcases visible c member with (digit | zeros) | blank
      · simp only [Ascii85.isDigit, Bool.and_eq_true, decide_eq_true_eq] at digit
        exact .inl digit
      · exact .inr (.inl zeros)
      · exact .inr (.inr blank)
    refine ⟨data, ended.trans (List.append_assoc ..), symbols, ?_⟩
    intro member
    exact absurd (symbols _ member) (by decide)
  · intro line member
    obtain ⟨fits, inPage⟩ := Ascii85.pageLine_pieces_encode bytes line member
    exact ⟨fits, inPage.notComment⟩

/-- Bytes whose first digit is the comment sign, which a space moves to the second column. -/
theorem clean_document_sign :
    let bytes : List UInt8 := [0x0C, 0x72, 0x12, 0xC4]
    let text := (Ascii85.encode bytes).toList
    let date := "2024-02-29 12:30:00"
    let sheets := [(Sheet.blank 3 2 1).fill 1 1 1 1 .black, Sheet.blank 1 1 1]
    '\n' ∉ date.toList ∧ text.take 2 = [' '.toUInt8, '%'.toUInt8] ∧
      (∀ line ∈ pieces '\n'.toUInt8 text, line.length ≤ 79 ∧ line.head? ≠ some '%'.toUInt8) ∧
      comments ((sheets.foldl Document.addPage (.start 8.5 11.0 date)).close).data.toList =
        headerLines (points 8.5) (points 11.0) date ++ [headingLine 1, headingLine 2] ++
          trailerLines 2 := by
  intro bytes text date sheets
  have oneLine : '\n' ∉ date.toList := by decide
  obtain ⟨-, lines, comments⟩ := clean_document bytes 8.5 11.0 oneLine sheets
  exact ⟨oneLine, by decide +kernel, lines, comments⟩

end PinPrinter.PostScript
