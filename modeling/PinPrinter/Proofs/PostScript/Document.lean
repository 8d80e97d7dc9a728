import PinPrinter.PostScript.Document
import PinPrinter.Proofs.Buffering
import PinPrinter.Proofs.PostScript.Transcript

/-! # Documents are read back

What is written to a document are lines: those of its header, a section for every sheet, and those
of its trailer. `read?_document` says that reading them gives the sheets in their order and the
number of pages, and nothing else.
-/

namespace PinPrinter.Sheet

/-- The samples of an image are the grey levels of the pixels. -/
theorem luma_toList (s : Sheet) : s.luma.toList = s.pixels.toList.map Pixel.luminance := by
  have looked (pixel : UInt8) :
      Pixel.greys.get ⟨pixel.toNat, pixel.toNat_lt⟩ = Pixel.luminance pixel := by
    have bound : pixel.toNat < 256 := pixel.toNat_lt
    change Pixel.greys[pixel.toNat] = Pixel.luminance pixel
    rw [Pixel.greys, Vector.getElem_ofFn, UInt8.ofNat_toNat]
  rw [luma, Array.toList_map]
  exact List.map_congr_left fun pixel _ => looked pixel

end PinPrinter.Sheet

namespace PinPrinter.PostScript

/-- The lines of the header. -/
def headerLines (widthPoints heightPoints : Nat) (date : String) : List (List UInt8) :=
  [ascii "%!PS-Adobe-3.0", ascii "%%Pages: (atend)",
    unwords [ascii "%%BoundingBox:", ascii "0", ascii "0", decimal widthPoints,
      decimal heightPoints],
    ascii "%%Creator: dotmatrix virtual printer", ascii "%%CreationDate:" ++ space :: ascii date,
    ascii "%%DocumentData: Clean7Bit", ascii "%%LanguageLevel: 2", ascii "%%EndComments"]

/-- The line that opens a page. -/
def headingLine (number : Nat) : List UInt8 :=
  unwords [pageKey, decimal number, decimal number]

/-- The line that scales the unit square to the page. -/
def scaleLine (widthPoints heightPoints : Nat) : List UInt8 :=
  unwords [decimal widthPoints, decimal heightPoints, ascii "scale"]

/-- The line that gives the size of an image. -/
def sizeLine (width height : Nat) : List UInt8 :=
  unwords (decimal width :: decimal height :: matrixWords (decimal width) (decimal height))

/-- The lines of a page in front of its data. -/
def formatLines (widthPoints heightPoints : Nat) (s : Sheet) : List (List UInt8) :=
  scaleLine widthPoints heightPoints :: sizeLine s.width s.height :: imageOperators

/-- The lines of the trailer. -/
def trailerLines (pages : Nat) : List (List UInt8) :=
  [unwords [totalKey, decimal pages], ascii "%%EOF"]

theorem headerTexts_bytes (widthPoints heightPoints : Nat) (date : String) :
    (headerTexts widthPoints heightPoints date).flatMap ascii =
      unlines (headerLines widthPoints heightPoints date) := by
  simp only [headerTexts, headerLines, unlines, unwords, List.flatMap_cons, List.flatMap_nil,
    List.append_assoc, List.cons_append]
  rfl

theorem pageTexts_bytes (number widthPoints heightPoints : Nat) (s : Sheet) :
    (pageTexts number widthPoints heightPoints s).flatMap ascii =
      unlines (headingLine number :: formatLines widthPoints heightPoints s) := by
  simp only [pageTexts, headingLine, formatLines, scaleLine, sizeLine, imageOperators, matrixWords,
    unlines, unwords, List.flatMap_cons, List.flatMap_nil, List.append_assoc, List.cons_append]
  rfl

theorem trailerTexts_bytes (pages : Nat) :
    (trailerTexts pages).flatMap ascii = unlines (trailerLines pages) := by
  simp only [trailerTexts, trailerLines, unlines, unwords, List.flatMap_cons, List.flatMap_nil,
    List.append_assoc, List.cons_append]
  rfl

/-! ## The lines of the format -/

theorem isWord_of_mem_headingLine (number : Nat) :
    ∀ word ∈ [pageKey, decimal number, decimal number], IsWord word := by
  have isNumber := isWord_decimal number
  simp only [List.forall_mem_cons]
  exact ⟨by decide, isNumber, isNumber, by simp⟩

theorem isWord_of_mem_scaleLine {widthPoints heightPoints : Nat} :
    ∀ word ∈ [decimal widthPoints, decimal heightPoints, ascii "scale"], IsWord word := by
  simp only [List.forall_mem_cons]
  exact ⟨isWord_decimal widthPoints, isWord_decimal heightPoints, by decide, by simp⟩

theorem isWord_of_mem_sizeLine {width height : Nat} :
    ∀ word ∈ decimal width :: decimal height :: matrixWords (decimal width) (decimal height),
      IsWord word := by
  have isWidth := isWord_decimal width
  have isHeight := isWord_decimal height
  have isZero : IsWord (ascii "0") := by decide
  have isFirst : IsWord (ascii "[" ++ decimal width) := IsWord.append (by decide) isWidth
  have isNegative : IsWord (ascii "-" ++ decimal height) := IsWord.append (by decide) isHeight
  have isLast : IsWord (decimal height ++ ascii "]") := isHeight.append (by decide)
  simp only [matrixWords, List.forall_mem_cons]
  exact ⟨isWidth, isHeight, by decide, isFirst, isZero, isZero, isNegative, isZero, isLast,
    by simp⟩

theorem isWord_of_mem_totalLine {pages : Nat} :
    ∀ word ∈ [totalKey, decimal pages], IsWord word := by
  simp only [List.forall_mem_cons]
  exact ⟨by decide, isWord_decimal pages, by simp⟩

theorem readHeading?_headingLine (number : Nat) :
    readHeading? (headingLine number) = some number := by
  rw [readHeading?, headingLine, pieces_unwords (isWord_of_mem_headingLine number)]
  exact (if_pos ⟨rfl, rfl⟩).trans (number?_decimal number)

theorem readSize?_sizeLine (width height : Nat) :
    readSize? (sizeLine width height) = some (width, height) := by
  rw [readSize?, sizeLine, pieces_unwords isWord_of_mem_sizeLine]
  simp only [if_true, number?_decimal, Option.bind_some, Option.map_some]

/-- The number of pages is read from the end of whatever ends with the trailer. -/
theorem readTotal?_trailerLines (lines : List (List UInt8)) (pages : Nat) :
    readTotal? (lines ++ trailerLines pages) = some pages := by
  have reversed : (lines ++ trailerLines pages).reverse =
      ascii "%%EOF" :: unwords [totalKey, decimal pages] :: lines.reverse := by
    simp [trailerLines]
  rw [readTotal?, reversed]
  simp only [pieces_unwords isWord_of_mem_totalLine, and_self, if_true, number?_decimal]

theorem opensPage_headingLine (number : Nat) : opensPage (headingLine number) = true := by
  have first : opensPage (headingLine number) = (pageKey == pageKey) :=
    opensPage_append (by decide) (unwords [decimal number, decimal number])
  rw [first, beq_self_eq_true]

/-! ## Lines inside of a document -/

/-- Some lines open no page and are whole. -/
structure Plain (lines : List (List UInt8)) : Prop where
  inside : Inside lines
  whole : ∀ line ∈ lines, lineEnd ∉ line

theorem Plain.nil : Plain [] :=
  ⟨by simp [Inside], by simp⟩

theorem Plain.cons {line : List UInt8} {rest : List (List UInt8)} (opens : opensPage line = false)
    (whole : lineEnd ∉ line) (later : Plain rest) : Plain (line :: rest) := by
  constructor
  · intro other member
    rcases List.mem_cons.mp member with rfl | behind
    · exact opens
    · exact later.inside other behind
  · intro other member
    rcases List.mem_cons.mp member with rfl | behind
    · exact whole
    · exact later.whole other behind

theorem plain_headerLines (widthPoints heightPoints : Nat) {date : String}
    (oneLine : '\n' ∉ date.toList) : Plain (headerLines widthPoints heightPoints date) := by
  have isBox : ∀ word ∈ [ascii "%%BoundingBox:", ascii "0", ascii "0", decimal widthPoints,
      decimal heightPoints], IsWord word := by
    simp only [List.forall_mem_cons]
    exact ⟨by decide, by decide, by decide, isWord_decimal widthPoints,
      isWord_decimal heightPoints, by simp⟩
  have boxOpens := opensPage_append (isBox _ (List.mem_cons_self ..))
    (unwords [ascii "0", ascii "0", decimal widthPoints, decimal heightPoints])
  have isKey : IsWord (ascii "%%CreationDate:") := by decide
  have dateOpens := opensPage_append isKey (ascii date)
  have dateWhole : lineEnd ∉ ascii "%%CreationDate:" ++ space :: ascii date := by
    intro member
    rcases List.mem_append.mp member with key | value
    · exact absurd key (by decide)
    · rcases List.mem_cons.mp value with equal | value
      · exact absurd equal (by decide)
      · exact lineEnd_not_mem_ascii oneLine value
  refine .cons (by decide) (by decide) (.cons (by decide) (by decide) ?_)
  refine .cons (boxOpens.trans (by decide)) (lineEnd_not_mem_unwords isBox) ?_
  refine .cons (by decide) (by decide) ?_
  refine .cons (dateOpens.trans (by decide)) dateWhole ?_
  refine .cons (by decide) (by decide) (.cons (by decide) (by decide) ?_)
  exact .cons (by decide) (by decide) .nil

theorem plain_trailerLines (pages : Nat) : Plain (trailerLines pages) := by
  have isKey : IsWord totalKey := by decide
  have opens := opensPage_append isKey (decimal pages)
  refine .cons (opens.trans (by decide)) (lineEnd_not_mem_unwords isWord_of_mem_totalLine) ?_
  exact .cons (by decide) (by decide) .nil

/-- A line inside of a page: it is whole, and no comment. -/
structure PageLine (line : List UInt8) : Prop where
  notComment : line.head? ≠ some Ascii85.commentSign
  whole : lineEnd ∉ line

/-- Lines that do not look like comments open no page. -/
theorem plain_of_pageLine {lines : List (List UInt8)} (inPage : ∀ line ∈ lines, PageLine line) :
    Plain lines where
  inside line member := opensPage_of_head? (inPage line member).notComment
  whole line member := (inPage line member).whole

theorem pageLine_formatLines (widthPoints heightPoints : Nat) (s : Sheet) :
    ∀ line ∈ formatLines widthPoints heightPoints s, PageLine line := by
  have scale : PageLine (scaleLine widthPoints heightPoints) :=
    ⟨head?_decimal_append widthPoints _, lineEnd_not_mem_unwords isWord_of_mem_scaleLine⟩
  have size : PageLine (sizeLine s.width s.height) :=
    ⟨head?_decimal_append s.width _, lineEnd_not_mem_unwords isWord_of_mem_sizeLine⟩
  have operators : ∀ line ∈ imageOperators, PageLine line := by
    simp only [imageOperators, List.forall_mem_cons]
    exact ⟨⟨by decide, by decide⟩, ⟨by decide, by decide⟩, ⟨by decide, by decide⟩,
      ⟨by decide, by decide⟩, by simp⟩
  simp only [formatLines, List.forall_mem_cons]
  exact ⟨scale, size, operators⟩

theorem pageLine_of_dataLine {line : List UInt8} (data : Ascii85.DataLine line) : PageLine line :=
  ⟨data.notComment, data.lineEnd_not_mem⟩

theorem pageLine_endMarker {last : List UInt8} (data : Ascii85.DataLine last) :
    PageLine (last ++ Ascii85.endMarker) := by
  constructor
  · cases last with
    | nil => decide
    | cons c rest => exact data.notComment
  · intro member
    rcases List.mem_append.mp member with inData | atEnd
    · exact data.lineEnd_not_mem inData
    · exact absurd atEnd (by decide)

/-! ## Pages -/

/-- A page is read from its heading, its format, and lines whose data is read. -/
theorem readPage?_formatLines (number widthPoints heightPoints : Nat) (s : Sheet)
    {lines : List (List UInt8)} {samples : List UInt8}
    (data : readSamples? (unlines lines) = some samples) :
    readPage? (headingLine number :: (formatLines widthPoints heightPoints s ++ lines)) =
      some ⟨number, s.width, s.height, samples⟩ := by
  have coded : (imageOperators ++ lines).take 4 = imageOperators := rfl
  have behind : (imageOperators ++ lines).drop 4 = lines := rfl
  have cut : formatLines widthPoints heightPoints s ++ lines =
      scaleLine widthPoints heightPoints :: sizeLine s.width s.height ::
        (imageOperators ++ lines) := rfl
  rw [cut, readPage?, if_pos coded, readHeading?_headingLine, behind, readSize?_sizeLine,
    Option.bind_some, Option.bind_some, data]
  rfl

/-- The data of an image is written in two pieces, its end marker with the line behind it. -/
theorem imageData_bytes {s : Sheet} {lines : List (List UInt8)} {last : List UInt8}
    (text : (imageData s).toList = unlines (lines ++ [last ++ Ascii85.endMarker])) :
    ((imageData s).extract 0 ((imageData s).size - 3)).toList ++
        ["~>\n", "showpage\n"].flatMap ascii =
      unlines (lines ++ [last ++ Ascii85.endMarker] ++ [ascii "showpage"]) := by
  have ended : ["~>\n", "showpage\n"].flatMap ascii =
      Ascii85.endMarker ++ [lineEnd] ++ unlines [ascii "showpage"] := rfl
  have whole : unlines (lines ++ [last ++ Ascii85.endMarker]) =
      unlines lines ++ last ++ (Ascii85.endMarker ++ [lineEnd]) := by
    simp [unlines]
  have size : (imageData s).size - 3 = (unlines lines ++ last).length := by
    rw [← Array.length_toList, text, whole, List.length_append]
    rfl
  rw [Array.toList_extract, List.extract_eq_take_drop, List.drop_zero, Nat.sub_zero, size, text,
    whole, List.take_left, ended, unlines_append _ [ascii "showpage"], whole]
  simp only [List.append_assoc]

/-- The lines that a page is written as, behind its heading. -/
def bodyLines (widthPoints heightPoints : Nat) (s : Sheet) : List (List UInt8) :=
  formatLines widthPoints heightPoints s ++
    (pieces lineEnd (imageData s).toList ++ [ascii "showpage"])

theorem page_bytes (number widthPoints heightPoints : Nat) (s : Sheet) :
    (pageTexts number widthPoints heightPoints s).flatMap ascii ++
        (((imageData s).extract 0 ((imageData s).size - 3)).toList ++
          ["~>\n", "showpage\n"].flatMap ascii) =
      unlines (headingLine number :: bodyLines widthPoints heightPoints s) := by
  obtain ⟨lines, last, text, data, lastData, -⟩ :=
    Ascii85.exists_lines (RunLength.encode s.luma.toList).toList
  have cut : pieces lineEnd (imageData s).toList = lines ++ [last ++ Ascii85.endMarker] :=
    Ascii85.pieces_encode text data lastData
  rw [pageTexts_bytes, imageData_bytes text, ← unlines_append, bodyLines, cut]
  rfl

theorem pageLine_bodyLines (widthPoints heightPoints : Nat) (s : Sheet) :
    ∀ line ∈ bodyLines widthPoints heightPoints s, PageLine line := by
  obtain ⟨lines, last, text, data, lastData, -⟩ :=
    Ascii85.exists_lines (RunLength.encode s.luma.toList).toList
  have cut : pieces lineEnd (imageData s).toList = lines ++ [last ++ Ascii85.endMarker] :=
    Ascii85.pieces_encode text data lastData
  have shown : PageLine (ascii "showpage") := ⟨by decide, by decide⟩
  rw [bodyLines, cut]
  simp only [List.forall_mem_append, List.forall_mem_singleton]
  exact ⟨pageLine_formatLines widthPoints heightPoints s,
    ⟨fun line member => pageLine_of_dataLine (data line member), pageLine_endMarker lastData⟩,
    shown⟩

theorem readPage?_bodyLines (number widthPoints heightPoints : Nat) (s : Sheet)
    (rest : List (List UInt8)) :
    readPage? (headingLine number :: (bodyLines widthPoints heightPoints s ++ rest)) =
      some (PageImage.ofSheet number s) := by
  obtain ⟨lines, last, text, data, lastData, -, content⟩ :=
    Ascii85.exists_lines (RunLength.encode s.luma.toList).toList
  have cut : pieces lineEnd (imageData s).toList = lines ++ [last ++ Ascii85.endMarker] :=
    Ascii85.pieces_encode text data lastData
  have samples := readSamples?_lines data lastData content (ascii "showpage" :: rest)
  rw [Sheet.luma_toList] at samples
  rw [bodyLines, cut, List.append_assoc, List.append_assoc, List.append_assoc]
  exact readPage?_formatLines number widthPoints heightPoints s samples

/-- The lines of the pages of some sheets, with so many pages in front of them. -/
def sectionLines (widthPoints heightPoints : Nat) : Nat → List Sheet → List (List UInt8)
  | _, [] => []
  | before, s :: rest =>
    headingLine (before + 1) ::
      (bodyLines widthPoints heightPoints s ++
        sectionLines widthPoints heightPoints (before + 1) rest)

theorem lineEnd_not_mem_headingLine (number : Nat) : lineEnd ∉ headingLine number :=
  lineEnd_not_mem_unwords (isWord_of_mem_headingLine number)

theorem lineEnd_not_mem_sectionLines (widthPoints heightPoints before : Nat) (sheets : List Sheet) :
    ∀ line ∈ sectionLines widthPoints heightPoints before sheets, lineEnd ∉ line := by
  induction sheets generalizing before with
  | nil => simp [sectionLines]
  | cons s rest ih =>
    simp only [sectionLines, List.forall_mem_cons, List.forall_mem_append]
    exact ⟨lineEnd_not_mem_headingLine (before + 1),
      fun line member => (pageLine_bodyLines widthPoints heightPoints s line member).whole,
      ih (before + 1)⟩

/-! ## Documents -/

theorem writeTexts_bytes (b : FileBuffer) (texts : List String) :
    (b.writeTexts texts).contents.data.toList =
      b.contents.data.toList ++ texts.flatMap ascii :=
  b.contents_writeTexts texts

theorem start_bytes (width height : Float) (date : String) :
    (Document.start width height date).file.contents.data.toList =
      unlines (headerLines (points width) (points height) date) := by
  have empty : ({} : FileBuffer).contents.data.toList = [] := rfl
  rw [Document.start, writeTexts_bytes, headerTexts_bytes, empty, List.nil_append]

theorem addPage_bytes (d : Document) (s : Sheet) :
    (d.addPage s).file.contents.data.toList = d.file.contents.data.toList ++
      unlines (headingLine (d.pages + 1) :: bodyLines d.widthPoints d.heightPoints s) := by
  obtain ⟨widthPoints, heightPoints, pages, file⟩ := d
  rw [← page_bytes, Document.addPage, writeTexts_bytes, FileBuffer.contents_writeBytes,
    writeTexts_bytes]
  simp only [List.append_assoc]

theorem foldl_addPage_bytes (d : Document) (sheets : List Sheet) :
    (sheets.foldl Document.addPage d).file.contents.data.toList =
        d.file.contents.data.toList ++
          unlines (sectionLines d.widthPoints d.heightPoints d.pages sheets) ∧
      (sheets.foldl Document.addPage d).pages = d.pages + sheets.length := by
  induction sheets generalizing d with
  | nil => exact ⟨(List.append_nil _).symm, rfl⟩
  | cons s rest ih =>
    obtain ⟨text, counted⟩ := ih (d.addPage s)
    have pages : (d.addPage s).pages = d.pages + 1 := rfl
    constructor
    · rw [List.foldl_cons, text, addPage_bytes, List.append_assoc, ← unlines_append]
      rfl
    · rw [List.foldl_cons, counted, pages, List.length_cons]
      omega

theorem close_bytes (d : Document) :
    d.close.data.toList = d.file.contents.data.toList ++ unlines (trailerLines d.pages) := by
  rw [Document.close, writeTexts_bytes, trailerTexts_bytes]

theorem pageImages_cons (before : Nat) (s : Sheet) (rest : List Sheet) :
    pageImages before (s :: rest) =
      PageImage.ofSheet (before + 1) s :: pageImages (before + 1) rest := by
  have shifted (i : Nat) : before + (i + 1) + 1 = before + 1 + i + 1 := by omega
  simp only [pageImages, List.mapIdx_cons, Nat.add_zero, shifted]

theorem readAs_sectionLines (widthPoints heightPoints before : Nat) (sheets : List Sheet) :
    ReadAs (sectionLines widthPoints heightPoints before sheets) (pageImages before sheets) := by
  -- Later pages are read first: a section ends where the next heading stands.
  induction sheets generalizing before with
  | nil => exact .nil
  | cons s rest ih =>
    have body := plain_of_pageLine (pageLine_bodyLines widthPoints heightPoints s)
    rw [pageImages_cons, sectionLines]
    exact (ih (before + 1)).cons (opensPage_headingLine _) body.inside
      (readPage?_bodyLines (before + 1) widthPoints heightPoints s)

/-- Pages that are added to a document are read behind those that are in it. -/
theorem exists_lines_foldl (d : Document) (sheets : List Sheet) :
    ∃ lines, (sheets.foldl Document.addPage d).file.contents.data.toList =
        d.file.contents.data.toList ++ unlines lines ∧
      (sheets.foldl Document.addPage d).pages = d.pages + sheets.length ∧
      (∀ line ∈ lines, lineEnd ∉ line) ∧ ReadAs lines (pageImages d.pages sheets) := by
  obtain ⟨text, counted⟩ := foldl_addPage_bytes d sheets
  exact ⟨_, text, counted, lineEnd_not_mem_sectionLines _ _ _ _,
    readAs_sectionLines _ _ _ _⟩

/-- A document that is closed is read as what was written to it behind its header, with the trailer
at its end. -/
theorem read?_close {d : Document} {header lines : List (List UInt8)} {images : List PageImage}
    (text : d.file.contents.data.toList = unlines (header ++ lines)) (plain : Plain header)
    (whole : ∀ line ∈ lines, lineEnd ∉ line) (read : ReadAs lines images) :
    Transcript.read? d.close.data.toList = some ⟨images, d.pages⟩ := by
  have trailer := plain_trailerLines d.pages
  have cut : pieces lineEnd d.close.data.toList = header ++ lines ++ trailerLines d.pages := by
    rw [close_bytes, text, ← unlines_append]
    apply pieces_unlines
    intro line member
    rw [List.mem_append, List.mem_append] at member
    rcases member with (first | inside) | last
    · exact plain.whole line first
    · exact whole line inside
    · exact trailer.whole line last
  rw [Transcript.read?, cut, (read.front plain.inside) _ trailer.inside,
    readTotal?_trailerLines]
  rfl

/-- The lines of a document. The date stands on one line. -/
theorem pieces_document (width height : Float) {date : String} (oneLine : '\n' ∉ date.toList)
    (sheets : List Sheet) :
    pieces lineEnd
        ((sheets.foldl Document.addPage (.start width height date)).close).data.toList =
      headerLines (points width) (points height) date ++
        sectionLines (points width) (points height) 0 sheets ++ trailerLines sheets.length := by
  obtain ⟨text, counted⟩ := foldl_addPage_bytes (.start width height date) sheets
  have total : (Document.start width height date).pages + sheets.length = sheets.length :=
    Nat.zero_add _
  rw [total] at counted
  rw [close_bytes, text, counted, start_bytes, ← unlines_append, ← unlines_append]
  apply pieces_unlines
  simp only [List.forall_mem_append]
  exact ⟨⟨(plain_headerLines _ _ oneLine).whole, lineEnd_not_mem_sectionLines _ _ _ _⟩,
    (plain_trailerLines _).whole⟩

/-- A document is read as the sheets that were added to it, in their order, and the number of them.
The date stands on one line. -/
theorem read?_document (width height : Float) {date : String} (oneLine : '\n' ∉ date.toList)
    (sheets : List Sheet) :
    Transcript.read?
        ((sheets.foldl Document.addPage (.start width height date)).close).data.toList =
      some ⟨pageImages 0 sheets, sheets.length⟩ := by
  have header := plain_headerLines (points width) (points height) oneLine
  have trailer := plain_trailerLines sheets.length
  have read := readAs_sectionLines (points width) (points height) 0 sheets
  have pages : readPages? (headerLines (points width) (points height) date ++
      sectionLines (points width) (points height) 0 sheets ++ trailerLines sheets.length) =
      some (pageImages 0 sheets) :=
    (read.front header.inside) _ trailer.inside
  rw [Transcript.read?, pieces_document width height oneLine, pages, readTotal?_trailerLines]
  rfl

/-- Two sheets of different sizes, one of them with a dark pixel. -/
theorem read?_document_two :
    let date := "2024-02-29 12:30:00"
    let sheets := [(Sheet.blank 3 2 1).fill 1 1 1 1 .black, Sheet.blank 1 1 1]
    '\n' ∉ date.toList ∧
      Transcript.read? ((sheets.foldl Document.addPage (.start 8.5 11.0 date)).close).data.toList =
        some ⟨pageImages 0 sheets, 2⟩ := by
  intro date sheets
  have oneLine : '\n' ∉ date.toList := by decide
  exact ⟨oneLine, read?_document 8.5 11.0 oneLine sheets⟩

end PinPrinter.PostScript
