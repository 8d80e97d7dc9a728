import PinPrinter.Proofs.PostScript.DataLines
import PinPrinter.Proofs.PostScript.RunLength
import PinPrinter.Sheet

/-! # Reading a document

A document is read by its lines. A section starts at each line that opens a page, the samples of a
page stand between its `image` line and the end marker, and the last two lines tell the number of
pages.
-/

namespace PinPrinter.PostScript

/-- A page as it is read. -/
structure PageImage where
  number : Nat
  width : Nat
  height : Nat
  samples : List UInt8
  deriving DecidableEq, Repr

/-- What a document says. -/
structure Transcript where
  pages : List PageImage
  /-- The number of pages that the trailer tells. -/
  total : Nat
  deriving DecidableEq, Repr

/-- What a sheet is read as. -/
def PageImage.ofSheet (number : Nat) (s : Sheet) : PageImage :=
  ⟨number, s.width, s.height, s.pixels.toList.map Pixel.luminance⟩

/-- The pages that sheets are read as behind some others. -/
def pageImages (before : Nat) (sheets : List Sheet) : List PageImage :=
  sheets.mapIdx fun i s => PageImage.ofSheet (before + i + 1) s

/-! ## Lines -/

/-- The first word of a line that opens a page. -/
def pageKey : List UInt8 :=
  ascii "%%Page:"

/-- The first word of the line that tells the number of pages. -/
def totalKey : List UInt8 :=
  ascii "%%Pages:"

/-- A line opens a page. -/
def opensPage (line : List UInt8) : Bool :=
  (pieces space line).head? == some pageKey

/-- The number of the page that a line opens, which stands there twice. -/
def readHeading? (line : List UInt8) : Option Nat :=
  match pieces space line with
  | [key, label, ordinal] => if key = pageKey ∧ label = ordinal then number? ordinal else none
  | _ => none

/-- The words behind width and height on the line that gives them: eight bits for a sample, and the
matrix that puts the first row on top. -/
def matrixWords (width height : List UInt8) : List (List UInt8) :=
  [ascii "8", ascii "[" ++ width, ascii "0", ascii "0", ascii "-" ++ height, ascii "0",
    height ++ ascii "]"]

/-- The width and the height of an image. -/
def readSize? (line : List UInt8) : Option (Nat × Nat) :=
  match pieces space line with
  | width :: height :: matrix =>
    if matrix = matrixWords width height then
      (number? width).bind fun w => (number? height).map fun h => (w, h)
    else none
  | _ => none

/-- The lines that say how the data of an image is coded. -/
def imageOperators : List (List UInt8) :=
  [ascii "currentfile", ascii "/ASCII85Decode filter", ascii "/RunLengthDecode filter",
    ascii "image"]

/-! ## Pages -/

/-- What stands in front of the first end marker. -/
def beforeEnd? : List UInt8 → Option (List UInt8)
  | [] => none
  | c :: rest =>
    if Ascii85.endMarker.isPrefixOf (c :: rest) then some []
    else (beforeEnd? rest).map (c :: ·)

/-- The samples of an image, of whose code nothing is left behind the end of the data. -/
def readSamples? (text : List UInt8) : Option (List UInt8) :=
  (beforeEnd? text).bind fun data =>
    (Ascii85.decode? data).bind fun code =>
      match RunLength.decode? code with
      | some (samples, []) => some samples
      | _ => none

/-- The page of a section. -/
def readPage? : List (List UInt8) → Option PageImage
  | heading :: _scale :: size :: rest =>
    if rest.take 4 = imageOperators then
      (readHeading? heading).bind fun number =>
        (readSize? size).bind fun (width, height) =>
          (readSamples? (unlines (rest.drop 4))).map fun samples =>
            ⟨number, width, height, samples⟩
    else none
  | _ => none

/-- The lines in front of the first page, and the section of every page. -/
def sections : List (List UInt8) → List (List UInt8) × List (List (List UInt8))
  | [] => ([], [])
  | line :: rest =>
    let (front, later) := sections rest
    if opensPage line then ([], (line :: front) :: later) else (line :: front, later)

/-- The pages of lines. -/
def readPages? (lines : List (List UInt8)) : Option (List PageImage) :=
  (sections lines).2.mapM readPage?

/-- The number of pages that the last two lines tell. -/
def readTotal? (lines : List (List UInt8)) : Option Nat :=
  match lines.reverse with
  | last :: total :: _ =>
    match pieces space total with
    | [key, count] => if last = ascii "%%EOF" ∧ key = totalKey then number? count else none
    | _ => none
  | _ => none

/-- Read a document. -/
def Transcript.read? (text : List UInt8) : Option Transcript :=
  (readPages? (pieces lineEnd text)).bind fun pages =>
    (readTotal? (pieces lineEnd text)).map fun total => ⟨pages, total⟩

/-! ## What opens a page -/

theorem head?_eq_of_pieces {separator c : UInt8} {piece line : List UInt8}
    (first : (pieces separator line).head? = some (c :: piece)) : line.head? = some c := by
  cases line with
  | nil => simp [pieces] at first
  | cons d rest =>
    by_cases cut : d = separator
    · rw [pieces, if_pos cut] at first
      simp at first
    · rw [pieces, if_neg cut] at first
      cases later : pieces separator rest with
      | nil =>
        rw [later] at first
        simp only [List.head?_cons, Option.some.injEq, List.cons.injEq] at first
        rw [List.head?_cons, first.1]
      | cons next others =>
        rw [later] at first
        simp only [List.head?_cons, Option.some.injEq, List.cons.injEq] at first
        rw [List.head?_cons, first.1]

/-- A line that does not look like a comment opens no page. -/
theorem opensPage_of_head? {line : List UInt8}
    (notComment : line.head? ≠ some Ascii85.commentSign) : opensPage line = false := by
  cases opens : opensPage line with
  | false => rfl
  | true => exact absurd (head?_eq_of_pieces (beq_iff_eq.mp opens)) notComment

/-- Whether a line opens a page is told by its first word. -/
theorem opensPage_append {key : List UInt8} (isWord : IsWord key) (rest : List UInt8) :
    opensPage (key ++ space :: rest) = (key == pageKey) := by
  rw [opensPage, pieces_append_separator isWord.space_not_mem, List.head?_cons]
  rfl

/-- A line that starts with a number is no comment. -/
theorem head?_decimal_append (n : Nat) (rest : List UInt8) :
    (decimal n ++ rest).head? ≠ some Ascii85.commentSign := by
  intro comment
  cases digits : decimal n with
  | nil => exact (isWord_decimal n).1 digits
  | cons c later =>
    rw [digits, List.cons_append, List.head?_cons, Option.some.injEq] at comment
    have digit := digit_of_mem_decimal (digits ▸ List.mem_cons_self (a := c) (l := later))
    rw [comment] at digit
    exact absurd digit (by decide)

/-! ## Sections -/

/-- Some lines open no page. -/
def Inside (lines : List (List UInt8)) : Prop :=
  ∀ line ∈ lines, opensPage line = false

theorem sections_inside {block : List (List UInt8)} (inside : Inside block)
    (rest : List (List UInt8)) :
    sections (block ++ rest) = (block ++ (sections rest).1, (sections rest).2) := by
  induction block with
  | nil => rfl
  | cons line block ih =>
    have first := inside line (List.mem_cons_self ..)
    rw [List.cons_append, sections, ih fun other member => inside other (.tail _ member), first]
    rfl

theorem sections_opens {heading : List UInt8} (opens : opensPage heading = true)
    {block : List (List UInt8)} (inside : Inside block) (rest : List (List UInt8)) :
    sections (heading :: (block ++ rest)) =
      ([], (heading :: (block ++ (sections rest).1)) :: (sections rest).2) := by
  rw [sections, sections_inside inside, opens]
  rfl

/-- Lines are read as some pages, whatever lines come behind the last of them. -/
def ReadAs (lines : List (List UInt8)) (pages : List PageImage) : Prop :=
  ∀ rest, Inside rest → readPages? (lines ++ rest) = some pages

theorem ReadAs.nil : ReadAs [] [] := by
  intro rest inside
  have alone := sections_inside inside []
  rw [List.append_nil] at alone
  rw [List.nil_append, readPages?, alone]
  rfl

/-- The lines in front of the first page are not read. -/
theorem ReadAs.front {front lines : List (List UInt8)} {pages : List PageImage}
    (inside : Inside front) (read : ReadAs lines pages) : ReadAs (front ++ lines) pages := by
  intro rest last
  rw [List.append_assoc, readPages?, sections_inside inside]
  exact read rest last

/-- A section is read in front of others if it is read whatever comes behind it. -/
theorem ReadAs.cons {heading : List UInt8} {block lines : List (List UInt8)} {page : PageImage}
    {pages : List PageImage} (opens : opensPage heading = true) (inside : Inside block)
    (first : ∀ rest, readPage? (heading :: (block ++ rest)) = some page)
    (later : ReadAs lines pages) : ReadAs (heading :: (block ++ lines)) (page :: pages) := by
  intro rest last
  have others : (sections (lines ++ rest)).2.mapM readPage? = some pages := later rest last
  rw [List.cons_append, List.append_assoc, readPages?, sections_opens opens inside,
    List.mapM_cons, first, others]
  rfl

/-! ## Samples -/

theorem beforeEnd?_append {data : List UInt8} (inside : Ascii85.endSign ∉ data)
    (rest : List UInt8) : beforeEnd? (data ++ (Ascii85.endMarker ++ rest)) = some data := by
  induction data with
  | nil =>
    have marked : Ascii85.endMarker.isPrefixOf (Ascii85.endMarker ++ rest) = true := by
      simp [List.isPrefixOf_iff_prefix]
    exact if_pos marked
  | cons c data ih =>
    have other : Ascii85.endSign ≠ c := by
      rintro rfl
      exact inside (List.mem_cons_self ..)
    have unmarked :
        ¬ Ascii85.endMarker.isPrefixOf (c :: (data ++ (Ascii85.endMarker ++ rest))) := by
      simp [Ascii85.endMarker, List.isPrefixOf, other]
    rw [List.cons_append, beforeEnd?, if_neg unmarked,
      ih fun member => inside (List.mem_cons_of_mem _ member)]
    rfl

/-- The lines of image data, with whatever comes behind the end marker, are read as the samples
that were coded. -/
theorem readSamples?_lines {samples : List UInt8} {lines : List (List UInt8)} {last : List UInt8}
    (data : ∀ line ∈ lines, Ascii85.DataLine line) (lastData : Ascii85.DataLine last)
    (content : ((lines.flatten ++ last).filter fun c => !Ascii85.isBlank c) =
      (Ascii85.symbols (RunLength.encode samples).toList).toList) (rest : List (List UInt8)) :
    readSamples? (unlines (lines ++ (last ++ Ascii85.endMarker) :: rest)) = some samples := by
  have unended : Ascii85.endSign ∉ unlines lines ++ last := by
    intro member
    rcases List.mem_append.mp member with inLines | inLast
    · obtain ⟨line, present, inLine⟩ := List.mem_flatMap.mp inLines
      rcases List.mem_append.mp inLine with inData | atEnd
      · exact (data line present).endSign_not_mem inData
      · exact absurd atEnd (by decide)
    · exact lastData.endSign_not_mem inLast
  have text : unlines (lines ++ (last ++ Ascii85.endMarker) :: rest) =
      (unlines lines ++ last) ++ (Ascii85.endMarker ++ (lineEnd :: unlines rest)) := by
    simp [unlines]
  rw [text, readSamples?, beforeEnd?_append unended, Option.bind_some,
    Ascii85.decode?_lines content, Option.bind_some, RunLength.decode?_encode]

end PinPrinter.PostScript
