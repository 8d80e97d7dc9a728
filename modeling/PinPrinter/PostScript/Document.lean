import PinPrinter.FileBuffer
import PinPrinter.PostScript.Ascii85
import PinPrinter.PostScript.RunLength
import PinPrinter.Sheet

/-! # PostScript documents

A document has a header, a section with one full-page grey image for every page, and a trailer that
tells the number of pages. The samples of an image are the grey levels of its pixels, coded by run
length and then as visible characters.
-/

namespace PinPrinter.PostScript

/-- A document that is being written. -/
structure Document where
  widthPoints : Nat
  heightPoints : Nat
  /-- The pages written so far. -/
  pages : Nat
  file : FileBuffer

/-- The texts of the header. -/
def headerTexts (widthPoints heightPoints : Nat) (date : String) : List String :=
  ["%!PS-Adobe-3.0\n", "%%Pages: (atend)\n",
    "%%BoundingBox: 0 0 ", toString widthPoints, " ", toString heightPoints, "\n",
    "%%Creator: dotmatrix virtual printer\n",
    "%%CreationDate: ", date, "\n",
    "%%DocumentData: Clean7Bit\n", "%%LanguageLevel: 2\n", "%%EndComments\n"]

/-- The texts in front of the image of a page. -/
def pageTexts (number widthPoints heightPoints : Nat) (s : Sheet) : List String :=
  let width := toString s.width
  let height := toString s.height
  ["%%Page: ", toString number, " ", toString number, "\n",
    toString widthPoints, " ", toString heightPoints, " scale\n",
    width, " ", height, " 8 [", width, " 0 0 -", height, " 0 ", height, "]\n",
    "currentfile\n", "/ASCII85Decode filter\n", "/RunLengthDecode filter\n", "image\n"]

/-- The texts of the trailer. -/
def trailerTexts (pages : Nat) : List String :=
  ["%%Pages: ", toString pages, "\n", "%%EOF\n"]

/-- The image data of a sheet. -/
def imageData (s : Sheet) : Array UInt8 :=
  Ascii85.encode (RunLength.encode s.luma.toList).toList

/-- A length in inches as whole points, kept within 32 bits. -/
def points (inches : Float) : Nat :=
  min (Rounding.nearest (inches * 72.0)).toNat (UInt32.size - 1)

namespace Document

/-- Open a document for paper of a size in inches. -/
def start (width height : Float) (date : String) : Document where
  widthPoints := points width
  heightPoints := points height
  pages := 0
  file := ({} : FileBuffer).writeTexts (headerTexts (points width) (points height) date)

/-- Add a page. The end of its image is one piece of text. -/
def addPage (d : Document) (s : Sheet) : Document :=
  match d with
  | ⟨widthPoints, heightPoints, pages, file⟩ =>
    let data := imageData s
    let file := file.writeTexts (pageTexts (pages + 1) widthPoints heightPoints s)
    let file := file.writeBytes (data.extract 0 (data.size - 3))
    ⟨widthPoints, heightPoints, pages + 1, file.writeTexts ["~>\n", "showpage\n"]⟩

/-- The whole document, with its trailer. -/
def close (d : Document) : ByteArray :=
  (d.file.writeTexts (trailerTexts d.pages)).contents

end Document

end PinPrinter.PostScript
