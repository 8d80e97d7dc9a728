/-! # A file that is being written

What is written to an open file is held back until a block of it has come together. A piece that
does not fit into the block any more sends the block to the file first.
-/

namespace PinPrinter

/-- An open file. -/
structure FileBuffer where
  /-- The bytes that have reached the file. -/
  written : ByteArray := .empty
  /-- The bytes that are held back. -/
  pending : ByteArray := .empty

namespace FileBuffer

/-- The size of a block. -/
def blockSize : Nat := 8192

/-- All that has been written, held back or not. -/
def contents (b : FileBuffer) : ByteArray :=
  b.written ++ b.pending

/-- Write one piece. -/
def write (b : FileBuffer) (piece : ByteArray) : FileBuffer :=
  match b with
  | ⟨written, pending⟩ =>
    if pending.size + piece.size ≤ blockSize then ⟨written, pending ++ piece⟩
    else if piece.size < blockSize then ⟨written ++ pending, piece⟩
    else ⟨written ++ pending ++ piece, .empty⟩

/-- Write one byte. -/
def writeByte (b : FileBuffer) (byte : UInt8) : FileBuffer :=
  match b with
  | ⟨written, pending⟩ =>
    if pending.size < blockSize then ⟨written, pending.push byte⟩
    else ⟨written ++ pending, ByteArray.empty.push byte⟩

/-- Write a text as one piece. -/
def writeText (b : FileBuffer) (text : String) : FileBuffer :=
  b.write text.toUTF8

/-- Write texts, each of them as one piece. -/
def writeTexts (b : FileBuffer) (texts : List String) : FileBuffer :=
  texts.foldl writeText b

/-- Write bytes one by one. -/
def writeBytes (b : FileBuffer) (bytes : Array UInt8) : FileBuffer :=
  bytes.foldl writeByte b

end FileBuffer

end PinPrinter
