import PinPrinter.Bitmap.Pictures
import PinPrinter.OutlineFace

/-! # The host

What the printer runs on. None of it is known here: which programs there are, what day it is, how
pictures are encoded and which files of outlines there are. So the host is a record of what it
answers.
-/

namespace PinPrinter

/-- What the printer runs on. -/
structure Host where
  /-- Start a program with arguments: the exit code that it has for a document, or the reason why
  it cannot be started. -/
  launch : String → List String → Except String (ByteArray → Nat)
  /-- The date and time of documents. -/
  date : String
  pictures : PictureEncoders := .standard
  /-- The face of outlines in a file of a directory, if there is such a file and it can be read. -/
  face : String → String → Option OutlineFace := fun _ _ => none

end PinPrinter
