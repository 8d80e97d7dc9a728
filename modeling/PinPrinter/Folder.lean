import PinPrinter.Bitmap.Png
import PinPrinter.Error

/-! # The document directory

The directory that pages are written to: names with contents. A name that is taken is never written
over, since a new file gets the first number that is free.
-/

namespace PinPrinter

/-- What is in a file. -/
inductive Content where
  /-- Bytes as they stand. -/
  | bytes (data : ByteArray)
  /-- A PNG picture, kept as the sheet that it shows. -/
  | picture (sheet : Sheet)

/-- The bytes of a file. -/
def Content.toBytes : Content → ByteArray
  | .bytes data => data
  | .picture sheet => Png.encode sheet

/-- A directory. -/
structure Folder where
  /-- Whether the directory exists, so that files can be made in it. -/
  writable : Bool := true
  /-- The bytes that a name can have, if the path of the directory leaves room for so many only. -/
  room : Option Nat := none
  files : List (String × Content) := []

namespace Folder

/-- Whether there is room for a name. -/
def fits (f : Folder) (name : String) : Bool :=
  f.room.all (name.utf8ByteSize ≤ ·)

/-- The contents of a file. -/
def get? (f : Folder) (name : String) : Option Content :=
  f.files.lookup name

/-- Whether a name is taken. A file is not found under a name that there is no room for. -/
def has (f : Folder) (name : String) : Bool :=
  f.fits name && f.files.any fun file => file.1 == name

/-- Put contents under a name. -/
def put (f : Folder) (name : String) (content : Content) : Folder :=
  if f.has name then
    { f with files := f.files.map fun file => if file.1 = name then (name, content) else file }
  else { f with files := f.files ++ [(name, content)] }

/-- Make an empty file. -/
def create (f : Folder) (name : String) : Except Error Folder :=
  if !f.fits name then .error (.file .nameTooLong)
  else if f.writable then .ok (f.put name (.bytes .empty))
  else .error (.file .notFound)

/-- A numbered name. -/
def numbered (front ext : String) (n : Nat) : String :=
  front ++ toString n ++ ext

/-- The first number whose name is free. Of one more number than there are files, one is free. -/
def nextNumber (f : Folder) (front ext : String) : Nat :=
  ((List.range' 1 (f.files.length + 1)).find? fun n => !f.has (numbered front ext n)).getD 0

/-- The first numbered name that is free. -/
def nextName (f : Folder) (front ext : String) : String :=
  numbered front ext (f.nextNumber front ext)

end Folder

end PinPrinter
