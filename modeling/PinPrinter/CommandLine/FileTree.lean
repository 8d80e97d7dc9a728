import PinPrinter.CommandLine

/-! # File trees

The files of a host as a value: the directories that are known, with the files in each of them. A
path is followed name by name, and the first name that leads nowhere is its fault.
-/

namespace PinPrinter

/-- What a path leads to. -/
inductive Entry where
  | directory
  | file (data : ByteArray)

/-- The files of a host. The place of an entry is the list of its names, innermost first. -/
structure FileTree where
  /-- The place of the directory that a command line runs in. -/
  current : List String
  /-- The directories at their places. The directories around each of them are there as well. -/
  folders : List (List String × Folder)

namespace FileTree

/-- The bytes that the longest name has. -/
def longestName : Nat := 255

/-- The directory at a place. Nothing can be made in one that is not known. -/
def folderAt (t : FileTree) (place : List String) : Folder :=
  (t.folders.lookup place).getD { writable := false }

/-- The entry at a place. -/
def entry? (t : FileTree) : List String → Option Entry
  | [] => some .directory
  | name :: around =>
    if t.folders.any fun folder => (name :: around).isSuffixOf folder.1 then some .directory
    else ((t.folderAt around).get? name).map fun content => .file content.toBytes

/-- Go on from a place by one name of a path. -/
def step (t : FileTree) (place : List String) (name : String) : Except FileFault (List String) :=
  match t.entry? place with
  | none => .error .notFound
  | some (.file _) => .error .notDirectory
  | some .directory =>
    if name = "" ∨ name = "." then .ok place
    else if name = ".." then .ok place.tail
    else if longestName < name.utf8ByteSize then .error .nameTooLong
    else if (t.entry? (name :: place)).isSome then .ok (name :: place)
    else .error .notFound

/-- The place that a path leads to: from the top if it opens with a slash, else from the current
directory. -/
def follow (t : FileTree) (path : String) : Except FileFault (List String) :=
  if path.isEmpty then .error .notFound
  else if CommandLine.longestPath < path.utf8ByteSize then .error .nameTooLong
  else (path.splitOn "/").foldlM t.step (if path.startsWith "/" then [] else t.current)

/-- The contents of a file. -/
def read (t : FileTree) (path : String) : Except FileFault ByteArray :=
  (t.follow path).bind fun place =>
    match t.entry? place with
    | some (.file data) => .ok data
    | some .directory => .error .isDirectory
    | none => .error .notFound

/-- The place of a document directory, which is the current directory for an empty path. -/
def documentPlace (t : FileTree) (path : String) : Except FileFault (List String) :=
  if path.isEmpty then .ok t.current else t.follow path

/-- The document directory of a path, with the room that the path leaves. -/
def documents (t : FileTree) (path : String) : Folder :=
  match t.documentPlace path with
  | .ok place => { t.folderAt place with room := some (CommandLine.room path) }
  | .error _ => { writable := false }

/-- The tree with other files in the document directory of a path. -/
def save (t : FileTree) (path : String) (documents : Folder) : FileTree :=
  match t.documentPlace path with
  | .ok place =>
    { t with
      folders := t.folders.map fun folder =>
        if folder.1 = place then (place, { folder.2 with files := documents.files }) else folder }
  | .error _ => t

/-- What a command line finds in a file tree. -/
def world (t : FileTree) (input : ByteArray) (host : Host) : CommandLine.World :=
  { file := t.read, input := input, folder := t.documents, host := host }

end FileTree

end PinPrinter
