import PinPrinter.Config
import PinPrinter.Spooler

/-! # The outbox

Where finished sheets go. Pictures and single pages are files of their own; the pages of a document
and of a print job stay together until it is finished.
-/

namespace PinPrinter

/-- What became of a sheet. -/
inductive Artifact where
  /-- It is in this file. -/
  | file (name : String)
  /-- It went to the spooler as the page of this number. -/
  | spooled (page : Nat)
  deriving DecidableEq, Repr

/-- A document that waits for more pages, with the name of its file. -/
structure OpenDocument where
  name : String
  document : PostScript.Document

/-- Where finished sheets go. -/
structure Outbox where
  config : Config
  host : Host
  folder : Folder
  document : Option OpenDocument := none
  job : Option SpoolJob := none

namespace Outbox

/-- Whether a document or a job waits for more pages. -/
def isOpen (o : Outbox) : Bool :=
  o.document.isSome || o.job.isSome

/-- The name that the next file gets. -/
def nextName (o : Outbox) (front : String) : String :=
  o.folder.nextName front ("." ++ o.config.output.extension)

/-- Write a page to a file of its own as a picture. The file stays if the picture is refused, with
what has reached it until then. -/
def deliverPicture (o : Outbox) (encoder : PictureEncoder) (s : Sheet) :
    Outbox × Except Error Artifact :=
  let name := o.nextName "page"
  match o.folder.create name with
  | .error e => (o, .error e)
  | .ok folder =>
    let (content, refusal) := Picture.encode encoder s
    ({ o with folder := folder.put name content },
      match refusal with
      | none => .ok (.file name)
      | some e => .error e)

/-- The document that the next page belongs to, opened if there is none. -/
def currentDocument (o : Outbox) : Except Error (OpenDocument × Folder) :=
  match o.document with
  | some current => .ok (current, o.folder)
  | none =>
    let name := o.nextName (if o.config.multipage then "doc" else "page")
    (o.folder.create name).map fun folder =>
      (⟨name, .start o.config.widthInches o.config.heightInches o.host.date⟩, folder)

/-- Close a document in a folder. -/
def closeDocument (folder : Folder) (d : OpenDocument) : Folder :=
  folder.put d.name (.bytes d.document.close)

/-- Write a page of PostScript. Of an open document, the file has what has reached it. -/
def deliverPostScript (o : Outbox) (s : Sheet) : Outbox × Except Error Artifact :=
  match o.currentDocument with
  | .error e => (o, .error e)
  | .ok (current, folder) =>
    let current := { current with document := current.document.addPage s }
    let o :=
      if o.config.multipage then
        { o with
          document := some current
          folder := folder.put current.name (.bytes current.document.file.written) }
      else { o with document := none, folder := closeDocument folder current }
    (o, .ok (.file current.name))

/-- The job that the next page belongs to, started if there is none. -/
def currentJob (o : Outbox) : Except Error SpoolJob :=
  match o.job with
  | some job => .ok job
  | none => SpoolJob.start o.host o.config.spooler o.config.widthInches o.config.heightInches

/-- Hand a page to the spooler. -/
def deliverSpooled (o : Outbox) (s : Sheet) : Outbox × Except Error Artifact :=
  match o.currentJob with
  | .error e => (o, .error e)
  | .ok job =>
    let job := job.addPage s
    let artifact := Artifact.spooled job.document.pages
    if o.config.multipage then ({ o with job := some job }, .ok artifact)
    else ({ o with job := none }, job.finish.map fun _ => artifact)

/-- Send off a finished sheet. -/
def deliver (o : Outbox) (s : Sheet) : Outbox × Except Error Artifact :=
  match o.config.output with
  | .png => o.deliverPicture o.host.pictures.png s
  | .bmp => o.deliverPicture o.host.pictures.bmp s
  | .postScript => o.deliverPostScript s
  | .spooler => o.deliverSpooled s

/-- Finish the job and the document: the name of the document, if there is one. A job that is
refused leaves the document open. -/
def finish (o : Outbox) : Outbox × Except Error (Option String) :=
  let refusal := match o.job with
    | none => none
    | some job =>
      match job.finish with
      | .error e => some e
      | .ok _ => none
  let o := { o with job := none }
  match refusal with
  | some e => (o, .error e)
  | none =>
    match o.document with
    | none => (o, .ok none)
    | some current =>
      ({ o with document := none, folder := closeDocument o.folder current },
        .ok (some current.name))

end Outbox

end PinPrinter
