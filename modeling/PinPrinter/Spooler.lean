import PinPrinter.Host
import PinPrinter.PostScript.Document

/-! # The spooler

A spooler is a program of the host that takes a document and says whether it was accepted.
-/

namespace PinPrinter

/-- A running print job. -/
structure SpoolJob where
  document : PostScript.Document
  exitCode : ByteArray → Nat

namespace SpoolJob

/-- The characters that separate words. -/
def isBlank (c : Char) : Bool :=
  let n := c.toNat
  (0x09 ≤ n && n ≤ 0x0D) || n == 0x20 || n == 0x85 || n == 0xA0 || n == 0x1680 ||
    (0x2000 ≤ n && n ≤ 0x200A) || n == 0x2028 || n == 0x2029 || n == 0x202F || n == 0x205F ||
    n == 0x3000

/-- Cut characters into words; `word` is what has been read of the current one, reversed. -/
def wordsFrom (word : List Char) : List Char → List String
  | [] => if word.isEmpty then [] else [String.ofList word.reverse]
  | c :: rest =>
    if isBlank c then
      if word.isEmpty then wordsFrom [] rest
      else String.ofList word.reverse :: wordsFrom [] rest
    else wordsFrom (c :: word) rest

/-- The words of a command. -/
def words (command : String) : List String :=
  wordsFrom [] command.toList

/-- Start a job for paper of a size in inches. -/
def start (host : Host) (command : String) (width height : Float) : Except Error SpoolJob :=
  match words command with
  | [] => .error .noSpooler
  | program :: arguments =>
    match host.launch program arguments with
    | .error reason => .error (.spoolerStart command reason)
    | .ok exitCode => .ok ⟨.start width height host.date, exitCode⟩

/-- Hand over a page. -/
def addPage (j : SpoolJob) (s : Sheet) : SpoolJob :=
  { j with document := j.document.addPage s }

/-- End the job: the number of its pages, if the spooler accepts it. -/
def finish (j : SpoolJob) : Except Error Nat :=
  let status := j.exitCode j.document.close
  if status = 0 then .ok j.document.pages else .error (.spoolerExit status)

end SpoolJob

end PinPrinter
