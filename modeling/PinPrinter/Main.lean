import PinPrinter.CommandLine
import Std.Time.Format

/-! # The program

Reads what a job needs from the host, runs the command line on it, and writes the files that come
out. Programs of the host are not started: every spooler command is refused.
-/

namespace PinPrinter.Main

/-- The date and time as documents have it. -/
def timestamp : IO String := do
  let now ← Std.Time.PlainDateTime.now
  let two (n : Nat) : String := if n < 10 then "0" ++ toString n else toString n
  let day := s!"{now.year.toInt}-{two now.month.val.toNat}-{two now.day.val.toNat}"
  return day ++ " " ++
    s!"{two now.hour.val.toNat}:{two now.minute.val.toNat}:{two now.second.val.toNat}"

/-- The faults of files that are told apart, by the numbers that the system gives them. -/
def fault : IO.Error → FileFault
  | .noFileOrDirectory .. => .notFound
  | .inappropriateType _ 21 _ => .isDirectory
  | .inappropriateType _ 20 _ => .notDirectory
  | .invalidArgument _ 36 _ => .nameTooLong
  | other => .other (toString other)

/-- Read a file. -/
def readFile (name : String) : IO (Except FileFault ByteArray) := do
  try
    return .ok (← IO.FS.readBinFile name)
  catch e => return .error (fault e)

/-- Whether a file or directory exists. -/
def isPresent (name : String) : IO Bool := do
  try
    discard <| IO.FS.Handle.mk name .read
    return true
  catch _ => return false

/-- The numbered names of a directory that are taken, up to so many free ones. -/
partial def takenNames (directory front ext : String) (free n : Nat) : IO (List String) := do
  if free = 0 then return []
  let name := Folder.numbered front ext n
  if ← isPresent (CommandLine.path directory name) then
    return name :: (← takenNames directory front ext free (n + 1))
  else takenNames directory front ext (free - 1) (n + 1)

/-- A directory, as far as a job that writes so many files can see it. -/
def scan (config : Config) (files : Nat) : IO Folder := do
  let directory := if config.docpath.isEmpty then "." else config.docpath
  let ext := "." ++ config.output.extension
  let pages ← takenNames config.docpath "page" ext (files + 1) 1
  let documents ← takenNames config.docpath "doc" ext (files + 1) 1
  return {
    writable := ← isPresent directory
    room := some (CommandLine.room config.docpath)
    files := (pages ++ documents).map fun name => (name, .bytes .empty) }

/-- The world of a job, with everything in it that the job asks for. -/
def world (file : String) (o : CommandLine.PrintOptions) : IO CommandLine.World := do
  let configuration ← o.config.mapM readFile
  let job ← if file = "-" then pure (.ok .empty) else readFile file
  let input ← if file = "-" then (← IO.getStdin).readBinToEnd else pure .empty
  let host : Host :=
    { launch := fun _ _ => .error "Function not implemented (os error 38)", date := ← timestamp }
  let w : CommandLine.World :=
    { file := fun name =>
        if some name = o.config then configuration.getD (.error .notFound) else job
      input := input
      folder := fun _ => {}
      host := host }
  -- A first run in an empty directory tells how many files there will be.
  let files := match CommandLine.print w file o with
    | .ok outcome => outcome.written.elim 0 fun written => written.2.files.length
    | .error _ => 0
  match CommandLine.jobConfig w o with
  | .error _ => return w
  | .ok config =>
    let folder ← scan config files
    return { w with folder := fun _ => folder }

/-- Write the files that a job has made. -/
def save (before : Folder) (directory : String) (after : Folder) : IO Unit := do
  for (name, content) in after.files do
    unless before.has name do
      IO.FS.writeBinFile (CommandLine.path directory name) content.toBytes

/-- Tell the answer and give the exit code. -/
def conclude (outcome : CommandLine.Outcome) : IO UInt32 := do
  IO.print outcome.output
  if let some complaint := outcome.complaint then IO.eprintln complaint
  return outcome.exitCode.toUInt32

end PinPrinter.Main

open PinPrinter in
/-- Run the command line. -/
def main (arguments : List String) : IO UInt32 := do
  match CommandLine.read arguments with
  | some (.print file o) =>
    let w ← Main.world file o
    let outcome := CommandLine.answer w (.print file o)
    if let some (directory, folder) := outcome.written then
      Main.save (w.folder directory) directory folder
    Main.conclude outcome
  | _ =>
    let host : Host := { launch := fun _ _ => .error "", date := "" }
    Main.conclude (CommandLine.run
      { file := fun _ => .error .notFound, input := .empty, folder := fun _ => {}, host := host }
      arguments)
