import PinPrinter.CommandLine.Arguments
import PinPrinter.Config.Text
import PinPrinter.ParallelInterface

/-! # The command line

A job is strobed through a parallel interface, the last page is ejected, and the report tells in
order which files were written and which pages went to the spooler. Nothing here touches the host:
files come in as values, and what is written goes out as a folder.
-/

namespace PinPrinter.CommandLine

/-- What the command line finds on the host. -/
structure World where
  /-- The contents of a file, or why it cannot be read. -/
  file : String → Except FileFault ByteArray
  /-- Standard input. -/
  input : ByteArray
  /-- A document directory. -/
  folder : String → Folder
  host : Host

/-- What the command line answers. -/
structure Outcome where
  exitCode : UInt8
  output : String := ""
  /-- The message on standard error. -/
  complaint : Option String := none
  /-- The document directory as it is now, with its name. -/
  written : Option (String × Folder) := none

/-- Lines of text. -/
private def lines (texts : List String) : String :=
  String.join (texts.map (· ++ "\n"))

/-- A number of two columns. -/
private def column (n : Nat) : String :=
  if n < 10 then " " ++ toString n else toString n

/-- The code pages with a table, and all selectors of code pages. -/
def codepageList : String :=
  lines (["Supported code pages:"] ++ CodePage.supported.map (fun page => "  " ++ toString page) ++
    ["", "ESC ( t selectors:"] ++
    CodePage.bySelector.zipIdx.map fun (page, selector) =>
      "  " ++ column selector ++ "  " ++ (if page = 0 then "italic" else toString page))

/-- The text about a topic. -/
def helpText : Topic → String
  | .program => lines [
      "dotmatrix - Virtual Epson ESC/P dot-matrix printer",
      "",
      "Usage: dotmatrix <COMMAND>",
      "",
      "Commands:",
      "  print      Print an ESC/P job file",
      "  codepages  List supported code pages",
      "  help       Print this message or the help of the given subcommand(s)",
      "",
      "Options:",
      "  -h, --help     Print help",
      "  -V, --version  Print version"]
  | .print => lines [
      "Print an ESC/P job file",
      "",
      "Usage: dotmatrix print [OPTIONS] <FILE>",
      "",
      "Arguments:",
      "  <FILE>  Job file, or `-` for stdin",
      "",
      "Options:",
      "      --config <FILE>    JSON configuration file",
      "      --dpi <DPI>        Page resolution in dots per inch",
      "      --width <WIDTH>    Paper width in 1/10 inch",
      "      --height <HEIGHT>  Paper height in 1/10 inch",
      "      --output <FMT>     Output format: png, ps, bmp or printer",
      "      --multipage        Collect all pages into one document",
      "      --docpath <DIR>    Directory for output files",
      "      --fontpath <DIR>   Directory with the TrueType printer faces",
      "      --autofeed         Line feed after every carriage return",
      "  -h, --help             Print help"]
  | .codepages => lines [
      "List supported code pages",
      "",
      "Usage: dotmatrix codepages",
      "",
      "Options:",
      "  -h, --help  Print help"]
  | .help => lines [
      "Print this message or the help of the given subcommand(s)",
      "",
      "Usage: dotmatrix help [COMMAND]...",
      "",
      "Arguments:",
      "  [COMMAND]...  Print help for the subcommand(s)"]

/-- The configuration with what the options say. -/
def configure (c : Config) (o : PrintOptions) : Config :=
  { c with
    enabled := true
    dpi := o.dpi.getD c.dpi
    width := o.width.getD c.width
    height := o.height.getD c.height
    output := o.output.getD c.output
    multipage := o.multipage || c.multipage
    docpath := o.docpath.getD c.docpath
    fontpath := o.fontpath.getD c.fontpath }

/-- The bytes of a file, with a fault as an error. -/
def readFile (w : World) (name : String) : Except Error ByteArray :=
  (w.file name).mapError .file

/-- The configuration of a job. -/
def jobConfig (w : World) (o : PrintOptions) : Except Error Config := do
  let config ← match o.config with
    | some name => (readFile w name).bind Config.loadBytes
    | none => .ok .letter
  return configure config o

/-- The bytes of a job. -/
def jobBytes (w : World) (file : String) : Except Error ByteArray :=
  if file = "-" then .ok w.input else readFile w file

/-- Print a job: the interface after all pages have been ejected. -/
def printJob (config : Config) (autofeed : Bool) (job : List UInt8) (host : Host)
    (folder : Folder) : Except Error ParallelInterface := do
  let link ← ParallelInterface.new config host folder
  let link :=
    if autofeed then
      link.writeControl 0 ((link.readControl &&& 0x1F) ||| ParallelInterface.autofeedLine)
    else link
  return (link.send 0 job).formFeed

/-- What became of the pages behind an interface. -/
def artifacts (p : ParallelInterface) : List Artifact :=
  match p.printer with
  | some printer => printer.paper.artifacts.toList
  | none => []

/-- A list without the entries that equal the one before them. -/
def withoutRepeats : List Artifact → List Artifact
  | first :: second :: rest =>
    if first = second then withoutRepeats (second :: rest)
    else first :: withoutRepeats (second :: rest)
  | short => short

/-- The path of a file in a directory. -/
def path (directory name : String) : String :=
  if directory.isEmpty || directory.endsWith "/" then directory ++ name
  else directory ++ "/" ++ name

/-- The bytes that the longest path has. -/
def longestPath : Nat := 4095

/-- The bytes that the name of a file in a directory can have. -/
def room (directory : String) : Nat :=
  longestPath - (path directory "").utf8ByteSize

/-- The line of the report about an artifact. -/
def reportLine (docpath : String) : Artifact → String
  | .file name => "Wrote " ++ path docpath name
  | .spooled page => "Spooled page " ++ toString page

/-- The lines of the report: a document is named once for all its pages. -/
def reportLines (docpath : String) (artifacts : List Artifact) : List String :=
  match withoutRepeats artifacts with
  | [] => ["Nothing printed."]
  | artifacts => artifacts.map (reportLine docpath)

/-- Print a job and report on it. -/
def print (w : World) (file : String) (o : PrintOptions) : Except Error Outcome := do
  let config ← jobConfig w o
  let job ← jobBytes w file
  let link ← printJob config o.autofeed job.toList w.host (w.folder config.docpath)
  return {
    exitCode := 0
    output := lines (reportLines config.docpath (artifacts link))
    written := some (config.docpath, link.currentFolder) }

/-- The answer to a request. -/
def answer (w : World) : Request → Outcome
  | .print file o =>
    match print w file o with
    | .ok outcome => outcome
    | .error e => { exitCode := 1, complaint := some ("Error: " ++ e.message) }
  | .codepages => { exitCode := 0, output := codepageList }
  | .help topic => { exitCode := 0, output := helpText topic }
  | .version => { exitCode := 0, output := lines ["dotmatrix 0.1.0"] }

/-- What is said about arguments that cannot be understood. -/
def usage : String :=
  "usage: dotmatrix print [OPTIONS] <FILE> | dotmatrix codepages"

/-- The answer to the arguments. -/
def run (w : World) (arguments : List String) : Outcome :=
  match read arguments with
  | some request => answer w request
  | none => { exitCode := 2, complaint := some usage }

end PinPrinter.CommandLine
