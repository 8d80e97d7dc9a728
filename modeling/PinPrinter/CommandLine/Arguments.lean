import PinPrinter.Config

/-! # Arguments

The arguments of the command line. A long option has its value behind an equals sign or as the next
argument, which then must not look like an option itself; no option may be repeated.
-/

namespace PinPrinter.CommandLine

/-- What a print job is asked to do. Options that are given go before the configuration file. -/
structure PrintOptions where
  config : Option String := none
  dpi : Option UInt16 := none
  width : Option UInt16 := none
  height : Option UInt16 := none
  output : Option OutputFormat := none
  multipage : Bool := false
  docpath : Option String := none
  fontpath : Option String := none
  autofeed : Bool := false
  deriving DecidableEq, Repr

/-- The subject of a help text. -/
inductive Topic where
  | program
  | print
  | codepages
  | help
  deriving DecidableEq, Repr

/-- What the command line asks for. -/
inductive Request where
  /-- Print a job file; the name `-` is standard input. -/
  | print (file : String) (options : PrintOptions)
  | codepages
  | help (topic : Topic)
  | version
  deriving DecidableEq, Repr

/-- A whole number with an optional sign. -/
def readInt? (text : String) : Option Int :=
  let natural? (digits : List Char) : Option Int :=
    if !digits.isEmpty && digits.all Char.isDigit then
      some (digits.foldl (fun n c => 10 * n + (c.toNat - '0'.toNat)) 0 : Nat)
    else none
  match text.toList with
  | '+' :: digits => natural? digits
  | '-' :: digits => (natural? digits).map (-·)
  | digits => natural? digits

/-- A number of 16 bits. -/
def readWord? (text : String) : Option UInt16 :=
  match readInt? text with
  | some n => if 0 ≤ n ∧ n < 65536 then some (UInt16.ofNat n.toNat) else none
  | none => none

/-- A text that is not empty, such as the name of a file. -/
def readName? (text : String) : Option String :=
  if text.isEmpty then none else some text

/-- A text that looks like an option: a hyphen with something behind it. -/
def looksLikeOption (text : String) : Bool :=
  match text.toList with
  | '-' :: _ :: _ => true
  | _ => false

/-- Give an option a value that it does not have yet. -/
private def give {α : Type} (old value : Option α) : Option (Option α) :=
  if old.isSome || value.isNone then none else some value

/-- The options with the value of one more; none for an option that takes no value, is repeated, or
does not understand the value. -/
def setValue? (o : PrintOptions) (name value : String) : Option PrintOptions :=
  match name with
  | "config" => (give o.config (readName? value)).map fun v => { o with config := v }
  | "dpi" => (give o.dpi (readWord? value)).map fun v => { o with dpi := v }
  | "width" => (give o.width (readWord? value)).map fun v => { o with width := v }
  | "height" => (give o.height (readWord? value)).map fun v => { o with height := v }
  | "output" =>
    (give o.output (OutputFormat.parse value).toOption).map fun v => { o with output := v }
  | "docpath" => (give o.docpath (readName? value)).map fun v => { o with docpath := v }
  | "fontpath" => (give o.fontpath (readName? value)).map fun v => { o with fontpath := v }
  | _ => none

/-- The options with one more switch; none for one that is not known or is repeated. -/
def setSwitch? (o : PrintOptions) (name : String) : Option PrintOptions :=
  match name with
  | "multipage" => if o.multipage then none else some { o with multipage := true }
  | "autofeed" => if o.autofeed then none else some { o with autofeed := true }
  | _ => none

/-- The names of the options that take a value. -/
def valueOptions : List String :=
  ["config", "dpi", "width", "height", "output", "docpath", "fontpath"]

/-- The name and the value of a long option. -/
def splitOption (text : List Char) : String × Option String :=
  let name := String.ofList (text.takeWhile (· != '='))
  match text.dropWhile (· != '=') with
  | '=' :: value => (name, some (String.ofList value))
  | _ => (name, none)

/-- Read the arguments of a print job. `file` is the job file as far as it has been named; after
two hyphens all arguments are names. -/
def readPrint (o : PrintOptions) (file : Option String) (namesOnly : Bool) :
    List String → Option Request
  | [] => file.map fun file => .print file o
  | argument :: rest =>
    if !namesOnly && looksLikeOption argument then
      match argument.toList with
      | ['-', '-'] => readPrint o file true rest
      | '-' :: '-' :: text =>
        match splitOption text with
        | ("help", none) => some (.help .print)
        | (name, some value) => (setValue? o name value).bind fun o => readPrint o file false rest
        | (name, none) =>
          if valueOptions.contains name then
            match rest with
            | [] => none
            | value :: rest =>
              if looksLikeOption value then none
              else (setValue? o name value).bind fun o => readPrint o file false rest
          else (setSwitch? o name).bind fun o => readPrint o file false rest
      | '-' :: 'h' :: _ => some (.help .print)
      | _ => none
    else if file.isSome then none
    else (readName? argument).bind fun name => readPrint o (some name) namesOnly rest

/-- Whether an argument asks for help. -/
def asksForHelp (argument : String) : Bool :=
  argument == "--help" || argument.startsWith "-h"

/-- Whether an argument asks for the version. -/
def asksForVersion (argument : String) : Bool :=
  argument == "--version" || argument.startsWith "-V"

/-- Read the arguments of the list of code pages. It takes no names, so nothing can stand behind two
hyphens. -/
def readCodepages : List String → Option Request
  | [] => some .codepages
  | ["--"] => some .codepages
  | argument :: _ => if asksForHelp argument then some (.help .codepages) else none

/-- Read the arguments; none if they cannot be understood. -/
def read : List String → Option Request
  | "print" :: rest => readPrint {} none false rest
  | "codepages" :: rest => readCodepages rest
  | ["help"] => some (.help .program)
  | ["help", "print"] => some (.help .print)
  | ["help", "codepages"] => some (.help .codepages)
  | ["help", "help"] => some (.help .help)
  | argument :: _ =>
    if asksForHelp argument then some (.help .program)
    else if asksForVersion argument then some .version
    else none
  | [] => none

end PinPrinter.CommandLine
