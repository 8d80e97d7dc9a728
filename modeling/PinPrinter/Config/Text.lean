import PinPrinter.Config
import PinPrinter.Json

/-! # Configuration text

A configuration is a JSON object. Keys that are missing keep their defaults and keys that are not
known are passed over, but a known key may not be repeated. The values alone, in the order of the
keys, may stand in an array.
-/

namespace PinPrinter.Config

/-- The keys in their order. -/
def keys : List String :=
  ["printer", "dpi", "width", "height", "printoutput", "multipage", "docpath", "timeout",
    "fontpath", "spooler"]

/-- A truth value. -/
def readBool : Json → Option Bool
  | .bool value => some value
  | _ => none

/-- A text. -/
def readText : Json → Option String
  | .string value => value
  | _ => none

/-- A number of 16 bits. -/
def readWord : Json → Option UInt16
  | .natural n => if n < UInt16.size then some (UInt16.ofNat n) else none
  | _ => none

/-- A number of 64 bits. -/
def readLong : Json → Option UInt64
  | .natural n => if n < UInt64.size then some (UInt64.ofNat n) else none
  | _ => none

/-- An output format: its name, or an object with the name as its only key and no value. -/
def readFormat : Json → Option OutputFormat
  | .string (some name) => OutputFormat.ofName? name
  | .object [(some name, .null)] => OutputFormat.ofName? name
  | _ => none

/-- The configuration with the value of a key; keys that are not known are passed over. -/
def set? (c : Config) (key : String) (value : Json) : Option Config :=
  match key with
  | "printer" => (readBool value).map fun v => { c with enabled := v }
  | "dpi" => (readWord value).map fun v => { c with dpi := v }
  | "width" => (readWord value).map fun v => { c with width := v }
  | "height" => (readWord value).map fun v => { c with height := v }
  | "printoutput" => (readFormat value).map fun v => { c with output := v }
  | "multipage" => (readBool value).map fun v => { c with multipage := v }
  | "docpath" => (readText value).map fun v => { c with docpath := v }
  | "timeout" => (readLong value).map fun v => { c with timeout := v }
  | "fontpath" => (readText value).map fun v => { c with fontpath := v }
  | "spooler" => (readText value).map fun v => { c with spooler := v }
  | _ => some c

/-- Set the members of an object one by one; `seen` has the known keys so far. -/
def setAll? (c : Config) (seen : List String) : List (Option String × Json) → Option Config
  | [] => some c
  | (none, _) :: _ => none
  | (some key, value) :: rest =>
    if seen.contains key then none
    else
      match c.set? key value with
      | none => none
      | some c => c.setAll? (if keys.contains key then key :: seen else seen) rest

/-- The configuration of a JSON value. -/
def ofJson? : Json → Option Config
  | .object members => letter.setAll? [] members
  | .array values =>
    if values.length ≤ keys.length then letter.setAll? [] ((keys.map some).zip values) else none
  | _ => none

/-- The JSON value of a configuration. -/
def toJson (c : Config) : Json :=
  .object [
    (some "printer", .bool c.enabled),
    (some "dpi", .natural c.dpi.toNat),
    (some "width", .natural c.width.toNat),
    (some "height", .natural c.height.toNat),
    (some "printoutput", .string (some c.output.name)),
    (some "multipage", .bool c.multipage),
    (some "docpath", .string (some c.docpath)),
    (some "timeout", .natural c.timeout.toNat),
    (some "fontpath", .string (some c.fontpath)),
    (some "spooler", .string (some c.spooler))]

/-- The text of a configuration. -/
def render (c : Config) : String :=
  String.ofList c.toJson.render

/-- Read a configuration without a look at its geometry. -/
def read (text : String) : Except Error Config :=
  match (Json.parse text).bind ofJson? with
  | some c => .ok c
  | none => .error .malformedConfig

/-- Read a configuration and accept it. -/
def load (text : String) : Except Error Config :=
  (read text).bind validate

/-- Load a configuration from the bytes of a file. -/
def loadBytes (bytes : ByteArray) : Except Error Config :=
  match String.fromUTF8? bytes with
  | some text => load text
  | none => .error (.file .notText)

end PinPrinter.Config
