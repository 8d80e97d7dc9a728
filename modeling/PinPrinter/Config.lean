import PinPrinter.Error
import PinPrinter.Rounding

/-! # Configuration

The options that a printer is made with: paper, resolution and where pages go.
-/

namespace PinPrinter

/-- Where finished pages go. -/
inductive OutputFormat where
  /-- A PNG picture for every page. -/
  | png
  /-- PostScript, one file a page or one document. -/
  | postScript
  /-- A BMP picture for every page. -/
  | bmp
  /-- PostScript handed to a spooler. -/
  | spooler
  deriving DecidableEq, Repr, Inhabited

namespace OutputFormat

/-- Every format. -/
def all : List OutputFormat :=
  [png, postScript, bmp, spooler]

/-- The name of a format. -/
def name : OutputFormat → String
  | png => "png"
  | postScript => "ps"
  | bmp => "bmp"
  | spooler => "printer"

/-- The format of a name. -/
def ofName? (name : String) : Option OutputFormat :=
  all.find? fun format => format.name == name

theorem ofName?_name (format : OutputFormat) : ofName? format.name = some format := by
  cases format <;> decide

/-- The ending of the files of a format. -/
def extension : OutputFormat → String
  | png => "png"
  | postScript | spooler => "ps"
  | bmp => "bmp"

/-- A capital letter of the Latin alphabet made small. -/
private def lowerAscii (c : Char) : Char :=
  if 'A' ≤ c ∧ c ≤ 'Z' then Char.ofNat (c.toNat + 32) else c

/-- The format that a text asks for, in capital or small letters. -/
def parse (text : String) : Except Error OutputFormat :=
  let name := text.map lowerAscii
  if name = "postscript" then .ok postScript
  else
    match ofName? name with
    | some format => .ok format
    | none => .error (.unknownFormat name)

end OutputFormat

/-- The options of a printer. -/
structure Config where
  /-- Whether there is a printer at all. -/
  enabled : Bool := true
  /-- Pixels to the inch. -/
  dpi : UInt16 := 360
  /-- The width of the paper in 1/10 inch. -/
  width : UInt16 := 85
  /-- The height of the paper in 1/10 inch. -/
  height : UInt16 := 110
  output : OutputFormat := .png
  /-- Whether pages are collected in one document. -/
  multipage : Bool := false
  /-- The directory for output files. -/
  docpath : String := "."
  /-- The time in milliseconds after which a half-printed page is ejected; none if zero. -/
  timeout : UInt64 := 0
  /-- The directory of typefaces. -/
  fontpath : String := "FONTS"
  /-- The command that takes PostScript. -/
  spooler : String := "lpr"
  deriving DecidableEq, Repr, Inhabited

namespace Config

/-- Letter paper. -/
def letter : Config := {}

/-- A4 paper, rounded to tenths of an inch. -/
def a4 : Config := { width := 83, height := 117 }

/-- What is wrong with the geometry of a page, if anything. -/
def fault? (c : Config) : Option Error :=
  if c.dpi = 0 then some .zeroDpi
  else if c.width = 0 ∨ c.height = 0 then some (.paperSize c.width.toNat c.height.toNat)
  else none

/-- A configuration is accepted if its page has a geometry. -/
def validate (c : Config) : Except Error Config :=
  match c.fault? with
  | some e => .error e
  | none => .ok c

/-- The width of the paper in inches. -/
def widthInches (c : Config) : Float :=
  Float.ofNat c.width.toNat / 10.0

/-- The height of the paper in inches. -/
def heightInches (c : Config) : Float :=
  Float.ofNat c.height.toNat / 10.0

/-- The width of a sheet in pixels. -/
def widthPixels (c : Config) : Nat :=
  (Rounding.nearest (c.widthInches * Float.ofNat c.dpi.toNat)).toNat

/-- The height of a sheet in pixels. -/
def heightPixels (c : Config) : Nat :=
  (Rounding.nearest (c.heightInches * Float.ofNat c.dpi.toNat)).toNat

/-- The time after which a half-printed page is ejected. -/
def timeout? (c : Config) : Option Nat :=
  if c.timeout = 0 then none else some c.timeout.toNat

end Config

end PinPrinter
