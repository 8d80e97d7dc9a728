import PinPrinter.Command.Control

/-! # The command table

A command is an introducer and an opcode byte. The table gives the layout of the parameters of
every command that is understood, also of those without effect on a sheet, so that their
parameters are consumed and the stream stays in step.
-/

namespace PinPrinter

/-- What introduces a command. -/
inductive Introducer where
  /-- `ESC x` -/
  | esc
  /-- `FS x` -/
  | fs
  /-- `ESC ( x` -/
  | extended
  deriving DecidableEq, Repr

/-- The text that names an introducer in messages. -/
def Introducer.label : Introducer → String
  | .esc => "ESC"
  | .fs => "FS"
  | .extended => "ESC ("

/-- How the parameter bytes of a command are laid out. -/
inductive Layout where
  /-- Exactly `count` bytes; a command with none acts at once. -/
  | fixed (count : Nat)
  /-- A two-byte count, low byte first, and that many bytes of data. -/
  | counted
  /-- An ascending list of columns, ended by a zero or a byte that does not ascend. -/
  | horizontalTabs
  /-- An ascending list of lines, ended in the same way. -/
  | verticalTabs
  /-- A channel byte in front of a list of lines. -/
  | channelTabs
  /-- The patterns of user-defined characters. -/
  | userCharacters
  deriving DecidableEq, Repr

/-- An introducer and an opcode. -/
structure Command where
  introducer : Introducer
  opcode : UInt8
  deriving DecidableEq, Repr

namespace Command

/-- One line of the command table. -/
structure Row where
  command : Command
  layout : Layout
  name : String
  deriving DecidableEq, Repr

private def esc (opcode : Char) (layout : Layout) (name : String) : Row :=
  ⟨⟨.esc, opcode.toUInt8⟩, layout, name⟩

private def fs (opcode : Char) (layout : Layout) (name : String) : Row :=
  ⟨⟨.fs, opcode.toUInt8⟩, layout, name⟩

private def extended (opcode : Char) (layout : Layout) (name : String) : Row :=
  ⟨⟨.extended, opcode.toUInt8⟩, layout, name⟩

/-- Every command that is understood. An extended command of fixed layout counts its two length
bytes among its parameters. -/
def table : List Row := [
  esc '\x02' (.fixed 0) "undocumented",
  esc '\x0A' (.fixed 0) "reverse line feed",
  esc '\x0C' (.fixed 0) "top of current page",
  esc '\x0E' (.fixed 0) "double width (one line)",
  esc '\x0F' (.fixed 0) "condensed",
  esc '#' (.fixed 0) "cancel MSB control",
  esc '0' (.fixed 0) "1/8 inch line spacing",
  esc '1' (.fixed 0) "7/72 inch line spacing",
  esc '2' (.fixed 0) "1/6 inch line spacing",
  esc '4' (.fixed 0) "italic on",
  esc '5' (.fixed 0) "italic off",
  esc '6' (.fixed 0) "print upper control codes",
  esc '7' (.fixed 0) "upper control codes",
  esc '8' (.fixed 0) "disable paper-out detector",
  esc '9' (.fixed 0) "enable paper-out detector",
  esc '<' (.fixed 0) "unidirectional (one line)",
  esc '=' (.fixed 0) "MSB 0",
  esc '>' (.fixed 0) "MSB 1",
  esc '@' (.fixed 0) "initialize printer",
  esc 'E' (.fixed 0) "bold on",
  esc 'F' (.fixed 0) "bold off",
  esc 'G' (.fixed 0) "double strike on",
  esc 'H' (.fixed 0) "double strike off",
  esc 'M' (.fixed 0) "12 cpi",
  esc 'O' (.fixed 0) "cancel bottom margin",
  esc 'P' (.fixed 0) "10 cpi",
  esc 'T' (.fixed 0) "cancel super/subscript",
  esc '^' (.fixed 0) "print next character",
  esc 'g' (.fixed 0) "15 cpi",
  esc '\x19' (.fixed 1) "paper loading/ejecting",
  esc ' ' (.fixed 1) "intercharacter space",
  esc '!' (.fixed 1) "master select",
  esc '+' (.fixed 1) "n/360 inch line spacing",
  esc '-' (.fixed 1) "underline",
  esc '/' (.fixed 1) "vertical tab channel",
  esc '3' (.fixed 1) "n/180 inch line spacing",
  esc 'A' (.fixed 1) "n/60 inch line spacing",
  esc 'C' (.fixed 1) "page length in lines",
  esc 'I' (.fixed 1) "character type",
  esc 'J' (.fixed 1) "advance n/180 inch",
  esc 'N' (.fixed 1) "bottom margin",
  esc 'Q' (.fixed 1) "right margin",
  esc 'R' (.fixed 1) "international character set",
  esc 'S' (.fixed 1) "super/subscript",
  esc 'U' (.fixed 1) "unidirectional",
  esc 'W' (.fixed 1) "double width",
  esc 'a' (.fixed 1) "justification",
  esc 'f' (.fixed 2) "horizontal/vertical skip",
  esc 'h' (.fixed 1) "double/quadruple size",
  esc 'i' (.fixed 1) "immediate print",
  esc 'j' (.fixed 1) "reverse feed n/216 inch",
  esc 'k' (.fixed 1) "typeface",
  esc 'l' (.fixed 1) "left margin",
  esc 'p' (.fixed 1) "proportional",
  esc 'r' (.fixed 1) "printing colour",
  esc 's' (.fixed 1) "low speed",
  esc 't' (.fixed 1) "character table",
  esc 'w' (.fixed 1) "double height",
  esc 'x' (.fixed 1) "print quality",
  esc '~' (.fixed 1) "slash zero",
  esc '$' (.fixed 2) "absolute horizontal position",
  esc '?' (.fixed 2) "reassign bit image mode",
  esc 'K' (.fixed 2) "60 dpi graphics",
  esc 'L' (.fixed 2) "120 dpi graphics",
  esc 'Y' (.fixed 2) "120 dpi double speed graphics",
  esc 'Z' (.fixed 2) "240 dpi graphics",
  esc '\\' (.fixed 2) "relative horizontal position",
  esc 'c' (.fixed 2) "horizontal motion index",
  esc 'e' (.fixed 2) "fixed tab increment",
  esc '*' (.fixed 3) "bit image",
  esc 'X' (.fixed 3) "pitch and point",
  esc '[' (.fixed 7) "character height, width, line spacing",
  esc 'B' .verticalTabs "vertical tabs",
  esc 'b' .channelTabs "VFU channel tabs",
  esc 'D' .horizontalTabs "horizontal tabs",
  esc '%' (.fixed 1) "select user-defined set",
  esc '&' .userCharacters "define user-defined characters",
  esc ':' (.fixed 3) "copy ROM to RAM",
  fs '4' (.fixed 0) "italic on",
  fs '5' (.fixed 0) "italic off",
  fs 'F' (.fixed 0) "forward feed",
  fs 'R' (.fixed 0) "reverse feed",
  fs '2' (.fixed 0) "1/6 inch line spacing",
  fs '3' (.fixed 1) "n/360 inch line spacing",
  fs 'A' (.fixed 1) "n/60 inch line spacing",
  fs 'C' (.fixed 1) "typeface",
  fs 'E' (.fixed 1) "character width",
  fs 'I' (.fixed 1) "character table",
  fs 'S' (.fixed 1) "high speed/high density",
  fs 'V' (.fixed 1) "double height",
  fs 'Z' (.fixed 2) "24-bit hex density graphics",
  extended 'B' .counted "bar code",
  extended '^' .counted "print data as characters",
  extended 'U' (.fixed 3) "set unit",
  extended 'C' (.fixed 4) "page length in defined unit",
  extended 'V' (.fixed 4) "absolute vertical position",
  extended 'v' (.fixed 4) "relative vertical position",
  extended 't' (.fixed 5) "assign character table",
  extended '-' (.fixed 5) "line/score",
  extended 'c' (.fixed 6) "page format"]

/-- The opcode that announces an extended command. -/
def extension : UInt8 := '('.toUInt8

/-- The page length, the one command whose first parameter can ask for a second. -/
def pageLength : Command := ⟨.esc, 'C'.toUInt8⟩

/-- The command whose data is printed as it stands. -/
def printData : Command := ⟨.extended, '^'.toUInt8⟩

/-- The bar code command. -/
def barCode : Command := ⟨.extended, 'B'.toUInt8⟩

/-- The line of the table about a command. -/
def row? (c : Command) : Option Row :=
  table.find? fun row => row.command = c

/-- The parameter layout of a command, if it is understood. -/
def layout? (c : Command) : Option Layout :=
  c.row?.map (·.layout)

/-- The name of a command. -/
def name (c : Command) : String :=
  (c.row?.map (·.name)).getD "unknown"

/-- The upper-case hexadecimal digit of a number below sixteen. -/
private def hexDigit (n : Nat) : Char :=
  if n < 10 then Char.ofNat ('0'.toNat + n) else Char.ofNat ('A'.toNat + n - 10)

/-- Two hexadecimal digits. -/
private def hexByte (b : UInt8) : String :=
  String.ofList [hexDigit (b.toNat / 16), hexDigit (b.toNat % 16)]

/-- How messages write a command: an opcode that is a visible character is shown as such. -/
def describe (c : Command) : String :=
  let code := hexByte c.opcode ++ "h"
  if 0x21 ≤ c.opcode ∧ c.opcode ≤ 0x7E then
    c.introducer.label ++ " " ++ String.singleton (Char.ofNat c.opcode.toNat) ++ " (" ++ code ++ ")"
  else
    c.introducer.label ++ " " ++ code

/-- The two-byte number at an offset, low byte first; a missing byte counts as zero. -/
def word (params : Array UInt8) (offset : Nat) : Nat :=
  (params[offset]?.getD 0).toNat + 256 * (params[offset + 1]?.getD 0).toNat

theorem word_lt (params : Array UInt8) (offset : Nat) : word params offset < 65536 := by
  have low := (params[offset]?.getD 0).toNat_lt
  have high := (params[offset + 1]?.getD 0).toNat_lt
  unfold word
  omega

end Command

end PinPrinter
