/-! # Control codes

The bytes that act on their own between sequences. `ESC` and `FS` are not among them: each starts
a sequence instead of completing an action.
-/

namespace PinPrinter

/-- A single-byte control code. -/
inductive Control where
  /-- Ignored outside of parameter data. -/
  | nul
  /-- The beeper. -/
  | bel
  /-- One character width back, never past the left margin. -/
  | backspace
  /-- On to the next horizontal tab stop. -/
  | horizontalTab
  /-- Back to the left margin and down one line. -/
  | lineFeed
  /-- Down to the next vertical tab stop. -/
  | verticalTab
  /-- Ejects the sheet. -/
  | formFeed
  /-- Back to the left margin. -/
  | carriageReturn
  /-- Double width for the rest of the line. -/
  | shiftOut
  /-- Condensed printing. -/
  | shiftIn
  /-- Selects the printer. -/
  | select
  /-- Cancels condensed printing. -/
  | cancelCondensed
  /-- Deselects the printer. -/
  | deselect
  /-- Cancels double width for the line. -/
  | cancelWideLine
  /-- Cancels the line. -/
  | cancelLine
  deriving DecidableEq, Repr

namespace Control

/-- Starts an escape sequence. -/
def escape : UInt8 := 0x1B

/-- Starts the second family of sequences. -/
def fileSeparator : UInt8 := 0x1C

/-- Every control code, in the order of the bytes. -/
def all : List Control :=
  [nul, bel, backspace, horizontalTab, lineFeed, verticalTab, formFeed, carriageReturn, shiftOut,
    shiftIn, select, cancelCondensed, deselect, cancelWideLine, cancelLine]

/-- The byte of a control code. -/
def byte : Control → UInt8
  | nul => 0x00
  | bel => 0x07
  | backspace => 0x08
  | horizontalTab => 0x09
  | lineFeed => 0x0A
  | verticalTab => 0x0B
  | formFeed => 0x0C
  | carriageReturn => 0x0D
  | shiftOut => 0x0E
  | shiftIn => 0x0F
  | select => 0x11
  | cancelCondensed => 0x12
  | deselect => 0x13
  | cancelWideLine => 0x14
  | cancelLine => 0x18

/-- The control code that a byte stands for, if it stands for one. -/
def ofByte? (b : UInt8) : Option Control :=
  all.find? fun c => c.byte == b

@[simp] theorem ofByte?_byte (c : Control) : ofByte? c.byte = some c := by
  cases c <;> decide

theorem byte_of_ofByte? {b : UInt8} {c : Control} (found : ofByte? b = some c) : c.byte = b := by
  simpa using List.find?_some found

end Control

end PinPrinter
