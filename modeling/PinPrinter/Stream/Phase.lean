import PinPrinter.Command

/-! # Places inside a byte stream

A phase says where in a sequence the reader of a byte stream stands and what it has collected so
far; an action is what a byte turned out to mean.
-/

namespace PinPrinter

/-- The direction in which a list of tab stops runs. -/
inductive TabAxis where
  | horizontal
  | vertical
  deriving DecidableEq, Repr

namespace TabAxis

/-- The number of stops that a list can hold; further ones are dropped. -/
def capacity : TabAxis → Nat
  | horizontal => 32
  | vertical => 16

end TabAxis

/-- Where the reader stands inside a sequence. -/
inductive Phase where
  /-- Between sequences. -/
  | idle
  /-- After `ESC`: the opcode is next. -/
  | escape
  /-- After `FS`: the opcode is next. -/
  | fileSeparator
  /-- After `ESC (`: the opcode is next. -/
  | extended
  /-- Collecting the `needed` parameters of a command. -/
  | params (command : Command) (needed : Nat) (collected : Array UInt8)
  /-- Collecting tab stops; `last` is the latest byte of the list, kept or dropped. -/
  | tabs (axis : TabAxis) (stops : Array UInt8) (last : UInt8)
  /-- The channel byte in front of a list of lines is next. -/
  | channel
  /-- Collecting the columns of a bit image, `remaining` bytes to go. -/
  | image (remaining : Nat) (columnBytes : Nat) (column : Array UInt8)
  /-- Collecting the data of a counted command, `remaining` bytes to go. -/
  | payload (command : Command) (remaining : Nat) (data : Array UInt8)
  /-- Passing over the data of an extended command that is not understood. -/
  | skip (command : Command) (remaining : Nat)
  /-- Reading the three bytes that open a definition of characters. -/
  | defineRange (range : Array UInt8)
  /-- Reading the three bytes that open the pattern of one character, `characters` to go. -/
  | definePattern (range : Array UInt8) (characters : Nat) (header : Array UInt8)
  /-- Passing over the pattern of one character, `remaining` bytes of it to go. -/
  | skipPattern (range : Array UInt8) (characters : Nat) (header : Array UInt8) (remaining : Nat)
  deriving DecidableEq, Repr

/-- What a byte turned out to mean. -/
inductive Action where
  /-- Print this byte as a character. -/
  | print (byte : UInt8)
  /-- A control code. -/
  | control (code : Control)
  /-- A complete command with its parameters. -/
  | command (command : Command) (params : Array UInt8)
  /-- A complete counted command with its data. -/
  | payload (command : Command) (data : Array UInt8)
  /-- New tab stops, as column or line numbers. -/
  | tabs (axis : TabAxis) (stops : Array UInt8)
  /-- One complete column of a bit image. -/
  | column (bytes : Array UInt8)
  deriving DecidableEq, Repr

end PinPrinter
