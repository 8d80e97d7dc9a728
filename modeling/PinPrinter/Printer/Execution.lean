import PinPrinter.EjectTimer
import PinPrinter.Printer.Interpreter
import PinPrinter.Printer.Paper

/-! # Execution

What the host makes a printer do. The settings, the pen, the sheet and the timer are one state, and
whatever is executed may read and change all of it: margins move the pen, the pen leaves the sheet,
and a new sheet stops the timer.
-/

namespace PinPrinter

/-- A printer. -/
structure Printer where
  config : Config
  interpreter : Interpreter
  paper : Paper
  timer : EjectTimer
  /-- Whether a line feed follows every carriage return. -/
  autofeed : Bool := false
  /-- Whether a byte has come since the host last asked for an acknowledgement. -/
  unacknowledged : Bool := false

namespace Printer

/-- The settings of the printer. -/
def registers (p : Printer) : Registers :=
  p.interpreter.registers

/-- The place of the pen. -/
def pen (p : Printer) : Pen :=
  p.paper.pen

/-- Change the settings. -/
def edit (p : Printer) (change : Registers → Registers) : Printer :=
  { p with interpreter.registers := change p.interpreter.registers }

/-- Move the pen. -/
def moveTo (p : Printer) (x y : Float) : Printer :=
  { p with paper.pen := ⟨x, y⟩ }

/-! ## Sheets and lines -/

/-- Start a new sheet at its top margin, and at the left margin if asked to. The sheet before it is
sent off, or else lost. -/
def newSheet (p : Printer) (save toMargin : Bool) : Printer :=
  let r := p.registers
  let x := if toMargin then r.leftMargin else p.pen.x
  { p with
    paper := if save then p.paper.turn r x else p.paper.load ⟨x, r.topMargin⟩
    timer := p.timer.disarm }

/-- Start a new sheet if the pen is below the bottom margin. -/
def overflow (p : Printer) : Printer :=
  if p.pen.y > p.registers.bottomMargin then p.newSheet true false else p

/-- Back to the left margin and down one line. -/
def lineFeed (p : Printer) : Printer :=
  (p.moveTo p.registers.leftMargin (p.pen.y + p.registers.lineSpacing)).overflow

/-- Move the paper back, not above the top margin. -/
def reverseFeed (p : Printer) (distance : Float) : Printer :=
  let y := p.pen.y - distance
  p.moveTo p.pen.x (if y < p.registers.topMargin then p.registers.topMargin else y)

/-- Double width for the line is over. -/
def endLine (p : Printer) : Printer :=
  p.edit Registers.endLine

/-- Everything as at power-on; the sheet is lost. -/
def reset (p : Printer) : Printer :=
  { p with interpreter := p.interpreter.restart }.newSheet false true

/-! ## Control codes -/

/-- Go to the next vertical tab stop. It is a return where all stops have been cancelled, and a line
feed where none have been set. -/
def verticalTab (p : Printer) : Printer :=
  match p.registers.verticalTabs with
  | .stops [] => p.moveTo p.registers.leftMargin p.pen.y
  | .unset => p.lineFeed
  | .stops _ =>
    match p.registers.nextVerticalTab? p.pen.y with
    | some stop =>
      if stop ≤ p.registers.bottomMargin then p.moveTo p.pen.x stop else p.newSheet true false
    | none => p.newSheet true false

/-- Execute a control code. -/
def control (p : Printer) : Control → Printer
  | .backspace =>
    let x := p.pen.x - p.registers.fixedAdvance
    if x ≥ p.registers.leftMargin then p.moveTo x p.pen.y else p
  | .horizontalTab =>
    match p.registers.nextHorizontalTab? p.pen.x with
    | some stop => p.moveTo stop p.pen.y
    | none => p
  | .verticalTab => p.verticalTab.endLine
  | .formFeed => p.endLine.newSheet true true
  | .carriageReturn =>
    let p := p.moveTo p.registers.leftMargin p.pen.y
    if p.autofeed then p.endLine.lineFeed else p
  | .lineFeed => p.endLine.lineFeed
  | .shiftOut => p.edit Registers.beginWideLine
  | .shiftIn => p.edit Registers.beginCondensed
  | .cancelCondensed => p.edit Registers.cancelCondensed
  | .cancelWideLine => p.edit Registers.cancelWideLine
  | .nul | .bel | .select | .deselect | .cancelLine => p

/-! ## Commands -/

/-- Execute what a command asks for. -/
def obey (p : Printer) (instruction : Instruction) : Printer :=
  match instruction with
  | .restart => p.reset
  | .leftMargin column =>
    let left := p.registers.leftMarginAt column
    if left < p.registers.rightMargin then
      let p := p.edit fun r => { r with leftMargin := left }
      if p.pen.x < left then p.moveTo left p.pen.y else p
    else p
  | .pageFormat top bottom =>
    match p.registers.unit with
    | none => p
    | some unit =>
      if Float.ofNat top * unit ≥ Float.ofNat bottom * unit then p
      else
        let p := p.edit (·.setPageFormat top bottom)
        if p.pen.y < p.registers.topMargin then p.moveTo p.pen.x p.registers.topMargin else p
  | .absoluteX count =>
    let x := p.registers.leftMargin + Float.ofNat count * p.registers.absoluteUnit
    if x ≤ p.registers.rightMargin then p.moveTo x p.pen.y else p
  | .relativeX count =>
    let x := p.pen.x + Float.ofInt count * p.registers.relativeUnit
    if x ≥ p.registers.leftMargin ∧ x ≤ p.registers.rightMargin then p.moveTo x p.pen.y else p
  | .skipColumns count =>
    let x := p.pen.x + Float.ofNat count * p.registers.fixedAdvance
    if x ≤ p.registers.rightMargin then p.moveTo x p.pen.y else p
  | .skipLines count =>
    let y := p.pen.y + Float.ofNat count * p.registers.lineSpacing
    (p.moveTo p.registers.leftMargin y).overflow
  | .advance count => (p.moveTo p.pen.x (p.pen.y + Float.ofNat count / 180.0)).overflow
  | .reverse count => p.reverseFeed (Float.ofNat count / 216.0)
  | .reverseLine => p.reverseFeed p.registers.lineSpacing
  | .topOfSheet => p.moveTo p.pen.x p.registers.topMargin
  | .absoluteY count =>
    let y := p.registers.topMargin + Float.ofNat count * p.registers.verticalUnit
    if y > p.registers.bottomMargin then p.newSheet true false else p.moveTo p.pen.x y
  | .relativeY count =>
    let y := p.pen.y + Float.ofInt count * p.registers.verticalUnit
    if y > p.registers.topMargin then
      if y > p.registers.bottomMargin then p.newSheet true false else p.moveTo p.pen.x y
    else p
  | .ejectSheet => p.newSheet true false
  | .printUpper on =>
    let p := p.edit (·.obey instruction)
    { p with interpreter.reader := p.interpreter.reader.setUpperControl (!on) }
  | .printNext => { p with interpreter.reader := p.interpreter.reader.printLiterally 1 }
  | .image source columns => { p with interpreter := p.interpreter.beginImage source columns }
  | _ => p.edit (·.obey instruction)

/-- Execute a command with counted data. Only bar codes are printed. -/
def payload (p : Printer) (c : Command) (data : List UInt8) : Printer :=
  if c = Command.barCode then { p with paper := p.paper.printBarcode p.registers data } else p

/-! ## Printing -/

/-- Print a byte as a character, and go on to the next line if another one like it would cross the
right margin. -/
def printByte (p : Printer) (byte : UInt8) : Printer :=
  match p with
  | ⟨config, interpreter, paper, timer, autofeed, unacknowledged⟩ =>
    let (paper, advance) := paper.stamp interpreter.registers byte
    let p : Printer := ⟨config, interpreter, paper, timer, autofeed, unacknowledged⟩
    if p.pen.x + advance > p.registers.rightMargin then p.lineFeed else p

/-- Print a column of the bit image that is being received. -/
def printColumn (p : Printer) (column : Array UInt8) : Printer :=
  { p with paper := p.paper.printColumn p.registers p.interpreter.image column }

/-- Execute what the bytes turned out to mean. -/
def execute (p : Printer) : Action → Printer
  | .print byte => p.printByte byte
  | .control code => p.control code
  | .command c params => p.obey (.ofCommand c params)
  | .payload c data => p.payload c data.toList
  | .tabs axis stops => p.edit (·.setTabs axis stops.toList)
  | .column bytes => p.printColumn bytes

end Printer

end PinPrinter
