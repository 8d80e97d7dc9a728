import PinPrinter.Printer
import PinPrinter.Proofs.Registers.View

/-! # The two halves of a printer

What a printer executes can be taken apart. One half, the interpreter, understands the bytes: no
register and no phase of the reader depends on the pen, the sheet, the timer or the output. The
other half, the paper, follows: where the pen goes is geometry on the registers and the pen, and
what is printed follows from that. A byte does to a printer what the two do one after the other.
-/

namespace PinPrinter

/-! ## Motion of the pen -/

/-- Where the pen goes. -/
inductive Motion where
  /-- To a place on the sheet. -/
  | to (pen : Pen)
  /-- To the top margin of a new sheet, at a horizontal place. -/
  | turn (x : Float)

namespace Registers

/-- Put the pen at a height, or on a new sheet if that is below the bottom margin. -/
def drop (r : Registers) (pen : Pen) : Motion :=
  if pen.y > r.bottomMargin then .turn pen.x else .to pen

/-- Back to the left margin and down one line. -/
def newLine (r : Registers) (pen : Pen) : Motion :=
  r.drop ⟨r.leftMargin, pen.y + r.lineSpacing⟩

/-- The motion of a vertical tab: a line feed where no stops have been set, a return where all have
been cancelled, and else to the next stop, on a new sheet if there is none above the bottom
margin. -/
def verticalTab (r : Registers) (pen : Pen) : Motion :=
  match r.verticalTabs with
  | .unset => r.newLine pen
  | .stops [] => .to ⟨r.leftMargin, pen.y⟩
  | .stops _ =>
    match r.nextVerticalTab? pen.y with
    | some stop => if stop ≤ r.bottomMargin then .to ⟨pen.x, stop⟩ else .turn pen.x
    | none => .turn pen.x

/-- Where a control code sends the pen. -/
def controlMotion (r : Registers) (autofeed : Bool) (pen : Pen) : Control → Motion
  | .backspace =>
    let x := pen.x - r.fixedAdvance
    .to (if x ≥ r.leftMargin then ⟨x, pen.y⟩ else pen)
  | .horizontalTab => .to ⟨(r.nextHorizontalTab? pen.x).getD pen.x, pen.y⟩
  | .verticalTab => r.verticalTab pen
  | .formFeed => .turn r.leftMargin
  | .carriageReturn => if autofeed then r.newLine pen else .to ⟨r.leftMargin, pen.y⟩
  | .lineFeed => r.newLine pen
  | .nul | .bel | .shiftOut | .shiftIn | .select | .cancelCondensed | .deselect | .cancelWideLine
  | .cancelLine => .to pen

/-- A pen left of a new left margin goes to it. -/
def afterLeftMargin (r : Registers) (pen : Pen) (column : Nat) : Pen :=
  let left := r.leftMarginAt column
  if left < r.rightMargin ∧ pen.x < left then ⟨left, pen.y⟩ else pen

/-- A pen above a new top margin goes to it. -/
def afterPageFormat (r : Registers) (pen : Pen) (top bottom : Nat) : Pen :=
  match r.unit with
  | none => pen
  | some unit =>
    if Float.ofNat top * unit ≥ Float.ofNat bottom * unit then pen
    else if pen.y < r.topMargin then ⟨pen.x, r.topMargin⟩ else pen

/-- The paper moved back, not above the top margin. -/
def reverse (r : Registers) (pen : Pen) (distance : Float) : Pen :=
  let y := pen.y - distance
  ⟨pen.x, if y < r.topMargin then r.topMargin else y⟩

/-- Where an instruction sends the pen, once the registers have obeyed it. -/
def motion (r : Registers) (pen : Pen) : Instruction → Motion
  | .leftMargin column => .to (r.afterLeftMargin pen column)
  | .pageFormat top bottom => .to (r.afterPageFormat pen top bottom)
  | .absoluteX count =>
    let x := r.leftMargin + Float.ofNat count * r.absoluteUnit
    .to (if x ≤ r.rightMargin then ⟨x, pen.y⟩ else pen)
  | .relativeX count =>
    let x := pen.x + Float.ofInt count * r.relativeUnit
    .to (if x ≥ r.leftMargin ∧ x ≤ r.rightMargin then ⟨x, pen.y⟩ else pen)
  | .skipColumns count =>
    let x := pen.x + Float.ofNat count * r.fixedAdvance
    .to (if x ≤ r.rightMargin then ⟨x, pen.y⟩ else pen)
  | .skipLines count => r.drop ⟨r.leftMargin, pen.y + Float.ofNat count * r.lineSpacing⟩
  | .advance count => r.drop ⟨pen.x, pen.y + Float.ofNat count / 180.0⟩
  | .reverse count => .to (r.reverse pen (Float.ofNat count / 216.0))
  | .reverseLine => .to (r.reverse pen r.lineSpacing)
  | .topOfSheet => .to ⟨pen.x, r.topMargin⟩
  | .absoluteY count =>
    r.drop ⟨pen.x, r.topMargin + Float.ofNat count * r.verticalUnit⟩
  | .relativeY count =>
    let y := pen.y + Float.ofInt count * r.verticalUnit
    if y > r.topMargin then r.drop ⟨pen.x, y⟩ else .to pen
  | .ejectSheet => .turn pen.x
  | .restart => .to r.home
  | _ => .to pen

/-- Where the pen goes after a character or a gap, if the next one must end left of the right
margin. -/
def wrap (r : Registers) (pen : Pen) (advance : Float) : Motion :=
  if pen.x + advance > r.rightMargin then r.newLine pen else .to pen

end Registers

/-! ## Understanding bytes -/

namespace Interpreter

/-- What an instruction does to the interpreter. -/
def obey (i : Interpreter) (instruction : Instruction) : Interpreter :=
  match instruction with
  | .restart => i.restart
  | .printNext => { i with reader := i.reader.printLiterally 1 }
  | .printUpper on =>
    { i with
      registers := i.registers.obey instruction
      reader := i.reader.setUpperControl (!on) }
  | .image source columns => i.beginImage source columns
  | _ => { i with registers := i.registers.obey instruction }

/-- What an action does to the interpreter. -/
def act (i : Interpreter) (autofeed : Bool) : Action → Interpreter
  | .control code => { i with registers := i.registers.control autofeed code }
  | .command c params => i.obey (.ofCommand c params)
  | .tabs axis stops => { i with registers := i.registers.setTabs axis stops.toList }
  | .print _ | .payload _ _ | .column _ => i

/-- Take a byte from the host: the interpreter that follows, and what the byte turned out to
mean. -/
def receive (i : Interpreter) (autofeed : Bool) (byte : UInt8) : Interpreter × Option Action :=
  match i with
  | ⟨reader, registers, image⟩ =>
    match reader.feed (registers.forceMsb byte) with
    | (reader, none) => (⟨reader, registers, image⟩, none)
    | (reader, some action) => (act ⟨reader, registers, image⟩ autofeed action, some action)

theorem registers_obey (i : Interpreter) (instruction : Instruction) :
    (i.obey instruction).registers = i.registers.obey instruction := by
  cases instruction <;> rfl

end Interpreter

/-! ## Printing -/

namespace Paper

/-- Move the pen. -/
def follow (p : Paper) (r : Registers) : Motion → Paper
  | .to pen => { p with pen := pen }
  | .turn x => p.turn r x

/-- Print a byte as a character, and go on to the next line where the right margin asks for it. -/
def printByte (p : Paper) (r : Registers) (byte : UInt8) : Paper :=
  match p.stamp r byte with
  | (p, advance) => p.follow r (r.wrap p.pen advance)

/-- What an instruction does to the paper, once the registers have obeyed it. A restart takes a
blank sheet without sending off the one before it. -/
def obey (p : Paper) (r : Registers) : Instruction → Paper
  | .restart => p.load r.home
  | instruction => p.follow r (r.motion p.pen instruction)

/-- What an action does to the paper, once the interpreter has acted. -/
def act (p : Paper) (r : Registers) (density : Option BitImage.Density) (autofeed : Bool) :
    Action → Paper
  | .print byte => p.printByte r byte
  | .control code => p.follow r (r.controlMotion autofeed p.pen code)
  | .command c params => p.obey r (.ofCommand c params)
  | .payload c data => if c = Command.barCode then p.printBarcode r data.toList else p
  | .column bytes => p.printColumn r density bytes
  | .tabs _ _ => p

theorem obey_eq_follow (p : Paper) (r : Registers) {instruction : Instruction}
    (running : instruction ≠ .restart) :
    p.obey r instruction = p.follow r (r.motion p.pen instruction) := by
  cases instruction with
  | restart => exact absurd rfl running
  | _ => rfl

/-- Where the pen is when a sheet is turned makes no difference. -/
theorem turn_of_pen (p : Paper) (pen : Pen) (r : Registers) (x : Float) :
    { p with pen := pen }.turn r x = p.turn r x := by
  unfold turn emit
  dsimp only
  split
  · rfl
  · split <;> rfl

end Paper

theorem EjectTimer.arm_disarm (t : EjectTimer) (now : Nat) : t.disarm.arm now = t.arm now := by
  obtain ⟨timeout, deadline, idle⟩ := t
  cases timeout with
  | none =>
    cases idle rfl
    rfl
  | some timeout => rfl

namespace Printer

variable (p : Printer)

/-! ## Motions of a printer -/

/-- The printer with its pen in another place, or with a new sheet. -/
def go (p : Printer) : Motion → Printer
  | .to pen => { p with paper.pen := pen }
  | .turn x => { p with paper := p.paper.turn p.registers x, timer := p.timer.disarm }

theorem paper_go (motion : Motion) : (p.go motion).paper = p.paper.follow p.registers motion := by
  cases motion <;> rfl

theorem edit_congr {change : Registers → Registers} {r : Registers}
    (same : change p.registers = r) : p.edit change = p.edit fun _ => r :=
  congrArg (fun r => p.edit fun _ => r) same

/-- Where the pen may stay, it stays or goes to a place. -/
theorem moveTo_or_stay (moves : Prop) [Decidable moves] (x y : Float) :
    (if moves then p.moveTo x y else p) = p.go (.to (if moves then ⟨x, y⟩ else p.pen)) := by
  split <;> rfl

/-- Where the sheet may be left, the pen goes to a new one or to a place. -/
theorem newSheet_or_moveTo (off : Prop) [Decidable off] (x y : Float) :
    (if off then p.newSheet true false else p.moveTo x y) =
      p.go (if off then .turn p.pen.x else .to ⟨x, y⟩) := by
  split <;> rfl

/-- A motion to a place or a new sheet goes on from anywhere. -/
theorem go_moveTo (x y : Float) (motion : Motion) : (p.moveTo x y).go motion = p.go motion := by
  rcases motion with pen | x'
  · rfl
  · rw [go, go, ← p.paper.turn_of_pen ⟨x, y⟩]
    rfl

theorem overflow_eq : p.overflow = p.go (p.registers.drop p.pen) := by
  unfold overflow Registers.drop
  split <;> rfl

theorem overflow_moveTo (x y : Float) :
    (p.moveTo x y).overflow = p.go (p.registers.drop ⟨x, y⟩) :=
  (p.moveTo x y).overflow_eq.trans (p.go_moveTo ..)

theorem lineFeed_eq : p.lineFeed = p.go (p.registers.newLine p.pen) :=
  p.overflow_moveTo ..

theorem verticalTab_eq : p.verticalTab = p.go (p.registers.verticalTab p.pen) := by
  unfold verticalTab Registers.verticalTab
  rcases p.registers.verticalTabs with _ | (_ | ⟨first, rest⟩)
  · exact p.lineFeed_eq
  · rfl
  · cases p.registers.nextVerticalTab? p.pen.y with
    | none => rfl
    | some stop =>
      dsimp only
      split <;> rfl

/-! ## Control codes and commands -/

variable {p}

/-- The line ends behind the motion of the pen or before it: that is the same. -/
theorem endLine_go (motion : Motion) : (p.go motion).endLine = p.endLine.go motion := by
  rcases motion with pen | x
  · rfl
  · have unstyled : Registers.Unstyled fun r => p.paper.turn r x := fun _ _ _ _ => rfl
    have same : p.paper.turn p.registers.endLine x = p.paper.turn p.registers x :=
      unstyled.endLine p.registers
    rw [go, go, ← same]
    rfl

theorem control_eq (code : Control) :
    p.control code =
      { p with interpreter := p.interpreter.act p.autofeed (.control code) }.go
        ((p.registers.control p.autofeed code).controlMotion p.autofeed p.pen code) := by
  cases code with
  | backspace => exact p.moveTo_or_stay ..
  | horizontalTab =>
    change (match p.registers.nextHorizontalTab? p.pen.x with
      | some stop => p.moveTo stop p.pen.y
      | none => p) = p.go (.to ⟨(p.registers.nextHorizontalTab? p.pen.x).getD p.pen.x, p.pen.y⟩)
    cases p.registers.nextHorizontalTab? p.pen.x <;> rfl
  | verticalTab =>
    have unstyled : Registers.Unstyled fun r => r.verticalTab p.pen := fun _ _ _ _ => rfl
    change p.verticalTab.endLine = p.endLine.go (p.registers.endLine.verticalTab p.pen)
    rw [verticalTab_eq, endLine_go, unstyled.endLine]
  | formFeed => rfl
  | carriageReturn =>
    have fed : (p.moveTo p.registers.leftMargin p.pen.y).endLine.lineFeed =
        p.endLine.go (p.registers.endLine.newLine p.pen) :=
      (lineFeed_eq _).trans (p.endLine.go_moveTo ..)
    obtain ⟨config, interpreter, paper, timer, autofeed, unacknowledged⟩ := p
    cases autofeed with
    | true => exact fed
    | false => rfl
  | lineFeed => exact p.endLine.lineFeed_eq
  | _ => rfl

theorem obey_leftMargin (column : Nat) :
    p.obey (.leftMargin column) =
      (p.edit (·.setLeftMargin column)).go
        (.to ((p.registers.setLeftMargin column).afterLeftMargin p.pen column)) := by
  let left := p.registers.leftMarginAt column
  by_cases room : left < p.registers.rightMargin
  · have set : p.registers.setLeftMargin column = { p.registers with leftMargin := left } :=
      if_pos room
    have follows : (p.registers.setLeftMargin column).afterLeftMargin p.pen column =
        if p.pen.x < left then ⟨left, p.pen.y⟩ else p.pen := by
      rw [set]
      exact ite_congr (propext (and_iff_right room)) (fun _ => rfl) fun _ => rfl
    rw [p.edit_congr set, follows]
    exact (if_pos room).trans (moveTo_or_stay ..)
  · have set : p.registers.setLeftMargin column = p.registers := if_neg room
    have stays : (p.registers.setLeftMargin column).afterLeftMargin p.pen column = p.pen := by
      rw [set]
      exact if_neg fun both => room both.1
    rw [p.edit_congr set, stays]
    exact if_neg room

theorem obey_pageFormat (top bottom : Nat) :
    p.obey (.pageFormat top bottom) =
      (p.edit (·.setPageFormat top bottom)).go
        (.to ((p.registers.setPageFormat top bottom).afterPageFormat p.pen top bottom)) := by
  have pageless : Registers.Pageless Registers.unit := fun _ _ _ _ _ _ => rfl
  have unit := pageless.setPageFormat p.registers top bottom
  unfold obey
  dsimp only
  cases defined : p.registers.unit with
  | none =>
    have set : p.registers.setPageFormat top bottom = p.registers := by
      rw [Registers.setPageFormat, defined]
    have stays : (p.registers.setPageFormat top bottom).afterPageFormat p.pen top bottom =
        p.pen := by
      rw [Registers.afterPageFormat, unit, defined]
    rw [p.edit_congr set, stays]
    rfl
  | some unit' =>
    have follows : (p.registers.setPageFormat top bottom).afterPageFormat p.pen top bottom =
        if Float.ofNat top * unit' ≥ Float.ofNat bottom * unit' then p.pen
        else if p.pen.y < (p.registers.setPageFormat top bottom).topMargin then
          ⟨p.pen.x, (p.registers.setPageFormat top bottom).topMargin⟩ else p.pen := by
      rw [Registers.afterPageFormat, unit, defined]
    rw [follows]
    dsimp only
    split
    case isTrue disorder =>
      have set : p.registers.setPageFormat top bottom = p.registers := by
        rw [Registers.setPageFormat_of_unit defined, if_pos disorder]
      rw [p.edit_congr set]
      rfl
    case isFalse order => exact moveTo_or_stay ..

theorem obey_eq (instruction : Instruction) (running : instruction ≠ .restart) :
    p.obey instruction =
      { p with interpreter := p.interpreter.obey instruction }.go
        ((p.registers.obey instruction).motion p.pen instruction) := by
  cases instruction with
  | restart => exact absurd rfl running
  | leftMargin column => exact p.obey_leftMargin column
  | pageFormat top bottom => exact p.obey_pageFormat top bottom
  | absoluteX count => exact p.moveTo_or_stay ..
  | relativeX count => exact p.moveTo_or_stay ..
  | skipColumns count => exact p.moveTo_or_stay ..
  | skipLines count => exact p.overflow_moveTo ..
  | advance count => exact p.overflow_moveTo ..
  | absoluteY count => exact p.newSheet_or_moveTo ..
  | relativeY count =>
    unfold obey Registers.obey Registers.motion
    dsimp only
    split
    · exact p.newSheet_or_moveTo ..
    · rfl
  | _ => rfl

/-! ## Bytes -/

/-- The second printer is the first one with these two halves, and its timer may have been
stopped. -/
inductive Split (p : Printer) (i : Interpreter) (paper : Paper) : Printer → Prop
  | waiting : Split p i paper { p with interpreter := i, paper := paper }
  | stopped :
    Split p i paper { p with interpreter := i, paper := paper, timer := p.timer.disarm }

theorem Split.arm {i : Interpreter} {paper : Paper} {q : Printer} (split : p.Split i paper q)
    (now : Nat) :
    { q with timer := q.timer.arm now } =
      { p with interpreter := i, paper := paper, timer := p.timer.arm now } := by
  cases split with
  | waiting => rfl
  | stopped =>
    dsimp only
    rw [EjectTimer.arm_disarm]

theorem split_go (i : Interpreter) (paper : Paper) (motion : Motion) :
    p.Split i (paper.follow i.registers motion)
      ({ p with interpreter := i, paper := paper }.go motion) := by
  rcases motion with pen | x
  · exact .waiting
  · exact .stopped

theorem split_obey (instruction : Instruction) :
    let i := p.interpreter.obey instruction
    p.Split i (p.paper.obey i.registers instruction) (p.obey instruction) := by
  by_cases restart : instruction = .restart
  · rw [restart]
    exact .stopped
  · intro i
    have registers : i.registers = p.registers.obey instruction :=
      p.interpreter.registers_obey instruction
    rw [obey_eq _ restart, p.paper.obey_eq_follow _ restart, ← registers]
    exact split_go i p.paper _

theorem printByte_eq (byte : UInt8) :
    p.printByte byte =
      let (paper, advance) := p.paper.stamp p.registers byte
      { p with paper := paper }.go (p.registers.wrap paper.pen advance) := by
  let stamped : Printer := { p with paper := (p.paper.stamp p.registers byte).1 }
  unfold printByte Registers.wrap
  dsimp only
  split
  case isTrue full =>
    rw [lineFeed_eq]
    exact congrArg stamped.go (if_pos full).symm
  case isFalse room =>
    have stays : stamped = stamped.go (.to stamped.pen) := rfl
    exact stays.trans (congrArg stamped.go (if_neg room).symm)

theorem split_execute (action : Action) :
    let i := p.interpreter.act p.autofeed action
    p.Split i (p.paper.act i.registers i.image p.autofeed action) (p.execute action) := by
  intro i
  cases action with
  | print byte =>
    change p.Split i _ (p.printByte byte)
    rw [printByte_eq]
    exact split_go i _ _
  | control code =>
    change p.Split i _ (p.control code)
    rw [control_eq]
    exact split_go i p.paper _
  | command c params => exact split_obey _
  | payload c data =>
    by_cases code : c = Command.barCode
    · simp only [execute, payload, Paper.act, if_pos code]
      exact .waiting
    · simp only [execute, payload, Paper.act, if_neg code]
      exact .waiting
  | tabs axis stops => exact .waiting
  | column bytes => exact .waiting

variable {byte : UInt8} {next : Interpreter} {action : Action}

/-- A byte inside a sequence goes through the interpreter, whatever is on the paper. -/
theorem step_silent (received : p.interpreter.receive p.autofeed byte = (next, none)) (now : Nat) :
    p.step (.byte now byte) =
      { p with interpreter := next, timer := p.timer.arm now, unacknowledged := true } := by
  obtain ⟨config, ⟨reader, registers, image⟩, paper, timer, autofeed, unacknowledged⟩ := p
  unfold Interpreter.receive at received
  unfold step receive
  dsimp only at received ⊢
  generalize reader.feed (registers.forceMsb byte) = read at received ⊢
  obtain ⟨reader, _ | action⟩ := read
  · cases received
    rfl
  · cases received

/-- A byte at the end of a sequence goes through the interpreter as well, and then the paper does
what it turned out to mean. A timer that was stopped on the way is armed all the same. -/
theorem step_action (received : p.interpreter.receive p.autofeed byte = (next, some action))
    (now : Nat) :
    p.step (.byte now byte) =
      { p with
        interpreter := next
        paper := p.paper.act next.registers next.image p.autofeed action
        timer := p.timer.arm now
        unacknowledged := true } := by
  obtain ⟨config, ⟨reader, registers, image⟩, paper, timer, autofeed, unacknowledged⟩ := p
  unfold Interpreter.receive at received
  unfold step receive
  dsimp only at received ⊢
  generalize reader.feed (registers.forceMsb byte) = read at received ⊢
  obtain ⟨reader, _ | meant⟩ := read
  · cases received
  · cases received
    exact (split_execute action).arm now

/-- Besides the two halves a byte only arms the timer and waits to be acknowledged. -/
theorem exists_step_byte (p : Printer) (now : Nat) (byte : UInt8) :
    ∃ i paper, p.step (.byte now byte) =
      { p with
        interpreter := i
        paper := paper
        timer := p.timer.arm now
        unacknowledged := true } := by
  rcases received : p.interpreter.receive p.autofeed byte with ⟨next, _ | action⟩
  · exact ⟨_, _, step_silent received now⟩
  · exact ⟨_, _, step_action received now⟩

end Printer

end PinPrinter
