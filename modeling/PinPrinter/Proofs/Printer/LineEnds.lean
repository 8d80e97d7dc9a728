import PinPrinter.Proofs.Printer.Autofeed
import PinPrinter.Proofs.Printer.Deeds
import PinPrinter.Proofs.Printer.Layout
import PinPrinter.Proofs.Registers.Font

/-! # Where lines end

Double width for one line is over when the line ends. The control codes that start a new line end
the one before it, each in the same way. A character that leaves no room for the next one starts a
new line too, but it changes no register: the pen goes to the next line and double width goes with
it. So a byte that starts a new line leaves double width for the line behind if and only if it is
not such a character, or double width for the line was off already.
-/

namespace PinPrinter

/-- Starts a new line and ends the one before it. A return does so where a line feed follows it. -/
def Control.endsLine (autofeed : Bool) : Control → Bool
  | .verticalTab | .formFeed | .lineFeed => true
  | .carriageReturn => autofeed
  | _ => false

namespace Registers

variable {r : Registers}

theorem control_of_endsLine {autofeed : Bool} {code : Control}
    (ends : code.endsLine autofeed = true) (r : Registers) :
    r.control autofeed code = r.endLine := by
  cases code with
  | verticalTab => rfl
  | formFeed => rfl
  | lineFeed => rfl
  | carriageReturn =>
    obtain rfl : autofeed = true := ends
    rfl
  | _ => cases ends

@[simp] theorem wideLine_endLine (r : Registers) : r.endLine.style.wideLine = false := by
  unfold endLine
  split
  · rfl
  · rename_i off
    exact Bool.eq_false_iff.mpr off

/-- The registers without double width for the line; the font is left as it is. -/
def withoutWideLine (r : Registers) : Registers :=
  { r with style.wideLine := false }

theorem withoutWideLine_of_off (off : r.style.wideLine = false) : r.withoutWideLine = r := by
  unfold withoutWideLine
  rw [← off]

/-- Where double width for the line is off, a font that is up to date is one without it. -/
theorem FontCurrent.font_withoutWideLine (current : r.FontCurrent)
    (off : r.style.wideLine = false) : r.font = r.withoutWideLine.wantedFont := by
  rw [withoutWideLine_of_off off]
  exact current

end Registers

/-- A character leaves no room for the next one in front of the right margin. -/
def Paper.Fills (p : Paper) (r : Registers) (byte : UInt8) : Prop :=
  r.rightMargin < (p.stamp r byte).1.pen.x + (p.stamp r byte).2

instance (p : Paper) (r : Registers) (byte : UInt8) : Decidable (p.Fills r byte) :=
  inferInstanceAs (Decidable (_ < _))

namespace Printer

variable {p : Printer} {byte : UInt8} {code : Control}

/-- A byte is read as a control code. -/
def Reads (p : Printer) (byte : UInt8) (code : Control) : Prop :=
  (p.interpreter.receive p.autofeed byte).2 = some (.control code)

instance (p : Printer) (byte : UInt8) (code : Control) : Decidable (p.Reads byte code) :=
  inferInstanceAs (Decidable (_ = _))

/-- A control code changes the registers, and then the pen follows. -/
theorem step_of_reads (read : p.Reads byte code) (now : Nat) :
    let r := p.registers.control p.autofeed code
    p.step (.byte now byte) =
      { p with
        interpreter.registers := r
        paper := p.paper.follow r (r.controlMotion p.autofeed p.paper.pen code)
        timer := p.timer.arm now
        unacknowledged := true } :=
  step_action (Interpreter.receive_action (Interpreter.receive_control_iff.mp read) p.autofeed) now

/-- A byte is a control code that ends the line. -/
def EndsLine (p : Printer) (byte : UInt8) : Prop :=
  ∃ code, p.Reads byte code ∧ code.endsLine p.autofeed = true

/-- A byte prints a character that leaves no room for the next one. -/
def FillsLine (p : Printer) (byte : UInt8) : Prop :=
  ∃ character, (p.interpreter.receive p.autofeed byte).2 = some (.print character) ∧
    p.paper.Fills p.registers character

theorem EndsLine.not_fillsLine (ends : p.EndsLine byte) : ¬ p.FillsLine byte := by
  obtain ⟨code, read, -⟩ := ends
  rintro ⟨character, print, -⟩
  rw [Reads, print] at read
  cases read

theorem registers_of_endsLine (ends : p.EndsLine byte) (now : Nat) :
    (p.step (.byte now byte)).registers = p.registers.endLine := by
  obtain ⟨code, read, endsLine⟩ := ends
  rw [step_of_reads read]
  exact Registers.control_of_endsLine endsLine p.registers

/-- Behind a character that fills the line the pen is at the start of the next one, and the
registers are as before. -/
theorem step_of_fillsLine (fills : p.FillsLine byte) (now : Nat) :
    let q := p.step (.byte now byte)
    q.registers = p.registers ∧
      q.paper.pen = (p.registers.newLine p.paper.pen).landing p.registers := by
  obtain ⟨character, print, full⟩ := fills
  rcases received : p.interpreter.receive p.autofeed byte with ⟨next, action⟩
  rw [received] at print
  obtain rfl : action = some (.print character) := print
  have same : next.registers = p.registers := Interpreter.registers_of_print received
  rw [step_action received]
  refine ⟨same, ?_⟩
  dsimp only
  rw [same, Paper.act_eq_follow rfl, Paper.pen_follow]
  have wraps : p.registers.wrap (p.paper.stamp p.registers character).1.pen
      (p.paper.stamp p.registers character).2 = p.registers.newLine p.paper.pen :=
    (if_pos full).trans (p.registers.newLine_congr rfl)
  exact congrArg (·.landing p.registers) wraps

/-- A byte that starts a new line ends double width for the line, and the font goes back to the one
without it, if and only if the line does not end by itself while double width is on. A line that
ends by itself changes no register. -/
theorem wideLine_newLine_iff (reachable : p.Reachable)
    (starts : p.EndsLine byte ∨ p.FillsLine byte) (now : Nat) :
    let q := p.step (.byte now byte)
    (q.registers.style.wideLine = false ∧
        q.registers.font = q.registers.withoutWideLine.wantedFont ↔
      ¬ (p.FillsLine byte ∧ p.registers.style.wideLine = true)) ∧
      (p.FillsLine byte → q.registers = p.registers ∧
        q.paper.pen = (p.registers.newLine p.paper.pen).landing p.registers) := by
  intro q
  have current : q.registers.FontCurrent := (reachable.step _).fontCurrent
  refine ⟨?_, fun fills => step_of_fillsLine fills now⟩
  constructor
  · rintro ⟨off, -⟩ ⟨fills, on⟩
    rw [(step_of_fillsLine fills now).1, on] at off
    cases off
  · intro otherwise
    have off : q.registers.style.wideLine = false := by
      rcases starts with ends | fills
      · rw [registers_of_endsLine ends, Registers.wideLine_endLine]
      · rw [(step_of_fillsLine fills now).1]
        exact Bool.eq_false_iff.mpr fun on => otherwise ⟨fills, on⟩
    exact ⟨off, current.font_withoutWideLine off⟩

/-- A return with autofeed, in the form that it has where the bytes from 80h on repeat the control
codes. -/
theorem wideLine_newLine_iff_return :
    let host : Host := { launch := fun _ _ => .error "no programs", date := "2024-02-29 12:30:00" }
    let p := (powerOn .letter host {}).run
      (.autofeed true :: [0x1B, 0x37, 0x0E, 0x41].map (Event.byte 0))
    let q := p.step (.byte 1 0x8D)
    (p.Reachable ∧ p.EndsLine 0x8D ∧ p.registers.style.wideLine = true) ∧
      q.registers.style.wideLine = false ∧
        q.registers.font = q.registers.withoutWideLine.wantedFont := by
  intro host p q
  have reachable : p.Reachable := (Reachable.new (new_letter host {})).run _
  have ends : p.EndsLine 0x8D := ⟨.carriageReturn, by decide +kernel, by decide +kernel⟩
  have on : p.registers.style.wideLine = true := by decide +kernel
  have ended := (wideLine_newLine_iff reachable (.inl ends) 1).1.mpr fun both =>
    ends.not_fillsLine both.1
  exact ⟨⟨reachable, ends, on⟩, ended⟩

/-- A line of half an inch, printed in double width, is full with its second gap. The pen is then in
the next line, and double width is still on. -/
theorem wideLine_fills_letter :
    let host : Host := { launch := fun _ _ => .error "no programs", date := "2024-02-29 12:30:00" }
    let p := (powerOn .letter host {}).run ([0x1B, 0x51, 0x06, 0x0E, 0x20].map (Event.byte 0))
    let q := p.step (.byte 0 0x20)
    p.Reachable ∧ p.FillsLine 0x20 ∧
      (q.paper.pen.x.toBits = p.registers.leftMargin.toBits ∧
        q.paper.pen.y.toBits = (p.paper.pen.y + p.registers.lineSpacing).toBits) ∧
      ¬ q.registers.style.wideLine = false := by
  intro host p q
  have reachable : p.Reachable := (Reachable.new (new_letter host {})).run _
  have fills : p.FillsLine 0x20 := ⟨0x20, by decide +kernel, by decide +kernel⟩
  exact ⟨reachable, fills, by decide +kernel, by decide +kernel⟩

end Printer

end PinPrinter
