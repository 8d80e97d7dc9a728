import PinPrinter.Proofs.Printer.Events

/-! # Events between the bytes

The eject button, the timer, the end of a document and an acknowledgement can come at any time: in
the middle of an escape sequence, of a list of tab stops, of literal bytes or of a bit image. They
move the pen and the sheet, and so do the sheets that overflow in the middle of a command. No
register, and nothing else that bytes are understood by, depends on either.
-/

namespace PinPrinter.Printer

/-- Comes from the panel, the timer or the port, between the bytes of the host. -/
def Event.isPanel : Event → Bool
  | .formFeed | .poll _ | .finish | .acknowledge => true
  | .byte _ _ | .reset | .resetHard | .autofeed _ => false

variable {p q : Printer}

theorem sameControl_step_of_isPanel (p : Printer) {event : Event} (panel : event.isPanel = true) :
    SameControl (p.step event) p where
  interpreter := by
    rw [interpreter_step]
    cases event with
    | formFeed => rfl
    | poll now => rfl
    | finish => rfl
    | acknowledge => rfl
    | byte now byte => cases panel
    | reset => cases panel
    | resetHard => cases panel
    | autofeed on => cases panel
  autofeed := by
    rw [autofeed_step]
    cases event with
    | autofeed on => cases panel
    | _ => rfl

/-- Two runs stay in step when events of the panel come in one of them only. -/
theorem SameControl.run_filter (same : SameControl p q) (events : List Event) :
    SameControl (p.run events) (q.run (events.filter fun event => !event.isPanel)) := by
  induction events generalizing p q with
  | nil => exact same
  | cons event rest ih =>
    cases panel : event.isPanel with
    | true =>
      have unmoved := sameControl_step_of_isPanel p panel
      have front : SameControl (p.step event) q :=
        ⟨unmoved.interpreter.trans same.interpreter, unmoved.autofeed.trans same.autofeed⟩
      rw [List.filter_cons_of_neg (by simp [panel])]
      exact ih front
    | false =>
      rw [List.filter_cons_of_pos (by simp [panel])]
      exact ih (same.step event)

/-- At every point of every run, reader, image layout and registers are those of a run without the
events of the panel, wherever these came. That run may even start with the pen in another place,
above another sheet, with other glyphs and another output, and with a timer that stands
differently. -/
theorem run_without_panel (p : Printer) (events : List Event) (paper : Paper)
    (timer : EjectTimer) :
    let quiet :=
      { p with paper := paper, timer := timer }.run (events.filter fun event => !event.isPanel)
    (p.run events).interpreter.reader = quiet.interpreter.reader ∧
      (p.run events).interpreter.image = quiet.interpreter.image ∧
        (p.run events).registers = quiet.registers := by
  have same : SameControl p { p with paper := paper, timer := timer } := ⟨rfl, rfl⟩
  have agreed := (same.run_filter events).interpreter
  exact ⟨congrArg Interpreter.reader agreed, congrArg Interpreter.image agreed,
    congrArg Interpreter.registers agreed⟩

end PinPrinter.Printer
