import PinPrinter.Proofs.Printer.Reachable

/-! # What an event does to the two halves

A printer is an interpreter above some paper. The interpreter follows the events on its own; what an
event does to the paper follows from the event and from the interpreter before it. Only a poll also
needs the timer, and then it is a form feed or nothing.
-/

namespace PinPrinter

namespace Paper

/-- What an event other than a poll does to the paper below an interpreter. -/
def undergo (p : Paper) (i : Interpreter) (autofeed : Bool) : Printer.Event → Paper
  | .byte _ byte =>
    match i.receive autofeed byte with
    | (next, some action) => p.act next.registers next.image autofeed action
    | (_, none) => p
  | .reset | .resetHard => p.load i.restart.registers.home
  | .formFeed => (p.turn i.registers i.registers.leftMargin).finish
  | .finish => p.finish
  | .poll _ | .autofeed _ | .acknowledge => p

/-- A property that all that can happen to a paper keeps. -/
structure Kept (Holds : Paper → Prop) : Prop where
  act : ∀ {p : Paper} r density autofeed action,
    Holds p → Holds (p.act r density autofeed action)
  turn : ∀ {p : Paper} r x, Holds p → Holds (p.turn r x)
  load : ∀ {p : Paper} pen, Holds p → Holds (p.load pen)
  finish : ∀ {p : Paper}, Holds p → Holds p.finish

variable {Holds : Paper → Prop}

theorem Kept.undergo (kept : Kept Holds) {p : Paper} (holds : Holds p) (i : Interpreter)
    (autofeed : Bool) (event : Printer.Event) : Holds (p.undergo i autofeed event) := by
  cases event with
  | byte now byte =>
    unfold Paper.undergo
    dsimp only
    rcases i.receive autofeed byte with ⟨next, _ | action⟩
    · exact holds
    · exact kept.act _ _ _ _ holds
  | formFeed => exact kept.finish (kept.turn _ _ holds)
  | reset => exact kept.load _ holds
  | resetHard => exact kept.load _ holds
  | poll now => exact holds
  | finish => exact kept.finish holds
  | autofeed on => exact holds
  | acknowledge => exact holds

end Paper

namespace Printer

/-! ## The configuration, the interpreter and the autofeed line -/

theorem config_step (p : Printer) (event : Event) : (p.step event).config = p.config := by
  cases event with
  | poll now =>
    change (p.poll now).1.config = p.config
    unfold poll
    split <;> rfl
  | byte now byte =>
    obtain ⟨i, paper, stepped⟩ := exists_step_byte p now byte
    rw [stepped]
  | _ => rfl

theorem config_run (p : Printer) (events : List Event) : (p.run events).config = p.config := by
  induction events generalizing p with
  | nil => rfl
  | cons event rest ih => exact (ih _).trans (config_step p event)

theorem autofeed_step (p : Printer) (event : Event) :
    (p.step event).autofeed = match event with
      | .autofeed on => on
      | _ => p.autofeed := by
  cases event with
  | poll now =>
    change (p.poll now).1.autofeed = p.autofeed
    unfold poll
    split
    · rfl
    · rfl
  | byte now byte =>
    obtain ⟨i, paper, stepped⟩ := exists_step_byte p now byte
    rw [stepped]
  | _ => rfl

/-- Where the autofeed line stands after some events, and what they make of the interpreter. The
paper has no part in either. -/
def understand (i : Interpreter) (autofeed : Bool) : List Event → Interpreter × Bool
  | [] => (i, autofeed)
  | event :: rest =>
    understand (i.follow autofeed event)
      (match event with
        | .autofeed on => on
        | _ => autofeed) rest

theorem understand_run (p : Printer) (events : List Event) :
    (p.run events).interpreter = (understand p.interpreter p.autofeed events).1 ∧
      (p.run events).autofeed = (understand p.interpreter p.autofeed events).2 := by
  induction events generalizing p with
  | nil => exact ⟨rfl, rfl⟩
  | cons event rest ih =>
    have later := ih (p.step event)
    rw [interpreter_step, autofeed_step] at later
    exact later

/-- To set the autofeed line to where it stands changes nothing. -/
theorem setAutofeed_of_autofeed {p : Printer} {on : Bool} (stands : p.autofeed = on) :
    p.setAutofeed on = p := by
  rw [← stands]
  rfl

theorem run_append (p : Printer) (first second : List Event) :
    p.run (first ++ second) = (p.run first).run second :=
  List.foldl_append

/-- Two printers that understand the next byte alike. -/
structure SameControl (p q : Printer) : Prop where
  interpreter : p.interpreter = q.interpreter
  autofeed : p.autofeed = q.autofeed

variable {p q : Printer}

theorem SameControl.step (same : SameControl p q) (event : Event) :
    SameControl (p.step event) (q.step event) where
  interpreter := by rw [interpreter_step, interpreter_step, same.interpreter, same.autofeed]
  autofeed := by rw [autofeed_step, autofeed_step, same.autofeed]

/-! ## The paper -/

/-- A run without polls, cut after its first event. -/
theorem unpolled_cons {event : Event} {rest : List Event}
    (unpolled : ∀ now, Event.poll now ∉ event :: rest) :
    (∀ now, event ≠ .poll now) ∧ ∀ now, Event.poll now ∉ rest := by
  constructor
  · rintro now rfl
    exact unpolled now (List.mem_cons_self ..)
  · intro now member
    exact unpolled now (List.mem_cons_of_mem _ member)

theorem paper_step (p : Printer) {event : Event} (unpolled : ∀ now, event ≠ .poll now) :
    (p.step event).paper = p.paper.undergo p.interpreter p.autofeed event := by
  cases event with
  | byte now byte =>
    unfold Paper.undergo
    dsimp only
    rcases received : p.interpreter.receive p.autofeed byte with ⟨next, _ | action⟩
    · rw [step_silent received]
    · rw [step_action received]
  | poll now => exact absurd rfl (unpolled now)
  | formFeed => rfl
  | reset => rfl
  | resetHard => rfl
  | finish => rfl
  | autofeed on => rfl
  | acknowledge => rfl

/-- A poll ejects the sheet or leaves the paper alone. -/
theorem paper_poll (p : Printer) (now : Nat) :
    (p.poll now).1.paper = p.paper ∨ (p.poll now).1.paper = p.formFeed.paper := by
  unfold poll
  split
  · exact .inr rfl
  · exact .inl rfl

variable {Holds : Paper → Prop}

theorem kept_step (kept : Paper.Kept Holds) (holds : Holds p.paper)
    (event : Event) : Holds (p.step event).paper := by
  by_cases polled : ∃ now, event = .poll now
  · obtain ⟨now, rfl⟩ := polled
    rcases paper_poll p now with same | ejected
    · exact same ▸ holds
    · change Holds (p.poll now).1.paper
      rw [ejected]
      exact kept.finish (kept.turn _ _ holds)
  · rw [paper_step p fun now same => polled ⟨now, same⟩]
    exact kept.undergo holds ..

theorem kept_run (kept : Paper.Kept Holds) (holds : Holds p.paper)
    (events : List Event) : Holds (p.run events).paper := by
  induction events generalizing p with
  | nil => exact holds
  | cons event rest ih => exact ih (kept_step kept holds event)

end Printer

end PinPrinter
