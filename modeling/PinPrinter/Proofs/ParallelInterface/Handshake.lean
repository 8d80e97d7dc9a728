import PinPrinter.Proofs.ParallelInterface.Attached

/-! # What the driver reads

The control register reads as it was written last. The status register asks for an acknowledgement:
it says that there is one where a byte has come since the status was read, or the printer reset by
its line, for the last time.
-/

namespace PinPrinter

open Printer (Event)

namespace Printer

/-- No byte waits for its acknowledgement any more. -/
def Event.settles : Event → Bool
  | .acknowledge | .resetHard => true
  | _ => false

/-- A byte has come that nothing after it settles. -/
def awaiting : List Event → Bool
  | [] => false
  | event :: rest => awaiting rest || event.isByte && !rest.any Event.settles

theorem unacknowledged_step (p : Printer) (event : Event) :
    (p.step event).unacknowledged = (event.isByte || p.unacknowledged && !event.settles) := by
  cases event with
  | poll now =>
    have polled : (p.poll now).1.unacknowledged = p.unacknowledged := by
      unfold poll
      split
      · rfl
      · rfl
    exact polled.trans (Bool.and_true _).symm
  | byte now byte =>
    obtain ⟨i, paper, stepped⟩ := exists_step_byte p now byte
    rw [stepped]
    rfl
  | resetHard => exact (Bool.and_false _).symm
  | acknowledge => exact (Bool.and_false _).symm
  | formFeed => exact (Bool.and_true _).symm
  | reset => exact (Bool.and_true _).symm
  | finish => exact (Bool.and_true _).symm
  | autofeed on => exact (Bool.and_true _).symm

theorem unacknowledged_run (p : Printer) (events : List Event) :
    (p.run events).unacknowledged =
      (awaiting events || p.unacknowledged && !events.any Event.settles) := by
  induction events generalizing p with
  | nil => exact (Bool.and_true _).symm
  | cons event rest ih =>
    have later : (p.run (event :: rest)).unacknowledged =
        (awaiting rest || (p.step event).unacknowledged && !rest.any Event.settles) := ih _
    rw [later, unacknowledged_step, awaiting, List.any_cons, Bool.and_or_distrib_right,
      Bool.not_or, Bool.and_assoc, Bool.or_assoc]

end Printer

namespace ParallelInterface

variable {config : Config} {host : Host} {folder : Folder} {port : ParallelInterface}

/-- What a printer does not hear that is still off is nothing that waits. -/
theorem awaiting_heard (events : List Event) :
    Printer.awaiting (heard events) = Printer.awaiting events := by
  induction events with
  | nil => rfl
  | cons event rest ih =>
    have skipped {first : List Event} (same : Printer.awaiting first = Printer.awaiting rest) :
        Printer.awaiting first = (Printer.awaiting rest || false) := by
      rw [same, Bool.or_false]
    cases event with
    | byte now byte => rfl
    | autofeed on => exact congrArg (· || false) ih
    | formFeed => exact skipped ih
    | reset => exact skipped ih
    | resetHard => exact skipped ih
    | poll now => exact skipped ih
    | finish => exact skipped ih
    | acknowledge => exact skipped ih

theorem readStatus_snd (p : ParallelInterface) :
    p.readStatus.2 = if p.printer.any Printer.unacknowledged then 0x9F else 0xDF := by
  unfold readStatus
  cases p.printer with
  | none => rfl
  | some printer =>
    cases waits : printer.unacknowledged with
    | true =>
      simp only [Printer.acknowledge, Printer.busy, waits, Option.any_some, Bool.false_eq_true,
        if_true, if_false]
      decide
    | false =>
      simp only [Printer.acknowledge, Printer.busy, waits, Option.any_some, Bool.false_eq_true,
        if_false]
      decide

/-- The autofeed line of the printer is the one of the register. -/
theorem readControl_eq (p : ParallelInterface)
    (agrees : ∀ printer, p.printer = some printer → printer.autofeed = level p.control 1) :
    p.readControl = 0xE0 ||| p.control := by
  unfold readControl
  cases attached : p.printer with
  | none => rfl
  | some printer =>
    dsimp only
    rw [agrees printer attached]
    exact forall_byte (P := fun control =>
      controlUnused ||| (if level control 1 then autofeedLine else 0) |||
        (control &&& (autofeedLine ^^^ 0xFF)) = 0xE0 ||| control) (by decide +kernel) p.control

variable {p : ParallelInterface} {fresh : Printer} {events : List Event}

theorem isOn_of_awaiting (awaits : Printer.awaiting events = true) : isOn events = true := by
  induction events with
  | nil => cases awaits
  | cons event rest ih =>
    rw [Printer.awaiting, Bool.or_eq_true, Bool.and_eq_true] at awaits
    rw [isOn, List.any_cons, Bool.or_eq_true]
    rcases awaits with later | ⟨byte, -⟩
    · exact .inr (ih later)
    · exact .inl byte

theorem Follows.any_unacknowledged (follows : Follows fresh p events)
    (new : fresh.unacknowledged = false) :
    p.printer.any Printer.unacknowledged = Printer.awaiting events := by
  rw [follows.printer]
  cases on : isOn events with
  | true =>
    rw [if_pos rfl, Option.any_some, Printer.unacknowledged_run, new, Bool.false_and,
      Bool.or_false, awaiting_heard]
  | false =>
    have none : Printer.awaiting events = false := by
      apply Bool.eq_false_iff.mpr
      intro awaits
      rw [isOn_of_awaiting awaits] at on
      cases on
    rw [none]
    rfl

/-- Whatever is done to an interface, its control register reads as it was written last. Its status
says that there is an acknowledgement where there is a printer and a byte has come since the latest
reading or reset, and never else. -/
theorem handshake (made : ParallelInterface.new config host folder = .ok port)
    (accesses : List Access) :
    let p := port.run accesses
    p.readControl = 0xE0 ||| (accesses.foldl Lines.next {}).control ∧
      p.readStatus.2 =
        if config.enabled && Printer.awaiting (({} : Lines).history accesses) then 0x9F
        else 0xDF := by
  intro p
  have control := control_run_of_new made accesses
  cases enabled : config.enabled with
  | true =>
    have follows := follows_run_of_new made enabled accesses
    constructor
    · rw [readControl_eq, control]
      intro printer attached
      exact follows.autofeed_of_attached attached
    · rw [readStatus_snd, follows.any_unacknowledged rfl, Bool.true_and]
  | false =>
    have vacant := (vacant_of_new made enabled).run accesses
    constructor
    · rw [readControl_eq, control]
      intro printer attached
      rw [vacant.printer] at attached
      cases attached
    · rw [readStatus_snd, vacant.printer]
      rfl

/-- Two bytes have come, of which the driver asked for the first; the second comes with a reset. -/
theorem handshake_letter :
    let host : Host := { launch := fun _ _ => .error "no programs", date := "2024-02-29 12:30:00" }
    let port : ParallelInterface :=
      { config := .letter, host := host, folder := {}, control := initLine }
    let accesses : List Access :=
      [.send 0 [0x41], .writeControl 1 0x03, .writeData 0x42, .writeControl 2 0x06]
    ParallelInterface.new .letter host {} = .ok port ∧
      (port.run accesses).readControl = 0xE6 ∧ (port.run accesses).readStatus.2 = 0x9F := by
  intro host port accesses
  have made : ParallelInterface.new .letter host {} = .ok port := rfl
  obtain ⟨control, status⟩ := handshake made accesses
  have waits : Printer.awaiting (({} : Lines).history accesses) = true := by decide
  rw [waits] at status
  have stored : accesses.foldl Lines.next {} = ⟨0x42, 0x06⟩ := by decide
  rw [stored] at control
  exact ⟨made, control, status⟩

end ParallelInterface

end PinPrinter
