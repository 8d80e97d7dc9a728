import Mathlib.Data.List.Induction
import PinPrinter.Proofs.Printer.Events

/-! # When the timer ejects the sheet

The deadline of the timer tells about the past of the printer: it stands a timeout after the latest
byte, unless something has happened since that starts a sheet from outside of the byte stream. A
byte that starts a sheet itself stops the timer too, but sets it again once it has been taken.
-/

namespace PinPrinter

namespace EjectTimer

variable {t : EjectTimer} {now : Nat}

/-- The deadline has come. -/
def Due (t : EjectTimer) (now : Nat) : Prop :=
  ∃ deadline, t.deadline = some deadline ∧ deadline ≤ now

theorem expire_of_due (due : t.Due now) : t.expire now = (t.disarm, true) := by
  obtain ⟨deadline, waiting, reached⟩ := due
  simp only [expire, waiting, if_pos reached]

theorem expire_of_not_due (early : ¬ t.Due now) : t.expire now = (t, false) := by
  unfold expire
  cases waiting : t.deadline with
  | none => rfl
  | some deadline => exact if_neg fun reached => early ⟨deadline, waiting, reached⟩

theorem timeout_arm (t : EjectTimer) (now : Nat) : (t.arm now).timeout = t.timeout := by
  unfold arm
  split <;> rfl

theorem arm_of_unset (unset : t.timeout = none) (now : Nat) : t.arm now = t := by
  obtain ⟨timeout, deadline, idle⟩ := t
  cases unset
  rfl

theorem deadline_arm {timeout : Nat} (set : t.timeout = some timeout) (now : Nat) :
    (t.arm now).deadline = some (now + timeout) := by
  obtain ⟨_, deadline, idle⟩ := t
  cases set
  rfl

end EjectTimer

namespace Printer

variable {p : Printer} {now : Nat}

/-! ## A poll -/

theorem poll_of_due (due : p.timer.Due now) : p.poll now = (p.formFeed, true) := by
  simp only [poll, EjectTimer.expire_of_due due]
  rfl

theorem poll_of_not_due (early : ¬ p.timer.Due now) : p.poll now = (p, false) := by
  simp only [poll, EjectTimer.expire_of_not_due early]

theorem poll_eq_true_iff (p : Printer) (now : Nat) : (p.poll now).2 = true ↔ p.timer.Due now := by
  by_cases due : p.timer.Due now
  · rw [poll_of_due due]
    exact iff_of_true rfl due
  · rw [poll_of_not_due due]
    exact iff_of_false nofun due

/-! ## One event -/

/-- An event neither sets the timer nor stops it. -/
def Leaves (p : Printer) : Event → Prop
  | .byte _ _ | .formFeed | .reset | .resetHard => False
  | .poll now => (p.poll now).2 = false
  | .finish | .autofeed _ | .acknowledge => True

instance (p : Printer) (event : Event) : Decidable (p.Leaves event) := by
  cases event <;> unfold Leaves <;> infer_instance

theorem timeout_step (p : Printer) (event : Event) :
    (p.step event).timer.timeout = p.timer.timeout := by
  cases event with
  | byte now byte =>
    obtain ⟨i, paper, stepped⟩ := exists_step_byte p now byte
    rw [stepped]
    exact p.timer.timeout_arm now
  | poll now =>
    change (p.poll now).1.timer.timeout = _
    by_cases due : p.timer.Due now
    · rw [poll_of_due due]
      rfl
    · rw [poll_of_not_due due]
  | _ => rfl

theorem timeout_run (p : Printer) (events : List Event) :
    (p.run events).timer.timeout = p.timer.timeout := by
  induction events generalizing p with
  | nil => rfl
  | cons event rest ih => exact (ih _).trans (timeout_step p event)

theorem timer_step_of_leaves {event : Event} (leaves : p.Leaves event) :
    (p.step event).timer = p.timer := by
  cases event with
  | byte arrival byte => exact leaves.elim
  | formFeed => exact leaves.elim
  | reset => exact leaves.elim
  | resetHard => exact leaves.elim
  | poll now =>
    have early : ¬ p.timer.Due now := by
      rw [← poll_eq_true_iff, Bool.not_eq_true]
      exact leaves
    change (p.poll now).1.timer = p.timer
    rw [poll_of_not_due early]
  | finish => rfl
  | autofeed on => rfl
  | acknowledge => rfl

/-- What does not leave the timer alone stops it, if it is not a byte. -/
theorem deadline_step_of_stops {event : Event} (stops : ¬ p.Leaves event)
    (notByte : ∀ arrival byte, event ≠ .byte arrival byte) :
    (p.step event).timer.deadline = none := by
  cases event with
  | byte arrival byte => exact absurd rfl (notByte arrival byte)
  | formFeed => rfl
  | reset => rfl
  | resetHard => rfl
  | poll now =>
    have due : p.timer.Due now := by
      rw [← poll_eq_true_iff, ← Bool.not_eq_false]
      exact stops
    change (p.poll now).1.timer.deadline = none
    rw [poll_of_due due]
    rfl
  | finish => exact absurd trivial stops
  | autofeed on => exact absurd trivial stops
  | acknowledge => exact absurd trivial stops

/-- After an event the timer waits where the event is a byte, or where it leaves alone a timer that
was waiting. -/
theorem deadline_step (p : Printer) (event : Event) (deadline : Nat) :
    (p.step event).timer.deadline = some deadline ↔
      (∃ arrival byte, event = .byte arrival byte ∧
        (p.timer.arm arrival).deadline = some deadline) ∨
      (p.timer.deadline = some deadline ∧ p.Leaves event) := by
  by_cases taken : ∃ arrival byte, event = .byte arrival byte
  · obtain ⟨arrival, byte, rfl⟩ := taken
    obtain ⟨i, paper, stepped⟩ := exists_step_byte p arrival byte
    rw [stepped]
    constructor
    · exact fun armed => .inl ⟨arrival, byte, rfl, armed⟩
    · rintro (⟨_, _, ⟨⟩, armed⟩ | ⟨-, leaves⟩)
      · exact armed
      · exact leaves.elim
  · have notByte (arrival : Nat) (byte : UInt8) : event ≠ .byte arrival byte :=
      fun same => taken ⟨arrival, byte, same⟩
    by_cases leaves : p.Leaves event
    · rw [timer_step_of_leaves leaves]
      constructor
      · exact fun waiting => .inr ⟨waiting, leaves⟩
      · rintro (⟨arrival, byte, same, -⟩ | ⟨waiting, -⟩)
        · exact absurd same (notByte arrival byte)
        · exact waiting
    · rw [deadline_step_of_stops leaves notByte]
      apply iff_of_false nofun
      rintro (⟨arrival, byte, same, -⟩ | ⟨-, left⟩)
      · exact notByte arrival byte same
      · exact leaves left

/-! ## Runs -/

/-- No event of a run sets the timer or stops it. -/
def Quiet (p : Printer) : List Event → Prop
  | [] => True
  | event :: rest => p.Leaves event ∧ (p.step event).Quiet rest

instance decidableQuiet (p : Printer) : (events : List Event) → Decidable (p.Quiet events)
  | [] => inferInstanceAs (Decidable True)
  | event :: rest =>
    have := decidableQuiet (p.step event) rest
    inferInstanceAs (Decidable (_ ∧ _))

/-- The latest byte of a run came at a time, and nothing has stopped the timer since. -/
def Awaits (p : Printer) (arrival : Nat) (events : List Event) : Prop :=
  ∃ before byte after, events = before ++ .byte arrival byte :: after ∧
    (p.run (before ++ [.byte arrival byte])).Quiet after

theorem quiet_concat (p : Printer) (events : List Event) (event : Event) :
    p.Quiet (events ++ [event]) ↔ p.Quiet events ∧ (p.run events).Leaves event := by
  induction events generalizing p with
  | nil => exact ⟨fun quiet => ⟨trivial, quiet.1⟩, fun quiet => ⟨quiet.2, trivial⟩⟩
  | cons first rest ih =>
    change p.Leaves first ∧ (p.step first).Quiet (rest ++ [event]) ↔ _
    rw [ih, ← and_assoc]
    rfl

/-- A last event is the byte that is waited from, or it leaves the timer alone. -/
theorem awaits_concat (p : Printer) (arrival : Nat) (events : List Event) (event : Event) :
    p.Awaits arrival (events ++ [event]) ↔
      (∃ byte, event = .byte arrival byte) ∨
        (p.Awaits arrival events ∧ (p.run events).Leaves event) := by
  constructor
  · rintro ⟨before, byte, after, split, quiet⟩
    rcases List.eq_nil_or_concat after with rfl | ⟨after, last, rfl⟩
    · obtain ⟨-, same⟩ := List.append_inj' split rfl
      exact .inl ⟨byte, List.head_eq_of_cons_eq same⟩
    · rw [List.concat_eq_append] at split quiet
      rw [← List.cons_append, ← List.append_assoc] at split
      obtain ⟨rfl, same⟩ := List.append_inj' split rfl
      obtain rfl := List.head_eq_of_cons_eq same
      obtain ⟨earlier, leaves⟩ := (quiet_concat ..).mp quiet
      rw [← run_append, ← List.append_cons] at leaves
      exact .inr ⟨⟨before, byte, after, rfl, earlier⟩, leaves⟩
  · rintro (⟨byte, rfl⟩ | ⟨⟨before, byte, after, rfl, quiet⟩, leaves⟩)
    · exact ⟨events, byte, [], rfl, trivial⟩
    · rw [List.append_cons, run_append] at leaves
      refine ⟨before, byte, after ++ [event], by simp, ?_⟩
      exact (quiet_concat ..).mpr ⟨quiet, leaves⟩

/-- The timer waits where some byte is waited from, and then until a timeout after it. -/
theorem deadline_run {timeout : Nat} (set : p.timer.timeout = some timeout)
    (resting : p.timer.deadline = none) (events : List Event) (deadline : Nat) :
    (p.run events).timer.deadline = some deadline ↔
      ∃ arrival, p.Awaits arrival events ∧ deadline = arrival + timeout := by
  induction events using List.reverseRecOn generalizing deadline with
  | nil =>
    change p.timer.deadline = some deadline ↔ _
    rw [resting]
    apply iff_of_false nofun
    rintro ⟨arrival, ⟨before, byte, after, split, -⟩, -⟩
    simp at split
  | append_singleton events event ih =>
    have current := (timeout_run p events).trans set
    rw [run_append]
    refine (deadline_step (p.run events) event deadline).trans ?_
    rw [ih]
    simp only [awaits_concat, EjectTimer.deadline_arm current, Option.some.injEq]
    constructor
    · rintro (⟨arrival, byte, rfl, rfl⟩ | ⟨⟨arrival, awaits, rfl⟩, leaves⟩)
      · exact ⟨arrival, .inl ⟨byte, rfl⟩, rfl⟩
      · exact ⟨arrival, .inr ⟨awaits, leaves⟩, rfl⟩
    · rintro ⟨arrival, ⟨byte, rfl⟩ | ⟨awaits, leaves⟩, rfl⟩
      · exact .inl ⟨arrival, byte, rfl, rfl⟩
      · exact .inr ⟨⟨arrival, awaits, rfl⟩, leaves⟩

/-- Without a timeout nothing is waited for. -/
theorem deadline_run_of_unset (unset : p.timer.timeout = none)
    (resting : p.timer.deadline = none) (events : List Event) :
    (p.run events).timer.deadline = none := by
  induction events generalizing p with
  | nil => exact resting
  | cons event rest ih =>
    apply ih ((timeout_step p event).trans unset)
    rw [Option.eq_none_iff_forall_ne_some]
    intro deadline waits
    rcases (deadline_step p event deadline).mp waits with ⟨arrival, byte, -, armed⟩ | ⟨waiting, -⟩
    · rw [EjectTimer.arm_of_unset unset, resting] at armed
      cases armed
    · rw [resting] at waiting
      cases waiting

/-! ## A printer that was switched on -/

theorem timer_powerOn (config : Config) (host : Host) (folder : Folder) :
    (powerOn config host folder).timer.timeout =
        (if config.timeout.toNat = 0 then none else some config.timeout.toNat) ∧
      (powerOn config host folder).timer.deadline = none := by
  refine ⟨?_, rfl⟩
  change config.timeout?.filter (0 < ·) = _
  unfold Config.timeout?
  by_cases zero : config.timeout = 0
  · rw [if_pos zero, zero]
    rfl
  · have positive : config.timeout.toNat ≠ 0 := fun same => zero (UInt64.toNat.inj same)
    rw [if_neg zero, if_neg positive]
    simp [Nat.pos_of_ne_zero positive]

/-- A printer ejects its sheet, when it is polled, exactly if it has a timeout and that has passed
since the latest byte, and nothing stopped the timer in between: no form feed or reset from outside
of the byte stream, and no poll that ejected the sheet. A poll that ejects it is a form feed, and
any other changes nothing. -/
theorem poll_run {config : Config} {host : Host} {folder : Folder} {start : Printer}
    (started : Printer.new config host folder = .ok start) (events : List Event) (now : Nat) :
    let p := start.run events
    let timeout := config.timeout.toNat
    ((p.poll now).2 = true ↔
      0 < timeout ∧ ∃ arrival, start.Awaits arrival events ∧ arrival + timeout ≤ now) ∧
    ((p.poll now).2 = true → (p.poll now).1 = p.formFeed) ∧
    ((p.poll now).2 = false → (p.poll now).1 = p) := by
  intro p timeout
  obtain rfl := eq_powerOn_of_new started
  constructor
  · rw [poll_eq_true_iff]
    obtain ⟨timer, rests⟩ := timer_powerOn config host folder
    by_cases zero : timeout = 0
    · rw [if_pos zero] at timer
      have resting : p.timer.deadline = none :=
        deadline_run_of_unset timer rests events
      apply iff_of_false
      · rintro ⟨deadline, waiting, -⟩
        rw [resting] at waiting
        cases waiting
      · exact fun both => absurd zero (Nat.ne_of_gt both.1)
    · rw [if_neg zero] at timer
      have waits : ∀ deadline, p.timer.deadline = some deadline ↔ _ :=
        deadline_run timer rests events
      rw [EjectTimer.Due]
      constructor
      · rintro ⟨deadline, waiting, reached⟩
        obtain ⟨arrival, awaits, rfl⟩ := (waits deadline).mp waiting
        exact ⟨Nat.pos_of_ne_zero zero, arrival, awaits, reached⟩
      · rintro ⟨-, arrival, awaits, reached⟩
        exact ⟨_, (waits _).mpr ⟨arrival, awaits, rfl⟩, reached⟩
  · by_cases due : p.timer.Due now
    · rw [poll_of_due due]
      exact ⟨fun _ => rfl, nofun⟩
    · rw [poll_of_not_due due]
      exact ⟨nofun, fun _ => rfl⟩

/-- The wait goes on from the form feed byte, which has ejected the sheet itself, over a poll that
is too early. It ends with the poll that ejects the sheet. -/
theorem poll_run_letter :
    let config : Config := { Config.letter with timeout := 500 }
    let host : Host := { launch := fun _ _ => .error "no programs", date := "2024-02-29 12:30:00" }
    let start := powerOn config host {}
    let events : List Event := [.byte 0 0x41, .byte 100 0x0C, .poll 599, .acknowledge]
    let p := start.run events
    Printer.new config host {} = .ok start ∧
      p.poll 600 = (p.formFeed, true) ∧ ((p.step (.poll 600)).poll 5000).2 = false := by
  intro config host start events p
  have started : Printer.new config host {} = .ok start := rfl
  obtain ⟨goesOff, ejects, -⟩ := poll_run started events 600
  have quiet : (start.run [.byte 0 0x41, .byte 100 0x0C]).Quiet [.poll 599, .acknowledge] := by
    decide +kernel
  have due : (p.poll 600).2 = true :=
    goesOff.mpr ⟨by decide, 100, ⟨[.byte 0 0x41], 0x0C, [.poll 599, .acknowledge], rfl, quiet⟩,
      by decide⟩
  refine ⟨started, Prod.ext (ejects due) due, ?_⟩
  have stopped : (p.step (.poll 600)).timer.deadline = none := by
    change (p.poll 600).1.timer.deadline = none
    rw [ejects due]
    rfl
  rw [← Bool.not_eq_true, poll_eq_true_iff]
  rintro ⟨deadline, waiting, -⟩
  rw [stopped] at waiting
  cases waiting

end Printer

end PinPrinter
