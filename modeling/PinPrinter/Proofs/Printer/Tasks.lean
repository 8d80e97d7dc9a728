import PinPrinter.Proofs.Outbox.Jobs
import PinPrinter.Proofs.Printer.Emission

/-! # What the outbox is asked for

Of the deeds of a run the outbox sees those that hand a sheet over and those that finish what is
open. It goes through these as through tasks, and the result of each hand-over is its answer. So
what became of the pages of a run is told by an outbox alone.
-/

namespace PinPrinter

open Outbox (Task)

namespace Deed

/-- The sheet that a deed hands over. -/
def sheet? : Deed → Option Sheet
  | handOver sheet _ => some sheet
  | print _ | clear _ | discard _ | finish => none

/-- What the outbox answers to a deed. -/
def answer? : Deed → Option (Except Error Artifact)
  | handOver _ result => some result
  | print _ | clear _ | discard _ | finish => none

/-- What a deed asks of the outbox. -/
def task? : Deed → Option Task
  | handOver sheet _ => some (.page sheet)
  | finish => some .finish
  | print _ | clear _ | discard _ => none

theorem filterMap_artifact? (log : List Deed) :
    log.filterMap artifact? = (log.filterMap answer?).filterMap Except.toOption := by
  rw [List.filterMap_filterMap]
  congr
  funext deed
  rcases deed with sheet | ⟨sheet, e | artifact⟩ | sheet | sheet | _ <;> rfl

/-- Where nothing is finished, the tasks are the pages. -/
theorem filterMap_task? {log : List Deed} (unfinished : .finish ∉ log) :
    log.filterMap task? = (log.filterMap sheet?).map .page := by
  rw [List.map_filterMap]
  apply List.filterMap_congr
  intro deed member
  cases deed with
  | finish => exact absurd member unfinished
  | print sheet => rfl
  | handOver sheet result => rfl
  | clear sheet => rfl
  | discard sheet => rfl

end Deed

open Deed

theorem Outbox.answers_append (o : Outbox) (first second : List Task) :
    o.answers (first ++ second) = o.answers first ++ (o.run first).answers second := by
  induction first generalizing o with
  | nil => rfl
  | cons task rest ih =>
    cases task with
    | page s => exact congrArg ((o.deliver s).2 :: ·) (ih _)
    | finish => exact ih _

namespace Paper

variable {p q : Paper} {deed : Deed} {deeds : List Deed}

theorem Does.tasks (does : Does p deed q) :
    q.outbox = p.outbox.run deed.task?.toList ∧
      deed.answer?.toList = p.outbox.answers deed.task?.toList := by
  cases does with
  | print printed => exact ⟨printed.outbox, rfl⟩
  | handOver => exact ⟨outbox_handOver p, rfl⟩
  | clear pen => exact ⟨rfl, rfl⟩
  | discard pen => exact ⟨rfl, rfl⟩
  | finish => exact ⟨rfl, rfl⟩

/-- The outbox of a record has gone through its tasks, and gave the results of the hand-overs. -/
theorem Record.tasks (record : Record p deeds q) :
    q.outbox = p.outbox.run (deeds.filterMap task?) ∧
      deeds.filterMap answer? = p.outbox.answers (deeds.filterMap task?) := by
  induction record with
  | nil p => exact ⟨rfl, rfl⟩
  | @cons p q r deed rest first _ ih =>
    obtain ⟨outbox, answer⟩ := first.tasks
    have tasks : (deed :: rest).filterMap task? = deed.task?.toList ++ rest.filterMap task? := by
      cases asked : deed.task? <;> simp [asked]
    have answers : (deed :: rest).filterMap answer? =
        deed.answer?.toList ++ rest.filterMap answer? := by
      cases answered : deed.answer? <;> simp [answered]
    rw [tasks, answers, Outbox.run_append, Outbox.answers_append, ← outbox, ← answer]
    exact ⟨ih.1, congrArg (deed.answer?.toList ++ ·) ih.2⟩

theorem finish_not_mem_turnDeeds (p : Paper) : .finish ∉ p.turnDeeds := by
  unfold turnDeeds
  split <;> simp

theorem finish_not_mem_actDeeds (p : Paper) (r : Registers) (density : Option BitImage.Density)
    (autofeed : Bool) (action : Action) : .finish ∉ p.actDeeds r density autofeed action := by
  unfold actDeeds
  split
  · simp
  · rcases p.course r density autofeed action with pen | x
    · simp [followDeeds]
    · simp [followDeeds, finish_not_mem_turnDeeds]

end Paper

namespace Printer

/-- The sheets that are handed over in a run, in order. -/
def pages (p : Printer) (events : List Event) : List Sheet :=
  (p.log events).filterMap sheet?

/-- What the host sends, and not the panel or the clock. -/
def Event.isSent : Event → Bool
  | .byte _ _ | .autofeed _ | .acknowledge => true
  | .formFeed | .reset | .resetHard | .poll _ | .finish => false

theorem log_append (p : Printer) (first second : List Event) :
    p.log (first ++ second) = p.log first ++ (p.run first).log second := by
  induction first generalizing p with
  | nil => rfl
  | cons event rest ih =>
    change p.deeds event ++ (p.step event).log (rest ++ second) = _
    rw [ih, ← List.append_assoc]
    rfl

/-- The host never finishes anything. -/
theorem finish_not_mem_deeds {event : Event} (sent : event.isSent = true) (p : Printer) :
    .finish ∉ p.deeds event := by
  cases event with
  | byte now byte =>
    unfold deeds
    dsimp only
    rcases p.interpreter.receive p.autofeed byte with ⟨next, _ | action⟩
    · exact List.not_mem_nil
    · exact p.paper.finish_not_mem_actDeeds _ _ _ _
  | autofeed on => exact List.not_mem_nil
  | acknowledge => exact List.not_mem_nil
  | formFeed => cases sent
  | reset => cases sent
  | resetHard => cases sent
  | poll now => cases sent
  | finish => cases sent

theorem finish_not_mem_log {events : List Event} (sent : ∀ event ∈ events, event.isSent = true)
    (p : Printer) : .finish ∉ p.log events := by
  induction events generalizing p with
  | nil => exact List.not_mem_nil
  | cons event rest ih =>
    obtain ⟨first, others⟩ := List.forall_mem_cons.mp sent
    change .finish ∉ p.deeds event ++ (p.step event).log rest
    rw [List.mem_append, not_or]
    exact ⟨finish_not_mem_deeds first p, ih others _⟩

/-- Where the host sends and the sheet is ejected at last, the outbox is asked for the pages, and
then to finish them. -/
theorem tasks_log_eject {events : List Event} (sent : ∀ event ∈ events, event.isSent = true)
    (p : Printer) :
    (p.log (events ++ [.formFeed])).filterMap task? =
      (p.pages (events ++ [.formFeed])).map .page ++ [.finish] := by
  let q := p.run events
  have log : p.log (events ++ [.formFeed]) =
      (p.log events ++ q.paper.turnDeeds) ++ [.finish] := by
    have eject : q.log [.formFeed] = q.paper.turnDeeds ++ [.finish] := List.append_nil _
    rw [log_append, eject, List.append_assoc]
  have unfinished : .finish ∉ p.log events ++ q.paper.turnDeeds := by
    rw [List.mem_append, not_or]
    exact ⟨finish_not_mem_log sent p, q.paper.finish_not_mem_turnDeeds⟩
  have pages : p.pages (events ++ [.formFeed]) =
      (p.log events ++ q.paper.turnDeeds).filterMap sheet? := by
    rw [Printer.pages, log, List.filterMap_append]
    exact List.append_nil _
  rw [pages, ← filterMap_task? unfinished, log, List.filterMap_append]
  rfl

/-- A printer that is switched on, and then driven so, has the outbox and the artifacts that its
pages make on their own. -/
theorem outbox_run_eject {events : List Event} (sent : ∀ event ∈ events, event.isSent = true)
    (config : Config) (host : Host) (folder : Folder) :
    let o := Outbox.fresh config host folder
    let p := powerOn config host folder
    let q := p.run (events ++ [.formFeed])
    let tasks := (p.pages (events ++ [.formFeed])).map Task.page
    q.paper.outbox = o.run (tasks ++ [.finish]) ∧
      q.paper.artifacts.toList = (o.answers tasks).filterMap Except.toOption := by
  intro o p q tasks
  have record := record_run p (events ++ [.formFeed])
  obtain ⟨outbox, answers⟩ := record.tasks
  have asked : (p.log (events ++ [.formFeed])).filterMap task? = tasks ++ [.finish] :=
    tasks_log_eject sent p
  rw [asked] at outbox answers
  refine ⟨outbox, ?_⟩
  have before : p.paper.artifacts.toList = [] := rfl
  rw [record.artifacts, before, List.nil_append, filterMap_artifact?, answers,
    Outbox.answers_append]
  exact congrArg (List.filterMap Except.toOption) (List.append_nil _)

end Printer

end PinPrinter
