import PinPrinter.Proofs.Printer.Alike
import PinPrinter.Proofs.Printer.Deeds

/-! # Every page is sent off once

The deeds of a run are in order: only a sheet with something on it is handed to the outbox, it makes
room for a blank one at once, and no sheet with something on it makes room otherwise, unless a reset
takes it out. Each event hands over one sheet at most, so a page is neither lost nor sent off twice,
and a second form feed finds nothing to do.
-/

namespace PinPrinter

namespace Deed

/-- Deeds by which every page is handed over once, just before it makes room. -/
structure Orderly (log : List Deed) : Prop where
  inked : ∀ sheet result, .handOver sheet result ∈ log → sheet.isBlank = false
  cleared : ∀ front sheet result back, log = front ++ .handOver sheet result :: back →
    ∃ later, back = .clear sheet :: later
  handedOver : ∀ front sheet back, log = front ++ .clear sheet :: back → sheet.isBlank = false →
    ∃ earlier result, front = earlier ++ [.handOver sheet result]

/-- A deed of two logs, one after the other, is one of the first log or one of the second. -/
private theorem split_append {first second front back : List Deed} {deed : Deed}
    (split : first ++ second = front ++ deed :: back) :
    (∃ rest, first = front ++ deed :: rest ∧ back = rest ++ second) ∨
      ∃ before, second = before ++ deed :: back ∧ front = first ++ before := by
  rcases List.append_eq_append_iff.mp split with ⟨before, front_, second_⟩ | ⟨rest, first_, behind⟩
  · exact .inr ⟨before, second_, front_⟩
  · cases rest with
    | nil => exact .inr ⟨[], behind.symm, by simpa using first_.symm⟩
    | cons _ rest =>
      obtain ⟨rfl, rfl⟩ := List.cons.inj behind
      exact .inl ⟨rest, first_, rfl⟩

private theorem split_single {front back : List Deed} {deed other : Deed}
    (split : [deed] = front ++ other :: back) : front = [] ∧ other = deed ∧ back = [] := by
  cases front with
  | nil =>
    obtain ⟨rfl, rfl⟩ := List.cons.inj split
    exact ⟨rfl, rfl, rfl⟩
  | cons _ rest =>
    have empty := (List.cons.inj split).2
    simp at empty

variable {log more : List Deed}

theorem Orderly.append (first : Orderly log) (second : Orderly more) : Orderly (log ++ more) where
  inked sheet result member := by
    rcases List.mem_append.mp member with inFirst | inSecond
    · exact first.inked sheet result inFirst
    · exact second.inked sheet result inSecond
  cleared front sheet result back split := by
    rcases split_append split with ⟨rest, inFirst, rfl⟩ | ⟨before, inSecond, -⟩
    · obtain ⟨later, rfl⟩ := first.cleared front sheet result rest inFirst
      exact ⟨later ++ more, rfl⟩
    · exact second.cleared before sheet result back inSecond
  handedOver front sheet back split marked := by
    rcases split_append split with ⟨rest, inFirst, -⟩ | ⟨before, inSecond, rfl⟩
    · exact first.handedOver front sheet rest inFirst marked
    · obtain ⟨earlier, result, rfl⟩ := second.handedOver before sheet back inSecond marked
      exact ⟨log ++ earlier, result, (List.append_assoc ..).symm⟩

theorem orderly_nil : Orderly [] where
  inked sheet result member := absurd member List.not_mem_nil
  cleared front sheet result back split := by simp at split
  handedOver front sheet back split := by simp at split

/-- A deed that neither hands a sheet over nor clears one with something on it. -/
theorem orderly_single {deed : Deed} (keeps : deed.isHandOver = false)
    (blank : ∀ sheet, deed = .clear sheet → sheet.isBlank = true) : Orderly [deed] where
  inked sheet result member := by
    obtain rfl := List.mem_singleton.mp member
    cases keeps
  cleared front sheet result back split := by
    obtain ⟨-, rfl, -⟩ := split_single split
    cases keeps
  handedOver front sheet back split marked := by
    obtain ⟨-, same, -⟩ := split_single split
    rw [blank sheet same.symm] at marked
    cases marked

/-- A sheet with something on it is handed over and makes room. -/
theorem orderly_handOver {sheet : Sheet} (marked : sheet.isBlank = false)
    (result : Except Error Artifact) : Orderly [.handOver sheet result, .clear sheet] where
  inked other _ member := by
    simp only [List.mem_cons, List.not_mem_nil, or_false, reduceCtorEq, handOver.injEq] at member
    exact member.1 ▸ marked
  cleared front other _ back split := by
    cases front with
    | nil =>
      obtain ⟨same, rfl⟩ := List.cons.inj split
      obtain ⟨rfl, -⟩ := handOver.inj same
      exact ⟨[], rfl⟩
    | cons _ rest =>
      obtain ⟨-, same, -⟩ := split_single (List.cons.inj split).2
      cases same
  handedOver front other back split _ := by
    cases front with
    | nil => cases (List.cons.inj split).1
    | cons _ rest =>
      obtain ⟨same, behind⟩ := List.cons.inj split
      obtain ⟨rfl, equal, -⟩ := split_single behind
      obtain rfl := clear.inj equal
      exact ⟨[], result, by rw [← same]; rfl⟩

end Deed

open Deed

/-! ## Papers -/

namespace Paper

variable {p q : Paper} {deeds : List Deed}

theorem orderly_turnDeeds (p : Paper) : Orderly p.turnDeeds := by
  unfold turnDeeds
  cases blank : p.sheet.isBlank with
  | true =>
    apply orderly_single rfl
    intro sheet same
    obtain rfl := clear.inj same
    exact blank
  | false => exact orderly_handOver blank _

theorem orderly_finish : Orderly [.finish] :=
  orderly_single rfl nofun

theorem orderly_actDeeds (p : Paper) (r : Registers) (density : Option BitImage.Density)
    (autofeed : Bool) (action : Action) : Orderly (p.actDeeds r density autofeed action) := by
  unfold actDeeds
  split
  · exact orderly_single rfl nofun
  · have printed : Orderly [.print (p.press r density action).sheet] := orderly_single rfl nofun
    apply printed.append
    rcases p.course r density autofeed action with pen | x
    · exact orderly_nil
    · exact orderly_turnDeeds _

theorem orderly_ejectDeeds (p : Paper) : Orderly p.ejectDeeds :=
  (orderly_turnDeeds p).append orderly_finish

/-! ## How many sheets are handed over -/

theorem countP_turnDeeds (p : Paper) :
    p.turnDeeds.countP isHandOver = if p.sheet.isBlank then 0 else 1 := by
  unfold turnDeeds
  split <;> rfl

theorem countP_turnDeeds_le (p : Paper) : p.turnDeeds.countP isHandOver ≤ 1 := by
  rw [countP_turnDeeds]
  split <;> decide

theorem countP_actDeeds_le (p : Paper) (r : Registers) (density : Option BitImage.Density)
    (autofeed : Bool) (action : Action) :
    (p.actDeeds r density autofeed action).countP isHandOver ≤ 1 := by
  unfold actDeeds
  split
  · exact Nat.zero_le 1
  · dsimp only
    rw [List.countP_cons_of_neg (by exact Bool.false_ne_true)]
    rcases p.course r density autofeed action with pen | x
    · exact Nat.zero_le 1
    · exact countP_turnDeeds_le _

theorem countP_ejectDeeds (p : Paper) :
    p.ejectDeeds.countP isHandOver = if p.sheet.isBlank then 0 else 1 := by
  rw [ejectDeeds, List.countP_append, countP_turnDeeds]
  rfl

/-! ## Resets -/

theorem discard_not_mem_turnDeeds (p : Paper) (sheet : Sheet) : .discard sheet ∉ p.turnDeeds := by
  unfold turnDeeds
  split <;> simp

theorem discard_not_mem_ejectDeeds (p : Paper) (sheet : Sheet) :
    .discard sheet ∉ p.ejectDeeds := by
  simp [ejectDeeds, discard_not_mem_turnDeeds]

theorem exists_discard_mem_actDeeds_iff (p : Paper) (r : Registers)
    (density : Option BitImage.Density) (autofeed : Bool) (action : Action) :
    (∃ sheet, .discard sheet ∈ p.actDeeds r density autofeed action) ↔
      action.restarts = true := by
  unfold actDeeds
  cases restarts : action.restarts with
  | true => simp
  | false =>
    rw [if_neg Bool.false_ne_true]
    rcases p.course r density autofeed action with pen | x
    · simp [followDeeds]
    · simp [followDeeds, discard_not_mem_turnDeeds]

/-! ## Records -/

theorem outbox_handOver (p : Paper) : p.handOver.outbox = (p.outbox.deliver p.sheet).1 := by
  unfold handOver
  rcases p.outbox.deliver p.sheet with ⟨outbox, e | artifact⟩
  · rfl
  · rfl

theorem artifacts_handOver (p : Paper) :
    p.handOver.artifacts.toList =
      p.artifacts.toList ++
        (artifact? (.handOver p.sheet (p.outbox.deliver p.sheet).2)).toList := by
  unfold handOver
  rcases p.outbox.deliver p.sheet with ⟨outbox, e | artifact⟩
  · exact (List.append_nil _).symm
  · exact Array.toList_push

theorem Does.artifacts {deed : Deed} (does : Does p deed q) :
    q.artifacts.toList = p.artifacts.toList ++ deed.artifact?.toList := by
  cases does with
  | print printed =>
    rw [printed.artifacts]
    exact (List.append_nil _).symm
  | handOver => exact artifacts_handOver p
  | clear pen => exact (List.append_nil _).symm
  | discard pen => exact (List.append_nil _).symm
  | finish => exact (List.append_nil _).symm

theorem Does.proper {deed : Deed} (does : Does p deed q) (proper : p.outbox.Proper) :
    q.outbox.Proper := by
  cases does with
  | print printed => rwa [printed.outbox]
  | handOver =>
    rw [outbox_handOver]
    exact proper.deliver p.sheet
  | clear pen => exact proper
  | discard pen => exact proper
  | finish => exact proper.finish

/-- The artifacts grow at their end, by one for every sheet that was handed over with success. -/
theorem Record.artifacts (record : Record p deeds q) :
    q.artifacts.toList = p.artifacts.toList ++ deeds.filterMap artifact? := by
  induction record with
  | nil p => exact (List.append_nil _).symm
  | @cons p q r deed rest first _ ih =>
    rw [ih, first.artifacts, List.append_assoc, List.filterMap_cons]
    cases deed.artifact? with
    | none => rfl
    | some artifact => rfl

theorem Record.proper (record : Record p deeds q) (proper : p.outbox.Proper) :
    q.outbox.Proper := by
  induction record with
  | nil p => exact proper
  | cons first _ ih => exact ih (first.proper proper)

/-! ## Twice in a row -/

/-- Where the sheet is blank, the pen in its place and nothing open, an eject changes nothing. -/
theorem turn_finish_turn_finish (proper : p.outbox.Proper) (r : Registers) (x : Float) :
    ((p.turn r x).finish.turn r x).finish = (p.turn r x).finish := by
  have later := (record_turn p r x).proper proper
  have blank : (p.turn r x).sheet.isBlank = true := by
    rw [sheet_turn, Sheet.isBlank_clear]
  have unmoved : (p.turn r x).finish.turn r x = (p.turn r x).finish := by
    rw [turn, emit_eq_handOver, if_pos (show (p.turn r x).finish.sheet.isBlank = true from blank)]
    rfl
  rw [unmoved]
  change ({ p.turn r x with outbox := (p.turn r x).outbox.finish.1.finish.1 } : Paper) = _
  rw [later.finish_finish]
  rfl

end Paper

/-! ## Printers -/

namespace Printer

variable {p : Printer}

theorem orderly_deeds (p : Printer) (event : Event) : Orderly (p.deeds event) := by
  cases event with
  | byte now byte =>
    unfold deeds
    dsimp only
    rcases p.interpreter.receive p.autofeed byte with ⟨next, _ | action⟩
    · exact orderly_nil
    · exact Paper.orderly_actDeeds ..
  | poll now =>
    unfold deeds
    dsimp only
    split
    · exact Paper.orderly_ejectDeeds _
    · exact orderly_nil
  | formFeed => exact Paper.orderly_ejectDeeds _
  | reset => exact orderly_single rfl nofun
  | resetHard => exact orderly_single rfl nofun
  | finish => exact Paper.orderly_finish
  | autofeed on => exact orderly_nil
  | acknowledge => exact orderly_nil

theorem orderly_log (p : Printer) (events : List Event) : Orderly (p.log events) := by
  induction events generalizing p with
  | nil => exact orderly_nil
  | cons event rest ih => exact (orderly_deeds p event).append (ih _)

theorem countP_deeds_le (p : Printer) (event : Event) : (p.deeds event).countP isHandOver ≤ 1 := by
  have eject : p.paper.ejectDeeds.countP isHandOver ≤ 1 := by
    rw [Paper.countP_ejectDeeds]
    split <;> decide
  cases event with
  | byte now byte =>
    unfold deeds
    dsimp only
    rcases p.interpreter.receive p.autofeed byte with ⟨next, _ | action⟩
    · exact Nat.zero_le 1
    · exact Paper.countP_actDeeds_le ..
  | poll now =>
    unfold deeds
    dsimp only
    split
    · exact eject
    · exact Nat.zero_le 1
  | formFeed => exact eject
  | reset => exact Nat.zero_le 1
  | resetHard => exact Nat.zero_le 1
  | finish => exact Nat.zero_le 1
  | autofeed on => exact Nat.zero_le 1
  | acknowledge => exact Nat.zero_le 1

/-- An event resets the printer: from the panel, by the line of the host, or as the last byte of
`ESC @`. -/
def resets (p : Printer) : Event → Bool
  | .reset | .resetHard => true
  | .byte _ byte => (p.interpreter.receive p.autofeed byte).2.any Action.restarts
  | _ => false

theorem exists_discard_mem_deeds_iff (p : Printer) (event : Event) :
    (∃ sheet, .discard sheet ∈ p.deeds event) ↔ p.resets event = true := by
  cases event with
  | byte now byte =>
    unfold deeds resets
    dsimp only
    rcases p.interpreter.receive p.autofeed byte with ⟨next, _ | action⟩
    · simp
    · exact Paper.exists_discard_mem_actDeeds_iff ..
  | poll now =>
    unfold deeds resets
    dsimp only
    split <;> simp [Paper.discard_not_mem_ejectDeeds]
  | formFeed => simp [deeds, resets, Paper.discard_not_mem_ejectDeeds]
  | reset => simp [deeds, resets]
  | resetHard => simp [deeds, resets]
  | finish => simp [deeds, resets]
  | autofeed on => simp [deeds, resets]
  | acknowledge => simp [deeds, resets]

theorem resets_run_byte (p : Printer) (events : List Event) (now : Nat) (byte : UInt8) :
    (p.run events).resets (.byte now byte) =
      let (i, autofeed) := understand p.interpreter p.autofeed events
      (i.receive autofeed byte).2.any Action.restarts := by
  obtain ⟨interpreter, autofeed⟩ := understand_run p events
  rw [resets, interpreter, autofeed]

theorem Reachable.proper (reachable : p.Reachable) : p.paper.outbox.Proper := by
  obtain ⟨config, host, folder, start, events, started, rfl⟩ := (reachable_iff p).mp reachable
  obtain rfl := eq_powerOn_of_new started
  exact (record_run _ events).proper (Outbox.proper_of_isOpen rfl)

theorem formFeed_formFeed (proper : p.paper.outbox.Proper) : p.formFeed.formFeed = p.formFeed := by
  let left := p.registers.leftMargin
  have paper := Paper.turn_finish_turn_finish proper p.registers left
  have twice : p.formFeed.formFeed =
      { p with
        paper := ((p.paper.turn p.registers left).finish.turn p.registers left).finish
        timer := p.timer.disarm } := rfl
  rw [twice, paper]
  rfl

/-- The deeds of a run of a printer in use are in order and account for its paper, its outbox and
its artifacts. Each event hands over one sheet at most, sheets are discarded by resets only, and a
second form feed does nothing. -/
theorem emission_of_reachable (reachable : p.Reachable) (events : List Event) :
    let q := p.run events
    Paper.Record p.paper (p.log events) q.paper ∧ Orderly (p.log events) ∧
      q.paper.artifacts.toList =
        p.paper.artifacts.toList ++ (p.log events).filterMap artifact? ∧
      (∀ event, (q.deeds event).countP isHandOver ≤ 1 ∧
        ((∃ sheet, .discard sheet ∈ q.deeds event) ↔ q.resets event = true)) ∧
      q.formFeed.formFeed = q.formFeed ∧
        ∀ deed ∈ q.formFeed.deeds .formFeed, deed.isHandOver = false := by
  intro q
  have record := record_run p events
  refine ⟨record, orderly_log p events, record.artifacts, ?_, ?_, ?_⟩
  · intro event
    exact ⟨countP_deeds_le q event, exists_discard_mem_deeds_iff q event⟩
  · exact formFeed_formFeed (reachable.run events).proper
  · have blank : q.formFeed.paper.sheet.isBlank = true := by
      change (q.paper.turn q.registers q.registers.leftMargin).sheet.isBlank = true
      rw [Paper.sheet_turn, Sheet.isBlank_clear]
    have none : (q.formFeed.deeds .formFeed).countP isHandOver = 0 := by
      rw [deeds, Paper.countP_ejectDeeds, if_pos blank]
    intro deed member
    exact Bool.eq_false_iff.mpr (List.countP_eq_zero.mp none deed member)

/-- A printer that has ejected a page, and has printed on the next one, receives `ESC @`. -/
theorem emission_of_reachable_letter :
    let host : Host := { launch := fun _ _ => .error "no programs", date := "2024-02-29 12:30:00" }
    let p := powerOn .letter host {}
    let events : List Event := [.byte 0 0x41, .formFeed, .byte 1 0x42, .byte 1 0x1B]
    let q := p.run events
    p.Reachable ∧ q.resets (.byte 2 0x40) = true ∧
      (∃ sheet, .discard sheet ∈ q.deeds (.byte 2 0x40)) ∧ Orderly (p.log events) ∧
        q.formFeed.formFeed = q.formFeed := by
  intro host p events q
  have reachable : p.Reachable := .new (new_letter host {})
  have resets : q.resets (.byte 2 0x40) = true :=
    (resets_run_byte p events 2 0x40).trans (by decide +kernel)
  obtain ⟨-, orderly, -, each, twice, -⟩ := emission_of_reachable reachable events
  exact ⟨reachable, resets, (each (.byte 2 0x40)).2.mpr resets, orderly, twice⟩

end Printer

end PinPrinter
