import PinPrinter.Proofs.Barcode.Bars
import PinPrinter.Proofs.Outbox.Delivery
import PinPrinter.Proofs.Printer.Events

/-! # What is done with sheets

A sheet is printed on, handed to the outbox, and makes room for a blank one. Each of these is a
deed, named with the sheet as it shows at that moment. The deeds of an event follow from the printer
before it: an action first prints, and then moves the pen, and only the pen can leave the sheet. A
record tells what some deeds, one after the other, make of a paper; nothing but a deed changes the
sheet, the outbox or the artifacts.
-/

namespace PinPrinter

/-- Something that is done with the sheet in the printer, or with the outbox. -/
inductive Deed where
  /-- The sheet is printed on, and then shows this. -/
  | print (sheet : Sheet)
  /-- The sheet is handed to the outbox, with this result. -/
  | handOver (sheet : Sheet) (result : Except Error Artifact)
  /-- The sheet makes room for a blank one. -/
  | clear (sheet : Sheet)
  /-- The sheet is taken out by a reset. -/
  | discard (sheet : Sheet)
  /-- The document or job that is open is finished. -/
  | finish

namespace Deed

/-- Hands a sheet to the outbox. -/
def isHandOver : Deed → Bool
  | handOver _ _ => true
  | _ => false

/-- What became of a sheet that was handed over, if that succeeded. -/
def artifact? : Deed → Option Artifact
  | handOver _ (.ok artifact) => some artifact
  | _ => none

end Deed

/-! ## The command that restarts -/

namespace Instruction

theorem tallSwitch_ne_restart (n : UInt8) : ofEsc.tallSwitch n ≠ .restart := by
  unfold ofEsc.tallSwitch
  split <;> exact nofun

theorem eq_of_ofEsc_eq_restart {opcode : UInt8} {params : Array UInt8}
    (restart : ofEsc opcode params = .restart) : opcode = 0x40 := by
  unfold ofEsc at restart
  dsimp only at restart
  split at restart
  case h_1 letter =>
    have small : opcode.toNat < 256 := opcode.toNat_lt
    have valid : opcode.toNat.isValidChar := .inl (by omega)
    rw [Char.ofNat, dif_pos valid] at letter
    exact UInt8.toNat_inj.mp (congrArg Char.toNat letter)
  all_goals first
    | contradiction
    | exact absurd restart (tallSwitch_ne_restart _)
    | (split at restart <;> cases restart)

theorem ofFs_ne_restart (opcode : UInt8) (params : Array UInt8) :
    ofFs opcode params ≠ .restart := by
  intro restart
  unfold ofFs at restart
  dsimp only at restart
  split at restart
  all_goals first
    | contradiction
    | exact tallSwitch_ne_restart _ restart

theorem ofExtended_ne_restart (opcode : UInt8) (params : Array UInt8) :
    ofExtended opcode params ≠ .restart := by
  intro restart
  unfold ofExtended at restart
  dsimp only at restart
  split at restart
  all_goals first
    | contradiction
    | (split at restart <;> cases restart)

/-- Only `ESC @` restarts. -/
theorem ofCommand_eq_restart_iff (c : Command) (params : Array UInt8) :
    ofCommand c params = .restart ↔ c = ⟨.esc, 0x40⟩ := by
  constructor
  · intro restart
    obtain ⟨introducer, opcode⟩ := c
    cases introducer with
    | esc =>
      obtain rfl := eq_of_ofEsc_eq_restart restart
      rfl
    | fs => exact absurd restart (ofFs_ne_restart opcode params)
    | extended => exact absurd restart (ofExtended_ne_restart opcode params)
  · rintro rfl
    rfl

end Instruction

/-- Puts everything back to power-on: the command `ESC @`. -/
def Action.restarts : Action → Bool
  | .command c _ => c = ⟨.esc, 0x40⟩
  | _ => false

namespace Paper

/-! ## Printing before moving -/

/-- What an action prints on the sheet in the printer. -/
def press (p : Paper) (r : Registers) (density : Option BitImage.Density) : Action → Paper
  | .print byte => (p.stamp r byte).1
  | .payload c data => if c = Command.barCode then p.printBarcode r data.toList else p
  | .column bytes => p.printColumn r density bytes
  | .control _ | .command _ _ | .tabs _ _ => p

/-- Where the pen goes once an action has printed. -/
def course (p : Paper) (r : Registers) (density : Option BitImage.Density) (autofeed : Bool)
    (action : Action) : Motion :=
  match action with
  | .print byte => r.wrap (p.stamp r byte).1.pen (p.stamp r byte).2
  | .control code => r.controlMotion autofeed p.pen code
  | .command c params => r.motion p.pen (.ofCommand c params)
  | .payload _ _ | .column _ | .tabs _ _ => .to (p.press r density action).pen

theorem act_of_restarts {action : Action} (restarts : action.restarts = true) (p : Paper)
    (r : Registers) (density : Option BitImage.Density) (autofeed : Bool) :
    p.act r density autofeed action = p.load r.home := by
  cases action with
  | command c params =>
    obtain rfl : c = ⟨.esc, 0x40⟩ := of_decide_eq_true restarts
    rfl
  | _ => cases restarts

/-- An action that does not restart prints, and then the pen goes on. -/
theorem act_eq_follow {action : Action} (goesOn : action.restarts = false) (p : Paper)
    (r : Registers) (density : Option BitImage.Density) (autofeed : Bool) :
    p.act r density autofeed action =
      (p.press r density action).follow r (p.course r density autofeed action) := by
  cases action with
  | command c params =>
    have other : Instruction.ofCommand c params ≠ .restart :=
      mt (Instruction.ofCommand_eq_restart_iff c params).mp (of_decide_eq_false goesOn)
    simp only [act, press, course]
    cases instruction : Instruction.ofCommand c params with
    | restart => exact absurd instruction other
    | _ => rfl
  | print byte => rfl
  | control code => rfl
  | payload c data => rfl
  | column bytes => rfl
  | tabs axis stops => rfl

/-- Where sheets go is the same on both papers, and the second one has more ink on its sheet. -/
structure Printed (p q : Paper) : Prop where
  sheet : p.sheet.Inked q.sheet
  outbox : q.outbox = p.outbox
  artifacts : q.artifacts = p.artifacts

theorem printed_refl (p : Paper) : Printed p p :=
  ⟨.refl p.sheet, rfl, rfl⟩

theorem printed_printBarcode (p : Paper) (r : Registers) (data : List UInt8) :
    Printed p (p.printBarcode r data) := by
  apply holds_printBarcode (printed_refl p)
  intro code modules _
  exact ⟨Barcode.inked_draw .., rfl, rfl⟩

theorem printed_stamp (p : Paper) (r : Registers) (byte : UInt8) :
    Printed p (p.stamp r byte).1 :=
  ⟨(inked_strike ..).trans (inked_drawScore ..), rfl, rfl⟩

theorem printed_press (p : Paper) (r : Registers) (density : Option BitImage.Density)
    (action : Action) : Printed p (p.press r density action) := by
  cases action with
  | print byte => exact printed_stamp p r byte
  | payload c data =>
    by_cases code : c = Command.barCode
    · simp only [press, if_pos code]
      exact printed_printBarcode p r data.toList
    · simp only [press, if_neg code]
      exact printed_refl p
  | column bytes =>
    cases density with
    | none => exact printed_refl p
    | some density => exact ⟨BitImage.inked_printColumn .., rfl, rfl⟩
  | control code => exact printed_refl p
  | command c params => exact printed_refl p
  | tabs axis stops => exact printed_refl p

/-! ## Deeds -/

/-- Hand the sheet to the outbox. A sheet that it refuses leaves no artifact. -/
def handOver (p : Paper) : Paper :=
  match p.outbox.deliver p.sheet with
  | (outbox, .ok artifact) => { p with outbox := outbox, artifacts := p.artifacts.push artifact }
  | (outbox, .error _) => { p with outbox := outbox }

theorem emit_eq_handOver (p : Paper) : p.emit = if p.sheet.isBlank then p else p.handOver :=
  rfl

/-- What a deed makes of a paper. Where the pen stands, and which glyphs are kept, is left open. -/
inductive Does : Paper → Deed → Paper → Prop
  | print {p q : Paper} (printed : Printed p q) : Does p (.print q.sheet) q
  | handOver (p : Paper) : Does p (.handOver p.sheet (p.outbox.deliver p.sheet).2) p.handOver
  | clear (p : Paper) (pen : Pen) : Does p (.clear p.sheet) (p.load pen)
  | discard (p : Paper) (pen : Pen) : Does p (.discard p.sheet) (p.load pen)
  | finish (p : Paper) : Does p .finish p.finish

/-- What some deeds make of a paper, one after the other. -/
inductive Record : Paper → List Deed → Paper → Prop
  | nil (p : Paper) : Record p [] p
  | cons {p q r : Paper} {deed : Deed} {rest : List Deed} (first : Does p deed q)
      (others : Record q rest r) : Record p (deed :: rest) r

variable {p q r : Paper} {deeds more : List Deed}

theorem Record.append (first : Record p deeds q) (others : Record q more r) :
    Record p (deeds ++ more) r := by
  induction first with
  | nil => exact others
  | cons deed _ ih => exact .cons deed (ih others)

/-- The deeds of turning the sheet. -/
def turnDeeds (p : Paper) : List Deed :=
  if p.sheet.isBlank then [.clear p.sheet]
  else [.handOver p.sheet (p.outbox.deliver p.sheet).2, .clear p.sheet]

theorem record_turn (p : Paper) (r : Registers) (x : Float) :
    Record p p.turnDeeds (p.turn r x) := by
  have sheet : p.handOver.sheet = p.sheet := by
    unfold handOver
    split <;> rfl
  rw [turn, emit_eq_handOver, turnDeeds]
  split
  · exact .cons (.clear p _) (.nil _)
  · refine .cons (.handOver p) ?_
    rw [← sheet]
    exact .cons (.clear p.handOver _) (.nil _)

/-- The deeds of moving the pen. -/
def followDeeds (p : Paper) : Motion → List Deed
  | .to _ => []
  | .turn _ => p.turnDeeds

/-- The deeds of an action. -/
def actDeeds (p : Paper) (r : Registers) (density : Option BitImage.Density) (autofeed : Bool)
    (action : Action) : List Deed :=
  if action.restarts then [.discard p.sheet]
  else
    let pressed := p.press r density action
    .print pressed.sheet :: pressed.followDeeds (p.course r density autofeed action)

theorem record_act (p : Paper) (r : Registers) (density : Option BitImage.Density)
    (autofeed : Bool) (action : Action) :
    Record p (p.actDeeds r density autofeed action) (p.act r density autofeed action) := by
  unfold actDeeds
  cases restarts : action.restarts with
  | true =>
    rw [act_of_restarts restarts]
    exact .cons (.discard p _) (.nil _)
  | false =>
    have printed := printed_press p r density action
    rw [act_eq_follow restarts, if_neg Bool.false_ne_true]
    rcases p.course r density autofeed action with pen | x
    · -- The pen moves on without a deed of its own.
      let pressed := p.press r density action
      have moved : Printed p { pressed with pen := pen } :=
        ⟨printed.sheet, printed.outbox, printed.artifacts⟩
      have deed : Does p (.print pressed.sheet) { pressed with pen := pen } := .print moved
      exact .cons deed (.nil _)
    · exact .cons (.print printed) (record_turn ..)

/-- The deeds of the eject button. -/
def ejectDeeds (p : Paper) : List Deed :=
  p.turnDeeds ++ [.finish]

theorem record_eject (p : Paper) (r : Registers) (x : Float) :
    Record p p.ejectDeeds (p.turn r x).finish :=
  (record_turn p r x).append (.cons (.finish _) (.nil _))

end Paper

namespace Printer

open Paper (Record)

/-- The deeds of an event. -/
def deeds (p : Printer) : Event → List Deed
  | .byte _ byte =>
    match p.interpreter.receive p.autofeed byte with
    | (next, some action) => p.paper.actDeeds next.registers next.image p.autofeed action
    | (_, none) => []
  | .formFeed => p.paper.ejectDeeds
  | .reset | .resetHard => [.discard p.paper.sheet]
  | .poll now => if (p.poll now).2 then p.paper.ejectDeeds else []
  | .finish => [.finish]
  | .autofeed _ | .acknowledge => []

theorem record_step (p : Printer) (event : Event) :
    Record p.paper (p.deeds event) (p.step event).paper := by
  cases event with
  | byte now byte =>
    unfold deeds
    dsimp only
    rcases received : p.interpreter.receive p.autofeed byte with ⟨next, _ | action⟩
    · rw [step_silent received]
      exact .nil _
    · rw [step_action received]
      exact Paper.record_act ..
  | poll now =>
    unfold deeds
    change Record p.paper _ (p.poll now).1.paper
    unfold poll
    dsimp only
    split
    · exact Paper.record_eject ..
    · exact .nil _
  | formFeed => exact Paper.record_eject ..
  | reset => exact .cons (.discard ..) (.nil _)
  | resetHard => exact .cons (.discard ..) (.nil _)
  | finish => exact .cons (.finish _) (.nil _)
  | autofeed on => exact .nil _
  | acknowledge => exact .nil _

/-- The deeds of a run, in their order. -/
def log (p : Printer) : List Event → List Deed
  | [] => []
  | event :: rest => p.deeds event ++ (p.step event).log rest

theorem record_run (p : Printer) (events : List Event) :
    Record p.paper (p.log events) (p.run events).paper := by
  induction events generalizing p with
  | nil => exact .nil _
  | cons event rest ih => exact (record_step p event).append (ih _)

end Printer

end PinPrinter
