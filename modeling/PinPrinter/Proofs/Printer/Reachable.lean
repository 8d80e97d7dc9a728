import PinPrinter.Proofs.Printer.Halves

/-! # Printers in use

A printer is reachable if it comes, by some events, from one that was switched on. Only bytes and
resets touch its interpreter, and only some actions touch the registers, so an invariant of either
is proved by following it through these.
-/

namespace PinPrinter

namespace Interpreter

variable {i : Interpreter} {byte : UInt8} {reader : Reader}

/-- What an event at the printer does to its interpreter. -/
def follow (i : Interpreter) (autofeed : Bool) : Printer.Event → Interpreter
  | .byte _ byte => (i.receive autofeed byte).1
  | .reset | .resetHard => i.restart
  | .formFeed | .poll _ | .finish | .autofeed _ | .acknowledge => i

/-- A byte inside a sequence only moves the reader on. -/
theorem receive_silent (fed : i.reader.feed (i.registers.forceMsb byte) = (reader, none))
    (autofeed : Bool) : i.receive autofeed byte = ({ i with reader := reader }, none) := by
  simp only [receive, fed]

theorem receive_action {action : Action}
    (fed : i.reader.feed (i.registers.forceMsb byte) = (reader, some action)) (autofeed : Bool) :
    i.receive autofeed byte =
      (({ i with reader := reader } : Interpreter).act autofeed action, some action) := by
  simp only [receive, fed]

/-- What a byte means is a matter of the reader alone, once its highest bit is forced. -/
theorem snd_receive (i : Interpreter) (autofeed : Bool) (byte : UInt8) :
    (i.receive autofeed byte).2 = (i.reader.feed (i.registers.forceMsb byte)).2 := by
  rcases fed : i.reader.feed (i.registers.forceMsb byte) with ⟨reader, _ | action⟩
  · rw [receive_silent fed]
  · rw [receive_action fed]

/-- What commands, control codes and new tab stops keep of the registers is kept by a byte. -/
theorem holds_receive_of_command {Holds : Registers → Prop}
    (command : ∀ r c params, Holds r → Holds (Registers.obey r (.ofCommand c params)))
    (control : ∀ r autofeed code, Holds r → Holds (Registers.control r autofeed code))
    (setTabs : ∀ r axis stops, Holds r → Holds (Registers.setTabs r axis stops))
    (i : Interpreter) (autofeed : Bool) (byte : UInt8) (held : Holds i.registers) :
    Holds (i.receive autofeed byte).1.registers := by
  rcases fed : i.reader.feed (i.registers.forceMsb byte) with ⟨reader, _ | action⟩
  · rw [receive_silent fed]
    exact held
  · rw [receive_action fed]
    cases action with
    | control code => exact control _ autofeed code held
    | command c params =>
      change Holds (Interpreter.obey _ (.ofCommand c params)).registers
      rw [registers_obey]
      exact command _ c params held
    | tabs axis stops => exact setTabs _ axis stops.toList held
    | print byte => exact held
    | payload c data => exact held
    | column bytes => exact held

/-- What instructions, control codes and new tab stops keep of the registers is kept by a byte. -/
theorem holds_receive {Holds : Registers → Prop}
    (obey : ∀ r instruction, Holds r → Holds (Registers.obey r instruction))
    (control : ∀ r autofeed code, Holds r → Holds (Registers.control r autofeed code))
    (setTabs : ∀ r axis stops, Holds r → Holds (Registers.setTabs r axis stops))
    (i : Interpreter) (autofeed : Bool) (byte : UInt8) (held : Holds i.registers) :
    Holds (i.receive autofeed byte).1.registers :=
  holds_receive_of_command (fun r c params => obey r (.ofCommand c params)) control setTabs i
    autofeed byte held

end Interpreter

namespace Printer

theorem interpreter_step (p : Printer) (event : Event) :
    (p.step event).interpreter = p.interpreter.follow p.autofeed event := by
  cases event with
  | poll now =>
    change (p.poll now).1.interpreter = p.interpreter
    rw [poll]
    split
    · rfl
    · rfl
  | byte now byte =>
    change _ = (p.interpreter.receive p.autofeed byte).1
    rcases received : p.interpreter.receive p.autofeed byte with ⟨next, _ | action⟩
    · rw [step_silent received]
    · rw [step_action received]
  | formFeed => rfl
  | reset => rfl
  | resetHard => rfl
  | finish => rfl
  | autofeed on => rfl
  | acknowledge => rfl

/-- A printer comes, by some events, from one that was switched on. -/
inductive Reachable : Printer → Prop
  | new {config : Config} {host : Host} {folder : Folder} {p : Printer}
      (started : Printer.new config host folder = .ok p) : Reachable p
  | step {p : Printer} (earlier : Reachable p) (event : Event) : Reachable (p.step event)

theorem Reachable.run {p : Printer} (earlier : Reachable p) (events : List Event) :
    Reachable (p.run events) := by
  induction events generalizing p with
  | nil => exact earlier
  | cons event rest ih => exact ih (earlier.step event)

theorem reachable_iff (p : Printer) :
    Reachable p ↔ ∃ config host folder start events,
      Printer.new config host folder = .ok start ∧ start.run events = p := by
  constructor
  · intro reachable
    induction reachable with
    | new started => exact ⟨_, _, _, _, [], started, rfl⟩
    | step _ event ih =>
      obtain ⟨config, host, folder, start, events, started, rfl⟩ := ih
      refine ⟨config, host, folder, start, events ++ [event], started, ?_⟩
      rw [Printer.run, List.foldl_append]
      rfl
  · rintro ⟨config, host, folder, start, events, started, rfl⟩
    exact (Reachable.new started).run events

/-- A printer for letter paper is switched on. -/
theorem new_letter (host : Host) (folder : Folder) :
    Printer.new .letter host folder = .ok (.powerOn .letter host folder) :=
  rfl

theorem accepted_of_new {config : Config} {host : Host} {folder : Folder} {p : Printer}
    (started : Printer.new config host folder = .ok p) : config.fault? = none := by
  unfold Printer.new Config.validate at started
  cases fault : config.fault? with
  | some e =>
    rw [fault] at started
    cases started
  | none => rfl

/-- A configuration that is accepted is taken as it stands. -/
theorem eq_powerOn_of_new {config : Config} {host : Host} {folder : Folder} {p : Printer}
    (started : Printer.new config host folder = .ok p) : p = .powerOn config host folder := by
  have accepted := accepted_of_new started
  unfold Printer.new Config.validate at started
  rw [accepted] at started
  exact (Except.ok.inj started).symm

/-- What bytes and resets keep of an interpreter is kept by a run. -/
theorem holds_interpreter_run {Holds : Interpreter → Prop}
    (receive : ∀ i autofeed byte, Holds i → Holds (i.receive autofeed byte).1)
    (restart : ∀ i, Holds i → Holds i.restart) {p : Printer} (held : Holds p.interpreter)
    (events : List Event) : Holds (p.run events).interpreter := by
  induction events generalizing p with
  | nil => exact held
  | cons event rest ih =>
    apply ih
    rw [interpreter_step]
    cases event with
    | byte now byte => exact receive _ _ byte held
    | reset => exact restart _ held
    | resetHard => exact restart _ held
    | formFeed => exact held
    | poll now => exact held
    | finish => exact held
    | autofeed on => exact held
    | acknowledge => exact held

/-- What instructions, control codes and new tab stops leave alone in the registers is the same
after a run. -/
theorem view_registers_run {α : Type} {view : Registers → α}
    (obey : ∀ r instruction, view (Registers.obey r instruction) = view r)
    (control : ∀ r autofeed code, view (Registers.control r autofeed code) = view r)
    (setTabs : ∀ r axis stops, view (Registers.setTabs r axis stops) = view r) (p : Printer)
    (events : List Event) : view (p.run events).registers = view p.registers := by
  let Same (r : Registers) : Prop := view r = view p.registers
  have receive : ∀ i autofeed byte, Same (Interpreter.registers i) →
      Same (Interpreter.receive i autofeed byte).1.registers :=
    Interpreter.holds_receive (fun r instruction same => (obey r instruction).trans same)
      (fun r autofeed code same => (control r autofeed code).trans same)
      (fun r axis stops same => (setTabs r axis stops).trans same)
  have restart (i : Interpreter) (same : Same i.registers) : Same i.restart.registers :=
    (obey _ .restart).trans same
  exact holds_interpreter_run receive restart rfl events

/-- What holds of an interpreter at power-on, and is kept by bytes and resets, holds of the
interpreter of every reachable printer. -/
theorem Reachable.interpreter {Holds : Interpreter → Prop}
    (powerOn : ∀ width height, Holds (.powerOn width height))
    (receive : ∀ i autofeed byte, Holds i → Holds (i.receive autofeed byte).1)
    (restart : ∀ i, Holds i → Holds i.restart) {p : Printer} (reachable : Reachable p) :
    Holds p.interpreter := by
  obtain ⟨config, host, folder, start, events, started, rfl⟩ := (reachable_iff p).mp reachable
  obtain rfl := eq_powerOn_of_new started
  exact holds_interpreter_run receive restart (powerOn _ _) events

/-- What holds of the registers at power-on, and is kept by instructions, control codes and new tab
stops, holds of the registers of every reachable printer. -/
theorem Reachable.registers {Holds : Registers → Prop}
    (powerOn : ∀ width height, Holds (.powerOn width height))
    (obey : ∀ r instruction, Holds r → Holds (Registers.obey r instruction))
    (control : ∀ r autofeed code, Holds r → Holds (Registers.control r autofeed code))
    (setTabs : ∀ r axis stops, Holds r → Holds (Registers.setTabs r axis stops))
    {p : Printer} (reachable : Reachable p) : Holds p.registers := by
  have restart (i : Interpreter) (held : Holds i.registers) : Holds i.restart.registers :=
    obey _ .restart held
  exact reachable.interpreter powerOn (Interpreter.holds_receive obey control setTabs) restart

end Printer

end PinPrinter
