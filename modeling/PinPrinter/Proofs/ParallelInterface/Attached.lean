import PinPrinter.Proofs.ParallelInterface.Cable

/-! # The printer at the far end

The printer of an interface is the one that its configuration switches on, driven by what reaches
the far end of the cable. Before the first byte it is not there, and only the autofeed line matters.
An interface for no printer never gets one.
-/

namespace PinPrinter.ParallelInterface

open Printer (Event)

variable {p q : ParallelInterface}

/-- An interface that switches on this printer. -/
structure Starts (fresh : Printer) (p : ParallelInterface) : Prop where
  enabled : p.config.enabled = true
  started : Printer.new p.config p.host p.folder = .ok fresh

variable {fresh : Printer} {events : List Event}

theorem Starts.of_sameSettings (starts : Starts fresh p) (same : SameSettings p q) :
    Starts fresh q := by
  obtain ⟨enabled, started⟩ := starts
  constructor
  · rwa [same.config]
  · rwa [same.config, same.host, same.folder]

theorem Starts.powerOn (starts : Starts fresh p) (off : p.printer = none) :
    p.powerOn = some (fresh.setAutofeed (level p.control 1)) := by
  simp only [ParallelInterface.powerOn, off, starts.enabled, starts.started, high_autofeedLine,
    if_true]

/-! ## What the printer follows -/

/-- The printer of an interface is one that was switched on by the first byte, and has gone through
the events that it heard. -/
structure Follows (fresh : Printer) (p : ParallelInterface) (events : List Event) : Prop where
  printer : p.printer = if isOn events then some (fresh.run (heard events)) else none
  autofeed : (fresh.run (heard events)).autofeed = level p.control 1
  waiting : isOn events = false → fresh.run (heard events) = fresh.setAutofeed (level p.control 1)

/-- An event that only a printer that is on takes notice of. -/
theorem Follows.plain (follows : Follows fresh p events) {event : Event}
    (noByte : event.isByte = false) (noAutofeed : event.isAutofeed = false)
    (control : q.control = p.control) (stepped : q.printer = p.printer.map (·.step event)) :
    Follows fresh q (events ++ [event]) := by
  have on := isOn_concat_of_not_isByte events noByte
  have keeps (s : Printer) : (s.step event).autofeed = s.autofeed := by
    cases event with
    | autofeed level => cases noAutofeed
    | _ => exact Printer.autofeed_step s _
  obtain ⟨printer, autofeed, waiting⟩ := follows
  rw [← control] at autofeed waiting
  cases onBefore : isOn events with
  | true =>
    have heardNow : heard (events ++ [event]) = heard events ++ [event] := by
      rw [heard_append, onBefore, if_pos rfl]
    rw [onBefore, if_pos rfl] at printer
    constructor
    · rw [stepped, printer, on, onBefore, heardNow, Printer.run_append]
      rfl
    · rw [heardNow, Printer.run_append]
      exact (keeps _).trans autofeed
    · rw [on, onBefore]
      exact nofun
  | false =>
    have heardNow : heard (events ++ [event]) = heard events := by
      rw [heard_append, onBefore, heard_of_plain noByte noAutofeed]
      exact List.append_nil _
    rw [onBefore] at printer
    constructor
    · rw [stepped, printer, on, onBefore]
      rfl
    · rw [heardNow]
      exact autofeed
    · rw [heardNow]
      exact fun _ => waiting onBefore

/-- A byte switches the printer on, with the autofeed line as it stands. -/
theorem Follows.byte (follows : Follows fresh p events) (starts : Starts fresh p) (now : Nat)
    (control : q.control = p.control)
    (received : q.printer = p.powerOn.map (·.receive now p.data)) :
    Follows fresh q (events ++ [.byte now p.data]) := by
  have on := isOn_concat_byte events now p.data
  have heardNow := heard_concat_byte events now p.data
  have powered : p.powerOn = some (fresh.run (heard events)) := by
    cases onBefore : isOn events with
    | true =>
      have printer := follows.printer
      rw [onBefore, if_pos rfl] at printer
      rw [ParallelInterface.powerOn, printer]
    | false =>
      have printer := follows.printer
      rw [onBefore, if_neg Bool.false_ne_true] at printer
      rw [starts.powerOn printer, follows.waiting onBefore]
  constructor
  · rw [received, powered, on, heardNow, Printer.run_append]
    rfl
  · rw [heardNow, Printer.run_append, control]
    exact (Printer.autofeed_step _ (.byte now p.data)).trans follows.autofeed
  · rw [on]
    exact nofun

/-- A new level of the control lines sets the autofeed line, of a printer that is on or of one that
is switched on later. -/
theorem Follows.autofeedLine (follows : Follows fresh p events)
    (stepped : q.printer = p.printer.map (·.setAutofeed (level q.control 1))) :
    Follows fresh q (events ++ [.autofeed (level q.control 1)]) := by
  have on := isOn_concat_of_not_isByte events
    (show (Event.autofeed (level q.control 1)).isByte = false from rfl)
  have heardNow := heard_concat_autofeed events (level q.control 1)
  constructor
  · rw [stepped, follows.printer, on, heardNow, Printer.run_append]
    split <;> rfl
  · rw [heardNow, Printer.run_append]
    rfl
  · intro off
    rw [on] at off
    rw [heardNow, Printer.run_append, follows.waiting off]
    rfl

/-- To hear again how the autofeed line stands makes no difference. -/
theorem Follows.drop_autofeed {on : Bool} (stands : (fresh.run (heard events)).autofeed = on)
    (follows : Follows fresh p (events ++ [.autofeed on])) : Follows fresh p events := by
  have same : fresh.run (heard (events ++ [.autofeed on])) = fresh.run (heard events) := by
    rw [heard_concat_autofeed, Printer.run_append]
    exact Printer.setAutofeed_of_autofeed stands
  obtain ⟨printer, autofeed, waiting⟩ := follows
  rw [isOn_concat_of_not_isByte events rfl, same] at printer
  rw [same] at autofeed
  rw [isOn_concat_of_not_isByte events rfl, same] at waiting
  exact ⟨printer, autofeed, waiting⟩

theorem Follows.raiseInit (follows : Follows fresh p events) (value : UInt8) :
    Follows fresh (p.raiseInit value)
      (events ++ if rises 2 p.control value then [.resetHard] else []) := by
  rw [raiseInit_eq]
  split
  · exact follows.plain rfl rfl rfl rfl
  · rw [List.append_nil]
    exact follows

theorem Follows.dropStrobe (follows : Follows fresh p events) (starts : Starts fresh p) (now : Nat)
    (value : UInt8) :
    Follows fresh (p.dropStrobe now value)
      (events ++ if falls 0 p.control value then [.byte now p.data] else []) := by
  rw [dropStrobe_eq]
  split
  · exact follows.byte starts now rfl rfl
  · rw [List.append_nil]
    exact follows

theorem Follows.writeControl (follows : Follows fresh p events) (starts : Starts fresh p)
    (now : Nat) (value : UInt8) :
    Follows fresh (p.writeControl now value) (events ++ p.lines.edges now value) := by
  have settings : SameSettings p (p.raiseInit value) := by
    rw [raiseInit_eq]
    exact ⟨rfl, rfl, rfl⟩
  have lines : (p.raiseInit value).data = p.data ∧ (p.raiseInit value).control = p.control := by
    rw [raiseInit_eq]
    exact ⟨rfl, rfl⟩
  have strobed := (follows.raiseInit value).dropStrobe (starts.of_sameSettings settings) now value
  rw [lines.1, lines.2] at strobed
  have settled : Follows fresh (p.writeControl now value) _ := strobed.autofeedLine (by
    rw [writeControl_eq])
  have stored : (p.writeControl now value).control = value :=
    congrArg Lines.control (lines_writeControl p now value)
  rw [stored, List.append_assoc, List.append_assoc, ← List.append_assoc _ _ [_]] at settled
  exact settled

theorem Follows.readStatus (follows : Follows fresh p events) :
    Follows fresh p.readStatus.1 (events ++ [.acknowledge]) := by
  rw [readStatus_eq]
  exact follows.plain rfl rfl rfl rfl

/-! ## Sending -/

/-- A level of the control lines that has the strobe low and leaves the other lines as they are. -/
structure Idle (idle control : UInt8) : Prop where
  strobe : level idle 0 = false
  autofeed : level idle 1 = level control 1
  reset : level idle 2 = level control 2

theorem idle_and (control : UInt8) : Idle (control &&& 0xFE) control := by
  have all := forall_byte (P := fun control =>
    level (control &&& 0xFE) 0 = false ∧ level (control &&& 0xFE) 1 = level control 1 ∧
      level (control &&& 0xFE) 2 = level control 2) (by decide +kernel) control
  exact ⟨all.1, all.2.1, all.2.2⟩

theorem level_or_strobe (idle : UInt8) :
    level (idle ||| strobe) 0 = true ∧ level (idle ||| strobe) 1 = level idle 1 ∧
      level (idle ||| strobe) 2 = level idle 2 :=
  forall_byte (P := fun idle =>
    level (idle ||| strobe) 0 = true ∧ level (idle ||| strobe) 1 = level idle 1 ∧
      level (idle ||| strobe) 2 = level idle 2) (by decide +kernel) idle

/-- Nothing but the level of autofeed is new when only the strobe is raised. -/
theorem edges_raise {l : Lines} {idle : UInt8} (idles : Idle idle l.control) (now : Nat) :
    l.edges now (idle ||| strobe) = [.autofeed (level l.control 1)] := by
  obtain ⟨strobeHigh, autofeed, reset⟩ := level_or_strobe idle
  simp [Lines.edges, rises, falls, strobeHigh, autofeed, reset, idles.reset, idles.autofeed]

/-- The byte is handed over when only the strobe is dropped. -/
theorem edges_drop {idle : UInt8} (low : level idle 0 = false) (now : Nat) (byte : UInt8) :
    Lines.edges ⟨byte, idle ||| strobe⟩ now idle =
      [.byte now byte] ++ [.autofeed (level (idle ||| strobe) 1)] := by
  obtain ⟨strobeHigh, autofeed, reset⟩ := level_or_strobe idle
  simp [Lines.edges, rises, falls, strobeHigh, autofeed, reset, low]

/-- A byte that is sent reaches the printer once, however the lines stood before. -/
theorem Follows.sendByte (follows : Follows fresh p events) (starts : Starts fresh p)
    {idle : UInt8} (idles : Idle idle p.control) (now : Nat) (byte : UInt8) :
    Follows fresh (sendByte idle now p byte) (events ++ [.byte now byte, .acknowledge]) := by
  let latched := p.writeData byte
  let raised := latched.writeControl now (idle ||| strobe)
  -- Both writes leave autofeed as it stands, so what they say of it drops out.
  have latchedFollows : Follows fresh latched events := ⟨follows.1, follows.2, follows.3⟩
  have latchedStarts : Starts fresh latched := ⟨starts.1, starts.2⟩
  have raisedFollows : Follows fresh raised events := by
    have written := latchedFollows.writeControl latchedStarts now (idle ||| strobe)
    rw [edges_raise idles] at written
    exact written.drop_autofeed follows.autofeed
  have raisedStarts : Starts fresh raised :=
    latchedStarts.of_sameSettings (sameSettings_writeControl ..)
  have raisedLines : raised.lines = ⟨byte, idle ||| strobe⟩ := lines_writeControl ..
  have dropped : Follows fresh (raised.writeControl now idle) (events ++ [.byte now byte]) := by
    have written := raisedFollows.writeControl raisedStarts now idle
    have stands := raisedFollows.autofeed
    rw [raisedLines, edges_drop idles.strobe, ← List.append_assoc] at written
    rw [show raised.control = idle ||| strobe from congrArg Lines.control raisedLines] at stands
    apply written.drop_autofeed
    rw [heard_concat_byte, Printer.run_append]
    exact (Printer.autofeed_step _ (.byte now byte)).trans stands
  have read := dropped.readStatus
  rw [List.append_assoc] at read
  exact read

theorem Follows.send (follows : Follows fresh p events) (starts : Starts fresh p) {idle : UInt8}
    (idles : Idle idle p.control) (now : Nat) (bytes : List UInt8) :
    Follows fresh (bytes.foldl (ParallelInterface.sendByte idle now) p)
      (events ++ bytes.flatMap fun byte => [.byte now byte, .acknowledge]) := by
  induction bytes generalizing p events with
  | nil =>
    rw [List.flatMap_nil, List.append_nil]
    exact follows
  | cons byte rest ih =>
    have sent := follows.sendByte starts idles now byte
    have control : (ParallelInterface.sendByte idle now p byte).control = idle :=
      congrArg Lines.control (lines_sendByte p idle now byte)
    have still : Idle idle (ParallelInterface.sendByte idle now p byte).control := by
      rw [control]
      exact ⟨idles.strobe, rfl, rfl⟩
    have later := ih sent (starts.of_sameSettings (sameSettings_sendByte ..)) still
    rwa [List.append_assoc] at later

/-! ## Histories -/

theorem Follows.step (follows : Follows fresh p events) (starts : Starts fresh p)
    (access : Access) : Follows fresh (p.step access) (events ++ p.lines.signals access) := by
  cases access with
  | writeControl now value => exact follows.writeControl starts now value
  | readStatus => exact follows.readStatus
  | send now bytes => exact follows.send starts (idle_and p.control) now bytes
  | formFeed => exact follows.plain rfl rfl rfl rfl
  | finish => exact follows.plain rfl rfl rfl rfl
  | poll now =>
    change Follows fresh (p.poll now).1 (events ++ [.poll now])
    rw [poll_eq]
    exact follows.plain rfl rfl rfl rfl
  | writeData value =>
    change Follows fresh (p.writeData value) (events ++ [])
    rw [List.append_nil]
    exact ⟨follows.printer, follows.autofeed, follows.waiting⟩
  | readData =>
    change Follows fresh p (events ++ [])
    rwa [List.append_nil]
  | readControl =>
    change Follows fresh p (events ++ [])
    rwa [List.append_nil]

theorem Follows.run (follows : Follows fresh p events) (starts : Starts fresh p)
    (accesses : List Access) :
    Follows fresh (p.run accesses) (events ++ p.lines.history accesses) := by
  induction accesses generalizing p events with
  | nil =>
    rw [Lines.history, List.append_nil]
    exact follows
  | cons access rest ih =>
    have later := ih (follows.step starts access)
      (starts.of_sameSettings (sameSettings_step p access))
    rwa [lines_step, List.append_assoc] at later

/-! ## Without a printer -/

/-- An interface that has no printer and is not to get one. -/
structure Vacant (p : ParallelInterface) : Prop where
  disabled : p.config.enabled = false
  printer : p.printer = none

theorem Vacant.of_sameSettings (vacant : Vacant p) (same : SameSettings p q)
    (printer : q.printer = none) : Vacant q := by
  refine ⟨?_, printer⟩
  rw [same.config]
  exact vacant.disabled

theorem Vacant.writeControl (vacant : Vacant p) (now : Nat) (value : UInt8) :
    Vacant (p.writeControl now value) := by
  apply vacant.of_sameSettings (sameSettings_writeControl p now value)
  simp [writeControl_eq, dropStrobe_eq, raiseInit_eq, powerOn, vacant.printer, vacant.disabled]

theorem Vacant.readStatus (vacant : Vacant p) : Vacant p.readStatus.1 := by
  rw [readStatus_eq, vacant.printer]
  exact ⟨vacant.disabled, rfl⟩

theorem Vacant.sendByte (vacant : Vacant p) (idle : UInt8) (now : Nat) (byte : UInt8) :
    Vacant (sendByte idle now p byte) := by
  have latched : Vacant (p.writeData byte) := ⟨vacant.disabled, vacant.printer⟩
  exact ((latched.writeControl now _).writeControl now _).readStatus

theorem Vacant.send (vacant : Vacant p) (idle : UInt8) (now : Nat) (bytes : List UInt8) :
    Vacant (bytes.foldl (ParallelInterface.sendByte idle now) p) := by
  induction bytes generalizing p with
  | nil => exact vacant
  | cons byte rest ih => exact ih (vacant.sendByte idle now byte)

theorem Vacant.step (vacant : Vacant p) (access : Access) : Vacant (p.step access) := by
  cases access with
  | writeControl now value => exact vacant.writeControl now value
  | readStatus => exact vacant.readStatus
  | send now bytes => exact vacant.send _ now bytes
  | poll now =>
    change Vacant (p.poll now).1
    rw [poll_eq, vacant.printer]
    exact ⟨vacant.disabled, rfl⟩
  | formFeed => exact ⟨vacant.disabled, congrArg (Option.map Printer.formFeed) vacant.printer⟩
  | finish => exact ⟨vacant.disabled, congrArg (Option.map Printer.finish) vacant.printer⟩
  | writeData value => exact ⟨vacant.disabled, vacant.printer⟩
  | readData => exact vacant
  | readControl => exact vacant

theorem Vacant.run (vacant : Vacant p) (accesses : List Access) : Vacant (p.run accesses) := by
  induction accesses generalizing p with
  | nil => exact vacant
  | cons access rest ih => exact ih (vacant.step access)

/-! ## Interfaces that are made -/

variable {config : Config} {host : Host} {folder : Folder} {port : ParallelInterface}

theorem eq_of_new (made : ParallelInterface.new config host folder = .ok port) :
    port = { config := config, host := host, folder := folder, control := initLine } ∧
      Printer.new config host folder = .ok (.powerOn config host folder) := by
  unfold ParallelInterface.new Config.validate at made
  unfold Printer.new Config.validate
  cases fault : config.fault? with
  | some e =>
    rw [fault] at made
    cases made
  | none =>
    rw [fault] at made
    obtain rfl := Except.ok.inj made
    exact ⟨rfl, rfl⟩

theorem starts_of_new (made : ParallelInterface.new config host folder = .ok port)
    (enabled : config.enabled = true) : Starts (.powerOn config host folder) port := by
  obtain ⟨rfl, started⟩ := eq_of_new made
  exact ⟨enabled, started⟩

theorem follows_of_new (made : ParallelInterface.new config host folder = .ok port) :
    Follows (.powerOn config host folder) port [] := by
  obtain ⟨rfl, -⟩ := eq_of_new made
  have low : (Printer.powerOn config host folder).autofeed = level initLine 1 := by
    have bit : level initLine 1 = false := by decide
    rw [bit]
    rfl
  exact ⟨rfl, low, fun _ => (Printer.setAutofeed_of_autofeed low).symm⟩

theorem vacant_of_new (made : ParallelInterface.new config host folder = .ok port)
    (disabled : config.enabled = false) : Vacant port := by
  obtain ⟨rfl, -⟩ := eq_of_new made
  exact ⟨disabled, rfl⟩

theorem control_run_of_new (made : ParallelInterface.new config host folder = .ok port)
    (accesses : List Access) :
    (port.run accesses).control = (accesses.foldl Lines.next {}).control := by
  obtain ⟨rfl, -⟩ := eq_of_new made
  exact congrArg Lines.control (lines_run _ accesses)

theorem follows_run_of_new (made : ParallelInterface.new config host folder = .ok port)
    (enabled : config.enabled = true) (accesses : List Access) :
    Follows (.powerOn config host folder) (port.run accesses)
      (({} : Lines).history accesses) := by
  have follows := (follows_of_new made).run (starts_of_new made enabled) accesses
  obtain ⟨rfl, -⟩ := eq_of_new made
  exact follows

theorem Follows.autofeed_of_attached (follows : Follows fresh p events) {printer : Printer}
    (attached : p.printer = some printer) : printer.autofeed = level p.control 1 := by
  rw [follows.printer] at attached
  split at attached
  · obtain rfl := Option.some.inj attached
    exact follows.autofeed
  · cases attached

/-- The printer of an interface, whatever is done to it, is one that is driven by what reaches the
far end of the cable. It is there from the first falling edge of the strobe on, and its autofeed
line stands as it was written last. An interface for no printer never has one. -/
theorem printer_run (made : ParallelInterface.new config host folder = .ok port)
    (accesses : List Access) :
    let events := ({} : Lines).history accesses
    let p := port.run accesses
    (config.enabled = true → ∃ fresh, Printer.new config host folder = .ok fresh ∧
      p.printer = (if isOn events then some (fresh.run (heard events)) else none) ∧
        ∀ printer, p.printer = some printer →
          printer.autofeed = level (accesses.foldl Lines.next {}).control 1) ∧
      (config.enabled = false → p.printer = none) := by
  intro events p
  constructor
  · intro enabled
    have follows := follows_run_of_new made enabled accesses
    refine ⟨_, (eq_of_new made).2, follows.printer, ?_⟩
    intro printer attached
    rw [← control_run_of_new made]
    exact follows.autofeed_of_attached attached
  · intro disabled
    exact ((vacant_of_new made disabled).run accesses).printer

/-- The strobe falls and the line for a reset rises in one write, with the autofeed line high; then
a byte is sent. -/
theorem printer_run_letter :
    let host : Host := { launch := fun _ _ => .error "no programs", date := "2024-02-29 12:30:00" }
    let port : ParallelInterface :=
      { config := .letter, host := host, folder := {}, control := initLine }
    let accesses : List Access :=
      [.writeControl 0 0x03, .writeData 0x41, .writeControl 1 0x06, .send 2 [0x42]]
    let events : List Event :=
      [.autofeed true, .byte 1 0x41, .autofeed true, .byte 2 0x42, .acknowledge]
    ParallelInterface.new .letter host {} = .ok port ∧ Config.letter.enabled = true ∧
      heard (({} : Lines).history accesses) = events ∧
        (port.run accesses).printer = some ((Printer.powerOn .letter host {}).run events) := by
  intro host port accesses events
  obtain ⟨fresh, started, printer, -⟩ :=
    (printer_run (show ParallelInterface.new .letter host {} = .ok port from rfl) accesses).1 rfl
  obtain rfl := Except.ok.inj started
  exact ⟨rfl, rfl, by decide, printer⟩

end PinPrinter.ParallelInterface
