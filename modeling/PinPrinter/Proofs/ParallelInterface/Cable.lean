import PinPrinter.ParallelInterface
import PinPrinter.Proofs.Printer.Events

/-! # A printer behind a cable

What a driver does to the registers of an interface reaches the printer as edges on lines: a byte
for every falling edge of the strobe, a reset for every rising edge of the line for it, and the
level of the autofeed line. The first byte switches the printer on. So the printer of an interface
is one that is driven by these events, whatever registers are written, in whatever order.
-/

namespace PinPrinter

namespace Printer.Event

/-- Brings a byte. -/
def isByte : Event → Bool
  | byte _ _ => true
  | _ => false

/-- Sets the autofeed line. -/
def isAutofeed : Event → Bool
  | autofeed _ => true
  | _ => false

end Printer.Event

open Printer (Event)

namespace ParallelInterface

/-- What is done to an interface: by the driver, at the panel, or by the clock. -/
inductive Access where
  | writeData (value : UInt8)
  | writeControl (now : Nat) (value : UInt8)
  | readData
  | readStatus
  | readControl
  | send (now : Nat) (bytes : List UInt8)
  | formFeed
  | finish
  | poll (now : Nat)
  deriving DecidableEq, Repr

/-- The interface after an access. -/
def step (p : ParallelInterface) : Access → ParallelInterface
  | .writeData value => p.writeData value
  | .writeControl now value => p.writeControl now value
  | .readData | .readControl => p
  | .readStatus => p.readStatus.1
  | .send now bytes => p.send now bytes
  | .formFeed => p.formFeed
  | .finish => p.finish
  | .poll now => (p.poll now).1

/-- The interface after some accesses. -/
def run (p : ParallelInterface) (accesses : List Access) : ParallelInterface :=
  accesses.foldl step p

/-! ## Lines -/

/-- The level of a line of a register. -/
def level (register : UInt8) (line : Nat) : Bool :=
  register.toNat.testBit line

/-- A line goes from high to low. -/
def falls (line : Nat) (before after : UInt8) : Bool :=
  level before line && !level after line

/-- A line goes from low to high. -/
def rises (line : Nat) (before after : UInt8) : Bool :=
  !level before line && level after line

/-- The lines of the cable: the data byte, and the control lines 0 for the strobe, 1 for autofeed
and 2 for a reset, which is high at first. -/
structure Lines where
  data : UInt8 := 0
  control : UInt8 := 0x04
  deriving DecidableEq, Repr

namespace Lines

/-- The lines after an access. Sending leaves the last byte there, and the strobe low. -/
def next (l : Lines) : Access → Lines
  | .writeData value => { l with data := value }
  | .writeControl _ value => { l with control := value }
  | .send _ bytes =>
    match bytes.getLast? with
    | some byte => ⟨byte, l.control &&& 0xFE⟩
    | none => l
  | .readData | .readStatus | .readControl | .formFeed | .finish | .poll _ => l

/-- What reaches the far end of the cable at a new level of the control lines. -/
def edges (l : Lines) (now : Nat) (control : UInt8) : List Event :=
  (if rises 2 l.control control then [.resetHard] else []) ++
    (if falls 0 l.control control then [.byte now l.data] else []) ++
      [.autofeed (level control 1)]

/-- What reaches the far end of the cable at an access. -/
def signals (l : Lines) : Access → List Event
  | .writeControl now value => l.edges now value
  | .readStatus => [.acknowledge]
  | .send now bytes => bytes.flatMap fun byte => [.byte now byte, .acknowledge]
  | .formFeed => [.formFeed]
  | .finish => [.finish]
  | .poll now => [.poll now]
  | .writeData _ | .readData | .readControl => []

/-- What reaches the far end of the cable at some accesses. -/
def history (l : Lines) : List Access → List Event
  | [] => []
  | access :: rest => l.signals access ++ (l.next access).history rest

end Lines

/-- What a printer hears that is switched on by its first byte: of all that comes before, only how
the autofeed line stands. -/
def heard : List Event → List Event
  | [] => []
  | .byte now byte :: rest => .byte now byte :: rest
  | .autofeed on :: rest => .autofeed on :: heard rest
  | _ :: rest => heard rest

/-- A byte has come, so the printer is on. -/
def isOn (events : List Event) : Bool :=
  events.any Event.isByte

theorem isOn_append (first second : List Event) :
    isOn (first ++ second) = (isOn first || isOn second) :=
  List.any_append

/-- All of what comes later is heard where the printer is on, and else what it hears of that. -/
theorem heard_append (first second : List Event) :
    heard (first ++ second) = heard first ++ if isOn first then second else heard second := by
  induction first with
  | nil => rfl
  | cons event rest ih =>
    cases event with
    | byte now byte => rfl
    | autofeed on => exact congrArg (.autofeed on :: ·) ih
    | formFeed => exact ih
    | reset => exact ih
    | resetHard => exact ih
    | poll now => exact ih
    | finish => exact ih
    | acknowledge => exact ih

theorem heard_of_plain {event : Event} (noByte : event.isByte = false)
    (noAutofeed : event.isAutofeed = false) : heard [event] = [] := by
  cases event with
  | byte now byte => cases noByte
  | autofeed on => cases noAutofeed
  | _ => rfl

theorem heard_concat_byte (events : List Event) (now : Nat) (byte : UInt8) :
    heard (events ++ [.byte now byte]) = heard events ++ [.byte now byte] := by
  rw [heard_append]
  split <;> rfl

theorem heard_concat_autofeed (events : List Event) (on : Bool) :
    heard (events ++ [.autofeed on]) = heard events ++ [.autofeed on] := by
  rw [heard_append]
  split <;> rfl

theorem isOn_concat_byte (events : List Event) (now : Nat) (byte : UInt8) :
    isOn (events ++ [.byte now byte]) = true := by
  rw [isOn_append]
  exact Bool.or_true _

theorem isOn_concat_of_not_isByte (events : List Event) {event : Event}
    (noByte : event.isByte = false) : isOn (events ++ [event]) = isOn events := by
  rw [isOn_append]
  simp [isOn, noByte]

/-! ## Levels -/

theorem forall_byte {P : UInt8 → Prop} (each : ∀ n : Fin 256, P (UInt8.ofNat n))
    (byte : UInt8) : P byte := by
  have same := each ⟨byte.toNat, byte.toNat_lt⟩
  rwa [UInt8.ofNat_toNat] at same

theorem high_strobe (register : UInt8) : high register strobe = level register 0 :=
  forall_byte (P := fun register => high register strobe = level register 0)
    (by decide +kernel) register

theorem high_autofeedLine (register : UInt8) : high register autofeedLine = level register 1 :=
  forall_byte (P := fun register => high register autofeedLine = level register 1)
    (by decide +kernel) register

theorem high_initLine (register : UInt8) : high register initLine = level register 2 :=
  forall_byte (P := fun register => high register initLine = level register 2)
    (by decide +kernel) register

/-- The lines of an interface. -/
def lines (p : ParallelInterface) : Lines :=
  ⟨p.data, p.control⟩

/-! ## Settings

What an interface was made from stays as it is.
-/

/-- Interfaces with the same configuration, host and document directory. -/
structure SameSettings (p q : ParallelInterface) : Prop where
  config : q.config = p.config
  host : q.host = p.host
  folder : q.folder = p.folder

variable {p q r : ParallelInterface}

theorem SameSettings.refl (p : ParallelInterface) : SameSettings p p :=
  ⟨rfl, rfl, rfl⟩

theorem SameSettings.trans (first : SameSettings p q) (second : SameSettings q r) :
    SameSettings p r :=
  ⟨second.config.trans first.config, second.host.trans first.host,
    second.folder.trans first.folder⟩

/-- The interface after a reset on its way to a new level of the control lines. -/
theorem raiseInit_eq (p : ParallelInterface) (value : UInt8) :
    p.raiseInit value =
      { p with printer :=
          if rises 2 p.control value then p.printer.map Printer.resetHard else p.printer } := by
  unfold raiseInit
  rw [high_initLine, high_initLine, rises, Bool.and_comm]
  split
  · rfl
  · rfl

/-- The interface after a strobe on its way to a new level of the control lines. -/
theorem dropStrobe_eq (p : ParallelInterface) (now : Nat) (value : UInt8) :
    p.dropStrobe now value =
      { p with printer :=
          if falls 0 p.control value then p.powerOn.map (·.receive now p.data)
          else p.printer } := by
  unfold dropStrobe
  rw [high_strobe, high_strobe, falls, Bool.and_comm]
  split
  · rfl
  · rfl

theorem writeControl_eq (p : ParallelInterface) (now : Nat) (value : UInt8) :
    p.writeControl now value =
      { (p.raiseInit value).dropStrobe now value with
        printer := ((p.raiseInit value).dropStrobe now value).printer.map
          (·.setAutofeed (level value 1))
        control := value } := by
  unfold writeControl
  rw [high_autofeedLine]

theorem readStatus_eq (p : ParallelInterface) :
    p.readStatus.1 = { p with printer := p.printer.map (·.acknowledge.1) } := by
  obtain ⟨config, host, folder, printer, data, control⟩ := p
  cases printer with
  | none => rfl
  | some printer => rfl

theorem poll_eq (p : ParallelInterface) (now : Nat) :
    (p.poll now).1 = { p with printer := p.printer.map fun printer => (printer.poll now).1 } := by
  obtain ⟨config, host, folder, printer, data, control⟩ := p
  cases printer with
  | none => rfl
  | some printer => rfl

theorem sameSettings_writeControl (p : ParallelInterface) (now : Nat) (value : UInt8) :
    SameSettings p (p.writeControl now value) := by
  rw [writeControl_eq, dropStrobe_eq, raiseInit_eq]
  exact ⟨rfl, rfl, rfl⟩

theorem lines_writeControl (p : ParallelInterface) (now : Nat) (value : UInt8) :
    (p.writeControl now value).lines = ⟨p.data, value⟩ := by
  rw [writeControl_eq, dropStrobe_eq, raiseInit_eq]
  rfl

theorem sameSettings_sendByte (p : ParallelInterface) (idle : UInt8) (now : Nat) (byte : UInt8) :
    SameSettings p (sendByte idle now p byte) := by
  have raised := sameSettings_writeControl (p.writeData byte) now (idle ||| strobe)
  have dropped := sameSettings_writeControl
    ((p.writeData byte).writeControl now (idle ||| strobe)) now idle
  rw [sendByte, readStatus_eq]
  have both := raised.trans dropped
  exact ⟨both.config, both.host, both.folder⟩

theorem lines_sendByte (p : ParallelInterface) (idle : UInt8) (now : Nat) (byte : UInt8) :
    (sendByte idle now p byte).lines = ⟨byte, idle⟩ := by
  have raised := congrArg Lines.data
    (lines_writeControl (p.writeData byte) now (idle ||| strobe))
  have dropped := lines_writeControl
    ((p.writeData byte).writeControl now (idle ||| strobe)) now idle
  rw [sendByte, readStatus_eq]
  exact dropped.trans (congrArg (Lines.mk · idle) raised)

theorem sameSettings_step (p : ParallelInterface) (access : Access) :
    SameSettings p (p.step access) := by
  cases access with
  | writeControl now value => exact sameSettings_writeControl p now value
  | readStatus =>
    change SameSettings p p.readStatus.1
    rw [readStatus_eq]
    exact ⟨rfl, rfl, rfl⟩
  | poll now =>
    change SameSettings p (p.poll now).1
    rw [poll_eq]
    exact ⟨rfl, rfl, rfl⟩
  | send now bytes =>
    have all (idle : UInt8) : SameSettings p (bytes.foldl (sendByte idle now) p) := by
      induction bytes generalizing p with
      | nil => exact .refl p
      | cons byte rest ih => exact (sameSettings_sendByte p idle now byte).trans (ih _)
    exact all _
  | _ => exact ⟨rfl, rfl, rfl⟩

theorem sameSettings_run (p : ParallelInterface) (accesses : List Access) :
    SameSettings p (p.run accesses) := by
  induction accesses generalizing p with
  | nil => exact .refl p
  | cons access rest ih => exact (sameSettings_step p access).trans (ih _)

theorem lines_foldl_sendByte (p : ParallelInterface) (idle : UInt8) (now : Nat)
    (bytes : List UInt8) :
    (bytes.foldl (sendByte idle now) p).lines =
      match bytes.getLast? with
      | some byte => ⟨byte, idle⟩
      | none => p.lines := by
  induction bytes generalizing p with
  | nil => rfl
  | cons byte rest ih =>
    rw [List.foldl_cons, ih, List.getLast?_cons]
    cases rest.getLast? with
    | none => exact lines_sendByte p idle now byte
    | some last => rfl

theorem lines_step (p : ParallelInterface) (access : Access) :
    (p.step access).lines = p.lines.next access := by
  cases access with
  | writeControl now value => exact lines_writeControl p now value
  | readStatus =>
    change p.readStatus.1.lines = p.lines
    rw [readStatus_eq]
    rfl
  | poll now =>
    change (p.poll now).1.lines = p.lines
    rw [poll_eq]
    rfl
  | send now bytes => exact lines_foldl_sendByte p _ now bytes
  | _ => rfl

theorem lines_run (p : ParallelInterface) (accesses : List Access) :
    (p.run accesses).lines = accesses.foldl Lines.next p.lines := by
  induction accesses generalizing p with
  | nil => rfl
  | cons access rest ih =>
    rw [List.foldl_cons, ← lines_step]
    exact ih _

end ParallelInterface

end PinPrinter
