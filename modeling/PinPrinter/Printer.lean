import PinPrinter.Printer.Execution

/-! # The printer

A printer takes bytes from the host and prints what they ask for, and a timer ejects a sheet when
the host has been silent for a while. Everything that can happen to it is an event.
-/

namespace PinPrinter

namespace Printer

/-- The printer as it is switched on, for an accepted configuration. -/
def powerOn (config : Config) (host : Host) (folder : Folder) : Printer :=
  let interpreter := Interpreter.powerOn config.widthInches config.heightInches
  { config := config
    interpreter := interpreter
    paper :=
      { sheet := .blank config.widthPixels config.heightPixels config.dpi.toNat
        pen := interpreter.registers.home
        glyphs := { dpi := config.dpi.toNat, face := host.face config.fontpath }
        outbox := { config := config, host := host, folder := folder } }
    timer := .new config.timeout? }

/-- Switch a printer on, if its configuration is accepted. -/
def new (config : Config) (host : Host) (folder : Folder) : Except Error Printer :=
  config.validate.map fun config => powerOn config host folder

/-- Take a byte from the host at a time. -/
@[irreducible]
def receive (p : Printer) (now : Nat) (byte : UInt8) : Printer :=
  match p with
  | ⟨config, ⟨reader, registers, image⟩, paper, timer, autofeed, _⟩ =>
    let (reader, action) := reader.feed (registers.forceMsb byte)
    let p : Printer := ⟨config, ⟨reader, registers, image⟩, paper, timer, autofeed, true⟩
    let p := match action with
      | some action => p.execute action
      | none => p
    { p with timer := p.timer.arm now }

/-- Take a block of bytes. -/
def receiveAll (p : Printer) (now : Nat) (bytes : List UInt8) : Printer :=
  bytes.foldl (fun p byte => p.receive now byte) p

/-- A reset by the host's line, which also forgets a byte that was not acknowledged. -/
def resetHard (p : Printer) : Printer :=
  { p with unacknowledged := false }.reset

/-- Whether a line feed follows every carriage return. -/
def setAutofeed (p : Printer) (on : Bool) : Printer :=
  { p with autofeed := on }

/-- Acknowledge the latest byte; it is acknowledged once. -/
def acknowledge (p : Printer) : Printer × Bool :=
  ({ p with unacknowledged := false }, p.unacknowledged)

/-- Whether the printer is busy, which it never is. -/
def busy (_ : Printer) : Bool :=
  false

/-- Finish the document or job that is open. -/
def finish (p : Printer) : Printer :=
  { p with paper := p.paper.finish }

/-- Eject the sheet, if anything is on it, and finish the document or job that is open. -/
def formFeed (p : Printer) : Printer :=
  ({ p with timer := p.timer.disarm }.newSheet true true).finish

/-- Ask the timer; when it goes off the sheet is ejected. -/
def poll (p : Printer) (now : Nat) : Printer × Bool :=
  match p.timer.expire now with
  | (timer, true) => ({ p with timer := timer }.formFeed, true)
  | (timer, false) => ({ p with timer := timer }, false)

/-- What can happen to a printer. -/
inductive Event where
  | byte (now : Nat) (byte : UInt8)
  | formFeed
  | reset
  | resetHard
  | poll (now : Nat)
  | finish
  | autofeed (on : Bool)
  | acknowledge
  deriving DecidableEq, Repr

/-- The printer after an event. -/
def step (p : Printer) : Event → Printer
  | .byte now byte => p.receive now byte
  | .formFeed => p.formFeed
  | .reset => p.reset
  | .resetHard => p.resetHard
  | .poll now => (p.poll now).1
  | .finish => p.finish
  | .autofeed on => p.setAutofeed on
  | .acknowledge => p.acknowledge.1

/-- The printer after some events. -/
def run (p : Printer) (events : List Event) : Printer :=
  events.foldl step p

end Printer

end PinPrinter
