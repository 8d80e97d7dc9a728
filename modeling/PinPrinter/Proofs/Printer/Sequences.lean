import PinPrinter.Proofs.Printer.Autofeed
import PinPrinter.Proofs.Printer.Inert

/-! # Sequences at a printer

A sequence does what it does with its last byte. The bytes before it only move the reader on, so the
printer goes from the state before the first byte to the one that the action of the sequence leaves.
-/

namespace PinPrinter

namespace Printer

variable {p : Printer}

/-- Bytes are taken as they come: no sequence is open, and none of them is literal or forced. -/
structure Ready (p : Printer) : Prop where
  idle : p.interpreter.reader.phase = .idle
  literal : p.interpreter.reader.literal = 0
  msb : p.registers.msb = none

theorem Ready.reader (ready : p.Ready) :
    p.interpreter.reader = { upperControl := p.interpreter.reader.upperControl } := by
  obtain ⟨idle, literal, -⟩ := ready
  rw [Reader.mk.injEq]
  exact ⟨idle, literal, rfl⟩

theorem run_job_append (p : Printer) (first second : List (Nat × UInt8)) :
    p.run (job (first ++ second)) = (p.run (job first)).run (job second) := by
  rw [job, List.map_append, run_append]
  rfl

/-- Bytes that mean nothing, and then one that ends a sequence, once they are forced: what the
sequence means is done, and nothing else. -/
theorem run_concat_of_forced {before : List (Nat × UInt8)} {middle final : Reader} {byte : UInt8}
    {action : Action} (silent : p.interpreter.reader.feedAll (p.forced before) = (middle, []))
    (ends : middle.feed (p.registers.forceMsb byte) = (final, some action)) (now : Nat) :
    let q := p.run (job (before ++ [(now, byte)]))
    q.interpreter =
        Interpreter.act { p.interpreter with reader := final } p.autofeed action ∧
      q.paper = p.paper.act q.registers q.interpreter.image p.autofeed action := by
  intro q
  obtain ⟨interpreter, paper⟩ : (p.run (job before)).interpreter = _ ∧
      (p.run (job before)).paper = p.paper := run_of_forced silent nofun
  have autofeed := autofeed_run_job p before
  have ran : q = (p.run (job before)).step (.byte now byte) :=
    run_job_append p before [(now, byte)]
  generalize p.run (job before) = m at interpreter paper autofeed ran
  have taken : m.interpreter.reader.feed (m.interpreter.registers.forceMsb byte) =
      (final, some action) := by
    rw [interpreter]
    exact ends
  have moved : ({ m.interpreter with reader := final } : Interpreter) =
      { p.interpreter with reader := final } := by
    rw [interpreter]
  rw [step_action (Interpreter.receive_action taken m.autofeed), moved, paper, autofeed] at ran
  rw [ran]
  exact ⟨rfl, rfl⟩

/-- Bytes that mean nothing, and then one that ends a sequence: what the sequence means is done, and
nothing else. -/
theorem run_concat_of_action (msb : p.registers.msb = none) {before : List (Nat × UInt8)}
    {middle final : Reader} {byte : UInt8} {action : Action}
    (silent : p.interpreter.reader.feedAll (before.map Prod.snd) = (middle, []))
    (ends : middle.feed byte = (final, some action)) (now : Nat) :
    let q := p.run (job (before ++ [(now, byte)]))
    q.interpreter =
        Interpreter.act { p.interpreter with reader := final } p.autofeed action ∧
      q.paper = p.paper.act q.registers q.interpreter.image p.autofeed action := by
  rw [← forced_of_none msb] at silent
  rw [← Registers.forceMsb_of_none msb byte] at ends
  exact run_concat_of_forced silent ends now

end Printer

end PinPrinter
