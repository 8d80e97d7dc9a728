import PinPrinter.Proofs.Printer.Events
import PinPrinter.Proofs.Stream.Inert

/-! # Printing nothing

A printer that is between sequences passes over a sequence without effect as if it had not come: the
registers, the reader, the pen and the sheet stay as they are, and nothing is sent off. Were a byte
too few or too many passed over, what follows would be read as something else.
-/

namespace PinPrinter

variable {action : Action}

theorem Interpreter.act_of_withoutEffect (without : action.WithoutEffect) (i : Interpreter)
    (autofeed : Bool) : i.act autofeed action = i := by
  obtain ⟨c, params, rfl, nothing⟩ := without
  change i.obey (.ofCommand c params) = i
  rw [nothing]
  rfl

theorem Paper.act_of_withoutEffect (without : action.WithoutEffect) (p : Paper) (r : Registers)
    (density : Option BitImage.Density) (autofeed : Bool) :
    p.act r density autofeed action = p := by
  obtain ⟨c, params, rfl, nothing⟩ := without
  change p.obey r (.ofCommand c params) = p
  rw [nothing]
  rfl

theorem Registers.forceMsb_of_none {r : Registers} (msb : r.msb = none) (byte : UInt8) :
    r.forceMsb byte = byte := by
  rw [forceMsb, msb]

namespace Printer

variable {p : Printer}

/-- The bytes of a job as they reach the reader, as long as no command changes what is forced on
their highest bit. -/
def forced (p : Printer) (stamped : List (Nat × UInt8)) : List UInt8 :=
  stamped.map fun s => p.registers.forceMsb s.2

theorem forced_of_none (msb : p.registers.msb = none) (stamped : List (Nat × UInt8)) :
    p.forced stamped = stamped.map Prod.snd :=
  List.map_congr_left fun s _ => Registers.forceMsb_of_none msb s.2

/-- A byte that means nothing moves the reader on and changes nothing else. -/
theorem step_of_withoutEffect {byte : UInt8} {next : Reader} {action : Option Action}
    (fed : p.interpreter.reader.feed (p.registers.forceMsb byte) = (next, action))
    (without : ∀ a ∈ action, a.WithoutEffect) (now : Nat) :
    (p.step (.byte now byte)).interpreter = { p.interpreter with reader := next } ∧
      (p.step (.byte now byte)).paper = p.paper := by
  cases action with
  | none =>
    rw [step_silent (Interpreter.receive_silent fed p.autofeed)]
    exact ⟨rfl, rfl⟩
  | some action =>
    have nothing := without action rfl
    have received := Interpreter.receive_action fed p.autofeed
    rw [Interpreter.act_of_withoutEffect nothing] at received
    rw [step_action received]
    exact ⟨rfl, Paper.act_of_withoutEffect nothing ..⟩

/-- Bytes that mean nothing once they are forced move the reader on and change nothing else. -/
theorem run_of_forced {stamped : List (Nat × UInt8)} {final : Reader} {actions : List Action}
    (read : p.interpreter.reader.feedAll (p.forced stamped) = (final, actions))
    (without : ∀ action ∈ actions, action.WithoutEffect) :
    let q := p.run (stamped.map fun s => .byte s.1 s.2)
    q.interpreter = { p.interpreter with reader := final } ∧ q.paper = p.paper := by
  induction stamped generalizing p actions with
  | nil =>
    obtain ⟨rfl, -⟩ := Prod.mk.inj read
    exact ⟨rfl, rfl⟩
  | cons first rest ih =>
    obtain ⟨now, byte⟩ := first
    rcases fed : p.interpreter.reader.feed (p.registers.forceMsb byte) with ⟨next, action⟩
    rcases later : next.feedAll (p.forced rest) with ⟨last, others⟩
    have parts : p.forced ((now, byte) :: rest) = p.registers.forceMsb byte :: p.forced rest := rfl
    rw [parts, Reader.feedAll_cons_of fed later] at read
    obtain ⟨rfl, rfl⟩ := Prod.mk.inj read
    obtain ⟨interpreter, paper⟩ := step_of_withoutEffect fed
      (fun a member => without a (List.mem_append_left _ (Option.mem_toList.mpr member))) now
    have read' : (p.step (.byte now byte)).interpreter.reader.feedAll
        ((p.step (.byte now byte)).forced rest) = (last, others) := by
      rw [forced, registers, interpreter]
      exact later
    have step := ih read' fun a member => without a (List.mem_append_right _ member)
    rw [interpreter, paper] at step
    exact step

/-- Bytes that mean nothing move the reader on and change nothing else. -/
theorem run_of_withoutEffect {stamped : List (Nat × UInt8)} {final : Reader}
    {actions : List Action} (msb : p.registers.msb = none)
    (read : p.interpreter.reader.feedAll (stamped.map Prod.snd) = (final, actions))
    (without : ∀ action ∈ actions, action.WithoutEffect) :
    let q := p.run (stamped.map fun s => .byte s.1 s.2)
    q.interpreter = { p.interpreter with reader := final } ∧ q.paper = p.paper := by
  rw [← forced_of_none msb] at read
  exact run_of_forced read without

/-- A sequence without effect leaves a printer between sequences as it is: interpreter, sheet, pen,
and everything that was sent off. -/
theorem run_inert (idle : p.interpreter.reader.phase = .idle)
    (literal : p.interpreter.reader.literal = 0) (msb : p.registers.msb = none)
    {stamped : List (Nat × UInt8)} (inert : Inert (stamped.map Prod.snd)) :
    let q := p.run (stamped.map fun s => .byte s.1 s.2)
    q.interpreter = p.interpreter ∧ q.paper = p.paper := by
  obtain ⟨config, ⟨⟨phase, count, upper⟩, registers, image⟩, paper, timer, autofeed, waiting⟩ := p
  obtain rfl : phase = .idle := idle
  obtain rfl : count = 0 := literal
  obtain ⟨actions, read, without⟩ := Reader.feedAll_inert upper inert
  exact run_of_withoutEffect msb read without

/-- Data that looks like a form feed and a reset, behind a count of three and in the pattern of the
second of two characters, the first of which has no columns. -/
theorem run_inert_letter :
    let host : Host := { launch := fun _ _ => .error "no programs", date := "2024-02-29 12:30:00" }
    let p := (powerOn .letter host {}).run [.byte 0 0x0E, .byte 0 0x41, .autofeed true]
    let skipped : List (Nat × UInt8) :=
      [0x1B, 0x28, 0x7A, 0x03, 0x00, 0x0C, 0x1B, 0x40].map fun byte => (1, byte)
    let defined : List (Nat × UInt8) :=
      [0x1B, 0x26, 0x00, 0x61, 0x62, 0x00, 0x00, 0x00, 0x00, 0x01, 0x00, 0x0C, 0x1B, 0x40].map
        fun byte => (2, byte)
    (p.interpreter.reader.phase = .idle ∧ p.interpreter.reader.literal = 0 ∧
        p.registers.msb = none) ∧
      (p.run (skipped.map fun s => .byte s.1 s.2)).interpreter = p.interpreter ∧
      (p.run (defined.map fun s => .byte s.1 s.2)).paper.sheet = p.paper.sheet := by
  intro host p skipped defined
  have idle : p.interpreter.reader.phase = .idle := by decide +kernel
  have literal : p.interpreter.reader.literal = 0 := by decide +kernel
  have msb : p.registers.msb = none := by decide +kernel
  have counted : Inert (skipped.map Prod.snd) :=
    .skipped ⟨.extended, 0x7A⟩ [0x0C, 0x1B, 0x40] rfl (by decide +kernel) (by decide)
  have ranged : Inert (defined.map Prod.snd) :=
    .characters 0x00 0x61 0x62 [⟨0x00, 0x00, 0x00, [], rfl⟩,
      ⟨0x00, 0x01, 0x00, [0x0C, 0x1B, 0x40], rfl⟩] rfl
  exact ⟨⟨idle, literal, msb⟩, (run_inert idle literal msb counted).1,
    congrArg Paper.sheet (run_inert idle literal msb ranged).2⟩

end Printer

end PinPrinter
