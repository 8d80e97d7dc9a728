import PinPrinter.Proofs.Printer.Restart
import PinPrinter.Proofs.Stream.Turn

/-! # Control of the highest bit

The highest bit of a byte is forced before the byte is read, so it is also forced in the commands
that control it. A bit that is forced to 0 leaves every command as it is, and `ESC #` ends it. A bit
that is forced to 1 leaves none: no opcode is above 7Fh. Characters and control codes are all that
can be printed then, and no byte ever ends it.
-/

namespace PinPrinter

/-! ## Bytes from 80h on -/

/-- No command has an opcode from 80h on. -/
theorem Command.layout?_of_upper {c : Command} (least : 0x80 ≤ c.opcode) : c.layout? = none := by
  have unlisted : c.row? = none := by
    apply List.find?_eq_none.mpr
    intro row listed same
    have low : ∀ row ∈ table, row.command.opcode < 0x80 := by decide +kernel
    have equal : row.command = c := of_decide_eq_true same
    exact absurd (equal ▸ low row listed) (UInt8.not_lt.mpr least)
  rw [layout?, unlisted]
  rfl

namespace Reader

variable {r next : Reader} {byte : UInt8} {action : Option Action}

/-- The reader has no opcode yet. -/
def BeforeOpcode (r : Reader) : Prop :=
  r.phase = .idle ∨ r.phase = .escape ∨ r.phase = .fileSeparator

theorem start_of_upper (introducer : Introducer) (least : 0x80 ≤ byte) :
    start ⟨introducer, byte⟩ = (.idle, none) := by
  rw [start, Command.layout?_of_upper least]

theorem beforeOpcode_takeIdle (idle : r.phase = .idle) (byte : UInt8) :
    (r.takeIdle byte).1.BeforeOpcode := by
  unfold takeIdle
  dsimp only
  generalize (r.upperControl && (decide (0x80 ≤ byte) && decide (byte ≤ 0x9F))) = upper
  generalize (if upper = true then byte &&& 0x7F else byte) = code
  split
  · exact .inl idle
  · split
    · exact .inr (.inl rfl)
    · split
      · exact .inr (.inr rfl)
      · cases Control.ofByte? code <;> exact .inl idle

/-- Bytes from 80h on complete no command. -/
theorem feed_of_upper (before : r.BeforeOpcode) (least : 0x80 ≤ byte)
    (read : r.feed byte = (next, action)) :
    next.BeforeOpcode ∧ ∀ c params, action ≠ some (.command c params) := by
  rcases before with idle | escaped | separated
  · have turn := turn_feed r byte
    rw [read] at turn
    constructor
    · have taken : (r.takeIdle byte).1 = next := by
        rw [feed, idle] at read
        exact congrArg Prod.fst read
      exact taken ▸ beforeOpcode_takeIdle idle byte
    · intro c params means
      exact (turn.command c params means).1 idle
  · have other : byte ≠ Command.extension := by
      rintro rfl
      exact absurd least (by decide)
    rw [feed, escaped] at read
    simp only [if_neg other, start_of_upper _ least] at read
    obtain ⟨rfl, rfl⟩ := Prod.mk.inj read
    exact ⟨.inl rfl, fun _ _ => (Option.some_ne_none _).symm⟩
  · rw [feed, separated] at read
    simp only [start_of_upper _ least] at read
    obtain ⟨rfl, rfl⟩ := Prod.mk.inj read
    exact ⟨.inl rfl, fun _ _ => (Option.some_ne_none _).symm⟩

end Reader

/-! ## A bit that is forced to 1 -/

theorem Registers.msb_control (r : Registers) (autofeed : Bool) (code : Control) :
    (r.control autofeed code).msb = r.msb := by
  have ended : r.endLine.msb = r.msb := by
    unfold endLine
    split <;> rfl
  cases code with
  | verticalTab => exact ended
  | formFeed => exact ended
  | lineFeed => exact ended
  | carriageReturn =>
    cases autofeed with
    | false => rfl
    | true => exact ended
  | shiftOut =>
    change r.beginWideLine.msb = r.msb
    unfold beginWideLine
    split <;> rfl
  | shiftIn =>
    change r.beginCondensed.msb = r.msb
    unfold beginCondensed
    split <;> rfl
  | _ => rfl

namespace Interpreter

/-- The highest bit is forced to 1, and no command has been begun before that. -/
structure ForcedUp (i : Interpreter) : Prop where
  msb : i.registers.msb = some true
  reader : i.reader.BeforeOpcode

/-- No byte ends it: each one arrives as one from 80h on. -/
theorem ForcedUp.receive {i : Interpreter} (forced : ForcedUp i) (autofeed : Bool) (byte : UInt8) :
    ForcedUp (i.receive autofeed byte).1 := by
  have least : 0x80 ≤ i.registers.forceMsb byte := by
    rw [Registers.forceMsb, forced.msb, UInt8.le_iff_toNat_le, UInt8.toNat_or]
    exact Nat.right_le_or
  rcases fed : i.reader.feed (i.registers.forceMsb byte) with ⟨reader, _ | action⟩
  · rw [receive_silent fed]
    exact ⟨forced.msb, (Reader.feed_of_upper forced.reader least fed).1⟩
  · obtain ⟨before, noCommand⟩ := Reader.feed_of_upper forced.reader least fed
    rw [receive_action fed]
    cases action with
    | command c params => exact absurd rfl (noCommand c params)
    | control code => exact ⟨(Registers.msb_control ..).trans forced.msb, before⟩
    | tabs axis stops => cases axis <;> exact ⟨forced.msb, before⟩
    | print byte => exact ⟨forced.msb, before⟩
    | payload c data => exact ⟨forced.msb, before⟩
    | column bytes => exact ⟨forced.msb, before⟩

/-- After `ESC`, the byte `#` cancels. -/
theorem receive_cancelMsb {i : Interpreter} (idle : i.reader.phase = .idle)
    (low : i.registers.msb ≠ some true) (autofeed : Bool) :
    ({ i with reader := { i.reader with phase := .escape } } : Interpreter).receive autofeed 0x23 =
      ({ i with registers.msb := none }, some (.command ⟨.esc, 0x23⟩ #[])) := by
  simp only [receive, Registers.forceMsb_of_and low (rfl : (0x23 : UInt8) &&& 0x7F = 0x23)]
  obtain ⟨⟨phase, literal, upper⟩, registers, image⟩ := i
  obtain rfl : phase = .idle := idle
  rfl

end Interpreter

namespace Printer

variable {p : Printer}

/-- Once the highest bit is forced to 1, only a reset at the panel ends it. -/
theorem forcedUp_run (forced : p.interpreter.ForcedUp) {events : List Event}
    (notReset : ∀ event ∈ events, event ≠ .reset ∧ event ≠ .resetHard) :
    (p.run events).interpreter.ForcedUp := by
  induction events generalizing p with
  | nil => exact forced
  | cons event rest ih =>
    refine ih ?_ fun later member => notReset later (List.mem_cons_of_mem _ member)
    obtain ⟨soft, hard⟩ := notReset event (List.mem_cons_self ..)
    rw [interpreter_step]
    cases event with
    | byte now byte => exact forced.receive p.autofeed byte
    | reset => exact absurd rfl soft
    | resetHard => exact absurd rfl hard
    | formFeed => exact forced
    | poll now => exact forced
    | finish => exact forced
    | autofeed on => exact forced
    | acknowledge => exact forced

/-! ## Cancelling -/

/-- The bytes of the command that ends the control of the highest bit. -/
def cancelMsb (first second : Nat) : List Event :=
  [.byte first 0x1B, .byte second 0x23]

/-- A bit that is not forced to 1 leaves the command as it is. -/
theorem run_cancelMsb (idle : p.interpreter.reader.phase = .idle)
    (literal : p.interpreter.reader.literal = 0) (low : p.registers.msb ≠ some true)
    (first second : Nat) :
    let q := p.run (cancelMsb first second)
    q.interpreter = { p.interpreter with registers.msb := none } ∧ q.paper = p.paper := by
  have escaped := step_silent (Interpreter.receive_escape idle literal low p.autofeed) first
  have received : (p.step (.byte first 0x1B)).interpreter.receive
      (p.step (.byte first 0x1B)).autofeed 0x23 =
        ({ p.interpreter with registers.msb := none }, some (.command ⟨.esc, 0x23⟩ #[])) := by
    rw [escaped]
    exact Interpreter.receive_cancelMsb idle low p.autofeed
  have run : p.run (cancelMsb first second) =
      (p.step (.byte first 0x1B)).step (.byte second 0x23) := rfl
  rw [run, step_action received second, escaped]
  exact ⟨rfl, rfl⟩

/-- Between sequences `ESC #` ends the control of the highest bit, and does nothing else, exactly
where the bit is not forced to 1. Where it is, no bytes end it. -/
theorem cancelMsb_iff (idle : p.interpreter.reader.phase = .idle)
    (literal : p.interpreter.reader.literal = 0) (first second : Nat) :
    ((p.run (cancelMsb first second)).interpreter = { p.interpreter with registers.msb := none } ∧
        (p.run (cancelMsb first second)).paper = p.paper ↔ p.registers.msb ≠ some true) ∧
      (p.registers.msb = some true → ∀ events : List Event,
        (∀ event ∈ events, event ≠ .reset ∧ event ≠ .resetHard) →
          (p.run events).registers.msb = some true) := by
  have stuck (high : p.registers.msb = some true) (events : List Event)
      (notReset : ∀ event ∈ events, event ≠ .reset ∧ event ≠ .resetHard) :
      (p.run events).registers.msb = some true := by
    have forced : p.interpreter.ForcedUp := ⟨high, .inl idle⟩
    exact (forcedUp_run forced notReset).msb
  refine ⟨⟨?_, fun low => run_cancelMsb idle literal low first second⟩, stuck⟩
  rintro ⟨interpreter, -⟩ high
  have kept : (p.run (cancelMsb first second)).registers.msb = some true := by
    apply stuck high
    simp [cancelMsb]
  rw [registers, interpreter] at kept
  cases kept

/-- A bit that was forced to 0, with the bytes from 80h to 9Fh read as control codes. -/
theorem cancelMsb_iff_zero :
    let host : Host := { launch := fun _ _ => .error "no programs", date := "2024-02-29 12:30:00" }
    let p := (powerOn .letter host {}).run ([0x1B, 0x37, 0x1B, 0x3D].map (.byte 0))
    (p.interpreter.reader.phase = .idle ∧ p.interpreter.reader.literal = 0 ∧
        p.registers.msb = some false) ∧
      (p.run (cancelMsb 1 2)).interpreter = { p.interpreter with registers.msb := none } ∧
      (p.run (cancelMsb 1 2)).paper = p.paper := by
  intro host p
  have idle : p.interpreter.reader.phase = .idle := by decide +kernel
  have literal : p.interpreter.reader.literal = 0 := by decide +kernel
  have zero : p.registers.msb = some false := by decide +kernel
  have low : p.registers.msb ≠ some true := by rw [zero]; decide
  exact ⟨⟨idle, literal, zero⟩, (cancelMsb_iff idle literal 1 2).1.mpr low⟩

/-- A bit that was forced to 1 stays so. -/
theorem cancelMsb_refused :
    let host : Host := { launch := fun _ _ => .error "no programs", date := "2024-02-29 12:30:00" }
    let p := (powerOn .letter host {}).run ([0x1B, 0x3E].map (.byte 0))
    p.Reachable ∧ (p.interpreter.reader.phase = .idle ∧ p.interpreter.reader.literal = 0) ∧
      (p.run (cancelMsb 1 2)).registers.msb = some true := by
  intro host p
  have reachable : p.Reachable := (Reachable.new (new_letter host {})).run _
  exact ⟨reachable, by decide +kernel, by decide +kernel⟩

end Printer

end PinPrinter
