import PinPrinter.Proofs.Printer.Reachable
import PinPrinter.Proofs.Registers.Background
import PinPrinter.Proofs.Stream.Turn

/-! # Reader and registers stay in step

The reader and the rest of the interpreter are changed apart from each other, yet they agree: on
what the bytes from 80h to 9Fh mean, on literal bytes, and on the number of bytes that the columns
of an image have.
-/

namespace PinPrinter

namespace BitImage

/-- The columns of every density have as many bytes as a reader can collect. -/
theorem Density.columnBytes_bounds {m : UInt8} {d : Density}
    (known : Density.ofNumber? m = some d) :
    1 ≤ d.columnBytes ∧ d.columnBytes ≤ Reader.maxColumnBytes := by
  unfold Density.ofNumber? at known
  split at known <;> cases known <;> decide

/-- The bytes of a column; columns of an unknown density have one. -/
def columnBytes (density : Option Density) : Nat :=
  (density.map (·.columnBytes)).getD 1

theorem columnBytes_bounds (m : UInt8) :
    1 ≤ columnBytes (Density.ofNumber? m) ∧
      columnBytes (Density.ofNumber? m) ≤ Reader.maxColumnBytes := by
  cases known : Density.ofNumber? m with
  | none => decide
  | some d => exact Density.columnBytes_bounds known

end BitImage

namespace Interpreter

/-- Reader and registers are in step. -/
structure Coherent (i : Interpreter) : Prop where
  upper : i.reader.upperControl = !i.registers.printUpper
  literal : 0 < i.reader.literal → i.reader.phase = .idle
  image : ∀ columnBytes, i.reader.phase.columnBytes? = some columnBytes →
    columnBytes = BitImage.columnBytes i.image

variable {i : Interpreter}

theorem coherent_withRegisters (r : Registers) : Coherent (withRegisters r) where
  upper := rfl
  literal positive := absurd positive (Nat.lt_irrefl 0)
  image _ inside := nomatch inside

/-- Registers can change as long as the bytes from 80h to 9Fh keep their meaning. -/
theorem Coherent.setRegisters (coherent : Coherent i) {r : Registers}
    (same : r.printUpper = i.registers.printUpper) : Coherent { i with registers := r } where
  upper := by rw [coherent.upper, same]
  literal := coherent.literal
  image := coherent.image

/-- Whatever a byte means, the reader stays in step. -/
theorem Coherent.turn (coherent : Coherent i) {next : Reader} {action : Option Action}
    (turn : Reader.Turn i.reader next action) : Coherent { i with reader := next } where
  upper := by rw [turn.upper, coherent.upper]
  literal := turn.literal coherent.literal
  image columnBytes inside := by
    rcases turn.image with outside | same
    · rw [outside] at inside
      cases inside
    · exact coherent.image columnBytes (same ▸ inside)

/-- An image is begun between sequences. Where it has no columns the reader stays there. -/
theorem Coherent.beginImage (coherent : Coherent i) (idle : i.reader.phase = .idle)
    (literal : i.reader.literal = 0) (source : DensitySource) (columns : Nat) :
    Coherent (i.beginImage source columns) := by
  obtain ⟨least, most⟩ := BitImage.columnBytes_bounds (densityNumber i.registers source)
  have begun : (i.beginImage source columns).reader =
      i.reader.beginImage columns (BitImage.columnBytes (i.beginImage source columns).image) := rfl
  have image : (i.beginImage source columns).image =
      BitImage.Density.ofNumber? (densityNumber i.registers source) := rfl
  rw [← image] at least most
  by_cases empty : columns = 0
  · rw [Reader.beginImage, if_pos empty] at begun
    constructor
    · rw [begun]
      exact coherent.upper
    · rw [begun]
      exact coherent.literal
    · rw [begun, idle]
      intro columnBytes inside
      cases inside
  · rw [Reader.beginImage_of_fits i.reader empty least most] at begun
    constructor
    · rw [begun]
      exact coherent.upper
    · rw [begun]
      intro positive
      exact absurd literal (Nat.ne_of_gt positive)
    · rw [begun]
      intro columnBytes inside
      exact (Option.some.inj inside).symm

/-- A complete command is obeyed between sequences. -/
theorem Coherent.obey (coherent : Coherent i) (idle : i.reader.phase = .idle)
    (literal : i.reader.literal = 0) (instruction : Instruction) :
    Coherent (i.obey instruction) := by
  cases instruction with
  | restart => exact coherent_withRegisters _
  | printNext => exact ⟨coherent.upper, fun _ => idle, coherent.image⟩
  | printUpper on => exact ⟨rfl, coherent.literal, coherent.image⟩
  | image source columns => exact coherent.beginImage idle literal source columns
  | _ => exact coherent.setRegisters (Registers.printUpper_obey _ _ nofun nofun)

theorem Coherent.receive (coherent : Coherent i) (autofeed : Bool) (byte : UInt8) :
    Coherent (i.receive autofeed byte).1 := by
  have turn := Reader.turn_feed i.reader (i.registers.forceMsb byte)
  rcases fed : i.reader.feed (i.registers.forceMsb byte) with ⟨next, _ | action⟩
  · rw [fed] at turn
    rw [receive_silent fed]
    exact coherent.turn turn
  · rw [fed] at turn
    rw [receive_action fed]
    have turned := coherent.turn turn
    cases action with
    | control code => exact turned.setRegisters (Registers.printUpper_control ..)
    | command c params =>
      -- A command ends a sequence, and within one no literal bytes are left.
      obtain ⟨busy, idle, same⟩ := turn.command c params rfl
      have literal : i.reader.literal = 0 := by
        apply Nat.eq_zero_of_not_pos
        intro positive
        exact busy (coherent.literal positive)
      exact turned.obey idle (same.trans literal) _
    | tabs axis stops => exact turned.setRegisters (Registers.printUpper_setTabs ..)
    | print byte => exact turned
    | payload c data => exact turned
    | column bytes => exact turned

/-- A column has as many bytes as its density asks for. -/
theorem Coherent.size_of_column (coherent : Coherent i) {autofeed : Bool} {byte : UInt8}
    {next : Interpreter} {bytes : Array UInt8}
    (received : i.receive autofeed byte = (next, some (.column bytes))) :
    bytes.size = BitImage.columnBytes next.image := by
  have turn := Reader.turn_feed i.reader (i.registers.forceMsb byte)
  rcases fed : i.reader.feed (i.registers.forceMsb byte) with ⟨reader, _ | action⟩
  · rw [receive_silent fed] at received
    cases received
  · rw [receive_action fed] at received
    rw [fed] at turn
    obtain ⟨rfl, equal⟩ := Prod.mk.inj received
    obtain rfl := Option.some.inj equal
    exact coherent.image _ (turn.column bytes rfl)

end Interpreter

namespace Printer

theorem Reachable.coherent {p : Printer} (reachable : Reachable p) : p.interpreter.Coherent := by
  apply reachable.interpreter
  · intro width height
    exact Interpreter.coherent_withRegisters _
  · intro i autofeed byte coherent
    exact coherent.receive autofeed byte
  · intro i _
    exact Interpreter.coherent_withRegisters _

/-- In a reachable printer the bytes from 80h to 9Fh are read as control codes exactly where they
are not printed, and literal bytes come between sequences only. The columns of an image have as many
bytes as its density asks for, one where it is not known, and so has every column that is printed.
-/
theorem coherent_of_reachable {p : Printer} (reachable : Reachable p) :
    (p.interpreter.reader.upperControl = !p.registers.printUpper ∧
      ∀ byte, 0x80 ≤ byte → byte ≤ 0x9F → p.interpreter.reader.phase = .idle →
        p.interpreter.reader.literal = 0 →
          ((∃ printed, (p.interpreter.reader.feed byte).2 = some (.print printed)) ↔
            p.registers.printUpper = true)) ∧
    (0 < p.interpreter.reader.literal → p.interpreter.reader.phase = .idle) ∧
    (∀ remaining columnBytes column,
      p.interpreter.reader.phase = .image remaining columnBytes column →
        (∃ density, p.interpreter.image = some density ∧ density.columnBytes = columnBytes) ∨
          (p.interpreter.image = none ∧ columnBytes = 1)) ∧
    ∀ byte next bytes density,
      p.interpreter.receive p.autofeed byte = (next, some (.column bytes)) →
        next.image = some density → bytes.size = density.columnBytes := by
  have coherent := reachable.coherent
  refine ⟨⟨coherent.upper, ?_⟩, coherent.literal, ?_, ?_⟩
  · intro byte least most idle literal
    rw [Reader.feed_upper idle literal least most, coherent.upper]
    exact Iff.of_eq (Bool.not_eq_false' _)
  · intro remaining columnBytes column inside
    have agreed := coherent.image columnBytes (by rw [inside]; rfl)
    cases known : p.interpreter.image with
    | some density =>
      rw [known] at agreed
      exact .inl ⟨density, rfl, agreed.symm⟩
    | none =>
      rw [known] at agreed
      exact .inr ⟨rfl, agreed⟩
  · intro byte next bytes density received known
    have size := coherent.size_of_column received
    rw [known] at size
    exact size

/-- A printer in the middle of an image of a density that was reassigned, the one before it having
been cut off by a reset. -/
theorem coherent_of_reachable_letter :
    let host : Host := { launch := fun _ _ => .error "no programs", date := "2024-02-29 12:30:00" }
    let bytes : List UInt8 := [0x1B, 0x3F, 0x4B, 0x27, 0x1B, 0x4B, 0x02, 0x00, 0x01]
    let events : List Event := bytes.map (.byte 0) ++ [.poll 1, .reset] ++
      (bytes.map (.byte 2) ++ [.formFeed, .acknowledge])
    let p := (powerOn .letter host {}).run events
    p.Reachable ∧ p.interpreter.reader.phase = .image 5 3 #[1] ∧
      ∃ density, p.interpreter.image = some density ∧ density.columnBytes = 3 := by
  intro host bytes events p
  have reachable : p.Reachable := (Reachable.new (new_letter host {})).run events
  have inside : p.interpreter.reader.phase = .image 5 3 #[1] := by decide +kernel
  refine ⟨reachable, inside, ?_⟩
  rcases (coherent_of_reachable reachable).2.2.1 _ _ _ inside with known | ⟨-, single⟩
  · exact known
  · exact absurd single (by decide)

end Printer

end PinPrinter
