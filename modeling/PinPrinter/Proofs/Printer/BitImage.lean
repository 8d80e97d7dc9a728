import Mathlib.Logic.Function.Iterate
import PinPrinter.Proofs.Filling
import PinPrinter.Proofs.Printer.Coherence
import PinPrinter.Proofs.Printer.Sequences
import PinPrinter.Proofs.Stream.Parts

/-! # Bit images

An image command announces a number of columns, and the density behind it says how many bytes each
of them has. All of these bytes are dots, whatever their values: none of them is taken for the start
of a command, and the first byte that is read as something else is the one behind the last column.
-/

namespace PinPrinter

/-! ## The commands -/

/-- A bit image command. -/
inductive ImageCommand where
  /-- `ESC *`, with the density as its first parameter. -/
  | given (density : UInt8)
  /-- `ESC K`, `ESC L`, `ESC Y` and `ESC Z`, whose densities can be reassigned. -/
  | assigned (key : DensityKey)
  /-- `FS Z` -/
  | fine
  deriving DecidableEq, Repr

namespace ImageCommand

def command : ImageCommand → Command
  | given _ => ⟨.esc, '*'.toUInt8⟩
  | assigned .k => ⟨.esc, 'K'.toUInt8⟩
  | assigned .l => ⟨.esc, 'L'.toUInt8⟩
  | assigned .y => ⟨.esc, 'Y'.toUInt8⟩
  | assigned .z => ⟨.esc, 'Z'.toUInt8⟩
  | fine => ⟨.fs, 'Z'.toUInt8⟩

/-- The parameters of a command, the last two of which count the columns. -/
def params (image : ImageCommand) (columns : Nat) : List UInt8 :=
  match image with
  | given density => density :: Bytes.littleEndian 2 columns
  | assigned _ | fine => Bytes.littleEndian 2 columns

def bytes (image : ImageCommand) (columns : Nat) : List UInt8 :=
  image.command.bytes ++ image.params columns

/-- Where the density of a command comes from. -/
def source : ImageCommand → DensitySource
  | given density => .given density
  | assigned key => .assigned key
  | fine => .given 40

/-- The density that a command has under some registers, if it is a known one. -/
def density? (image : ImageCommand) (r : Registers) : Option BitImage.Density :=
  BitImage.Density.ofNumber? (Interpreter.densityNumber r image.source)

variable (image : ImageCommand)

theorem simple_command : image.command.introducer ≠ .extended ∧
    (image.command.introducer = .esc → image.command.opcode ≠ Command.extension) ∧
    image.command ≠ Command.pageLength := by
  cases image with
  | given density =>
    dsimp only [command]
    decide
  | assigned key => cases key <;> decide
  | fine => decide

theorem layout?_command (columns : Nat) :
    image.command.layout? = some (.fixed (image.params columns).length) := by
  cases image with
  | given density =>
    exact (by decide +kernel : Command.layout? ⟨.esc, '*'.toUInt8⟩ = some (.fixed 3))
  | assigned key =>
    cases key <;> simp only [params, Bytes.length_littleEndian, command] <;> decide +kernel
  | fine => exact (by decide +kernel : Command.layout? ⟨.fs, 'Z'.toUInt8⟩ = some (.fixed 2))

theorem ofCommand_params {columns : Nat} (short : columns < 65536) :
    Instruction.ofCommand image.command (image.params columns).toArray =
      .image image.source columns := by
  have count := Command.word_littleEndian short
  cases image with
  | given density =>
    have behind : Command.word (density :: Bytes.littleEndian 2 columns).toArray 1 =
        Command.word (Bytes.littleEndian 2 columns).toArray 0 := rfl
    exact congrArg (Instruction.image (.given density)) (behind.trans count)
  | assigned key =>
    cases key with
    | k => exact congrArg (Instruction.image (.assigned .k)) count
    | l => exact congrArg (Instruction.image (.assigned .l)) count
    | y => exact congrArg (Instruction.image (.assigned .y)) count
    | z => exact congrArg (Instruction.image (.assigned .z)) count
  | fine => exact congrArg (Instruction.image (.given 40)) count

theorem feedAll_bytes (upper : Bool) (columns : Nat) :
    ({ upperControl := upper } : Reader).feedAll (image.bytes columns) =
      ({ upperControl := upper }, [.command image.command (image.params columns).toArray]) := by
  obtain ⟨-, plain, notLength⟩ := image.simple_command
  exact Reader.feedAll_fixed upper (image.layout?_command columns) plain fun whole =>
    notLength whole.1

theorem feedAll_take_bytes (upper : Bool) {columns k : Nat} (begun : 0 < k)
    (more : k < (image.bytes columns).length) :
    ∃ phase, phase ≠ .idle ∧
      ({ upperControl := upper } : Reader).feedAll ((image.bytes columns).take k) =
        ({ phase := phase, upperControl := upper }, []) := by
  obtain ⟨simple, plain, -⟩ := image.simple_command
  exact Reader.feedAll_take_fixed upper (image.layout?_command columns) simple plain begun more

end ImageCommand

/-! ## The paper below an image -/

namespace Paper

variable {p q : Paper} {r : Registers} {density : Option BitImage.Density} {columns : Nat}

/-- What so many columns of an image make of a paper. Those of an unknown density are dropped. -/
def Imaged (p : Paper) (r : Registers) (density : Option BitImage.Density) (columns : Nat)
    (q : Paper) : Prop :=
  match density with
  | none => q = p
  | some d =>
    q = { p with sheet := q.sheet, pen := ⟨(· + d.columnWidth)^[columns] p.pen.x, p.pen.y⟩ } ∧
      Sheet.Filled r.ink p.sheet q.sheet

theorem imaged_zero (p : Paper) (r : Registers) (density : Option BitImage.Density) :
    p.Imaged r density 0 p := by
  cases density with
  | none => exact rfl
  | some d => exact ⟨rfl, .refl r.ink p.sheet⟩

theorem Imaged.printColumn (imaged : p.Imaged r density columns q) (column : Array UInt8) :
    p.Imaged r density (columns + 1) (q.printColumn r density column) := by
  cases density with
  | none => exact imaged
  | some d =>
    obtain ⟨same, filled⟩ := imaged
    have further := Function.iterate_succ_apply' (· + d.columnWidth) columns p.pen.x
    constructor
    · rw [same, further]
      rfl
    · exact filled.trans (BitImage.filled_printColumn ..)

/-- No sheet is sent off below an image. -/
theorem Imaged.artifacts_eq (imaged : p.Imaged r density columns q) :
    q.artifacts = p.artifacts := by
  cases density with
  | none => exact congrArg Paper.artifacts imaged
  | some d =>
    obtain ⟨same, -⟩ := imaged
    rw [same]

theorem Imaged.pen_eq {d : BitImage.Density} (imaged : p.Imaged r (some d) columns q) :
    q.pen.x = (· + d.columnWidth)^[columns] p.pen.x := by
  obtain ⟨same, -⟩ := imaged
  rw [same]

end Paper

namespace Printer

variable {p : Printer}

/-! ## The command -/

section Command

variable {image : ImageCommand} {columns : Nat} {stamped : List (Nat × UInt8)}

/-- Before its last byte the command has changed nothing, and the reader waits for more of it. -/
theorem run_take_command (ready : p.Ready) (sent : stamped.map Prod.snd = image.bytes columns)
    {k : Nat} (begun : 0 < k) (more : k < stamped.length) :
    ∃ phase, phase ≠ .idle ∧
      p.interpreter.reader.feedAll ((image.bytes columns).take k) =
        ({ p.interpreter.reader with phase := phase }, []) ∧
      (p.run (job (stamped.take k))).interpreter =
        { p.interpreter with reader := { p.interpreter.reader with phase := phase } } ∧
      (p.run (job (stamped.take k))).paper = p.paper := by
  have inside : k < (image.bytes columns).length := by
    rw [← sent, List.length_map]
    exact more
  obtain ⟨phase, busy, read⟩ :=
    image.feedAll_take_bytes p.interpreter.reader.upperControl begun inside
  have stays : ({ phase := phase, upperControl := p.interpreter.reader.upperControl } : Reader) =
      { p.interpreter.reader with phase := phase } := by
    rw [ready.reader]
  rw [← ready.reader, stays] at read
  refine ⟨phase, busy, read, ?_⟩
  rw [← sent, ← List.map_take] at read
  exact run_of_withoutEffect ready.msb read nofun

/-- With its last byte the command expects the columns. -/
theorem run_command (ready : p.Ready) (few : columns < 65536)
    (sent : stamped.map Prod.snd = image.bytes columns) :
    let q := p.run (job stamped)
    q.interpreter = p.interpreter.beginImage image.source columns ∧ q.paper = p.paper := by
  have several : 1 < stamped.length := by
    rw [← List.length_map Prod.snd, sent, ImageCommand.bytes, List.length_append,
      Command.length_bytes image.simple_command.1]
    omega
  rcases List.eq_nil_or_concat stamped with rfl | ⟨before, ⟨now, byte⟩, rfl⟩
  · cases several
  · rw [List.concat_eq_append] at sent several ⊢
    rw [List.length_append] at several
    obtain ⟨phase, -, silent, -⟩ :=
      run_take_command ready sent (k := before.length) (by simpa using several) (by simp)
    have whole := image.feedAll_bytes p.interpreter.reader.upperControl columns
    rw [← ready.reader, ← sent, List.map_append] at whole
    rw [← sent, List.map_append, List.take_left' (List.length_map ..)] at silent
    obtain ⟨interpreter, paper⟩ :=
      run_concat_of_action ready.msb silent (Reader.feed_of_feedAll_concat silent whole) now
    constructor
    · refine interpreter.trans ?_
      change p.interpreter.obey (.ofCommand ..) = _
      rw [image.ofCommand_params few]
      rfl
    · refine paper.trans ?_
      change p.paper.obey _ (.ofCommand ..) = _
      rw [image.ofCommand_params few]
      rfl

end Command

/-! ## The columns -/

section Columns

variable {density : Option BitImage.Density} {columns more printed : Nat} {column : Array UInt8}
  {q : Printer}

/-- The second printer comes from the first one by a part of an image: some columns are printed, of
another one some bytes are collected, and `more` bytes of the image are to come. -/
structure Midway (p : Printer) (density : Option BitImage.Density) (columns more printed : Nat)
    (column : Array UInt8) (q : Printer) : Prop where
  reader : q.interpreter.reader =
    { phase := .imageLeft (BitImage.columnBytes density) more column
      upperControl := p.interpreter.reader.upperControl }
  registers : q.registers = p.registers
  image : q.interpreter.image = density
  short : column.size < BitImage.columnBytes density
  count : printed * BitImage.columnBytes density + column.size + more =
    columns * BitImage.columnBytes density
  paper : p.paper.Imaged p.registers density printed q.paper

theorem midway_command (ready : p.Ready) {image : ImageCommand} (few : columns < 65536)
    {stamped : List (Nat × UInt8)} (sent : stamped.map Prod.snd = image.bytes columns) :
    p.Midway (image.density? p.registers) columns
      (columns * BitImage.columnBytes (image.density? p.registers)) 0 #[]
      (p.run (job stamped)) := by
  obtain ⟨interpreter, paper⟩ := run_command ready few sent
  obtain ⟨least, most⟩ :=
    BitImage.columnBytes_bounds (Interpreter.densityNumber p.registers image.source)
  constructor
  · have begun :=
      Reader.beginImage_eq_imageLeft p.interpreter.reader.upperControl columns least most
    rw [← ready.reader] at begun
    rw [interpreter]
    exact begun
  · rw [registers, interpreter]
    rfl
  · rw [interpreter]
    rfl
  · exact least
  · simp
  · rw [paper]
    exact Paper.imaged_zero ..

/-- A byte is the last one of its column, or it is collected. -/
theorem Midway.step (midway : p.Midway density columns (more + 1) printed column q)
    (msb : p.registers.msb = none) (now : Nat) (byte : UInt8) :
    ∃ printed column, p.Midway density columns more printed column (q.step (.byte now byte)) := by
  obtain ⟨reader, registers, image, short, count, paper⟩ := midway
  have plain : q.interpreter.registers.forceMsb byte = byte := by
    apply Registers.forceMsb_of_none
    change q.registers.msb = none
    rw [registers]
    exact msb
  have read := Reader.feed_imageLeft p.interpreter.reader.upperControl
    (BitImage.columnBytes density) more column byte
  rw [← reader] at read
  have fed := (congrArg q.interpreter.reader.feed plain).trans read
  by_cases full : (column.push byte).size = BitImage.columnBytes density
  · rw [if_pos full] at fed
    rw [step_action (Interpreter.receive_action fed q.autofeed)]
    rw [Array.size_push] at full
    refine ⟨printed + 1, #[], rfl, registers, image, Nat.zero_lt_of_lt short, ?_, ?_⟩
    · rw [Array.size_empty, Nat.succ_mul]
      omega
    · change p.paper.Imaged p.registers density (printed + 1)
        (q.paper.printColumn q.registers q.interpreter.image (column.push byte))
      rw [registers, image]
      exact paper.printColumn (column.push byte)
  · rw [if_neg full] at fed
    rw [step_silent (Interpreter.receive_silent fed q.autofeed)]
    rw [Array.size_push] at full
    refine ⟨printed, column.push byte, rfl, registers, image, ?_, ?_, paper⟩
    · rw [Array.size_push]
      omega
    · rw [Array.size_push]
      omega

/-- The bytes of an image are taken one after the other, in the state that the one before left. -/
theorem Midway.run {stamped : List (Nat × UInt8)}
    (midway : p.Midway density columns (more + stamped.length) printed column q)
    (msb : p.registers.msb = none) :
    ∃ printed column, p.Midway density columns more printed column (q.run (job stamped)) := by
  induction stamped generalizing q printed column with
  | nil => exact ⟨printed, column, midway⟩
  | cons first rest ih =>
    obtain ⟨printed, column, next⟩ := midway.step msb first.1 first.2
    exact ih next

/-- While bytes of the image are to come, the reader waits for them. -/
theorem Midway.busy (midway : p.Midway density columns more printed column q) (left : more ≠ 0) :
    q.interpreter.reader.phase ≠ .idle := by
  rw [midway.reader]
  exact Phase.imageLeft_ne_idle left

/-- With no byte of the image to come, all of its columns are printed. -/
theorem Midway.printed_eq (midway : p.Midway density columns 0 printed column q) :
    printed = columns := by
  obtain ⟨-, -, -, short, count, -⟩ := midway
  have positive : 0 < BitImage.columnBytes density := Nat.zero_lt_of_lt short
  have least : printed * BitImage.columnBytes density ≤ columns * BitImage.columnBytes density := by
    omega
  have most : columns * BitImage.columnBytes density <
      (printed + 1) * BitImage.columnBytes density := by
    rw [Nat.succ_mul]
    omega
  exact Nat.le_antisymm (Nat.le_of_mul_le_mul_right least positive)
    (Nat.le_of_lt_succ (Nat.lt_of_mul_lt_mul_right most))

end Columns

/-! ## Whole images -/

/-- A bit image is exactly its command and the bytes of its columns. The reader is between sequences
again with the last of them, and not before; the bytes are printed as dots, whatever their values,
and do nothing else. -/
theorem run_image (ready : p.Ready) (image : ImageCommand) {columns : Nat} (few : columns < 65536)
    {payload : List UInt8} {stamped : List (Nat × UInt8)}
    (whole : payload.length = columns * BitImage.columnBytes (image.density? p.registers))
    (sent : stamped.map Prod.snd = image.bytes columns ++ payload) :
    let q := p.run (job stamped)
    (q.interpreter.reader = p.interpreter.reader ∧
      ∀ k, 0 < k → k < stamped.length →
        (p.run (job (stamped.take k))).interpreter.reader.phase ≠ .idle) ∧
    q.registers = p.registers ∧
    p.paper.Imaged p.registers (image.density? p.registers) columns q.paper := by
  obtain ⟨announced, dots, rfl, told, drawn⟩ := List.map_eq_append_iff.mp sent
  rw [← drawn, List.length_map] at whole
  have begun := midway_command ready few told
  rw [← whole] at begun
  have reached (j : Nat) (inside : j ≤ dots.length) :
      ∃ printed column, p.Midway (image.density? p.registers) columns (dots.length - j) printed
        column (p.run (job (announced ++ dots.take j))) := by
    have parts : dots.length = (dots.length - j) + (dots.take j).length := by
      rw [List.length_take]
      omega
    rw [parts] at begun
    rw [run_job_append]
    exact begun.run ready.msb
  obtain ⟨printed, column, ended⟩ := reached dots.length (Nat.le_refl _)
  rw [List.take_length, Nat.sub_self] at ended
  obtain rfl := ended.printed_eq
  refine ⟨⟨ended.reader.trans ready.reader.symm, ?_⟩, ended.registers, ended.paper⟩
  intro k first more
  by_cases command : k < announced.length
  · obtain ⟨phase, busy, -, interpreter, -⟩ := run_take_command ready told first command
    rw [List.take_append_of_le_length (Nat.le_of_lt command), interpreter]
    exact busy
  · rw [List.length_append] at more
    obtain ⟨printed, column, midway⟩ := reached (k - announced.length) (by omega)
    rw [List.take_append, List.take_of_length_le (by omega)]
    exact midway.busy (by omega)

/-- The dots look like a form feed and a reset, and are as many as the density asks for that was put
behind the command before. -/
theorem run_image_letter :
    let host : Host := { launch := fun _ _ => .error "no programs", date := "2024-02-29 12:30:00" }
    let p := (powerOn .letter host {}).run (job (List.map (0, ·) [0x1B, 0x3F, 0x4B, 0x27]))
    let payload : List UInt8 := [0x0C, 0x1B, 0x40, 0x1B, 0x40, 0x0C]
    let stamped := ([0x1B, 0x4B, 0x02, 0x00] ++ payload).map fun byte => (1, byte)
    let q := p.run (job stamped)
    let density : BitImage.Density := ⟨180, 180, true, 3⟩
    (p.Ready ∧ (ImageCommand.assigned .k).density? p.registers = some density) ∧
      q.interpreter.reader.phase = .idle ∧ q.paper.artifacts = p.paper.artifacts ∧
      q.paper.pen.x = p.paper.pen.x + density.columnWidth + density.columnWidth := by
  intro host p payload stamped q density
  have ready : p.Ready := ⟨by decide +kernel, by decide +kernel, by decide +kernel⟩
  have known : (ImageCommand.assigned .k).density? p.registers = some density := by decide +kernel
  have whole : payload.length =
      2 * BitImage.columnBytes ((ImageCommand.assigned .k).density? p.registers) := by
    rw [known]
    rfl
  have sent : stamped.map Prod.snd = (ImageCommand.assigned .k).bytes 2 ++ payload := rfl
  obtain ⟨⟨reader, -⟩, -, paper⟩ := run_image ready (.assigned .k) (by decide) whole sent
  rw [known] at paper
  have twice (step : Float → Float) (x : Float) : step^[2] x = step (step x) := rfl
  refine ⟨⟨ready, known⟩, ?_, ?_, ?_⟩
  · rw [reader]
    exact ready.idle
  · rw [paper.artifacts_eq]
  · rw [paper.pen_eq, twice]

end Printer

end PinPrinter
