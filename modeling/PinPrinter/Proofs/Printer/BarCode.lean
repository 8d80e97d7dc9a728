import PinPrinter.Proofs.Barcode.Bars
import PinPrinter.Proofs.Printer.Sequences
import PinPrinter.Proofs.Stream.Parts

/-! # Bar codes at a printer

The bytes of a bar code command mean one thing together, and nothing is done before that is known.
Then the request is read, its symbol is encoded, and only after that are the bars drawn and the pen
moved behind them. So a command that is refused leaves no trace, however late it is refused, and one
that is not leaves its bars and the place of the pen. Which data the encoders refuse, and which
modules they make of the rest, has no part in this.
-/

namespace PinPrinter

/-! ## Other encoders -/

/-- What an action does to the paper with some encoders behind the symbologies. -/
def Paper.actWith (encoders : Barcode.Encoders) (p : Paper) (r : Registers)
    (density : Option BitImage.Density) (autofeed : Bool) : Action → Paper
  | .payload c data =>
    if c = Command.barCode then p.printBarcodeWith encoders r data.toList else p
  | action => p.act r density autofeed action

theorem Paper.actWith_standard (p : Paper) (r : Registers) (density : Option BitImage.Density)
    (autofeed : Bool) (action : Action) :
    p.actWith .standard r density autofeed action = p.act r density autofeed action := by
  cases action <;> rfl

namespace Printer

/-- Take a byte with some encoders behind the symbologies. -/
def receiveWith (encoders : Barcode.Encoders) (p : Printer) (now : Nat) (byte : UInt8) : Printer :=
  let (interpreter, action) := p.interpreter.receive p.autofeed byte
  { p with
    interpreter := interpreter
    paper := match action with
      | some action =>
        p.paper.actWith encoders interpreter.registers interpreter.image p.autofeed action
      | none => p.paper
    timer := p.timer.arm now
    unacknowledged := true }

/-- Take a job with some encoders behind the symbologies. -/
def runWith (encoders : Barcode.Encoders) (p : Printer) (stamped : List (Nat × UInt8)) : Printer :=
  stamped.foldl (fun p s => p.receiveWith encoders s.1 s.2) p

variable {encoders : Barcode.Encoders} {p : Printer} {stamped : List (Nat × UInt8)}
  {next final : Reader} {byte : UInt8} {c : Command} {data : Array UInt8}

theorem runWith_cons (p : Printer) (now : Nat) (byte : UInt8) (rest : List (Nat × UInt8)) :
    p.runWith encoders ((now, byte) :: rest) =
      (p.receiveWith encoders now byte).runWith encoders rest :=
  rfl

theorem receiveWith_standard (p : Printer) (now : Nat) (byte : UInt8) :
    p.receiveWith .standard now byte = p.step (.byte now byte) := by
  rcases received : p.interpreter.receive p.autofeed byte with ⟨next, _ | action⟩
  · rw [step_silent received]
    simp only [receiveWith, received]
  · rw [step_action received]
    simp only [receiveWith, received, Paper.actWith_standard]

/-- With its own encoders a printer takes a job as ever. -/
theorem runWith_standard (p : Printer) (stamped : List (Nat × UInt8)) :
    p.runWith .standard stamped = p.run (job stamped) := by
  induction stamped generalizing p with
  | nil => rfl
  | cons first rest ih =>
    rw [runWith_cons, receiveWith_standard]
    exact ih _

/-! ## Bytes of a sequence -/

theorem receiveWith_silent (msb : p.registers.msb = none)
    (fed : p.interpreter.reader.feed byte = (next, none)) (now : Nat) :
    p.receiveWith encoders now byte =
      { p with
        interpreter.reader := next
        timer := p.timer.arm now
        unacknowledged := true } := by
  rw [← Registers.forceMsb_of_none msb byte] at fed
  simp only [receiveWith, Interpreter.receive_silent fed]

/-- Counted data changes nothing but the paper. -/
theorem receiveWith_payload (msb : p.registers.msb = none)
    (fed : p.interpreter.reader.feed byte = (next, some (.payload c data))) (now : Nat) :
    p.receiveWith encoders now byte =
      { p with
        interpreter.reader := next
        paper := p.paper.actWith encoders p.registers p.interpreter.image p.autofeed
          (.payload c data)
        timer := p.timer.arm now
        unacknowledged := true } := by
  rw [← Registers.forceMsb_of_none msb byte] at fed
  simp only [receiveWith, Interpreter.receive_action fed]
  rfl

/-- Bytes that mean nothing only move the reader on. -/
theorem runWith_silent (msb : p.registers.msb = none)
    (silent : p.interpreter.reader.feedAll (stamped.map Prod.snd) = (final, [])) :
    let q := p.runWith encoders stamped
    q.interpreter = { p.interpreter with reader := final } ∧ q.paper = p.paper := by
  induction stamped generalizing p with
  | nil =>
    obtain rfl := congrArg Prod.fst silent
    exact ⟨rfl, rfl⟩
  | cons first rest ih =>
    obtain ⟨now, byte⟩ := first
    rw [runWith_cons]
    rcases fed : p.interpreter.reader.feed byte with ⟨next, _ | action⟩
    · have later : next.feedAll (rest.map Prod.snd) = (final, []) := by
        simpa [Reader.feedAll, fed, Prod.ext_iff] using silent
      rw [receiveWith_silent msb fed]
      exact ih msb later
    · simp [Reader.feedAll, fed] at silent

/-- Bytes that mean some counted data do to the paper what the data does, and nothing else. -/
theorem runWith_payload (encoders : Barcode.Encoders) (msb : p.registers.msb = none)
    (read : p.interpreter.reader.feedAll (stamped.map Prod.snd) = (final, [.payload c data])) :
    let q := p.runWith encoders stamped
    q.interpreter = { p.interpreter with reader := final } ∧
      q.paper = p.paper.actWith encoders p.registers p.interpreter.image p.autofeed
        (.payload c data) := by
  induction stamped generalizing p with
  | nil => cases congrArg Prod.snd read
  | cons first rest ih =>
    obtain ⟨now, byte⟩ := first
    rw [runWith_cons]
    rcases fed : p.interpreter.reader.feed byte with ⟨next, _ | action⟩
    · have later : next.feedAll (rest.map Prod.snd) = (final, [.payload c data]) := by
        simpa [Reader.feedAll, fed, Prod.ext_iff] using read
      rw [receiveWith_silent msb fed]
      exact ih msb later
    · obtain ⟨rfl, later⟩ : action = .payload c data ∧
          next.feedAll (rest.map Prod.snd) = (final, []) := by
        simp only [List.map_cons, Reader.feedAll, fed, Option.toList, List.cons_append,
          List.nil_append, Prod.mk.injEq, List.cons.injEq] at read
        exact ⟨read.2.1, Prod.ext read.1 read.2.2⟩
      rw [receiveWith_payload msb fed]
      exact runWith_silent msb later

/-! ## Bar codes -/

/-- A bar code is printed whole or not at all, whatever the encoders are. If the request cannot be
read or its symbol cannot be encoded, the printer is left as it was. Otherwise the symbol is on the
sheet, where each pixel is as before or has full ink joined to it, the pen is to the right by the
width of the symbol, and all else is as it was. -/
theorem runWith_barCode (encoders : Barcode.Encoders) (ready : p.Ready) {data : List UInt8}
    (short : data.length < 65536)
    (sent : stamped.map Prod.snd =
      Command.barCode.bytes ++ (Bytes.littleEndian 2 data.length ++ data)) :
    let q := p.runWith encoders stamped
    q.interpreter = p.interpreter ∧
      (∀ e, (Barcode.parse data).bind (Barcode.encodeWith encoders) = .error e →
        q.paper = p.paper) ∧
      ∀ code modules, Barcode.parse data = .ok code → code.encodeWith encoders = .ok modules →
        ∃ sheet width,
          code.printWith encoders p.paper.sheet p.paper.pen.x p.paper.pen.y p.registers.ink =
              .ok (sheet, width) ∧
            q.paper =
              { p.paper with sheet := sheet, pen := ⟨p.paper.pen.x + width, p.paper.pen.y⟩ } ∧
            Sheet.Filled p.registers.ink p.paper.sheet sheet := by
  intro q
  have read := Reader.feedAll_barCode p.interpreter.reader.upperControl short
  rw [← ready.reader, ← sent] at read
  obtain ⟨interpreter, paper⟩ := runWith_payload encoders ready.msb read
  refine ⟨interpreter, ?_, ?_⟩
  · intro e refused
    exact paper.trans (Paper.printBarcodeWith_of_refused refused ..)
  · intro code modules parsed encoded
    refine ⟨_, _, Barcode.printWith_of_encoded encoded .., ?_, Barcode.filled_draw ..⟩
    exact paper.trans (Paper.printBarcodeWith_of_encoded parsed encoded ..)

/-- A small letter, which the encoder of Code 39 refuses, and an article number of seven digits. -/
theorem runWith_barCode_letter :
    let host : Host := { launch := fun _ _ => .error "no programs", date := "2024-02-29 12:30:00" }
    let p := (powerOn .letter host {}).run (job [(0, 0x09), (0, 0x0A)])
    let stamped (data : List UInt8) : List (Nat × UInt8) :=
      (Command.barCode.bytes ++ (Bytes.littleEndian 2 data.length ++ data)).map fun byte =>
        (1, byte)
    let letter : List UInt8 := [0x05, 0x02, 0x00, 0x14, 0x00, 0x00, 0x61]
    let digits : List UInt8 := [0x01, 0x02, 0x00, 0x14, 0x00, 0x00] ++ List.replicate 7 0x30
    p.Ready ∧ (p.run (job (stamped letter))).paper = p.paper ∧
      let q := p.run (job (stamped digits))
      q.interpreter = p.interpreter ∧ q.paper.artifacts = p.paper.artifacts ∧
        Sheet.Filled .black p.paper.sheet q.paper.sheet := by
  intro host p stamped letter digits
  have ready : p.Ready := ⟨by decide +kernel, by decide +kernel, by decide +kernel⟩
  have sent (data : List UInt8) : (stamped data).map Prod.snd =
      Command.barCode.bytes ++ (Bytes.littleEndian 2 data.length ++ data) :=
    (List.map_map ..).trans (List.map_id _)
  refine ⟨ready, ?_, ?_⟩
  · have refused : (Barcode.parse letter).bind (Barcode.encodeWith .standard) =
        .error (.barcodeData .code39 .character) := by decide +kernel
    rw [← runWith_standard]
    exact (runWith_barCode .standard ready (by decide) (sent letter)).2.1 _ refused
  · have accepted : ((Barcode.parse digits).bind (Barcode.encodeWith .standard)).isOk = true := by
      decide +kernel
    rw [← runWith_standard]
    rcases Barcode.refused_or_encoded .standard digits with
      ⟨e, refused⟩ | ⟨code, modules, parsed, encoded⟩
    · rw [refused] at accepted
      cases accepted
    · obtain ⟨interpreter, -, printed⟩ :=
        runWith_barCode .standard ready (by decide) (sent digits)
      obtain ⟨sheet, width, -, paper, filled⟩ := printed code modules parsed encoded
      have black : p.registers.ink = .black := by decide +kernel
      refine ⟨interpreter, ?_, ?_⟩
      · rw [paper]
      · rw [paper, ← black]
        exact filled

end Printer

end PinPrinter
