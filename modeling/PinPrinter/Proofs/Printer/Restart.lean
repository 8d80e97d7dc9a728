import PinPrinter.Proofs.Barcode.Bars
import PinPrinter.Proofs.Printer.Alike
import PinPrinter.Proofs.Registers.Background

/-! # Restarting

A reset by the panel or by the line of the host, and the command `ESC @` between sequences, put the
interpreter and the pen where they are at power-on and take a blank sheet. What survives is the
size of the paper, which nothing changes, the glyphs that have been kept, the timer, and what was
sent off. Since the glyphs are those that would be drawn afresh, a printer that was restarted goes
on as one that has just been switched on.
-/

namespace PinPrinter

/-! ## Papers of one configuration -/

namespace Paper

variable {config : Config} {face : String → Option OutlineFace} {p : Paper}

/-- The sheet has the size and resolution of a configuration, and the glyphs in the type case are
those of this resolution in some faces. -/
structure Fits (config : Config) (face : String → Option OutlineFace) (p : Paper) : Prop where
  sheet : p.sheet.clear = .blank config.widthPixels config.heightPixels config.dpi.toNat
  dpi : p.glyphs.dpi = config.dpi.toNat
  face : p.glyphs.face = face
  glyphs : p.glyphs.Faithful

/-- Another sheet of the same size fits as well. -/
theorem Fits.with_sheet (fits : Fits config face p) {q : Paper}
    (sheet : q.sheet.clear = p.sheet.clear) (glyphs : q.glyphs = p.glyphs) :
    Fits config face q where
  sheet := sheet.trans fits.sheet
  dpi := glyphs ▸ fits.dpi
  face := glyphs ▸ fits.face
  glyphs := glyphs ▸ fits.glyphs

theorem Fits.load (fits : Fits config face p) (pen : Pen) : Fits config face (p.load pen) :=
  fits.with_sheet (Sheet.clear_clear _) rfl

theorem Fits.turn (fits : Fits config face p) (r : Registers) (x : Float) :
    Fits config face (p.turn r x) :=
  fits.with_sheet (by rw [sheet_turn, Sheet.clear_clear]) (glyphs_turn p r x)

theorem Fits.follow (fits : Fits config face p) (r : Registers) (motion : Motion) :
    Fits config face (p.follow r motion) := by
  rcases motion with pen | x
  · exact fits.with_sheet rfl rfl
  · exact fits.turn r x

theorem Fits.stamp (fits : Fits config face p) (r : Registers) (byte : UInt8) :
    Fits config face (p.stamp r byte).1 := by
  obtain ⟨sheet, pen, glyphs, outbox, artifacts⟩ := p
  have dpi := TypeCase.dpi_take glyphs r.font (characterOf r byte)
  have same := TypeCase.face_take glyphs r.font (characterOf r byte)
  have later := fits.glyphs.take r.font (characterOf r byte)
  unfold Paper.stamp
  refine ⟨?_, dpi.trans fits.dpi, same.trans fits.face, later⟩
  dsimp only
  rw [clear_drawScore, clear_strike]
  exact fits.sheet

theorem Fits.printByte (fits : Fits config face p) (r : Registers) (byte : UInt8) :
    Fits config face (p.printByte r byte) :=
  (fits.stamp r byte).follow r _

theorem Fits.printColumn (fits : Fits config face p) (r : Registers)
    (density : Option BitImage.Density) (column : Array UInt8) :
    Fits config face (p.printColumn r density column) := by
  cases density with
  | none => exact fits
  | some density => exact fits.with_sheet (BitImage.clear_printColumn ..) rfl

theorem Fits.printBarcode (fits : Fits config face p) (r : Registers) (data : List UInt8) :
    Fits config face (p.printBarcode r data) := by
  apply holds_printBarcode fits
  intro code modules _
  exact fits.with_sheet (Barcode.clear_draw ..) rfl

theorem Fits.obey (fits : Fits config face p) (r : Registers) (instruction : Instruction) :
    Fits config face (p.obey r instruction) := by
  cases instruction with
  | restart => exact fits.load r.home
  | _ =>
    unfold Paper.obey
    exact fits.follow r _

theorem Fits.act (fits : Fits config face p) (r : Registers) (density : Option BitImage.Density)
    (autofeed : Bool) (action : Action) : Fits config face (p.act r density autofeed action) := by
  cases action with
  | print byte => exact fits.printByte r byte
  | control code => exact fits.follow r _
  | command c params => exact fits.obey r _
  | payload c data =>
    by_cases code : c = Command.barCode
    · simp only [Paper.act, if_pos code]
      exact fits.printBarcode r data.toList
    · simp only [Paper.act, if_neg code]
      exact fits
  | column bytes => exact fits.printColumn r density bytes
  | tabs axis stops => exact fits

/-- Whatever is printed, and on however many sheets, the paper fits. -/
theorem kept_fits (config : Config) (face : String → Option OutlineFace) :
    Kept (Fits config face) where
  act r density autofeed action fits := fits.act r density autofeed action
  turn r x fits := fits.turn r x
  load pen fits := fits.load pen
  finish fits := fits.with_sheet rfl rfl

end Paper

theorem Printer.fits_powerOn (config : Config) (host : Host) (folder : Folder) :
    (powerOn config host folder).paper.Fits config (host.face config.fontpath) where
  sheet := rfl
  dpi := rfl
  face := rfl
  glyphs := TypeCase.faithful_of_glyphs_eq_nil rfl

/-! ## Three ways to restart -/

/-- Where the highest bit is not set by force, a byte that does not have it stays as it is. -/
theorem Registers.forceMsb_of_and {r : Registers} (msb : r.msb ≠ some true) {byte : UInt8}
    (low : byte &&& 0x7F = byte) : r.forceMsb byte = byte := by
  unfold forceMsb
  cases forced : r.msb with
  | none => rfl
  | some high =>
    cases high with
    | false => exact low
    | true => exact absurd forced msb

namespace Interpreter

variable {i : Interpreter}

theorem receive_escape (idle : i.reader.phase = .idle) (literal : i.reader.literal = 0)
    (msb : i.registers.msb ≠ some true) (autofeed : Bool) :
    i.receive autofeed 0x1B = ({ i with reader := { i.reader with phase := .escape } }, none) := by
  apply receive_silent
  rw [Registers.forceMsb_of_and msb rfl]
  simp [Reader.feed, idle, Reader.takeIdle, literal, Control.escape]

/-- After `ESC`, the byte `@` restarts. -/
theorem receive_initialize (msb : i.registers.msb ≠ some true) (autofeed : Bool) :
    ({ i with reader := { i.reader with phase := .escape } } : Interpreter).receive autofeed 0x40 =
      (i.restart, some (.command ⟨.esc, 0x40⟩ #[])) := by
  simp only [receive, Registers.forceMsb_of_and msb (rfl : (0x40 : UInt8) &&& 0x7F = 0x40)]
  rfl

end Interpreter

namespace Printer

variable {p q fresh : Printer}

/-- The second printer is the first one, restarted by the panel, by the line of the host, or by a
command whose bytes are read as such. -/
inductive Restarted (p : Printer) : Printer → Prop
  | panel : Restarted p p.reset
  | line : Restarted p p.resetHard
  | command (first second : Nat) (idle : p.interpreter.reader.phase = .idle)
      (literal : p.interpreter.reader.literal = 0) (msb : p.registers.msb ≠ some true) :
      Restarted p (p.run [.byte first 0x1B, .byte second 0x40])

/-- However a printer is restarted, its interpreter is, and a blank sheet is taken. -/
theorem Restarted.effect (restarted : Restarted p q) :
    q.interpreter = p.interpreter.restart ∧ q.autofeed = p.autofeed ∧
      q.paper = p.paper.load p.interpreter.restart.registers.home := by
  cases restarted with
  | panel => exact ⟨rfl, rfl, rfl⟩
  | line => exact ⟨rfl, rfl, rfl⟩
  | command first second idle literal msb =>
    have silent := step_silent (Interpreter.receive_escape idle literal msb p.autofeed) first
    have received : (p.step (.byte first 0x1B)).interpreter.receive
        (p.step (.byte first 0x1B)).autofeed 0x40 =
          (p.interpreter.restart, some (.command ⟨.esc, 0x40⟩ #[])) := by
      rw [silent]
      exact Interpreter.receive_initialize msb p.autofeed
    have run : p.run [.byte first 0x1B, .byte second 0x40] =
        (p.step (.byte first 0x1B)).step (.byte second 0x40) := rfl
    rw [run, step_action received second, silent]
    exact ⟨rfl, rfl, rfl⟩

/-- The faces of a printer are those that it was switched on with. -/
theorem fits_run (config : Config) (host : Host) (folder : Folder) (events : List Event) :
    ((powerOn config host folder).run events).paper.Fits config (host.face config.fontpath) :=
  kept_run (Paper.kept_fits ..) (fits_powerOn config host folder) events

/-- A printer in use has the paper that it was configured for. -/
theorem Reachable.paper (reachable : Reachable p) :
    p.registers.paperSize = (p.config.widthInches, p.config.heightInches) ∧
      p.paper.Fits p.config p.paper.glyphs.face := by
  obtain ⟨config, host, folder, start, events, started, rfl⟩ := (reachable_iff p).mp reachable
  obtain rfl := eq_powerOn_of_new started
  rw [config_run]
  have size := view_registers_run Registers.paperSize_obey Registers.paperSize_control
    Registers.paperSize_setTabs (powerOn config host folder) events
  have fits := fits_run config host folder events
  exact ⟨size, fits.sheet, fits.dpi, rfl, fits.glyphs⟩

/-- A printer in use that is restarted sends nothing off, and from then on does what a printer does
that is switched on with the same configuration, the same faces in its font directory and the same
autofeed line. -/
theorem run_of_restarted {host : Host} {folder : Folder} (reachable : Reachable p)
    (started : Printer.new p.config host folder = .ok fresh)
    (faces : host.face p.config.fontpath = p.paper.glyphs.face) (restarted : Restarted p q) :
    q.paper.artifacts = p.paper.artifacts ∧
      ∀ events : List Event, (∀ now, Event.poll now ∉ events) →
        let used := q.run events
        let new := (fresh.setAutofeed p.autofeed).run events
        used.interpreter = new.interpreter ∧ used.paper.pen = new.paper.pen ∧
          used.paper.sheet = new.paper.sheet := by
  obtain rfl := eq_powerOn_of_new started
  obtain ⟨interpreter, autofeed, paper⟩ := restarted.effect
  obtain ⟨size, fits⟩ := reachable.paper
  obtain ⟨width, height⟩ := Prod.mk.inj size
  have restart : p.interpreter.restart = .powerOn p.config.widthInches p.config.heightInches := by
    rw [Interpreter.restart, Interpreter.powerOn, ← width, ← height]
    rfl
  let new := (powerOn p.config host folder).setAutofeed p.autofeed
  have alike : Alike q new := by
    refine ⟨⟨interpreter.trans restart, autofeed⟩, ?_⟩
    rw [paper, restart]
    exact ⟨fits.sheet, rfl,
      ⟨fits.dpi, faces.symm, fits.glyphs, (fits_powerOn p.config host folder).glyphs⟩⟩
  constructor
  · rw [paper]
    rfl
  · intro events unpolled
    have later := alike.run unpolled
    exact ⟨later.interpreter, later.paper.pen, later.paper.sheet⟩

/-- A printer that a job has set to proportional style, and that has half of a page length, is
restarted by the panel; had the length come whole, the job could have done so itself. -/
theorem run_of_restarted_letter :
    let host : Host := { launch := fun _ _ => .error "no programs", date := "2024-02-29 12:30:00" }
    let job : List UInt8 := [0x1B, 0x70, 0x01, 0x41, 0x0A, 0x1B, 0x43, 0x00]
    let half := (powerOn .letter host {}).run (.autofeed true :: job.map (.byte 0))
    let whole := half.run [.byte 1 0x0B]
    let fresh := (powerOn .letter host {}).setAutofeed true
    let text : List Event := [.byte 3 0x42, .formFeed, .byte 3 0x43]
    half.interpreter.reader.phase ≠ .idle ∧ whole.interpreter.reader.phase = .idle ∧
      (half.reset.run text).paper.sheet = (fresh.run text).paper.sheet ∧
      ((whole.run [.byte 2 0x1B, .byte 2 0x40]).run text).paper.sheet =
        (fresh.run text).paper.sheet := by
  intro host job half whole fresh text
  have reachable : half.Reachable := (Reachable.new (new_letter host {})).run _
  have started : Printer.new half.config host {} = .ok (powerOn .letter host {}) := by
    rw [config_run]
    rfl
  have started' : Printer.new whole.config host {} = .ok (powerOn .letter host {}) := by
    rw [config_run, config_run]
    rfl
  have faces : host.face half.config.fontpath = half.paper.glyphs.face :=
    (fits_run .letter host {} _).face.symm
  have faces' : host.face whole.config.fontpath = whole.paper.glyphs.face := by
    change _ = ((powerOn .letter host {}).run _ |>.run _).paper.glyphs.face
    rw [← run_append, (fits_run .letter host {} _).face]
  have unpolled (now : Nat) : Event.poll now ∉ text := by simp [text]
  have within : half.interpreter.reader.phase ≠ .idle ∧ half.autofeed = true := by
    decide +kernel
  obtain ⟨between, literal, msb, on⟩ : whole.interpreter.reader.phase = .idle ∧
      whole.interpreter.reader.literal = 0 ∧ whole.registers.msb ≠ some true ∧
      whole.autofeed = true := by
    decide +kernel
  have byPanel := run_of_restarted reachable started faces .panel
  have byCommand := run_of_restarted (reachable.run [.byte 1 0x0B]) started' faces'
    (.command 2 2 between literal msb)
  obtain ⟨-, -, sheet⟩ := byPanel.2 text unpolled
  obtain ⟨-, -, sheet'⟩ := byCommand.2 text unpolled
  rw [within.2] at sheet
  rw [on] at sheet'
  exact ⟨within.1, between, sheet, sheet'⟩

end Printer

end PinPrinter
