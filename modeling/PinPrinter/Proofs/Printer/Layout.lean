import PinPrinter.Proofs.Barcode.Bars
import PinPrinter.Proofs.Printer.Alike

/-! # Layout

Where the pen goes is decided by the registers. The resolution of the sheet has a part in it only
when a character of proportional style is printed, since its width is that of its glyph in whole
pixels. Where sheets are sent, and whether that succeeds, has no part in it at all, and none in what
is printed. So printers for paper of one size keep in step whatever their resolution and output, and
at one resolution their sheets are the same as well.
-/

namespace PinPrinter

/-- The place where a motion ends. -/
def Motion.landing (r : Registers) : Motion → Pen
  | .to pen => pen
  | .turn x => ⟨x, r.topMargin⟩

namespace Paper

variable {p q : Paper}

theorem pen_follow (p : Paper) (r : Registers) (motion : Motion) :
    (p.follow r motion).pen = motion.landing r := by
  cases motion <;> rfl

theorem pen_obey (p : Paper) (r : Registers) (instruction : Instruction) :
    (p.obey r instruction).pen = (r.motion p.pen instruction).landing r := by
  cases instruction with
  | restart => rfl
  | _ => exact pen_follow ..

/-- At fixed pitch the way to the next character is in the registers. -/
theorem stamp_of_fixed (p : Paper) {r : Registers} (fixed : r.style.proportional = false)
    (byte : UInt8) :
    let advance := r.fixedAdvance + r.extraSpacing
    (p.stamp r byte).1.pen = ⟨p.pen.x + advance, p.pen.y⟩ ∧ (p.stamp r byte).2 = advance := by
  obtain ⟨sheet, pen, glyphs, outbox, artifacts⟩ := p
  have advance (g : Glyph) (dpi : Nat) : advanceOf r g dpi = r.fixedAdvance + r.extraSpacing := by
    rw [advanceOf, fixed, if_neg Bool.false_ne_true]
  unfold stamp
  dsimp only
  rw [advance]
  exact ⟨rfl, rfl⟩

theorem pen_printByte (p : Paper) {r : Registers} (fixed : r.style.proportional = false)
    (byte : UInt8) :
    let advance := r.fixedAdvance + r.extraSpacing
    (p.printByte r byte).pen = (r.wrap ⟨p.pen.x + advance, p.pen.y⟩ advance).landing r := by
  obtain ⟨pen, advance⟩ := p.stamp_of_fixed fixed byte
  unfold printByte
  dsimp only
  rw [pen_follow, pen, advance]

theorem pen_printColumn (p : Paper) (r : Registers) (density : BitImage.Density)
    (column : Array UInt8) :
    (p.printColumn r (some density) column).pen = ⟨p.pen.x + density.columnWidth, p.pen.y⟩ :=
  rfl

/-- A bar code is as wide on every sheet, and refused on every sheet or on none. -/
theorem pen_printBarcode (pen : p.pen = q.pen) (r : Registers) (data : List UInt8) :
    (p.printBarcode r data).pen = (q.printBarcode r data).pen := by
  rcases Barcode.refused_or_encoded .standard data with
    ⟨e, refused⟩ | ⟨code, modules, parsed, encoded⟩
  · simp only [printBarcode, printBarcodeWith_of_refused refused]
    exact pen
  · simp only [printBarcode, printBarcodeWith_of_encoded parsed encoded, withSymbol]
    rw [Barcode.draw_eq, Barcode.draw_eq, pen]

/-- Only a character of proportional style brings the resolution in. -/
theorem pen_act (pen : p.pen = q.pen) (r : Registers) (density : Option BitImage.Density)
    (autofeed : Bool) {action : Action}
    (fixed : ∀ byte, action = .print byte → r.style.proportional = false) :
    (p.act r density autofeed action).pen = (q.act r density autofeed action).pen := by
  cases action with
  | print byte =>
    change (p.printByte r byte).pen = (q.printByte r byte).pen
    rw [pen_printByte p (fixed byte rfl), pen_printByte q (fixed byte rfl), pen]
  | control code =>
    change (p.follow r _).pen = (q.follow r _).pen
    rw [pen_follow, pen_follow, pen]
  | command c params =>
    change (p.obey r _).pen = (q.obey r _).pen
    rw [pen_obey, pen_obey, pen]
  | payload c data =>
    by_cases code : c = Command.barCode
    · simp only [act, if_pos code]
      exact pen_printBarcode pen r data.toList
    · simp only [act, if_neg code]
      exact pen
  | column bytes =>
    cases density with
    | none => exact pen
    | some density =>
      change (p.printColumn r (some density) bytes).pen = (q.printColumn r (some density) bytes).pen
      rw [pen_printColumn, pen_printColumn, pen]
  | tabs axis stops => exact pen

theorem pen_undergo (pen : p.pen = q.pen) (i : Interpreter) (autofeed : Bool)
    {event : Printer.Event}
    (fixed : ∀ now byte next printed, event = .byte now byte →
      i.receive autofeed byte = (next, some (.print printed)) →
        next.registers.style.proportional = false) :
    (p.undergo i autofeed event).pen = (q.undergo i autofeed event).pen := by
  cases event with
  | byte now byte =>
    unfold undergo
    dsimp only
    rcases received : i.receive autofeed byte with ⟨next, _ | action⟩
    · exact pen
    · apply pen_act pen
      rintro printed rfl
      exact fixed now byte next printed rfl received
  | formFeed => rfl
  | reset => rfl
  | resetHard => rfl
  | poll now => exact pen
  | finish => exact pen
  | autofeed on => exact pen
  | acknowledge => exact pen

end Paper

/-- A byte that prints a character changes no register. -/
theorem Interpreter.registers_of_print {i next : Interpreter} {autofeed : Bool}
    {byte printed : UInt8} (received : i.receive autofeed byte = (next, some (.print printed))) :
    next.registers = i.registers := by
  rcases fed : i.reader.feed (i.registers.forceMsb byte) with ⟨reader, _ | action⟩
  · rw [receive_silent fed] at received
    cases received
  · rw [receive_action fed] at received
    obtain ⟨rfl, equal⟩ := Prod.mk.inj received
    obtain rfl := Option.some.inj equal
    rfl

namespace Printer

/-- An event prints a character in proportional style. -/
def printsProportional (p : Printer) : Event → Bool
  | .byte _ byte =>
    match (p.interpreter.receive p.autofeed byte).2 with
    | some (.print _) => p.registers.style.proportional
    | _ => false
  | _ => false

/-- No event of a run prints a character in proportional style. -/
def FixedPitch (p : Printer) : List Event → Prop
  | [] => True
  | event :: rest => p.printsProportional event = false ∧ (p.step event).FixedPitch rest

instance (p : Printer) (events : List Event) : Decidable (p.FixedPitch events) :=
  match events with
  | [] => inferInstanceAs (Decidable True)
  | event :: rest =>
    have := instDecidableFixedPitch (p.step event) rest
    inferInstanceAs (Decidable (_ ∧ _))

/-- Two printers of one layout: they understand bytes alike, and the pens stand at the same
place. -/
structure SameLayout (p q : Printer) : Prop extends SameControl p q where
  pen : p.paper.pen = q.paper.pen

variable {p q : Printer}

theorem SameLayout.step (same : SameLayout p q) {event : Event}
    (unpolled : ∀ now, event ≠ .poll now) (fixed : p.printsProportional event = false) :
    SameLayout (p.step event) (q.step event) where
  toSameControl := same.toSameControl.step event
  pen := by
    rw [paper_step p unpolled, paper_step q unpolled, ← same.interpreter, ← same.autofeed]
    apply Paper.pen_undergo same.pen
    rintro now byte next printed rfl received
    rw [Interpreter.registers_of_print received]
    simp only [printsProportional, received] at fixed
    exact fixed

theorem SameLayout.run (same : SameLayout p q) {events : List Event}
    (unpolled : ∀ now, Event.poll now ∉ events) (fixed : p.FixedPitch events) :
    SameLayout (p.run events) (q.run events) := by
  induction events generalizing p q with
  | nil => exact same
  | cons event rest ih =>
    obtain ⟨first, others⟩ := unpolled_cons unpolled
    exact ih (same.step first fixed.1) others fixed.2

/-! ## Two printers that are switched on -/

section PowerOn

variable {first second : Config} (width : first.width = second.width)
  (height : first.height = second.height) (host host' : Host) (folder folder' : Folder)

include width in
theorem widthInches_congr : first.widthInches = second.widthInches := by
  rw [Config.widthInches, Config.widthInches, width]

include height in
theorem heightInches_congr : first.heightInches = second.heightInches := by
  rw [Config.heightInches, Config.heightInches, height]

include width height

theorem sameLayout_powerOn :
    SameLayout (powerOn first host folder) (powerOn second host' folder') := by
  have interpreter : (powerOn first host folder).interpreter =
      (powerOn second host' folder').interpreter := by
    rw [powerOn, powerOn, widthInches_congr width, heightInches_congr height]
  exact ⟨⟨interpreter, rfl⟩, congrArg (fun i : Interpreter => i.registers.home) interpreter⟩

theorem alike_powerOn (dpi : first.dpi = second.dpi)
    (faces : host.face first.fontpath = host'.face second.fontpath) :
    Alike (powerOn first host folder) (powerOn second host' folder') := by
  have same := sameLayout_powerOn width height host host' folder folder'
  have widthPixels : first.widthPixels = second.widthPixels := by
    rw [Config.widthPixels, Config.widthPixels, widthInches_congr width, dpi]
  have heightPixels : first.heightPixels = second.heightPixels := by
    rw [Config.heightPixels, Config.heightPixels, heightInches_congr height, dpi]
  have sheet : (powerOn first host folder).paper.sheet =
      (powerOn second host' folder').paper.sheet := by
    rw [powerOn, powerOn, widthPixels, heightPixels, dpi]
  refine ⟨same.toSameControl, sheet, same.pen, ?_⟩
  exact ⟨congrArg UInt16.toNat dpi, faces, TypeCase.faithful_of_glyphs_eq_nil rfl,
    TypeCase.faithful_of_glyphs_eq_nil rfl⟩

end PowerOn

/-- Printers for paper of one size, whatever their resolution, output, host and directory, put the
same in their registers, their readers and their pens, up to the first character of proportional
style. At one resolution and with the same faces that character makes no difference, and the sheets
are the same as well. -/
theorem run_of_same_paper {first second : Config} {host host' : Host} {folder folder' : Folder}
    (started : Printer.new first host folder = .ok p)
    (started' : Printer.new second host' folder' = .ok q) (width : first.width = second.width)
    (height : first.height = second.height) {events : List Event}
    (unpolled : ∀ now, Event.poll now ∉ events) :
    (p.FixedPitch events → SameLayout (p.run events) (q.run events)) ∧
      (first.dpi = second.dpi → host.face first.fontpath = host'.face second.fontpath →
        SameLayout (p.run events) (q.run events) ∧
          (p.run events).paper.sheet = (q.run events).paper.sheet) := by
  obtain rfl := eq_powerOn_of_new started
  obtain rfl := eq_powerOn_of_new started'
  constructor
  · intro fixed
    exact (sameLayout_powerOn width height ..).run unpolled fixed
  · intro dpi faces
    have later := (alike_powerOn width height host host' folder folder' dpi faces).run unpolled
    exact ⟨⟨later.toSameControl, later.paper.pen⟩, later.paper.sheet⟩

/-- A printer of pictures beside one that spools a document on a host without a spooler, at another
resolution, and beside one whose directory is missing, at the same. -/
theorem run_of_same_paper_letter :
    let spooled : Config := { dpi := 60, output := .spooler, multipage := true }
    let lost : Config := { output := .bmp, docpath := "missing" }
    let host : Host := { launch := fun _ _ => .error "no programs", date := "2024-02-29 12:30:00" }
    let events : List Event := [.byte 0 0x41, .autofeed true, .byte 1 0x0D, .byte 1 0x1B, .formFeed,
      .byte 2 0x34, .byte 2 0x7A, .reset, .byte 3 0x42, .resetHard, .byte 4 0x43]
    let p := powerOn .letter host {}
    let q := powerOn spooled host {}
    let r := powerOn lost host { writable := false }
    p.FixedPitch events ∧ SameLayout (p.run events) (q.run events) ∧
      (p.run events).paper.sheet = (r.run events).paper.sheet := by
  intro spooled lost host events p q r
  have unpolled (now : Nat) : Event.poll now ∉ events := by simp [events]
  have fixed : p.FixedPitch events := by decide +kernel
  have started : Printer.new .letter host {} = .ok p := rfl
  have coarse : Printer.new spooled host {} = .ok q := rfl
  have equal : Printer.new lost host { writable := false } = .ok r := rfl
  exact ⟨fixed, (run_of_same_paper started coarse rfl rfl unpolled).1 fixed,
    ((run_of_same_paper started equal rfl rfl unpolled).2 rfl rfl).2⟩

end Printer

end PinPrinter
