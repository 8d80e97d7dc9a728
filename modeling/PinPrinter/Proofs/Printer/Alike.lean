import PinPrinter.Proofs.Barcode.Printing
import PinPrinter.Proofs.Printer.Events
import PinPrinter.Proofs.TypeCase

/-! # Papers that look alike

What a paper shows after an event follows from what it showed before and from the event. Where
sheets are sent, whether that succeeds, and which glyphs have been kept from earlier characters have
no part in it. So two printers that agree on the rest print alike whatever comes.
-/

namespace PinPrinter

namespace Paper

variable {p q : Paper}

/-! ## Turning -/

@[simp] theorem sheet_emit (p : Paper) : p.emit.sheet = p.sheet := by
  unfold emit
  split
  · rfl
  · split <;> rfl

@[simp] theorem glyphs_emit (p : Paper) : p.emit.glyphs = p.glyphs := by
  unfold emit
  split
  · rfl
  · split <;> rfl

/-- Whatever becomes of the sheet before it, a new sheet is blank. -/
@[simp] theorem sheet_turn (p : Paper) (r : Registers) (x : Float) :
    (p.turn r x).sheet = p.sheet.clear :=
  congrArg Sheet.clear (sheet_emit p)

@[simp] theorem glyphs_turn (p : Paper) (r : Registers) (x : Float) :
    (p.turn r x).glyphs = p.glyphs :=
  glyphs_emit p

/-! ## Two papers -/

/-- Two papers that look alike and go on doing so: the same is on the sheets, the pens stand at the
same place, and the type cases give out the same glyphs. -/
structure Alike (p q : Paper) : Prop where
  sheet : p.sheet = q.sheet
  pen : p.pen = q.pen
  glyphs : p.glyphs.Alike q.glyphs

theorem Alike.load (alike : Alike p q) (pen : Pen) : Alike (p.load pen) (q.load pen) where
  sheet := congrArg Sheet.clear alike.sheet
  pen := rfl
  glyphs := alike.glyphs

theorem Alike.turn (alike : Alike p q) (r : Registers) (x : Float) :
    Alike (p.turn r x) (q.turn r x) where
  sheet := by rw [sheet_turn, sheet_turn, alike.sheet]
  pen := rfl
  glyphs := by
    rw [glyphs_turn, glyphs_turn]
    exact alike.glyphs

theorem Alike.finish (alike : Alike p q) : Alike p.finish q.finish :=
  ⟨alike.sheet, alike.pen, alike.glyphs⟩

theorem Alike.follow (alike : Alike p q) (r : Registers) (motion : Motion) :
    Alike (p.follow r motion) (q.follow r motion) := by
  rcases motion with pen | x
  · exact ⟨alike.sheet, rfl, alike.glyphs⟩
  · exact alike.turn r x

/-- The same character is struck at the same place. -/
theorem Alike.stamp (alike : Alike p q) (r : Registers) (byte : UInt8) :
    Alike (p.stamp r byte).1 (q.stamp r byte).1 ∧ (p.stamp r byte).2 = (q.stamp r byte).2 := by
  obtain ⟨sheet, pen, glyphs, outbox, artifacts⟩ := p
  obtain ⟨sheet', pen', glyphs', outbox', artifacts'⟩ := q
  obtain ⟨sameSheet, samePen, sameGlyphs⟩ := alike
  obtain rfl : sheet = sheet' := sameSheet
  obtain rfl : pen = pen' := samePen
  have struck := sameGlyphs.glyph_take r.font (characterOf r byte)
  have later := sameGlyphs.take r.font (characterOf r byte)
  have measured := later.measures r.font
  unfold Paper.stamp
  dsimp only at struck measured ⊢
  rw [struck, measured]
  exact ⟨⟨rfl, rfl, later⟩, rfl⟩

theorem Alike.printByte (alike : Alike p q) (r : Registers) (byte : UInt8) :
    Alike (p.printByte r byte) (q.printByte r byte) := by
  obtain ⟨stamped, advance⟩ := alike.stamp r byte
  unfold Paper.printByte
  dsimp only
  rw [advance, stamped.pen]
  exact stamped.follow r _

theorem Alike.printColumn (alike : Alike p q) (r : Registers) (density : Option BitImage.Density)
    (column : Array UInt8) :
    Alike (p.printColumn r density column) (q.printColumn r density column) := by
  cases density with
  | none => exact alike
  | some density =>
    obtain ⟨sheet, pen, glyphs, outbox, artifacts⟩ := p
    obtain ⟨sheet', pen', glyphs', outbox', artifacts'⟩ := q
    obtain ⟨sameSheet, samePen, sameGlyphs⟩ := alike
    obtain rfl : sheet = sheet' := sameSheet
    obtain rfl : pen = pen' := samePen
    exact ⟨rfl, rfl, sameGlyphs⟩

theorem Alike.printBarcode (alike : Alike p q) (r : Registers) (data : List UInt8) :
    Alike (p.printBarcode r data) (q.printBarcode r data) := by
  unfold Paper.printBarcode Paper.printBarcodeWith
  rw [alike.sheet, alike.pen]
  split
  · exact ⟨rfl, rfl, alike.glyphs⟩
  · exact alike

theorem Alike.obey (alike : Alike p q) (r : Registers) (instruction : Instruction) :
    Alike (p.obey r instruction) (q.obey r instruction) := by
  cases instruction with
  | restart => exact alike.load r.home
  | _ =>
    unfold Paper.obey
    rw [alike.pen]
    exact alike.follow r _

theorem Alike.act (alike : Alike p q) (r : Registers) (density : Option BitImage.Density)
    (autofeed : Bool) (action : Action) :
    Alike (p.act r density autofeed action) (q.act r density autofeed action) := by
  cases action with
  | print byte => exact alike.printByte r byte
  | control code =>
    simp only [Paper.act, alike.pen]
    exact alike.follow r _
  | command c params => exact alike.obey r _
  | payload c data =>
    by_cases code : c = Command.barCode
    · simp only [Paper.act, if_pos code]
      exact alike.printBarcode r data.toList
    · simp only [Paper.act, if_neg code]
      exact alike
  | column bytes => exact alike.printColumn r density bytes
  | tabs axis stops => exact alike

theorem Alike.undergo (alike : Alike p q) (i : Interpreter) (autofeed : Bool)
    (event : Printer.Event) : Alike (p.undergo i autofeed event) (q.undergo i autofeed event) := by
  cases event with
  | byte now byte =>
    unfold Paper.undergo
    dsimp only
    rcases i.receive autofeed byte with ⟨next, _ | action⟩
    · exact alike
    · exact alike.act _ _ _ _
  | formFeed => exact (alike.turn _ _).finish
  | reset => exact alike.load _
  | resetHard => exact alike.load _
  | poll now => exact alike
  | finish => exact alike.finish
  | autofeed on => exact alike
  | acknowledge => exact alike

end Paper

namespace Printer

variable {p q : Printer}

/-- Two printers that print alike: they understand bytes alike, and their papers look alike. -/
structure Alike (p q : Printer) : Prop extends SameControl p q where
  paper : p.paper.Alike q.paper

theorem Alike.step (alike : Alike p q) {event : Event} (unpolled : ∀ now, event ≠ .poll now) :
    Alike (p.step event) (q.step event) where
  toSameControl := alike.toSameControl.step event
  paper := by
    rw [paper_step p unpolled, paper_step q unpolled, ← alike.interpreter, ← alike.autofeed]
    exact alike.paper.undergo ..

/-- Printers that print alike go on doing so. A poll is left out, since timers may differ. -/
theorem Alike.run (alike : Alike p q) {events : List Event}
    (unpolled : ∀ now, Event.poll now ∉ events) : Alike (p.run events) (q.run events) := by
  induction events generalizing p q with
  | nil => exact alike
  | cons event rest ih =>
    obtain ⟨first, others⟩ := unpolled_cons unpolled
    exact ih (alike.step first) others

end Printer

end PinPrinter
