import PinPrinter.Proofs.BlankSheet
import PinPrinter.Proofs.Registers.Steps

/-! # Styles that agree

Several commands raise and lower characters, several ask for a line along them or choose its kind,
and several set the pitch. Whatever their order, no characters are raised and lowered at once, a
line that is asked for is of a kind that is drawn, and the pitch is one of three. The commands that
ask for a line under the characters choose its kind as well, and the one that can choose none takes
all lines back.
-/

namespace PinPrinter

theorem Style.scored_iff {s : Style} :
    s.scored = true ↔ s.underline = true ∨ s.strikethrough = true ∨ s.overscore = true := by
  simp only [scored, Bool.or_eq_true, or_assoc]

/-- The registers of scripts, of the lines along characters, and of the pitch. -/
structure Appearance where
  superscript : Bool
  subscript : Bool
  scored : Bool
  score : Score
  cpi : Float

namespace Appearance

/-- The registers agree: scripts exclude each other, and a line that is asked for can be drawn. -/
structure Consistent (a : Appearance) : Prop where
  script : ¬ (a.superscript = true ∧ a.subscript = true)
  score : a.scored = true → a.score ≠ .none
  cpi : a.cpi = 10.0 ∨ a.cpi = 12.0 ∨ a.cpi = 15.0

variable {a : Appearance}

theorem Consistent.with_score (consistent : a.Consistent) {scored : Bool} {score : Score}
    (drawn : scored = true → score ≠ .none) :
    { a with scored := scored, score := score }.Consistent :=
  { consistent with score := drawn }

theorem Consistent.with_script (consistent : a.Consistent) {superscript subscript : Bool}
    (script : ¬ (superscript = true ∧ subscript = true)) :
    { a with superscript := superscript, subscript := subscript }.Consistent :=
  { consistent with script := script }

theorem Consistent.with_cpi (consistent : a.Consistent) {cpi : Float}
    (pitch : cpi = 10.0 ∨ cpi = 12.0 ∨ cpi = 15.0) : { a with cpi := cpi }.Consistent :=
  { consistent with cpi := pitch }

end Appearance

namespace Registers

variable {r : Registers}

/-- How scripts, lines and pitch are set. -/
def appearance (r : Registers) : Appearance where
  superscript := r.style.superscript
  subscript := r.style.subscript
  scored := r.style.scored
  score := r.score
  cpi := r.cpi

/-- Settings agree after a choice between two that do. -/
theorem consistent_ite {c : Prop} [Decidable c] {yes no : Registers}
    (isYes : yes.appearance.Consistent) (isNo : no.appearance.Consistent) :
    (if c then yes else no).appearance.Consistent := by
  by_cases chosen : c
  · rwa [if_pos chosen]
  · rwa [if_neg chosen]

theorem consistent_powerOn (width height : Float) :
    (powerOn width height).appearance.Consistent where
  script := by rintro ⟨⟨⟩, -⟩
  score := nofun
  cpi := .inl rfl

theorem pageless_appearance : Pageless appearance :=
  fun _ _ _ _ _ _ => rfl

theorem tableless_appearance : Tableless appearance :=
  fun _ _ _ _ _ => rfl

/-! ## Lines, scripts and pitch -/

/-- Underlining chooses a kind of line; to stop underlining leaves the other lines and the kind. -/
theorem consistent_setUnderline (consistent : r.appearance.Consistent) (on : Bool) :
    (r.setUnderline on).appearance.Consistent := by
  cases on with
  | true => exact consistent.with_score fun _ => Score.noConfusion
  | false =>
    apply consistent.with_score
    intro scored
    rcases Style.scored_iff.mp scored with ⟨⟨⟩⟩ | other
    exact consistent.score (Style.scored_iff.mpr (.inr other))

/-- No kind of line takes all lines back, so whatever line is left is of the kind chosen. -/
theorem consistent_setScore (consistent : r.appearance.Consistent) (line : Score) (place : Nat) :
    (r.setScore line place).appearance.Consistent := by
  by_cases none : line = .none
  · subst none
    have unscored : r.style.withoutScores.scored = true → Score.none ≠ .none := by rintro ⟨⟩
    exact consistent.with_score unscored
  · -- The place only says which line is asked for, and every place may ask for this kind.
    simp only [setScore, if_neg none]
    split <;> exact consistent.with_score fun _ => none

theorem consistent_setScript (consistent : r.appearance.Consistent) (raised : Option Bool) :
    (r.setScript raised).appearance.Consistent := by
  cases raised with
  | none => exact consistent
  | some raised =>
    have exclusive : ¬ (raised = true ∧ (!raised) = true) := by cases raised <;> decide
    exact consistent.with_script exclusive

/-- The bit that underlines is the one that chooses a single line; without it only other lines are
left, and their kind with them. -/
theorem consistent_masterSelect (consistent : r.appearance.Consistent) (bits : UInt8) :
    (r.masterSelect bits).appearance.Consistent := by
  have pitch : (if bits.toNat.testBit 0 then 12.0 else 10.0 : Float) = 10.0 ∨
      (if bits.toNat.testBit 0 then 12.0 else 10.0 : Float) = 12.0 ∨
      (if bits.toNat.testBit 0 then 12.0 else 10.0 : Float) = 15.0 := by
    split
    · exact .inr (.inl rfl)
    · exact .inl rfl
  have drawn : (r.style.master bits).scored = true →
      (if bits.toNat.testBit 7 then Score.single else r.score) ≠ .none := by
    intro scored
    by_cases underlined : bits.toNat.testBit 7 = true
    · rw [if_pos underlined]
      exact Score.noConfusion
    · rw [if_neg underlined]
      rcases Style.scored_iff.mp scored with underline | other
      · exact absurd underline underlined
      · exact consistent.score (Style.scored_iff.mpr (.inr other))
  exact (consistent.with_score drawn).with_cpi pitch

/-- No instruction whose numbers are in range makes the registers disagree. -/
theorem consistent_obey (consistent : r.appearance.Consistent) {instruction : Instruction}
    (inRange : instruction.InRange) : (r.obey instruction).appearance.Consistent := by
  cases instruction with
  | restart => exact consistent_powerOn _ _
  | pageLines _ | pageInches _ | pageUnits _ | pageFormat _ _ | bottomMargin _ | cancelMargins
  | rightMargin _ | leftMargin _ =>
    rw [pageless_appearance.obey r]
    · exact consistent
    · rfl
    · nofun
  | extraSpace count => exact consistent_ite consistent consistent
  | tabEvery axis count => cases axis <;> exact consistent
  | pitch cpi =>
    have pitch : Float.ofNat cpi = 10.0 ∨ Float.ofNat cpi = 12.0 ∨ Float.ofNat cpi = 15.0 := by
      rcases inRange with rfl | rfl | rfl <;> decide
    exact consistent.with_cpi pitch
  | masterSelect bits => exact consistent_masterSelect consistent bits
  | pitchAndPoint pitch halfPoints =>
    simp only [obey, setPitchAndPoint]
    split <;> exact consistent
  | proportional on => cases on <;> exact consistent
  | wideLine => exact consistent_ite consistent consistent
  | condensed => exact consistent_ite consistent consistent
  | wide on => cases on <;> exact consistent_ite consistent consistent
  | tall on => exact consistent_ite consistent consistent
  | underline on => exact consistent_setUnderline consistent on
  | score line place => exact consistent_setScore consistent line place
  | script raised => exact consistent_setScript consistent raised
  | cancelScript =>
    have neither : ¬ (false = true ∧ false = true) := by decide
    exact consistent.with_script neither
  | selectTable slot =>
    rw [tableless_appearance.obey_selectTable]
    exact consistent
  | assignTable slot selector =>
    rw [tableless_appearance.obey_assignTable]
    exact consistent
  | _ => exact consistent

theorem consistent_endLine (consistent : r.appearance.Consistent) :
    r.endLine.appearance.Consistent :=
  consistent_ite consistent consistent

theorem consistent_control (consistent : r.appearance.Consistent) (autofeed : Bool)
    (code : Control) : (r.control autofeed code).appearance.Consistent := by
  cases code with
  | verticalTab => exact consistent_endLine consistent
  | formFeed => exact consistent_endLine consistent
  | lineFeed => exact consistent_endLine consistent
  | carriageReturn => exact consistent_ite (consistent_endLine consistent) consistent
  | shiftOut => exact consistent_ite consistent consistent
  | shiftIn => exact consistent_ite consistent consistent
  | cancelCondensed => exact consistent
  | cancelWideLine => exact consistent
  | _ => exact consistent

theorem consistent_setTabs (consistent : r.appearance.Consistent) (axis : TabAxis)
    (stops : List UInt8) : (r.setTabs axis stops).appearance.Consistent := by
  cases axis with
  | horizontal => exact consistent
  | vertical => exact consistent

end Registers

/-! ## Drawing the line -/

namespace Paper

variable {r : Registers}

/-- A line of a kind that is drawn marks every place on the sheet that its rule covers. -/
theorem marked_drawScore (scored : r.style.scored = true) (drawn : r.score ≠ .none) (s : Sheet)
    (first last top : Int) (lineHeight : Float) {x y : Int} (on : s.On x y)
    (covers :
      (Mark.rule first last (scoreRow r top lineHeight) r.score.isBroken).Covers s.dpi x y) :
    (drawScore r s first last top lineHeight).Marked x y := by
  have asked : ¬ (r.score = .none ∨ r.style.scored = false) := by
    rintro (none | unscored)
    · exact drawn none
    · exact absurd (scored.symm.trans unscored) (by decide)
  have ruled : (s.rule first last (scoreRow r top lineHeight) r.score.isBroken).Marked x y :=
    (Mark.marked_apply (.rule first last _ _) s x y).mpr (.inr ⟨on, covers⟩)
  rw [drawScore, if_neg asked]
  dsimp only
  split
  · exact (Mark.marked_apply (.rule first last _ _) _ x y).mpr (.inl ruled)
  · exact ruled

end Paper

namespace Printer

variable {p : Printer}

theorem Reachable.consistent (reachable : p.Reachable) : p.registers.appearance.Consistent := by
  let Holds (r : Registers) : Prop := r.appearance.Consistent
  have receive : ∀ i autofeed byte, Holds (Interpreter.registers i) →
      Holds (Interpreter.receive i autofeed byte).1.registers :=
    Interpreter.holds_receive_of_command
      (fun r c params consistent =>
        Registers.consistent_obey consistent (Instruction.inRange_ofCommand c params))
      (fun r autofeed code consistent => Registers.consistent_control consistent autofeed code)
      (fun r axis stops consistent => Registers.consistent_setTabs consistent axis stops)
  have restart (i : Interpreter) (_ : Holds i.registers) : Holds i.restart.registers :=
    Registers.consistent_powerOn _ _
  exact reachable.interpreter Registers.consistent_powerOn receive restart

/-- In a reachable printer characters are not raised and lowered at once, the pitch is 10, 12 or 15
to the inch, and any line along the characters that is asked for is of a kind that is drawn:
wherever on the sheet its rule lies, there is ink once it has been drawn. -/
theorem appearance_of_reachable (reachable : p.Reachable) :
    ¬ (p.registers.style.superscript = true ∧ p.registers.style.subscript = true) ∧
      (p.registers.style.underline = true ∨ p.registers.style.strikethrough = true ∨
          p.registers.style.overscore = true →
        p.registers.score ≠ .none ∧
          ∀ (s : Sheet) (first last top : Int) (lineHeight : Float) (x y : Int), s.On x y →
            (Mark.rule first last (Paper.scoreRow p.registers top lineHeight)
              p.registers.score.isBroken).Covers s.dpi x y →
            (Paper.drawScore p.registers s first last top lineHeight).Marked x y) ∧
      (p.registers.cpi = 10.0 ∨ p.registers.cpi = 12.0 ∨ p.registers.cpi = 15.0) := by
  obtain ⟨script, score, cpi⟩ := reachable.consistent
  refine ⟨script, ?_, cpi⟩
  intro asked
  have scored : p.registers.style.scored = true := Style.scored_iff.mpr asked
  refine ⟨score scored, ?_⟩
  intro s first last top lineHeight x y on covers
  exact Paper.marked_drawScore scored (score scored) s first last top lineHeight on covers

/-- Characters are lowered and not raised any more, and struck through by two broken lines; the
command for pitch and style leaves both as they are. -/
theorem appearance_of_reachable_letter :
    let host : Host := { launch := fun _ _ => .error "no programs", date := "2024-02-29 12:30:00" }
    let scripts : List UInt8 := [0x1B, 0x53, 0x01, 0x1B, 0x53, 0x00]
    let line : List UInt8 := [0x1B, 0x28, 0x2D, 0x03, 0x00, 0x01, 0x02, 0x06]
    let master : List UInt8 := [0x1B, 0x21, 0x41]
    let p := (powerOn .letter host {}).run (.reset :: (scripts ++ line ++ master).map (.byte 0))
    let sheet : Sheet := ⟨3, 1, 180, #v[0, 0, 0]⟩
    p.Reachable ∧ p.registers.style.subscript = true ∧ p.registers.style.superscript = false ∧
      p.registers.style.strikethrough = true ∧ p.registers.score = .doubleBroken ∧
      p.registers.cpi = 12.0 ∧ (Paper.drawScore p.registers sheet 0 2 0 2).Marked 1 0 := by
  intro host scripts line master p sheet
  have reachable : p.Reachable := (Reachable.new (new_letter host {})).run _
  obtain ⟨script, score, -⟩ := appearance_of_reachable reachable
  have lowered : p.registers.style.subscript = true := by decide +kernel
  have struck : p.registers.style.strikethrough = true := by decide +kernel
  have raised : p.registers.style.superscript = false := by
    rw [Bool.eq_false_iff]
    intro raised
    exact script ⟨raised, lowered⟩
  have kind : p.registers.score = .doubleBroken := by decide +kernel
  have pitch : p.registers.cpi = 12.0 := by decide +kernel
  obtain ⟨-, drawn⟩ := score (.inr (.inl struck))
  have row : Paper.scoreRow p.registers 0 2 = 0 := by decide +kernel
  have covers : (Mark.rule 0 2 (Paper.scoreRow p.registers 0 2)
      p.registers.score.isBroken).Covers sheet.dpi 1 0 := by
    rw [row, kind]
    unfold Mark.Covers
    decide
  have on : sheet.On 1 0 := by
    unfold Sheet.On
    decide
  exact ⟨reachable, lowered, raised, struck, kind, pitch, drawn sheet 0 2 0 2 1 0 on covers⟩

end Printer

end PinPrinter
