import PinPrinter.Instruction

/-! # Views of the registers

A theorem is often about a few of the registers, and most of what changes registers leaves these
alone. Here they are whatever some function shows of all registers. A change that can be refused is
not seen if it would not be seen where it is made, so only changes that are made have to be looked
at. Views that show nothing of the page, of the character tables or of the style are blind to
everything that is about these.
-/

namespace PinPrinter

/-- The instructions that are about the page and its margins. -/
def Instruction.setsPage : Instruction → Bool
  | .restart | .pageLines _ | .pageInches _ | .pageUnits _ | .pageFormat _ _ | .bottomMargin _
  | .cancelMargins | .rightMargin _ | .leftMargin _ => true
  | _ => false

namespace Registers

/-- What a control code does to the settings, wherever the pen goes. -/
def control (r : Registers) (autofeed : Bool) : Control → Registers
  | .verticalTab | .formFeed | .lineFeed => r.endLine
  | .carriageReturn => if autofeed then r.endLine else r
  | .shiftOut => r.beginWideLine
  | .shiftIn => r.beginCondensed
  | .cancelCondensed => r.cancelCondensed
  | .cancelWideLine => r.cancelWideLine
  | .nul | .bel | .backspace | .horizontalTab | .select | .deselect | .cancelLine => r

variable {α : Type} {view : Registers → α} {r : Registers}

theorem view_ite {c : Prop} [Decidable c] {yes no : Registers} (accepted : view yes = view r)
    (refused : view no = view r) : view (if c then yes else no) = view r := by
  split
  · exact accepted
  · exact refused

/-- Where a unit has been defined, margins that are out of order are refused, and each of the others
is taken by itself. -/
theorem setPageFormat_of_unit {unit : Float} (defined : r.unit = some unit) (top bottom : Nat) :
    r.setPageFormat top bottom =
      if Float.ofNat top * unit ≥ Float.ofNat bottom * unit then r
      else
        let topped := if Float.ofNat top * unit < r.pageHeight
          then { r with topMargin := Float.ofNat top * unit } else r
        if Float.ofNat bottom * unit < topped.pageHeight
          then { topped with bottomMargin := Float.ofNat bottom * unit } else topped := by
  simp only [setPageFormat, defined]

/-! ## Views without the page -/

/-- The view shows neither the length of the page nor its margins. -/
def Pageless (view : Registers → α) : Prop :=
  ∀ r pageHeight topMargin bottomMargin leftMargin rightMargin,
    view { r with
      pageHeight := pageHeight
      topMargin := topMargin
      bottomMargin := bottomMargin
      leftMargin := leftMargin
      rightMargin := rightMargin } = view r

namespace Pageless

theorem setPageHeight (pageless : Pageless view) (r : Registers) (height : Float) :
    view (r.setPageHeight height) = view r :=
  view_ite (pageless r _ _ _ _ _) rfl

theorem setPageFormat (pageless : Pageless view) (r : Registers) (top bottom : Nat) :
    view (r.setPageFormat top bottom) = view r := by
  cases defined : r.unit with
  | none => simp only [Registers.setPageFormat, defined]
  | some unit =>
    -- The bottom margin is set in registers that may have another top margin already.
    have topped : view (if Float.ofNat top * unit < r.pageHeight
        then { r with topMargin := Float.ofNat top * unit } else r) = view r :=
      view_ite (pageless r _ _ _ _ _) rfl
    rw [setPageFormat_of_unit defined]
    apply view_ite rfl
    exact view_ite ((pageless _ _ _ _ _ _).trans topped) topped

/-- Of the instructions about the page only a restart is seen. -/
theorem obey (pageless : Pageless view) (r : Registers) {instruction : Instruction}
    (page : instruction.setsPage = true) (notRestart : instruction ≠ .restart) :
    view (r.obey instruction) = view r := by
  cases instruction with
  | restart => exact absurd rfl notRestart
  | pageLines lines => exact pageless.setPageHeight r _
  | pageInches inches =>
    have topped : view { r with topMargin := 0.0 } = view r := pageless r _ _ _ _ _
    exact (pageless.setPageHeight _ _).trans topped
  | pageUnits count =>
    simp only [Registers.obey]
    cases r.unit with
    | none => rfl
    | some unit => exact view_ite ((pageless _ _ _ _ _ _).trans (pageless.setPageHeight r _)) rfl
  | pageFormat top bottom => exact pageless.setPageFormat r top bottom
  | bottomMargin lines => exact view_ite (pageless r _ _ _ _ _) rfl
  | cancelMargins => exact pageless r _ _ _ _ _
  | rightMargin column => exact view_ite (pageless r _ _ _ _ _) rfl
  | leftMargin column => exact view_ite (pageless r _ _ _ _ _) rfl
  | _ => cases page

end Pageless

/-! ## Views without the character tables -/

/-- The view shows neither the character tables nor the font, which the active one makes italic. -/
def Tableless (view : Registers → α) : Prop :=
  ∀ r tables activeTable charMap font,
    view { r with
      tables := tables
      activeTable := activeTable
      charMap := charMap
      font := font } = view r

namespace Tableless

theorem obey_selectTable (tableless : Tableless view) (r : Registers) (slot : Option (Fin 4)) :
    view (r.obey (.selectTable slot)) = view r := by
  simp only [Registers.obey, selectTable, dif_pos (Fin.isLt _)]
  exact tableless r _ _ _ _

theorem obey_assignTable (tableless : Tableless view) (r : Registers) (slot : Nat)
    (selector : UInt8) : view (r.obey (.assignTable slot selector)) = view r := by
  simp only [Registers.obey, assignTable?]
  split
  · exact tableless r _ _ _ _
  · split
    · split
      · exact tableless r _ _ _ _
      · exact tableless r _ _ _ _
    · exact tableless r _ _ _ _

end Tableless

/-! ## Views without the style -/

/-- The view shows nothing that control codes change: no style, no font and no motion index. -/
def Unstyled (view : Registers → α) : Prop :=
  ∀ r style motionIndex font,
    view { r with style := style, motionIndex := motionIndex, font := font } = view r

namespace Unstyled

theorem endLine (unstyled : Unstyled view) (r : Registers) : view r.endLine = view r :=
  view_ite (unstyled r _ _ _) rfl

theorem control (unstyled : Unstyled view) (r : Registers) (autofeed : Bool) (code : Control) :
    view (r.control autofeed code) = view r := by
  cases code with
  | verticalTab => exact unstyled.endLine r
  | formFeed => exact unstyled.endLine r
  | lineFeed => exact unstyled.endLine r
  | carriageReturn => exact view_ite (unstyled.endLine r) rfl
  | shiftOut => exact view_ite rfl (unstyled r _ _ _)
  | shiftIn => exact view_ite rfl (unstyled r _ _ _)
  | cancelCondensed => exact unstyled r _ _ _
  | cancelWideLine => exact unstyled r _ _ _
  | _ => rfl

end Unstyled

end Registers

end PinPrinter
