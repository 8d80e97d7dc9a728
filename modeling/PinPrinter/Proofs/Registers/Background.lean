import PinPrinter.Proofs.Registers.View

/-! # Registers that stay in the background

Nothing that a host sends changes the size of the paper that the printer was made for. What the
bytes from 80h to 9Fh mean is changed by the two instructions that say so and by a restart, and by
nothing else. Both are followed together through everything that changes registers.
-/

namespace PinPrinter

namespace Registers

/-- The size of the paper that was configured. -/
def paperSize (r : Registers) : Float × Float :=
  (r.paperWidth, r.paperHeight)

/-- The registers that have no part in how a page is set. -/
def background (r : Registers) : (Float × Float) × Bool :=
  (r.paperSize, r.printUpper)

theorem pageless_background : Pageless background :=
  fun _ _ _ _ _ _ => rfl

theorem tableless_background : Tableless background :=
  fun _ _ _ _ _ => rfl

/-- An instruction that neither restarts the printer nor is about the bytes from 80h to 9Fh changes
no register in the background. -/
theorem background_obey (r : Registers) (instruction : Instruction)
    (notRestart : instruction ≠ .restart) (notUpper : ∀ on, instruction ≠ .printUpper on) :
    (r.obey instruction).background = r.background := by
  cases instruction with
  | restart => exact absurd rfl notRestart
  | printUpper on => exact absurd rfl (notUpper on)
  | pageLines _ | pageInches _ | pageUnits _ | pageFormat _ _ | bottomMargin _ | cancelMargins
  | rightMargin _ | leftMargin _ =>
    exact pageless_background.obey r rfl nofun
  | tabEvery axis count => cases axis <;> rfl
  | extraSpace count => exact view_ite rfl rfl
  | wideLine => exact view_ite rfl rfl
  | condensed => exact view_ite rfl rfl
  | wide on => cases on <;> exact view_ite rfl rfl
  | tall on => exact view_ite rfl rfl
  | underline on => cases on <;> rfl
  | selectTable slot => exact tableless_background.obey_selectTable r slot
  | assignTable slot selector => exact tableless_background.obey_assignTable r slot selector
  | _ => rfl

theorem background_control (r : Registers) (autofeed : Bool) (code : Control) :
    (r.control autofeed code).background = r.background :=
  Unstyled.control (fun _ _ _ _ => rfl) r autofeed code

theorem background_setTabs (r : Registers) (axis : TabAxis) (stops : List UInt8) :
    (r.setTabs axis stops).background = r.background := by
  cases axis <;> rfl

/-! ## The size of the paper -/

theorem paperSize_obey (r : Registers) (instruction : Instruction) :
    (r.obey instruction).paperSize = r.paperSize := by
  by_cases restart : instruction = .restart
  · subst restart
    rfl
  · by_cases upper : ∃ on, instruction = .printUpper on
    · obtain ⟨on, rfl⟩ := upper
      rfl
    · have kept := background_obey r instruction restart fun on same => upper ⟨on, same⟩
      exact congrArg Prod.fst kept

theorem paperSize_control (r : Registers) (autofeed : Bool) (code : Control) :
    (r.control autofeed code).paperSize = r.paperSize :=
  congrArg Prod.fst (background_control r autofeed code)

theorem paperSize_setTabs (r : Registers) (axis : TabAxis) (stops : List UInt8) :
    (r.setTabs axis stops).paperSize = r.paperSize :=
  congrArg Prod.fst (background_setTabs r axis stops)

/-! ## Which bytes are printed -/

/-- Only two instructions change what the bytes from 80h to 9Fh mean. -/
theorem printUpper_obey (r : Registers) (instruction : Instruction)
    (notRestart : instruction ≠ .restart) (notUpper : ∀ on, instruction ≠ .printUpper on) :
    (r.obey instruction).printUpper = r.printUpper :=
  congrArg Prod.snd (background_obey r instruction notRestart notUpper)

theorem printUpper_control (r : Registers) (autofeed : Bool) (code : Control) :
    (r.control autofeed code).printUpper = r.printUpper :=
  congrArg Prod.snd (background_control r autofeed code)

theorem printUpper_setTabs (r : Registers) (axis : TabAxis) (stops : List UInt8) :
    (r.setTabs axis stops).printUpper = r.printUpper :=
  congrArg Prod.snd (background_setTabs r axis stops)

end Registers

end PinPrinter
