import PinPrinter.Printer.Paper

/-! # Drawing keeps the size of a sheet

All drawing comes down to changes of single pixels, and none of them changes how large a sheet is or
how fine. What is left of a sheet when it is cleared therefore says the same before and after.
-/

namespace PinPrinter

namespace Sheet

@[simp] theorem clear_clear (s : Sheet) : s.clear.clear = s.clear :=
  rfl

@[simp] theorem clear_modify (s : Sheet) (x y : Int) (f : UInt8 → UInt8) :
    (s.modify x y f).clear = s.clear := by
  obtain ⟨width, height, dpi, pixels⟩ := s
  unfold modify
  dsimp only
  split <;> rfl

/-- A sequence of steps keeps the size if each of them does. -/
theorem clear_foldl {α : Type} {step : Sheet → α → Sheet}
    (keeps : ∀ s a, (step s a).clear = s.clear) (steps : List α) (s : Sheet) :
    (steps.foldl step s).clear = s.clear := by
  induction steps generalizing s with
  | nil => rfl
  | cons a rest ih => rw [List.foldl_cons, ih, keeps]

/-- A step that may be passed over keeps the size if it does so otherwise. -/
theorem clear_ite (skipped : Prop) [Decidable skipped] {s t : Sheet} (keeps : t.clear = s.clear) :
    (if skipped then s else t).clear = s.clear := by
  split
  · rfl
  · exact keeps

@[simp] theorem clear_blit (s : Sheet) (g : Glyph) (x y : Int) (additive : Bool) (ink : Ink) :
    (s.blit g x y additive ink).clear = s.clear := by
  rw [blit]
  apply clear_foldl
  intro s row
  apply clear_foldl
  intro s column
  exact clear_ite _ (clear_modify ..)

@[simp] theorem clear_rule (s : Sheet) (first last y : Int) (broken : Bool) :
    (s.rule first last y broken).clear = s.clear := by
  rw [rule]
  apply clear_foldl
  intro s column
  apply clear_ite
  simp only [clear_modify]

@[simp] theorem clear_fill (s : Sheet) (x y : Int) (width height : Nat) (ink : Ink) :
    (s.fill x y width height ink).clear = s.clear := by
  unfold fill
  apply clear_foldl
  intro s row
  apply clear_foldl
  intro s column
  exact clear_modify ..

end Sheet

theorem BitImage.clear_printColumn (d : Density) (s : Sheet) (column : Array UInt8) (x y : Float)
    (ink : Ink) : (printColumn d s column x y ink).clear = s.clear := by
  unfold printColumn
  apply Sheet.clear_foldl
  intro s row
  exact Sheet.clear_fill ..

namespace Paper

theorem clear_strike (s : Sheet) (g : Glyph) (style : Style) (ink : Ink) (x y : Int) :
    (strike s g style ink x y).clear = s.clear := by
  unfold strike
  rw [Sheet.clear_foldl fun s place => Sheet.clear_blit .., Sheet.clear_blit]

theorem clear_drawScore (r : Registers) (s : Sheet) (first last top : Int) (lineHeight : Float) :
    (drawScore r s first last top lineHeight).clear = s.clear := by
  unfold drawScore
  split
  · rfl
  · dsimp only
    split <;> simp only [Sheet.clear_rule]

end Paper

end PinPrinter
