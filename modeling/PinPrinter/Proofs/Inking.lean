import PinPrinter.Proofs.Drawing

/-! # Drawing takes no ink off

Every ink has a colour, so a pixel that is drawn on is never blank afterwards: not under a glyph
that replaces what was there, nor under one that joins it, nor under a rule or a box. What is on a
sheet therefore stays on it until the sheet is cleared.
-/

namespace PinPrinter

theorem Ink.bits_ne_zero (ink : Ink) : ink.bits ≠ 0 := by
  cases ink <;> decide

namespace Sheet

variable {s t u : Sheet}

/-! ## More ink on a sheet -/

theorem isBlank_iff (s : Sheet) : s.isBlank = true ↔ ∀ index, s.pixel index = 0 := by
  rw [isBlank, Vector.all_eq_true]
  constructor
  · intro blank index
    rw [pixel]
    by_cases on : index < s.width * s.height
    · rw [Vector.getElem?_eq_getElem on, Option.getD_some]
      exact eq_of_beq (blank index on)
    · rw [Vector.getElem?_eq_none (Nat.le_of_not_lt on), Option.getD_none]
  · intro blank index on
    have zero := blank index
    rw [pixel, Vector.getElem?_eq_getElem on, Option.getD_some] at zero
    exact beq_of_eq zero

@[simp] theorem isBlank_clear (s : Sheet) : s.clear.isBlank = true := by
  rw [isBlank, Vector.all_eq_true]
  intro index on
  simp [clear, blank]

/-- The second sheet is the first one with more ink on it. -/
structure Inked (s t : Sheet) : Prop where
  size : t.clear = s.clear
  ink : ∀ index, s.pixel index ≠ 0 → t.pixel index ≠ 0

theorem Inked.refl (s : Sheet) : Inked s s where
  size := rfl
  ink _ marked := marked

theorem Inked.trans (first : Inked s t) (second : Inked t u) : Inked s u where
  size := second.size.trans first.size
  ink index marked := second.ink index (first.ink index marked)

/-- A sheet that is not blank does not become so by ink. -/
theorem Inked.isBlank (inked : Inked s t) (marked : s.isBlank = false) : t.isBlank = false := by
  rw [Bool.eq_false_iff] at marked ⊢
  intro blank
  apply marked
  rw [isBlank_iff] at blank ⊢
  intro index
  apply Decidable.byContradiction
  intro ink
  exact inked.ink index ink (blank index)

/-! ## Pixels -/

theorem replaceInk_ne_zero (ink : Ink) (coverage old : UInt8) :
    replaceInk ink coverage old ≠ 0 := by
  intro zero
  exact ink.bits_ne_zero (UInt8.or_eq_zero_iff.mp zero).2

/-- Full ink that joins a pixel shows. -/
theorem or_full_ne_zero (ink : Ink) (old : UInt8) :
    old ||| (ink.bits ||| Pixel.intensityMask) ≠ 0 := by
  intro zero
  exact ink.bits_ne_zero (UInt8.or_eq_zero_iff.mp (UInt8.or_eq_zero_iff.mp zero).2).1

theorem joinInk_ne_zero (ink : Ink) (coverage old : UInt8) : joinInk ink coverage old ≠ 0 := by
  unfold joinInk
  dsimp only
  split
  · exact or_full_ne_zero ink old
  · intro zero
    exact ink.bits_ne_zero (UInt8.or_eq_zero_iff.mp zero).2

theorem inked_modify (s : Sheet) (x y : Int) {f : UInt8 → UInt8} (inks : ∀ old, f old ≠ 0) :
    Inked s (s.modify x y f) where
  size := clear_modify s x y f
  ink := by
    obtain ⟨width, height, dpi, pixels⟩ := s
    intro index marked
    unfold modify
    dsimp only
    split
    · simp only [pixel, Vector.getElem?_set]
      split
      · exact inks _
      · exact marked
    · exact marked

/-! ## Drawing -/

theorem inked_foldl {α : Type} {step : Sheet → α → Sheet} (inks : ∀ s a, Inked s (step s a))
    (steps : List α) (s : Sheet) : Inked s (steps.foldl step s) := by
  induction steps generalizing s with
  | nil => exact .refl s
  | cons a rest ih => exact (inks s a).trans (ih _)

theorem inked_blit (s : Sheet) (g : Glyph) (x y : Int) (additive : Bool) (ink : Ink) :
    Inked s (s.blit g x y additive ink) := by
  have presses (coverage old : UInt8) :
      (if additive then joinInk ink else replaceInk ink) coverage old ≠ 0 := by
    split
    · exact joinInk_ne_zero ink coverage old
    · exact replaceInk_ne_zero ink coverage old
  unfold blit
  apply inked_foldl
  intro s row
  apply inked_foldl
  intro s column
  dsimp only
  split
  · exact .refl s
  · exact inked_modify s _ _ (presses _)

theorem inked_rule (s : Sheet) (first last y : Int) (broken : Bool) :
    Inked s (s.rule first last y broken) := by
  have edge : (240 : UInt8) ≠ 0 := by decide
  have center : (if broken then 240 else 255 : UInt8) ≠ 0 := by cases broken <;> decide
  unfold rule
  apply inked_foldl
  intro s column
  split
  · exact .refl s
  · exact ((inked_modify s _ _ fun _ => edge).trans (inked_modify _ _ _ fun _ => center)).trans
      (inked_modify _ _ _ fun _ => edge)

theorem inked_fill (s : Sheet) (x y : Int) (width height : Nat) (ink : Ink) :
    Inked s (s.fill x y width height ink) := by
  unfold fill
  apply inked_foldl
  intro s row
  apply inked_foldl
  intro s column
  exact inked_modify s _ _ (or_full_ne_zero ink)

end Sheet

open Sheet

theorem BitImage.inked_printColumn (d : Density) (s : Sheet) (column : Array UInt8) (x y : Float)
    (ink : Ink) : Inked s (printColumn d s column x y ink) := by
  unfold printColumn
  apply inked_foldl
  intro s row
  exact inked_fill ..

namespace Paper

theorem inked_strike (s : Sheet) (g : Glyph) (style : Style) (ink : Ink) (x y : Int) :
    Inked s (strike s g style ink x y) := by
  unfold strike
  exact (inked_blit s g x y false ink).trans (inked_foldl (fun s place => inked_blit ..) _ _)

theorem inked_drawScore (r : Registers) (s : Sheet) (first last top : Int) (lineHeight : Float) :
    Inked s (drawScore r s first last top lineHeight) := by
  unfold drawScore
  split
  · exact .refl s
  · dsimp only
    split
    · exact (inked_rule ..).trans (inked_rule ..)
    · exact inked_rule ..

end Paper

end PinPrinter
