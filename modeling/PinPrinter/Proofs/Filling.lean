import PinPrinter.Proofs.Drawing

/-! # Graphics join full ink

The dots of a bit image and the bars of a bar code are boxes of full ink. Ink that joins a pixel a
second time leaves it as it is, so however the boxes overlap, a pixel either keeps its value or gets
full ink joined to it once.
-/

namespace PinPrinter

/-- A pixel of full ink. -/
def Ink.full (ink : Ink) : UInt8 :=
  ink.bits ||| Pixel.intensityMask

/-- Full ink that joins twice is there once. -/
@[simp] theorem Ink.or_full_or_full (ink : Ink) (old : UInt8) :
    (old ||| ink.full) ||| ink.full = old ||| ink.full := by
  rw [UInt8.or_assoc, UInt8.or_self]

namespace Sheet

variable {ink : Ink} {s t u : Sheet}

/-- The second sheet is the first one with full ink joined to some of its pixels. -/
structure Filled (ink : Ink) (s t : Sheet) : Prop where
  size : t.clear = s.clear
  pixel : ∀ index, t.pixel index = s.pixel index ∨ t.pixel index = s.pixel index ||| ink.full

theorem Filled.refl (ink : Ink) (s : Sheet) : Filled ink s s where
  size := rfl
  pixel _ := .inl rfl

theorem Filled.trans (first : Filled ink s t) (second : Filled ink t u) : Filled ink s u where
  size := second.size.trans first.size
  pixel index := by
    rcases second.pixel index with same | joined
    · rw [same]
      exact first.pixel index
    · right
      rcases first.pixel index with before | before
      · rw [joined, before]
      · rw [joined, before, Ink.or_full_or_full]

/-- A pixel is left alone by a change, or it is the one that is changed. -/
theorem pixel_modify (s : Sheet) (x y : Int) (f : UInt8 → UInt8) (index : Nat) :
    (s.modify x y f).pixel index = s.pixel index ∨
      (s.modify x y f).pixel index = f (s.pixel index) := by
  obtain ⟨width, height, dpi, pixels⟩ := s
  unfold modify
  dsimp only
  split
  case isFalse => exact .inl rfl
  case isTrue =>
    simp only [pixel, Vector.getElem?_set]
    split
    case isFalse => exact .inl rfl
    case isTrue same =>
      right
      subst same
      rw [Vector.getElem?_eq_getElem]
      rfl

theorem filled_modify (ink : Ink) (s : Sheet) (x y : Int) :
    Filled ink s (s.modify x y (· ||| ink.full)) where
  size := clear_modify s x y _
  pixel := pixel_modify s x y _

theorem filled_foldl {α : Type} {step : Sheet → α → Sheet}
    (fills : ∀ s a, Filled ink s (step s a)) (steps : List α) (s : Sheet) :
    Filled ink s (steps.foldl step s) := by
  induction steps generalizing s with
  | nil => exact .refl ink s
  | cons a rest ih => exact (fills s a).trans (ih _)

theorem filled_fill (s : Sheet) (x y : Int) (width height : Nat) (ink : Ink) :
    Filled ink s (s.fill x y width height ink) := by
  unfold fill
  apply filled_foldl
  intro s row
  apply filled_foldl
  intro s column
  exact filled_modify ink s _ _

end Sheet

theorem BitImage.filled_printColumn (d : Density) (s : Sheet) (column : Array UInt8) (x y : Float)
    (ink : Ink) : Sheet.Filled ink s (printColumn d s column x y ink) := by
  unfold printColumn
  apply Sheet.filled_foldl
  intro s row
  exact Sheet.filled_fill ..

end PinPrinter
