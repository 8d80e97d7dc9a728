import PinPrinter.Proofs.Inking
import PinPrinter.Proofs.Pixelwise

/-! # Blank sheets

A blank sheet is never sent off, so the test for one has to be exact. Whatever is drawn leaves ink
at every place that it covers: the colour bits of an ink are never all zero, so coverage that is too
faint for the lowest intensity still shows. And nothing that is drawn takes ink off. A place
therefore has ink on it exactly if something has covered it, and a sheet is blank exactly if nothing
has covered any place of it.
-/

namespace PinPrinter

namespace Sheet

variable {s t : Sheet} {x y : Int}

/-- There is ink at a place of the sheet. -/
def Marked (s : Sheet) (x y : Int) : Prop :=
  ∃ pixel, s.get? x y = some pixel ∧ pixel ≠ 0

theorem get?_of_on (on : s.On x y) :
    s.get? x y = some (s.pixel (y.toNat * s.width + x.toNat)) := by
  obtain ⟨⟨left, right⟩, top, bottom⟩ := on
  have inside : y.toNat * s.width + x.toNat < s.width * s.height :=
    index_lt (by omega) (by omega)
  rw [pixel, Vector.getElem?_eq_getElem inside]
  exact congrArg (Option.map fun i => s.pixels[i]) (dif_pos ⟨⟨left, right⟩, top, bottom⟩)

theorem on_iff_exists : s.On x y ↔ ∃ pixel, s.get? x y = some pixel := by
  constructor
  · intro on
    exact ⟨_, get?_of_on on⟩
  · rintro ⟨pixel, seen⟩
    by_cases on : s.On x y
    · exact on
    · rw [get?_of_not_on on] at seen
      cases seen

theorem Marked.on (marked : s.Marked x y) : s.On x y := by
  obtain ⟨pixel, seen, -⟩ := marked
  exact on_iff_exists.mpr ⟨pixel, seen⟩

theorem marked_iff_of_on (on : s.On x y) :
    s.Marked x y ↔ s.pixel (y.toNat * s.width + x.toNat) ≠ 0 := by
  simp only [Marked, get?_of_on on, Option.some.injEq, exists_eq_left']

/-- A sheet is blank if there is no ink at any of its places. -/
theorem isBlank_iff_not_marked (s : Sheet) : s.isBlank = true ↔ ∀ x y, ¬ s.Marked x y := by
  constructor
  · intro blank x y marked
    have ink := (marked_iff_of_on marked.on).mp marked
    exact ink ((isBlank_iff s).mp blank _)
  · intro clean
    have same : s.clear = s := by
      apply ext_get? (clear_clear s)
      intro x y
      by_cases on : s.On x y
      · have clear : s.clear.pixel (y.toNat * s.width + x.toNat) = 0 :=
          (isBlank_iff s.clear).mp (isBlank_clear s) _
        have unmarked : s.pixel (y.toNat * s.width + x.toNat) = 0 :=
          Decidable.not_not.mp fun ink => clean x y ((marked_iff_of_on on).mpr ink)
        have on' : s.clear.On x y := on
        rw [get?_of_on on, get?_of_on on', unmarked]
        exact congrArg some clear
      · have off : ¬ s.clear.On x y := on
        rw [get?_of_not_on on, get?_of_not_on off]
    rw [← same]
    exact isBlank_clear s

/-- Ink at a place after a change of all pixels, if the change leaves ink where it covers the sheet
and keeps the other pixels as they are. -/
theorem Changed.marked_iff {change : Int → Int → UInt8 → UInt8} {covered : Prop}
    (changed : Changed change s t) (inks : s.On x y → covered → ∀ old, change x y old ≠ 0)
    (keeps : s.On x y → ¬ covered → ∀ old, change x y old = old) :
    t.Marked x y ↔ s.Marked x y ∨ s.On x y ∧ covered := by
  by_cases on : s.On x y
  case neg =>
    have unseen : t.get? x y = none := by rw [changed.pixel, get?_of_not_on on, Option.map_none]
    simp only [Marked, unseen, get?_of_not_on on, reduceCtorEq, false_and, exists_false, on,
      or_false]
  case pos =>
    obtain ⟨old, before⟩ := on_iff_exists.mp on
    have after : t.get? x y = some (change x y old) := by
      rw [changed.pixel, before, Option.map_some]
    simp only [Marked, before, after, Option.some.injEq, exists_eq_left', on, true_and]
    by_cases covers : covered
    · simp only [covers, or_true, iff_true]
      exact inks on covers old
    · simp only [keeps on covers, covers, or_false]

end Sheet

open Sheet

/-- Something that is drawn on a sheet. -/
inductive Mark where
  | glyph (glyph : Glyph) (x y : Int) (additive : Bool) (ink : Ink)
  | rule (first last y : Int) (broken : Bool)
  | box (x y : Int) (width height : Nat) (ink : Ink)
  deriving DecidableEq, Repr

namespace Mark

/-- The sheet with the mark on it. -/
def apply (s : Sheet) : Mark → Sheet
  | glyph g x y additive ink => s.blit g x y additive ink
  | rule first last y broken => s.rule first last y broken
  | box x y width height ink => s.fill x y width height ink

/-- The mark covers a place. A glyph does so where it has any coverage at all, and a broken rule
leaves out the end of each period, of which there are fifteen to the inch. -/
def Covers (dpi : Nat) (px py : Int) : Mark → Prop
  | glyph g x y _ _ => g.coverageOver x y px py ≠ 0
  | rule first last y broken =>
    let period := max ((dpi : Int) / 15) 1
    (first ≤ px ∧ px ≤ last) ∧ (py - y).natAbs ≤ 1 ∧
      ¬ (broken = true ∧ period * 4 / 5 < px % period)
  | box x y width height _ => (x ≤ px ∧ px < x + width) ∧ y ≤ py ∧ py < y + height

/-- Ink of the mark gets to a place: all that it covers, unless the far edge of a box has no
number. -/
def Reaches (dpi : Nat) (px py : Int) : Mark → Prop
  | box x y width height _ =>
    (x ≤ px ∧ px < Rounding.wrap 64 (x + width)) ∧ y ≤ py ∧ py < Rounding.wrap 64 (y + height)
  | mark => mark.Covers dpi px py

/-- The far edges of a box are numbers of 64 bits. -/
def Fits : Mark → Prop
  | box x y width height _ => BoxFits x y width height
  | _ => True

theorem reaches_iff_covers {mark : Mark} (fits : mark.Fits) (dpi : Nat) (px py : Int) :
    mark.Reaches dpi px py ↔ mark.Covers dpi px py := by
  cases mark with
  | glyph | rule => exact Iff.rfl
  | box x y width height ink =>
    obtain ⟨right, bottom⟩ := BoxFits.edges fits
    rw [Reaches, Covers, right, bottom]

@[simp] theorem clear_apply (mark : Mark) (s : Sheet) : (mark.apply s).clear = s.clear := by
  cases mark with
  | glyph g x y additive ink => exact clear_blit s g x y additive ink
  | rule first last y broken => exact clear_rule s first last y broken
  | box x y width height ink => exact clear_fill s x y width height ink

theorem pressed_ne_zero (additive : Bool) (ink : Ink) {coverage : UInt8} (covers : coverage ≠ 0)
    (old : UInt8) : pressed additive ink coverage old ≠ 0 := by
  rw [pressed, if_neg covers]
  split
  · exact joinInk_ne_zero ink coverage old
  · exact replaceInk_ne_zero ink coverage old

/-- What a rule makes of a column outside of its gaps and near its row. -/
theorem ruled_ne_zero {dpi column : Nat} {broken : Bool} {below : Int}
    (near : below.natAbs ≤ 1) (solid : ¬ (broken = true ∧ inGap dpi column = true)) (old : UInt8) :
    ruled dpi broken column below old ≠ 0 := by
  rw [ruled, if_pos ⟨near, solid⟩]
  split <;> decide

/-- A mark leaves ink where it gets on the sheet, and takes none off. -/
theorem marked_apply (mark : Mark) (s : Sheet) (x y : Int) :
    (mark.apply s).Marked x y ↔ s.Marked x y ∨ s.On x y ∧ mark.Reaches s.dpi x y := by
  cases mark with
  | glyph g left top additive ink =>
    apply (changed_blit s g left top additive ink).marked_iff
    · intro _ covers
      exact pressed_ne_zero additive ink covers
    · intro _ uncovered old
      exact if_pos (Decidable.not_not.mp uncovered)
  | box left top width height ink =>
    apply (changed_fill s left top width height ink).marked_iff
    · intro _ covers old
      rw [if_pos (by exact covers)]
      exact or_full_ne_zero ink old
    · intro _ uncovered old
      exact if_neg uncovered
  | rule first last row broken =>
    apply (changed_rule s first last row broken).marked_iff
    · rintro ⟨⟨left, -⟩, -⟩ ⟨⟨least, most⟩, near, solid⟩ old
      rw [if_pos ⟨Int.max_le.mpr ⟨least, left⟩, most⟩]
      rw [← inGap_toNat left] at solid
      exact ruled_ne_zero near solid old
    · rintro ⟨⟨left, -⟩, -⟩ uncovered old
      split
      case isFalse => rfl
      case isTrue within =>
        apply if_neg
        rw [inGap_toNat left]
        exact fun ⟨near, solid⟩ =>
          uncovered ⟨⟨Int.le_trans (Int.le_max_left ..) within.1, within.2⟩, near, solid⟩

theorem on_apply (mark : Mark) (s : Sheet) {x y : Int} : (mark.apply s).On x y ↔ s.On x y := by
  have size : (mark.apply s).clear = s.clear := clear_apply mark s
  have width : (mark.apply s).width = s.width := congrArg (·.width) size
  have height : (mark.apply s).height = s.height := congrArg (·.height) size
  rw [On, On, width, height]

/-- There is ink at a place after some marks if there was ink before, or that of one of them gets
there. -/
theorem marked_foldl (marks : List Mark) (s : Sheet) (x y : Int) :
    (marks.foldl apply s).Marked x y ↔
      s.Marked x y ∨ s.On x y ∧ ∃ mark ∈ marks, mark.Reaches s.dpi x y := by
  induction marks generalizing s with
  | nil => simp
  | cons mark rest ih =>
    have dpi : (mark.apply s).dpi = s.dpi := congrArg (·.dpi) (clear_apply mark s)
    rw [List.foldl_cons, ih, marked_apply, dpi, on_apply]
    simp only [List.mem_cons, exists_eq_or_imp, and_or_left, or_assoc]

end Mark

end PinPrinter
