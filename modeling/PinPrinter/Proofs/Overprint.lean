import Mathlib.Algebra.GroupWithZero.Nat
import PinPrinter.Proofs.Pixelwise

/-! # Overprinting

Ink joins a sheet in any order: the colour bits of a pixel are joined, and its intensity adds up to
full ink, however it gets there. Bold and double strike rely on it, as they strike a character again
beside and below where it stands.
-/

namespace PinPrinter

/-- Ink that joins what is on a sheet. -/
inductive Overprint where
  | glyph (glyph : Glyph) (x y : Int) (ink : Ink)
  | box (x y : Int) (width height : Nat) (ink : Ink)
  deriving DecidableEq, Repr

namespace Overprint

open Pixel Sheet

/-- The sheet with the ink on it. -/
def apply (s : Sheet) : Overprint → Sheet
  | glyph g x y ink => s.blit g x y true ink
  | box x y width height ink => s.fill x y width height ink

/-- The ink that is printed with. -/
def ink : Overprint → Ink
  | glyph _ _ _ ink | box _ _ _ _ ink => ink

/-- A place is covered. Coverage that is too light to add to the intensity counts, too. -/
def covers (px py : Int) : Overprint → Bool
  | glyph g x y _ => g.coverageOver x y px py != 0
  | box x y width height _ => (x ≤ px ∧ px < x + width) ∧ y ≤ py ∧ py < y + height

/-- Ink gets to a place: all that is covered, unless the far edge of a box has no number. -/
def reaches (px py : Int) : Overprint → Bool
  | glyph g x y _ => g.coverageOver x y px py != 0
  | box x y width height _ =>
    (x ≤ px ∧ px < Rounding.wrap 64 (x + width)) ∧ y ≤ py ∧ py < Rounding.wrap 64 (y + height)

/-- The far edges of a box are numbers of 64 bits. -/
def Fits : Overprint → Prop
  | glyph .. => True
  | box x y width height _ => BoxFits x y width height

theorem reaches_of_fits {op : Overprint} (fits : op.Fits) (px py : Int) :
    op.reaches px py = op.covers px py := by
  cases op with
  | glyph => rfl
  | box x y width height ink =>
    obtain ⟨right, bottom⟩ := BoxFits.edges fits
    rw [reaches, covers, right, bottom]

/-- What is added to the intensity of a place that is covered. -/
def share (px py : Int) : Overprint → Nat
  | glyph g x y _ => (g.coverageOver x y px py >>> 3).toNat
  | box .. => 31

/-- What becomes of a pixel. -/
def change (op : Overprint) (px py : Int) (old : UInt8) : UInt8 :=
  if op.reaches px py then
    ofParts (band old ||| op.ink.band) (min 31 (intensity old + op.share px py))
  else old

theorem changed_apply (op : Overprint) (s : Sheet) : Changed op.change s (op.apply s) := by
  cases op with
  | glyph g x y ink =>
    apply (changed_blit s g x y true ink).congr
    intro px py old
    simp only [pressed, joinInk_eq, change, reaches, share, Overprint.ink, if_true, bne_iff_ne,
      ite_not]
  | box x y width height ink =>
    apply (changed_fill s x y width height ink).congr
    intro px py old
    have full : min 31 (intensity old + 31) = 31 := Nat.min_eq_left (Nat.le_add_left ..)
    simp only [change, reaches, share, Overprint.ink, or_full_eq, decide_eq_true_eq, full]

/-- What becomes of a pixel under one operation after the other. -/
def changes (ops : List Overprint) (px py : Int) (old : UInt8) : UInt8 :=
  ops.foldl (fun old op => op.change px py old) old

theorem changed_foldl (ops : List Overprint) (s : Sheet) :
    Changed (changes ops) s (ops.foldl apply s) := by
  induction ops generalizing s with
  | nil => exact .refl s
  | cons op rest ih => exact (changed_apply op s).trans (ih (op.apply s))

/-- It is enough to stop at full ink once, after everything is added. -/
theorem changes_eq (ops : List Overprint) (px py : Int) (old : UInt8) :
    changes ops px py old =
      let reaching := ops.filter (·.reaches px py)
      ofParts (reaching.foldl (fun colours op => colours ||| op.ink.band) (band old))
        (min 31 (intensity old + (reaching.map (·.share px py)).sum)) := by
  dsimp only
  induction ops generalizing old with
  | nil =>
    have small := Nat.le_of_lt_succ (intensity_lt old)
    simp only [changes, List.filter_nil, List.foldl_nil, List.map_nil, List.sum_nil, Nat.add_zero,
      Nat.min_eq_right small, ofParts_parts]
  | cons op rest ih =>
    have step : changes (op :: rest) px py old = changes rest px py (op.change px py old) := rfl
    rw [step, ih]
    by_cases reached : op.reaches px py = true
    · have few : (band old ||| op.ink.band).toNat < 8 := by
        rw [← band_bits, ← band_or]
        exact band_lt _
      have small : min 31 (intensity old + op.share px py) < 32 := by omega
      have total (more : Nat) : min 31 (min 31 (intensity old + op.share px py) + more) =
          min 31 (intensity old + (op.share px py + more)) := by omega
      rw [change, if_pos reached, band_ofParts few small, intensity_ofParts small, total,
        List.filter_cons_of_pos reached, List.foldl_cons, List.map_cons, List.sum_cons]
    · rw [change, if_neg reached, List.filter_cons_of_neg reached]

theorem changes_perm {ops ops' : List Overprint} (perm : ops.Perm ops') (px py : Int)
    (old : UInt8) : changes ops px py old = changes ops' px py old := by
  have reaching := perm.filter (·.reaches px py)
  have swap (colours first second : UInt8) :
      colours ||| first ||| second = colours ||| second ||| first := by
    rw [UInt8.or_assoc, UInt8.or_comm first, UInt8.or_assoc]
  have colours := reaching.foldl_eq' (f := fun colours op => colours ||| op.ink.band)
    (fun _ _ _ _ _ => swap ..) (band old)
  have shares := (reaching.map (·.share px py)).sum_nat
  simp only [changes_eq, colours, shares]

end Overprint

end PinPrinter
