import PinPrinter.Proofs.Binary64.Whole
import PinPrinter.Proofs.Glyph
import PinPrinter.Proofs.TypeCase

/-! # Leaning glyphs

Italics lean around the baseline: rows above it go to the right and rows below it to the left, each
by its height times a factor, up to the rounding. The shifts and the edges are numbers of 32 bits,
and a glyph leans exactly where these are enough. For the built-in face they always are.
-/

namespace PinPrinter

namespace Glyph

open Binary64
open Rounding (Fits clamp fits_clamp clamp_of_fits limit wrap_of_fits)

variable {g : Glyph} {factor : Float}

/-! ## How far a row goes -/

/-- How a row at some height over the baseline goes sideways: to the side of its height times the
factor, and as far as that, up to the rounding. -/
structure Leans (factor : Float) (height shift : Int) : Prop where
  right : 0 ≤ height * value factor → 0 ≤ shift
  left : height * value factor ≤ 0 → shift ≤ 0
  /-- The rounding is that of the product and that to a whole number. -/
  distance : |height * value factor| ≤ 2 ^ 31 - 1 →
    |shift - height * value factor| ≤ 1 / 2 + 1 / 2 ^ 23

/-- A number that is kept within 64 bits first is kept within 32 bits as it is. -/
theorem clamp_clamp (n : Int) : clamp 32 (clamp 64 n) = clamp 32 n := by
  have range : limit 32 = 2 ^ 31 := rfl
  have wider : limit 64 = 2 ^ 63 := rfl
  unfold Rounding.clamp
  omega

/-- Numbers that can be told apart from the ends of the range by a half are not kept back. -/
theorem fits_of_near {n : Int} {q : ℚ} (small : |q| ≤ 2 ^ 31 - 1) (near : |(n : ℚ) - q| < 1) :
    Fits 32 n := by
  obtain ⟨least, most⟩ := abs_le.mp small
  obtain ⟨above, below⟩ := abs_lt.mp near
  have low : (-2 ^ 31 : ℚ) < n := by linarith
  have high : (n : ℚ) < 2 ^ 31 := by linarith
  have low' : -2 ^ 31 < n := by exact_mod_cast low
  have high' : n < 2 ^ 31 := by exact_mod_cast high
  exact ⟨low'.le, high'⟩

/-- A height of 32 bits is a length, and its product with the factor is rounded. -/
theorem roundsTo_height_mul {height : Int} (fits : Fits 32 height) (finite : IsFinite factor) :
    RoundsTo (Float.ofInt height * factor) (height * value factor) := by
  have range : limit 32 = 2 ^ 31 := rfl
  obtain ⟨least, most⟩ := fits
  obtain ⟨whole, exactly⟩ := isFinite_ofInt (n := height) (by omega)
  have rounds := roundsTo_mul whole finite
  rwa [exactly] at rounds

/-- A small product is rounded, and then made whole, within a little more than a half of it. -/
theorem exists_nearest_of_roundsTo {x : Float} {q : ℚ} (rounds : RoundsTo x q)
    (small : |q| ≤ 2 ^ 31 - 1) :
    ∃ n : ℤ, Rounding.nearest x = clamp 64 n ∧ |(n : ℚ) - q| ≤ 1 / 2 + 1 / 2 ^ 23 := by
  have places : |q| < 2 ^ (53 + -22 : ℤ) := small.trans_lt (by norm_num)
  have error := abs_rounded_sub_le places (by decide) (by decide)
  rw [← rounds.value_eq] at error
  have size := abs_sub_abs_le_abs_sub (value x) q
  have finite : IsFinite x := by
    refine isFinite_iff.mpr ⟨rounds.number, ?_⟩
    calc |value x| ≤ 2 ^ 31 := by norm_num at error small ⊢; linarith
      _ < Binary64.limit := pow_lt_pow_right₀ one_lt_two (by decide)
  obtain ⟨n, nearest, rounding⟩ := exists_nearest finite
  refine ⟨n, nearest, ?_⟩
  have way := abs_sub_le (n : ℚ) (value x) q
  norm_num at error ⊢
  linarith

theorem leans_clamp_nearest {height : Int} (fits : Fits 32 height) (finite : IsFinite factor) :
    Leans factor height (clamp 32 (Rounding.nearest (Float.ofInt height * factor))) := by
  have rounds := roundsTo_height_mul fits finite
  obtain ⟨n, nearest, above, below⟩ := exists_nearest_sign rounds.number
  rw [rounds.value_eq] at above below
  have range : limit 32 = 2 ^ 31 := rfl
  refine ⟨fun nonneg => ?_, fun nonpos => ?_, fun small => ?_⟩
  · have right := above (rounded_zero ▸ rounded_mono nonneg)
    rw [nearest, clamp_clamp, Rounding.clamp]
    omega
  · have left := below (rounded_zero ▸ rounded_mono nonpos)
    rw [nearest, clamp_clamp, Rounding.clamp]
    omega
  · obtain ⟨m, nearest', near⟩ := exists_nearest_of_roundsTo rounds small
    rw [nearest', clamp_clamp, clamp_of_fits (fits_of_near small (near.trans_lt (by norm_num)))]
    exact near

/-- A row whose number and height are of 32 bits leans by its height over the baseline. -/
theorem leans_leanShift {top : Int} {row : Nat} (few : Fits 32 row) (fits : Fits 32 (top - row))
    (finite : IsFinite factor) : Leans factor (top - row) (leanShift top factor row) := by
  rw [leanShift, wrap_of_fits (by decide) few]
  exact leans_clamp_nearest fits finite

theorem italicLean_value : value italicLean = 3602879701896397 / 2 ^ 54 := by
  have unpacked : italicLean.toModel.unpack =
      .finite .positive 7205759403792794 (-55) (by decide) := by rfl
  rw [value, unpacked, valueOf, signed]
  norm_num

/-- In italics a row goes one column sideways for about five rows of height. -/
theorem abs_five_mul_leanShift_sub_le {top : Int} {row : Nat} (few : Fits 32 row)
    (fits : Fits 32 (top - row)) : |5 * leanShift top italicLean row - (top - row)| ≤ 2 := by
  have range : limit 32 = 2 ^ 31 := rfl
  have finite : IsFinite italicLean := by decide
  have leans := leans_leanShift few fits finite
  generalize leanShift top italicLean row = shift at leans
  obtain ⟨least, most⟩ := fits
  generalize top - (row : Int) = height at *
  have least' : (-2 ^ 31 : ℚ) ≤ height := by exact_mod_cast (range ▸ least : -2 ^ 31 ≤ height)
  have most' : (height : ℚ) ≤ 2 ^ 31 := by exact_mod_cast (range ▸ most : height < 2 ^ 31).le
  have small : |height * value italicLean| ≤ 2 ^ 31 - 1 := by
    rw [italicLean_value, abs_le]
    constructor <;> linarith
  obtain ⟨above, below⟩ := abs_le.mp (leans.distance small)
  rw [italicLean_value] at above below
  have low : (-3 : ℚ) < 5 * shift - height := by linarith
  have high : (5 * shift - height : ℚ) < 3 := by linarith
  have low' : -3 < 5 * shift - height := by exact_mod_cast low
  have high' : 5 * shift - height < 3 := by exact_mod_cast high
  rw [abs_le]
  omega

/-! ## Where 32 bits are enough -/

theorem isSome_sheared?_iff :
    (g.sheared? factor).isSome = true ↔ (g.width = 0 ∨ g.height = 0) ∨ g.Leanable factor := by
  unfold sheared?
  split_ifs <;> simp_all

theorem eq_shifted_of_sheared? {leaning : Glyph} (leant : g.sheared? factor = some leaning) :
    leaning = g.shifted (leanShift g.top factor) := by
  unfold sheared? at leant
  split_ifs at leant with empty leanable
  · rw [shifted_of_empty empty]
    exact (Option.some.inj leant).symm
  · exact (Option.some.inj leant).symm

/-- What is drawn in italics or not is the glyph, as it is or with its rows moved. -/
theorem eq_or_eq_shifted_of_italic (g : Glyph) (italic : Bool) :
    let drawn := if italic then (g.sheared? italicLean).getD g else g
    drawn = g ∨ drawn = g.shifted (leanShift g.top italicLean) := by
  cases italic with
  | false => exact .inl rfl
  | true =>
    dsimp only
    rw [if_pos rfl]
    cases leant : g.sheared? italicLean with
    | none => exact .inl rfl
    | some leaning => exact .inr (eq_shifted_of_sheared? leant)

/-- A glyph whose rows go a moderate way leans, if it starts a moderate way from the pen. -/
theorem leanable_of_small (solid : ¬ (g.width = 0 ∨ g.height = 0)) (finite : IsFinite factor)
    (rows : ∀ row < g.height, Fits 32 row ∧ Fits 32 (g.top - row))
    (small : ∀ row < g.height, |((g.top - row : ℤ) : ℚ) * value factor| ≤ 2 ^ 30 - 1)
    (left : |g.left| ≤ 2 ^ 30) : g.Leanable factor := by
  have range : limit 32 = 2 ^ 31 := rfl
  have start := abs_le.mp left
  have high : 0 < g.height := by omega
  have bounds : ∀ row < g.height, 1 - 2 ^ 30 ≤ leanShift g.top factor row ∧
      leanShift g.top factor row ≤ 2 ^ 30 - 1 := by
    intro row inside
    obtain ⟨few, fits⟩ := rows row inside
    have moderate := small row inside
    have leans := leans_leanShift few fits finite
    obtain ⟨above, below⟩ := abs_le.mp (leans.distance (moderate.trans (by norm_num)))
    obtain ⟨above', below'⟩ := abs_le.mp moderate
    generalize leanShift g.top factor row = shift at above below
    have least : (-2 ^ 30 : ℚ) < shift := by linarith
    have most : (shift : ℚ) < 2 ^ 30 := by linarith
    have least' : -2 ^ 30 < shift := by exact_mod_cast least
    have most' : shift < 2 ^ 30 := by exact_mod_cast most
    omega
  obtain ⟨least, greatest⟩ := between_of_shift high bounds
  obtain ⟨least', greatest'⟩ : leastShift (leanShift g.top factor) g.height ≤
        leanShift g.top factor 0 ∧
      leanShift g.top factor 0 ≤ greatestShift (leanShift g.top factor) g.height :=
    shift_between high
  refine ⟨fun row inside => ?_, ?_, ?_⟩
  · obtain ⟨few, fits⟩ := rows row inside
    rwa [wrap_of_fits (by decide) few]
  · unfold Rounding.Fits
    omega
  · unfold Rounding.Fits
    omega

/-- A glyph of some ten thousand rows about the baseline leans in italics. -/
theorem leanable_italics {bound : Nat} (few : bound < 2 ^ 16) (rows : g.height ≤ bound)
    (above : 0 ≤ g.top) (below : g.top ≤ bound) (left : g.left = 0) :
    (g.width = 0 ∨ g.height = 0) ∨ g.Leanable italicLean := by
  have range : limit 32 = 2 ^ 31 := rfl
  refine or_iff_not_imp_left.mpr fun solid =>
    leanable_of_small solid (by decide) (fun row inside => ?_) (fun row inside => ?_) ?_
  · unfold Rounding.Fits
    omega
  · have least : (-2 ^ 16 : ℚ) ≤ (g.top - row : ℤ) := by
      exact_mod_cast (by omega : -2 ^ 16 ≤ g.top - (row : ℤ))
    have most : ((g.top - row : ℤ) : ℚ) ≤ 2 ^ 16 := by
      exact_mod_cast (by omega : g.top - (row : ℤ) ≤ 2 ^ 16)
    rw [italicLean_value, abs_le]
    constructor <;> linarith
  · rw [left]
    decide

end Glyph

/-! ## Glyphs of the built-in face -/

namespace Font

open Binary64

/-- A length of up to 65535 is made whole without going beyond that. -/
theorem nearest_le_of_within {x : Float} (within : Within 0.0 65535.0 x) :
    (Rounding.nearest x).toNat ≤ 65535 := by
  have bound : value 65535.0 = 65535 := by
    have unpacked : (65535.0 : Float).toModel.unpack =
        .finite .positive 9007061815787520 (-37) (by decide) := by rfl
    rw [value, unpacked, valueOf, signed]
    norm_num
  obtain ⟨n, nearest, error⟩ := exists_nearest within.finite
  have most := within.value_bounds.2
  obtain ⟨-, below⟩ := abs_le.mp error
  have high : (n : ℚ) < 65536 := by linarith
  have high' : n < 65536 := by exact_mod_cast high
  have range : Rounding.limit 64 = 2 ^ 63 := rfl
  rw [nearest, Rounding.clamp]
  omega

/-- A size is limited to 72 points, and there are up to 65535 pixels to the inch. -/
theorem within_pixels {points : Float} (number : IsNumber points) {dpi : Nat}
    (fine : dpi ≤ 65535) : Within 0.0 65535.0 (pixels points dpi) := by
  have inch : Within 0.0 65535.0 (Float.ofNat dpi) :=
    within_ofNat (Nat.zero_le _) fine (by decide)
  have lower : ∃ size : Float, (if points < 0.0 then (0.0 : Float) else points) = size ∧
      0.0 ≤ size := by
    refine ⟨_, rfl, ?_⟩
    split_ifs with negative
    · decide
    · exact le_of_not_lt number (by decide) negative
  obtain ⟨size, named, nonneg⟩ := lower
  have upper : Within 0.0 72.0 (if maxPoints < size then maxPoints else size) := by
    split_ifs with large
    · exact by decide
    · have most := le_of_not_lt (by decide : IsNumber maxPoints) (le_iff.mp nonneg).2.1 large
      exact ⟨nonneg, most, by decide, by decide⟩
  have share : Within 0.0 1.0 ((if maxPoints < size then maxPoints else size) / 72.0) :=
    upper.div (c := 72.0) (d := 72.0) (by decide) (by decide) (by decide)
  unfold pixels
  rw [named]
  exact share.mul inch (by decide) (by decide)

/-- A size that is not a number has no pixels. -/
theorem nearest_pixels_le (points : Float) {dpi : Nat} (fine : dpi ≤ 65535) :
    (Rounding.nearest (pixels points dpi)).toNat ≤ 65535 := by
  by_cases number : IsNumber points
  · exact nearest_le_of_within (within_pixels number fine)
  · have unchanged : pixels points dpi = points / 72.0 * Float.ofNat dpi := by
      have below : ¬ points < 0.0 := fun less => number (lt_iff.mp less).1
      have above : ¬ maxPoints < points := fun less => number (lt_iff.mp less).2.1
      unfold pixels
      rw [if_neg below]
      dsimp only
      rw [if_neg above]
    rw [unchanged, nearest_of_not_isNumber (not_isNumber_mul (not_isNumber_div number _) _)]
    decide

theorem lineHeight_le (font : Font) {dpi : Nat} (fine : dpi ≤ 65535) :
    font.lineHeight dpi ≤ 65535 :=
  Nat.max_le.mpr ⟨by decide, nearest_pixels_le _ fine⟩

theorem ascent_le (font : Font) {dpi : Nat} (fine : dpi ≤ 65535) : font.ascent dpi ≤ 65535 := by
  have lines : Within 0.0 65535.0 (Float.ofNat (font.lineHeight dpi)) :=
    within_ofNat (Nat.zero_le _) (font.lineHeight_le fine) (by decide)
  have share : Within 0.0 1.0 ascentShare := by decide
  exact nearest_le_of_within (lines.mul share (by decide) (by decide))

/-- Characters of the built-in face always lean. -/
theorem sheared?_upright (font : Font) {dpi : Nat} (fine : dpi ≤ 65535) (c : Char)
    (italic : font.italic = true) :
    (font.upright dpi c).sheared? Glyph.italicLean = some (font.render none dpi c) := by
  have leans : ((font.upright dpi c).sheared? Glyph.italicLean).isSome = true := by
    rw [Glyph.isSome_sheared?_iff]
    unfold upright
    split
    · exact .inl (.inl rfl)
    · exact Glyph.leanable_italics (by decide : 65535 < 2 ^ 16) (font.lineHeight_le fine)
        (Int.natCast_nonneg _) (Int.ofNat_le.mpr (font.ascent_le fine)) rfl
  obtain ⟨leaning, leant⟩ := Option.isSome_iff_exists.mp leans
  rw [render, if_pos italic, leant, Option.getD_some]

/-! ## Well-formed glyphs -/

theorem wellFormed_upright (font : Font) (dpi : Nat) (c : Char) :
    (font.upright dpi c).WellFormed := by
  unfold upright
  split
  · exact rfl
  · exact Array.size_ofFn

end Font

namespace OutlineFace

theorem size_plot (width height : Nat) (dots : List OutlineDot) :
    (plot width height dots).size = width * height := by
  -- A dot is put into a place that exists, or left out, so no step changes the size.
  unfold plot
  refine List.foldlRecOn (motive := fun coverage : Array UInt8 => coverage.size = width * height)
    dots _ Array.size_replicate fun coverage size dot _ => ?_
  split
  · rw [Array.size_setIfInBounds, size]
  · exact size

theorem wellFormed_glyph (face : OutlineFace) (font : Font) (dpi : Nat) (c : Char) :
    (face.glyph font dpi c).WellFormed := by
  unfold glyph
  dsimp only
  split
  · exact rfl
  · exact size_plot ..

end OutlineFace

namespace Font

theorem wellFormed_render (font : Font) (face : Option OutlineFace) (dpi : Nat) (c : Char) :
    (font.render face dpi c).WellFormed := by
  have leaning {g : Glyph} (drawn : g.WellFormed) :
      (if font.italic then (g.sheared? Glyph.italicLean).getD g else g).WellFormed := by
    rcases g.eq_or_eq_shifted_of_italic font.italic with same | moved
    · rwa [same]
    · rw [moved]
      exact Glyph.wellFormed_shifted drawn _
  cases face with
  | none => exact leaning (font.wellFormed_upright dpi c)
  | some face => exact leaning (face.wellFormed_glyph font dpi c)

end Font

/-- Every glyph that a faithful type case gives out is well-formed. -/
theorem TypeCase.Faithful.wellFormed {case : TypeCase} (faithful : case.Faithful)
    {requests : List Request} {g : Glyph} (given : .glyph g ∈ case.answers requests) :
    g.WellFormed := by
  rw [faithful.answers_eq, List.mem_map] at given
  obtain ⟨request, -, given⟩ := given
  cases request with
  | glyph font c =>
    cases given
    rw [(faithful_fresh case.dpi case.face).glyph_take]
    exact font.wellFormed_render _ case.dpi c
  | measures font => cases given
  | outlines typeface => cases given

namespace Glyph

open Binary64

end Glyph

end PinPrinter
