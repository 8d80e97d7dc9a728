import PinPrinter.Proofs.Binary64.Arithmetic

/-! # Lengths between bounds

Numbers are in order, and every operation keeps the order: where the operands lie between bounds,
the result lies between what the operation makes of the bounds. A comparison that holds says that
both sides are numbers, so nothing that lies between bounds fails to be one.
-/

namespace PinPrinter.Binary64

variable {a b c d x y z : Float} {p q : ℚ}

/-! ## The order -/

theorem le_refl (number : IsNumber x) : x ≤ x :=
  le_iff.mpr ⟨number, number, le_rfl⟩

theorem le_trans (first : x ≤ y) (second : y ≤ z) : x ≤ z := by
  obtain ⟨number, -, le⟩ := le_iff.mp first
  obtain ⟨-, number', le'⟩ := le_iff.mp second
  exact le_iff.mpr ⟨number, number', le.trans le'⟩

theorem lt_of_lt_of_le (first : x < y) (second : y ≤ z) : x < z := by
  obtain ⟨number, -, lt⟩ := lt_iff.mp first
  obtain ⟨-, number', le⟩ := le_iff.mp second
  exact lt_iff.mpr ⟨number, number', lt.trans_le le⟩

theorem lt_of_le_of_lt (first : x ≤ y) (second : y < z) : x < z := by
  obtain ⟨number, -, le⟩ := le_iff.mp first
  obtain ⟨-, number', lt⟩ := lt_iff.mp second
  exact lt_iff.mpr ⟨number, number', le.trans_lt lt⟩

theorem le_of_lt (lt : x < y) : x ≤ y := by
  obtain ⟨number, number', less⟩ := lt_iff.mp lt
  exact le_iff.mpr ⟨number, number', less.le⟩

theorem le_of_not_lt (number : IsNumber x) (number' : IsNumber y) (not : ¬ x < y) : y ≤ x := by
  refine le_iff.mpr ⟨number', number, ?_⟩
  by_contra less
  exact not (lt_iff.mpr ⟨number, number', not_le.mp less⟩)

theorem lt_of_not_le (number : IsNumber x) (number' : IsNumber y) (not : ¬ x ≤ y) : y < x := by
  refine lt_iff.mpr ⟨number', number, ?_⟩
  by_contra least
  exact not (le_iff.mpr ⟨number, number', not_lt.mp least⟩)

theorem not_le_iff (number : IsNumber x) (number' : IsNumber y) : ¬ x ≤ y ↔ y < x := by
  constructor
  · exact lt_of_not_le number number'
  · intro less least
    obtain ⟨-, -, lt⟩ := lt_iff.mp less
    exact not_le.mpr lt (le_iff.mp least).2.2

/-- A number between finite bounds is finite. -/
theorem isFinite_of_le (least : a ≤ x) (most : x ≤ b) (low : IsFinite a) (high : IsFinite b) :
    IsFinite x := by
  obtain ⟨-, number, le⟩ := le_iff.mp least
  obtain ⟨-, -, le'⟩ := le_iff.mp most
  obtain ⟨-, inside⟩ := isFinite_iff.mp low
  obtain ⟨-, inside'⟩ := isFinite_iff.mp high
  refine isFinite_iff.mpr ⟨number, ?_⟩
  rw [abs_lt] at inside inside' ⊢
  exact ⟨inside.1.trans_le le, le'.trans_lt inside'.2⟩

/-- The values of numbers need no rounding. -/
theorem rounded_value (number : IsNumber x) : rounded (value x) = value x := by
  have unpacked := number.number
  unfold value
  generalize x.toModel.unpack = u at unpacked
  cases unpacked with
  | infinity s =>
    have nonneg : (0 : ℚ) ≤ limit := by norm_num [limit]
    have size : limit = (2 ^ 52 : ℕ) * 2 ^ (972 : ℤ) := by
      rw [limit, Nat.cast_pow, ← zpow_natCast, ← zpow_natCast]
      exact zpow_add₀ (two_ne_zero' ℚ) 52 972
    have places : nearest limit = limit := by
      rw [size]
      exact nearest_of_places (by norm_num) (by norm_num)
    rw [valueOf, rounded_signed s nonneg, places, min_self]
  | stands stands inside =>
    rw [stands.valueOf_eq, rounded_signed _ stands.nonneg, stands.nearest_eq,
      min_eq_left inside.le]

/-! ## What rounds to what -/

theorem RoundsTo.le (first : RoundsTo x p) (second : RoundsTo y q) (le : p ≤ q) : x ≤ y := by
  refine le_iff.mpr ⟨first.number, second.number, ?_⟩
  rw [first.value_eq, second.value_eq]
  exact rounded_mono le

theorem roundsTo_self (number : IsNumber x) : RoundsTo x (value x) :=
  ⟨number, (rounded_value number).symm⟩

theorem value_zero : value 0.0 = 0 := by
  have unpacked : (0.0 : Float).toModel.unpack = .zero .positive := by rfl
  rw [value, unpacked, valueOf]

theorem value_nonneg (nonneg : 0.0 ≤ x) : 0 ≤ value x := by
  rw [← value_zero]
  exact (le_iff.mp nonneg).2.2

theorem value_pos (positive : 0.0 < x) : 0 < value x := by
  rw [← value_zero]
  exact (lt_iff.mp positive).2.2

theorem value_two : value 2.0 = 2 := by
  have unpacked : (2.0 : Float).toModel.unpack = .finite .positive (2 ^ 52) (-51) (by decide) := by
    rfl
  rw [value, unpacked, valueOf, signed]
  norm_num

/-- The place from which on the numbers are at least four apart. -/
def farthest : Float := 18014398509481984.0

theorem value_farthest : value farthest = 2 ^ 54 := by
  have unpacked : farthest.toModel.unpack = .finite .positive (2 ^ 52) 2 (by decide) := by rfl
  rw [value, unpacked, valueOf, signed]
  norm_num

/-! ## Moving on and back -/

theorem le_add_of_nonneg (finite : IsFinite x) (finite' : IsFinite y) (nonneg : 0.0 ≤ y) :
    x ≤ x + y := by
  have number := (isFinite_iff.mp finite).1
  apply (roundsTo_self number).le (roundsTo_add finite finite')
  linarith [value_nonneg nonneg]

theorem sub_le_self (finite : IsFinite x) (finite' : IsFinite y) (nonneg : 0.0 ≤ y) :
    x - y ≤ x := by
  have number := (isFinite_iff.mp finite).1
  apply (roundsTo_sub finite finite').le (roundsTo_self number)
  linarith [value_nonneg nonneg]

theorem sub_nonneg (finite : IsFinite x) (finite' : IsFinite y) (le : y ≤ x) : 0.0 ≤ x - y := by
  apply (roundsTo_self (by decide : IsNumber 0.0)).le (roundsTo_sub finite finite')
  rw [value_zero]
  linarith [(le_iff.mp le).2.2]

/-- Rounding makes a difference of half a unit in the last place at most. -/
theorem abs_rounded_sub_le {e : ℤ} (small : |q| < 2 ^ (53 + e)) (least : -1074 ≤ e)
    (most : e ≤ 971) : |rounded q - q| ≤ 2 ^ e / 2 := by
  have nonnegative {p : ℚ} (nonneg : 0 ≤ p) (small : p < 2 ^ (53 + e)) :
      |rounded p - p| ≤ 2 ^ e / 2 := by
    rcases nonneg.eq_or_lt with rfl | positive
    · rw [rounded_zero, sub_zero, abs_zero]
      positivity
    · have place : lastPlace p ≤ e := lastPlace_le positive least small
      have unit : (2 : ℚ) ^ lastPlace p ≤ 2 ^ e := zpow_le_zpow_right₀ one_le_two place
      have inside : p < limit := by
        apply small.trans_le
        rw [limit, ← zpow_natCast]
        exact zpow_le_zpow_right₀ one_le_two (by omega)
      have error := abs_le.mp (abs_nearest_sub_le p)
      rw [rounded_of_nonneg nonneg, abs_le]
      -- What is cut to the end of the range comes closer to what was rounded.
      rcases min_choice (nearest p) limit with same | cut
      · rw [same]
        constructor <;> linarith
      · have below := min_le_left (nearest p) limit
        rw [cut] at below ⊢
        constructor <;> linarith
  rcases le_total 0 q with nonneg | nonpos
  · exact nonnegative nonneg (abs_of_nonneg nonneg ▸ small)
  · have mirrored := nonnegative (neg_nonneg.mpr nonpos) (abs_of_nonpos nonpos ▸ small)
    rwa [rounded_neg, ← neg_sub', abs_neg] at mirrored

/-- Up to `2 ^ 54` the places of a number end at a multiple of four, so rounding makes a difference
of at most two, and no difference to a number that is as large as that. -/
theorem rounded_le_add_two (nonneg : 0 ≤ q) (most : q ≤ 2 ^ 54) : rounded q ≤ q + 2 := by
  have small : |q| < 2 ^ (53 + 2 : ℤ) := by
    rw [abs_of_nonneg nonneg]
    exact most.trans_lt (by norm_num)
  have error := le_of_abs_le (abs_rounded_sub_le small (by decide) (by decide))
  norm_num at error
  linarith

/-! ## Bounds -/

/-- A number lies between two finite ones. -/
structure Within (a b x : Float) : Prop where
  least : a ≤ x
  most : x ≤ b
  low : IsFinite a
  high : IsFinite b

/-- Finite bounds drawn around two others. -/
structure Around (low high a b : Float) : Prop where
  least : low ≤ a
  most : b ≤ high
  low : IsFinite low
  high : IsFinite high

instance (a b x : Float) : Decidable (Within a b x) :=
  decidable_of_iff (a ≤ x ∧ x ≤ b ∧ IsFinite a ∧ IsFinite b)
    ⟨fun ⟨least, most, low, high⟩ => ⟨least, most, low, high⟩,
      fun ⟨least, most, low, high⟩ => ⟨least, most, low, high⟩⟩

instance (low high a b : Float) : Decidable (Around low high a b) :=
  decidable_of_iff (low ≤ a ∧ b ≤ high ∧ IsFinite low ∧ IsFinite high)
    ⟨fun ⟨least, most, low, high⟩ => ⟨least, most, low, high⟩,
      fun ⟨least, most, low, high⟩ => ⟨least, most, low, high⟩⟩

theorem Within.finite (within : Within a b x) : IsFinite x :=
  isFinite_of_le within.least within.most within.low within.high

theorem Within.number (within : Within a b x) : IsNumber x :=
  (isFinite_iff.mp within.finite).1

theorem Within.value_bounds (within : Within a b x) : value a ≤ value x ∧ value x ≤ value b :=
  ⟨(le_iff.mp within.least).2.2, (le_iff.mp within.most).2.2⟩

/-- Bounds can be drawn wider. -/
theorem Within.weaken (within : Within a b x) (around : Around c d a b) : Within c d x :=
  ⟨le_trans around.least within.least, le_trans within.most around.most, around.low, around.high⟩

/-- What two results are rounded to can be drawn around the result between them. -/
theorem within_of_roundsTo {least most : ℚ} (rounds : RoundsTo x q) (first : RoundsTo a least)
    (last : RoundsTo b most) (above : least ≤ q) (below : q ≤ most) (around : Around c d a b) :
    Within c d x :=
  ⟨le_trans around.least (first.le rounds above), le_trans (rounds.le last below) around.most,
    around.low, around.high⟩

section Operations

variable {low high : Float} (first : Within a b x) (second : Within c d y)

include first second

theorem Within.add (around : Around low high (a + c) (b + d)) : Within low high (x + y) := by
  obtain ⟨above, below⟩ := first.value_bounds
  obtain ⟨above', below'⟩ := second.value_bounds
  apply within_of_roundsTo (roundsTo_add first.finite second.finite)
    (roundsTo_add first.low second.low) (roundsTo_add first.high second.high) ?_ ?_ around
  · exact add_le_add above above'
  · exact add_le_add below below'

theorem Within.sub (around : Around low high (a - d) (b - c)) : Within low high (x - y) := by
  obtain ⟨above, below⟩ := first.value_bounds
  obtain ⟨above', below'⟩ := second.value_bounds
  apply within_of_roundsTo (roundsTo_sub first.finite second.finite)
    (roundsTo_sub first.low second.high) (roundsTo_sub first.high second.low) ?_ ?_ around
  · exact sub_le_sub above below'
  · exact sub_le_sub below above'

theorem Within.mul (nonneg : 0.0 ≤ a ∧ 0.0 ≤ c) (around : Around low high (a * c) (b * d)) :
    Within low high (x * y) := by
  obtain ⟨above, below⟩ := first.value_bounds
  obtain ⟨above', below'⟩ := second.value_bounds
  have zero := value_nonneg nonneg.1
  have zero' := value_nonneg nonneg.2
  apply within_of_roundsTo (roundsTo_mul first.finite second.finite)
    (roundsTo_mul first.low second.low) (roundsTo_mul first.high second.high) ?_ ?_ around
  · exact mul_le_mul above above' zero' (zero.trans above)
  · exact mul_le_mul below below' (zero'.trans above') (zero.trans (above.trans below))

theorem Within.div (positive : 0.0 ≤ a ∧ 0.0 < c) (around : Around low high (a / d) (b / c)) :
    Within low high (x / y) := by
  obtain ⟨above, below⟩ := first.value_bounds
  obtain ⟨above', below'⟩ := second.value_bounds
  have zero := value_nonneg positive.1
  have divisor := value_pos positive.2
  have divisor' : 0 < value y := divisor.trans_le above'
  have divisor'' : 0 < value d := divisor'.trans_le below'
  apply within_of_roundsTo (roundsTo_div first.finite second.finite divisor'.ne')
    (roundsTo_div first.low second.high divisor''.ne')
    (roundsTo_div first.high second.low divisor.ne') ?_ ?_ around
  · exact div_le_div₀ (zero.trans above) above divisor' below'
  · exact div_le_div₀ (zero.trans (above.trans below)) below divisor above'

end Operations

/-- Steps of an inch do not lead beyond the farthest place. -/
theorem Within.advance (within : Within a farthest x) (nonneg : 0.0 ≤ a) (step : Within 0.0 1.0 y) :
    Within a farthest (x + y) := by
  have ahead : x ≤ x + y := le_add_of_nonneg within.finite step.finite step.least
  have wide : Within 0.0 farthest x :=
    ⟨le_trans nonneg within.least, within.most, by decide, within.high⟩
  have behind : Within 0.0 farthest (x + y) := wide.add step (by decide)
  exact ⟨le_trans within.least ahead, behind.most, within.low, within.high⟩

/-- The way from a place to a later one, measured and gone, does not lead far beyond. -/
theorem add_sub_le (first : Within 0.0 farthest x) (second : Within 0.0 farthest y) (le : x ≤ y) :
    x + (y - x) ≤ farthest := by
  have ahead := sub_nonneg second.finite first.finite le
  have back := sub_le_self second.finite first.finite first.least
  have finite := isFinite_of_le ahead (le_trans back second.most) first.low first.high
  have way := rounded_le_add_two (q := value y - value x)
    (by linarith [(le_iff.mp le).2.2])
    (by linarith [value_nonneg first.least, second.value_bounds.2, value_farthest])
  rw [← (roundsTo_sub second.finite first.finite).value_eq] at way
  -- Two inches beyond the farthest place there is a tie, and the farthest place is even.
  have tie : farthest + 2.0 ≤ farthest := by decide
  apply le_trans _ tie
  apply (roundsTo_add first.finite finite).le (roundsTo_add first.high (by decide))
  linarith [second.value_bounds.2, value_two]

theorem Within.abs (within : Within 0.0 b x) : Within 0.0 b x.abs := by
  have size := roundsTo_abs within.finite
  rw [abs_of_nonneg (value_nonneg within.least)] at size
  have same := roundsTo_self within.number
  exact ⟨le_trans within.least (same.le size le_rfl), le_trans (size.le same le_rfl) within.most,
    within.low, within.high⟩

/-- Whole numbers between two others. -/
theorem within_ofNat {m n k : ℕ} {low high : Float} (above : m ≤ n) (below : n ≤ k)
    (around : Around low high (Float.ofNat m) (Float.ofNat k)) : Within low high (Float.ofNat n) :=
  within_of_roundsTo (roundsTo_ofNat n) (roundsTo_ofNat m) (roundsTo_ofNat k)
    (by exact_mod_cast above) (by exact_mod_cast below) around

example : Within 0.0 4.0 (0.3 + 0.1) := by
  have x : Within 0.0 1.0 0.3 := by decide
  have y : Within 0.0 1.0 0.1 := by decide
  exact x.add y (by decide)

end PinPrinter.Binary64
