import Mathlib.Algebra.Order.Field.Power
import Mathlib.Data.Int.Log
import Mathlib.Data.Rat.Floor
import Mathlib.Tactic.FieldSimp
import Mathlib.Tactic.Linarith
import Mathlib.Tactic.NormNum
import Mathlib.Tactic.Positivity
import Mathlib.Tactic.Ring

/-! # The nearest floating-point number

Lengths are computed in binary floating point: the exact result of every operation is rounded to the
nearest number of 53 significant binary places, and a tie goes to the even one. Here this rounding
is a function on rational numbers. It is monotone and keeps what needs no rounding; all that is
known about the geometry of a page follows from these two facts, up to one estimate of the error.
-/

namespace PinPrinter.Binary64

/-! ## Whole numbers -/

/-- The whole number nearest to `q`; a half goes to the even one of its neighbours. -/
def nearestEven (q : ℚ) : ℤ :=
  if Int.fract q < 1 / 2 then ⌊q⌋
  else if 1 / 2 < Int.fract q then ⌊q⌋ + 1
  else ⌊q⌋ + ⌊q⌋ % 2

theorem floor_le_nearestEven (q : ℚ) : ⌊q⌋ ≤ nearestEven q := by
  unfold nearestEven
  split_ifs <;> omega

theorem nearestEven_le_floor_add_one (q : ℚ) : nearestEven q ≤ ⌊q⌋ + 1 := by
  unfold nearestEven
  split_ifs <;> omega

theorem nearestEven_intCast (n : ℤ) : nearestEven n = n := by
  have whole : Int.fract (n : ℚ) < 1 / 2 := by norm_num
  rw [nearestEven, if_pos whole, Int.floor_intCast]

theorem nearestEven_mono {p q : ℚ} (le : p ≤ q) : nearestEven p ≤ nearestEven q := by
  rcases (Int.floor_mono le).lt_or_eq with below | same
  · calc nearestEven p
        ≤ ⌊p⌋ + 1 := nearestEven_le_floor_add_one p
      _ ≤ ⌊q⌋ := below
      _ ≤ nearestEven q := floor_le_nearestEven q
  · have fract : Int.fract p ≤ Int.fract q := by
      rw [Int.fract, Int.fract, same]
      linarith
    unfold nearestEven
    rw [same]
    split_ifs <;> first | omega | linarith

theorem abs_nearestEven_sub_le (q : ℚ) : |(nearestEven q : ℚ) - q| ≤ 1 / 2 := by
  have split : q = ⌊q⌋ + Int.fract q := (Int.floor_add_fract q).symm
  have least := Int.fract_nonneg q
  have most := Int.fract_lt_one q
  rw [abs_le]
  unfold nearestEven
  split_ifs with low high
  · constructor <;> linarith
  · push_cast
    constructor <;> linarith
  · have half : Int.fract q = 1 / 2 := le_antisymm (not_lt.mp high) (not_lt.mp low)
    rcases Int.emod_two_eq_zero_or_one ⌊q⌋ with even | odd
    · rw [even]
      push_cast
      constructor <;> linarith
    · rw [odd]
      push_cast
      constructor <;> linarith

/-! ## Numbers of 53 places -/

/-- The exponent of the last place of the numbers as large as `q`. Places end at `2 ^ (-1074)`. -/
def lastPlace (q : ℚ) : ℤ :=
  max (Int.log 2 q - 52) (-1074)

/-- The number of 53 places nearest to a positive `q`. -/
def nearest (q : ℚ) : ℚ :=
  nearestEven (q / 2 ^ lastPlace q) * 2 ^ lastPlace q

/-- What lies below `2 ^ 53` units of a place ends there. -/
theorem lastPlace_le {q : ℚ} (positive : 0 < q) {e : ℤ} (least : -1074 ≤ e)
    (small : q < 2 ^ (53 + e)) : lastPlace q ≤ e := by
  have log : Int.log 2 q < 53 + e := by
    apply (Int.lt_zpow_iff_log_lt (by decide) positive).mp
    exact_mod_cast small
  unfold lastPlace
  omega

theorem lt_zpow_lastPlace {q : ℚ} (positive : 0 < q) : q < 2 ^ (53 + lastPlace q) := by
  have log : Int.log 2 q < 53 + lastPlace q := by
    unfold lastPlace
    omega
  exact_mod_cast (Int.lt_zpow_iff_log_lt (by decide) positive).mpr log

/-- Above the last place of all, the places of a number are filled up. -/
theorem zpow_lastPlace_le {q : ℚ} (positive : 0 < q) (normal : -1074 < lastPlace q) :
    2 ^ (52 + lastPlace q) ≤ q := by
  have log : Int.log 2 q = 52 + lastPlace q := by
    unfold lastPlace at normal ⊢
    omega
  rw [← log]
  exact_mod_cast Int.zpow_log_le_self (by decide) positive

theorem lastPlace_mono {p q : ℚ} (positive : 0 < p) (le : p ≤ q) : lastPlace p ≤ lastPlace q := by
  have log : Int.log 2 p ≤ Int.log 2 q := Int.log_mono_right positive le
  unfold lastPlace
  omega

/-- Between two powers of two that are 52 or 53 places above the last one, the nearest number
stays there. -/
theorem nearest_le_zpow {q : ℚ} (positive : 0 < q) : nearest q ≤ 2 ^ (53 + lastPlace q) := by
  have unit : (0 : ℚ) < 2 ^ lastPlace q := by positivity
  have below : nearestEven (q / 2 ^ lastPlace q) ≤ (2 ^ 53 : ℤ) := by
    rw [← nearestEven_intCast (2 ^ 53)]
    apply nearestEven_mono
    rw [div_le_iff₀ unit]
    have bound := (lt_zpow_lastPlace positive).le
    rw [zpow_add₀ two_ne_zero] at bound
    exact_mod_cast bound
  rw [nearest, zpow_add₀ two_ne_zero]
  have cast : (nearestEven (q / 2 ^ lastPlace q) : ℚ) ≤ 2 ^ (53 : ℤ) := by exact_mod_cast below
  gcongr

theorem zpow_le_nearest {q : ℚ} (positive : 0 < q) (normal : -1074 < lastPlace q) :
    2 ^ (52 + lastPlace q) ≤ nearest q := by
  have unit : (0 : ℚ) < 2 ^ lastPlace q := by positivity
  have above : (2 ^ 52 : ℤ) ≤ nearestEven (q / 2 ^ lastPlace q) := by
    rw [← nearestEven_intCast (2 ^ 52)]
    apply nearestEven_mono
    rw [le_div_iff₀ unit]
    have bound := zpow_lastPlace_le positive normal
    rw [zpow_add₀ two_ne_zero] at bound
    exact_mod_cast bound
  rw [nearest, zpow_add₀ two_ne_zero]
  have cast : (2 : ℚ) ^ (52 : ℤ) ≤ nearestEven (q / 2 ^ lastPlace q) := by exact_mod_cast above
  gcongr

theorem nearest_zero : nearest 0 = 0 := by
  have zero : nearestEven 0 = 0 := nearestEven_intCast 0
  rw [nearest, zero_div, zero, Int.cast_zero, zero_mul]

theorem nearest_nonneg {q : ℚ} (nonneg : 0 ≤ q) : 0 ≤ nearest q := by
  have unit : (0 : ℚ) < 2 ^ lastPlace q := by positivity
  have least : (0 : ℤ) ≤ nearestEven (q / 2 ^ lastPlace q) := by
    rw [← nearestEven_intCast 0, Int.cast_zero]
    exact nearestEven_mono (by positivity)
  have cast : (0 : ℚ) ≤ nearestEven (q / 2 ^ lastPlace q) := by exact_mod_cast least
  exact mul_nonneg cast unit.le

/-- The number `m * 2 ^ e` of 53 places needs no rounding. -/
theorem nearest_of_places {m : ℕ} {e : ℤ} (places : m < 2 ^ 53) (least : -1074 ≤ e) :
    nearest (m * 2 ^ e) = m * 2 ^ e := by
  rcases Nat.eq_zero_or_pos m with rfl | nonzero
  · rw [Nat.cast_zero, zero_mul, nearest_zero]
  · have positive : (0 : ℚ) < m * 2 ^ e := by positivity
    have small : (m : ℚ) * 2 ^ e < 2 ^ (53 + e) := by
      rw [zpow_add₀ two_ne_zero]
      have cast : (m : ℚ) < 2 ^ (53 : ℤ) := by exact_mod_cast places
      gcongr
    obtain ⟨k, shift⟩ := Int.le.dest (lastPlace_le positive least small)
    have whole : (m : ℚ) * 2 ^ e / 2 ^ lastPlace (m * 2 ^ e) = ((m * 2 ^ k : ℕ) : ℤ) := by
      generalize lastPlace ((m : ℚ) * 2 ^ e) = t at shift
      rw [← shift, div_eq_iff (by positivity), zpow_add₀ two_ne_zero, zpow_natCast]
      push_cast
      ring
    rw [nearest, whole, nearestEven_intCast, ← whole]
    field_simp

theorem nearest_mono {p q : ℚ} (nonneg : 0 ≤ p) (le : p ≤ q) : nearest p ≤ nearest q := by
  rcases nonneg.eq_or_lt with rfl | positive
  · rw [nearest_zero]
    exact nearest_nonneg le
  · have positive' : 0 < q := positive.trans_le le
    rcases (lastPlace_mono positive le).eq_or_lt with same | finer
    · have unit : (0 : ℚ) < 2 ^ lastPlace q := by positivity
      have whole : nearestEven (p / 2 ^ lastPlace q) ≤ nearestEven (q / 2 ^ lastPlace q) :=
        nearestEven_mono (by gcongr)
      have cast : (nearestEven (p / 2 ^ lastPlace q) : ℚ) ≤ nearestEven (q / 2 ^ lastPlace q) := by
        exact_mod_cast whole
      rw [nearest, nearest, same]
      gcongr
    · have normal : -1074 < lastPlace q := by
        have least : -1074 ≤ lastPlace p := le_max_right _ _
        omega
      calc nearest p
          ≤ 2 ^ (53 + lastPlace p) := nearest_le_zpow positive
        _ ≤ 2 ^ (52 + lastPlace q) := by
          apply zpow_le_zpow_right₀ one_le_two
          omega
        _ ≤ nearest q := zpow_le_nearest positive' normal

theorem abs_nearest_sub_le (q : ℚ) : |nearest q - q| ≤ 2 ^ lastPlace q / 2 := by
  have positive : (0 : ℚ) < 2 ^ lastPlace q := by positivity
  have scaled : nearest q - q =
      (nearestEven (q / 2 ^ lastPlace q) - q / 2 ^ lastPlace q) * 2 ^ lastPlace q := by
    rw [nearest]
    field_simp
  rw [scaled, abs_mul, abs_of_pos positive]
  have error := abs_nearestEven_sub_le (q / 2 ^ lastPlace q)
  calc |(nearestEven (q / 2 ^ lastPlace q) : ℚ) - q / 2 ^ lastPlace q| * 2 ^ lastPlace q
      ≤ 1 / 2 * 2 ^ lastPlace q := by gcongr
    _ = 2 ^ lastPlace q / 2 := by ring

/-! ## The whole range

Results of either sign are rounded alike. A result that comes out beyond the range is infinite, and
counts as the end of the range.
-/

/-- The end of the range. -/
def limit : ℚ := 2 ^ 1024

/-- What the exact result `q` of an operation is rounded to. -/
def rounded (q : ℚ) : ℚ :=
  if 0 ≤ q then min (nearest q) limit else -min (nearest (-q)) limit

theorem rounded_of_nonneg {q : ℚ} (nonneg : 0 ≤ q) : rounded q = min (nearest q) limit :=
  if_pos nonneg

theorem rounded_zero : rounded 0 = 0 := by
  have least : (0 : ℚ) ≤ limit := by norm_num [limit]
  rw [rounded_of_nonneg le_rfl, nearest_zero, min_eq_left least]

theorem rounded_neg (q : ℚ) : rounded (-q) = -rounded q := by
  rcases lt_trichotomy q 0 with negative | rfl | positive
  · rw [rounded, rounded, if_pos (neg_nonneg.mpr negative.le), if_neg (not_le.mpr negative),
      neg_neg]
  · rw [neg_zero, rounded_zero, neg_zero]
  · have below : ¬ 0 ≤ -q := by linarith
    rw [rounded, rounded, if_neg below, if_pos positive.le, neg_neg]

theorem rounded_nonneg {q : ℚ} (nonneg : 0 ≤ q) : 0 ≤ rounded q := by
  rw [rounded_of_nonneg nonneg]
  exact le_min (nearest_nonneg nonneg) (by norm_num [limit])

/-- Rounding keeps the order. -/
theorem rounded_mono : Monotone rounded := by
  have nonneg {p q : ℚ} (least : 0 ≤ p) (le : p ≤ q) : rounded p ≤ rounded q := by
    rw [rounded_of_nonneg least, rounded_of_nonneg (least.trans le)]
    exact min_le_min_right _ (nearest_mono least le)
  intro p q le
  rcases le_total 0 p with above | below
  · exact nonneg above le
  · rcases le_total 0 q with above' | below'
    · have left : 0 ≤ -rounded p := by
        rw [← rounded_neg]
        exact rounded_nonneg (neg_nonneg.mpr below)
      exact (neg_nonneg.mp left).trans (rounded_nonneg above')
    · have swapped := nonneg (neg_nonneg.mpr below') (neg_le_neg le)
      rw [rounded_neg, rounded_neg] at swapped
      exact neg_le_neg_iff.mp swapped

end PinPrinter.Binary64
