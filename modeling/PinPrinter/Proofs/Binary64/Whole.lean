import PinPrinter.Proofs.Binary64.Order
import PinPrinter.Rounding

/-! # Whole numbers from lengths

A length is made whole by way of its sign, significand and exponent. These stand for its value, so
the whole number lies within a half of it, as long as 64 bits have a number for it. In the other
direction, a whole number of few places is a length without any rounding.
-/

namespace PinPrinter.Binary64

open Float.Model (Format UnpackedFloat)
open Float.Model.UnpackedFloat
open Rounding (Parts Reading power)

variable {x y : Float} {q : ℚ}

/-! ## Reading the bits -/

/-- The sign of what lies below zero. -/
def isMinus : Sign → Bool
  | .positive => false
  | .negative => true

/-- The bits of a packed number, one field above the other. -/
theorem toNat_packComponents (s : Sign) (exponent : BitVec 11) (mantissa : BitVec 52) :
    (packComponents .binary64 s exponent mantissa).toNat =
      2 ^ 63 * (isMinus s).toNat + 2 ^ 52 * exponent.toNat + mantissa.toNat := by
  have exponents : exponent.toNat < 2 ^ 11 := exponent.isLt
  have mantissas : mantissa.toNat < 2 ^ 52 := mantissa.isLt
  have sign : s.toBitVec.toNat = (isMinus s).toNat := by cases s <;> rfl
  change (s.toBitVec ++ exponent ++ mantissa).toNat = _
  rw [BitVec.toNat_append, BitVec.toNat_append, ← Nat.shiftLeft_add_eq_or_of_lt exponents,
    ← Nat.shiftLeft_add_eq_or_of_lt mantissas, Nat.shiftLeft_eq, Nat.shiftLeft_eq, sign]
  omega

/-- What is read off an unpacked number. -/
def reading : UnpackedFloat → Reading
  | .finite s m e _ => .finite ⟨isMinus s, m, e⟩
  | .zero s => .finite ⟨isMinus s, 0, -1074⟩
  | .infinity s => .infinite (isMinus s)
  | .notANumber => .notANumber

theorem read_eq (x : Float) : Rounding.read x = reading x.toModel.unpack := by
  have fields := @packComponents_unpackSign_unpackExponent_unpackMantissa .binary64
    x.toBits.toBitVec
  have bits : x.toBits.toNat = x.toBits.toBitVec.toNat := rfl
  change Rounding.read x = reading (unpack .binary64 x.toBits.toBitVec)
  unfold Rounding.read
  rw [bits, ← fields, unpack_packComponents, toNat_packComponents]
  generalize Sign.ofBitVec (@unpackSign .binary64 x.toBits.toBitVec) = s
  generalize @unpackExponent .binary64 x.toBits.toBitVec = exponent
  generalize @unpackMantissa .binary64 x.toBits.toBitVec = mantissa
  have exponents : exponent.toNat < 2 ^ 11 := exponent.isLt
  have mantissas : mantissa.toNat < 2 ^ 52 := mantissa.isLt
  have top : power 63 = 2 ^ 63 := rfl
  have middle : power 11 = 2 ^ 11 := rfl
  have low : power 52 = 2 ^ 52 := rfl
  have sign : decide (2 ^ 63 ≤
      2 ^ 63 * (isMinus s).toNat + 2 ^ 52 * exponent.toNat + mantissa.toNat) = isMinus s := by
    cases isMinus s <;> simp only [Bool.toNat_false, Bool.toNat_true, decide_eq_true_eq,
      decide_eq_false_iff_not] <;> omega
  have upper : (2 ^ 63 * (isMinus s).toNat + 2 ^ 52 * exponent.toNat + mantissa.toNat) /
      2 ^ 52 % 2 ^ 11 = exponent.toNat := by
    omega
  have lower : (2 ^ 63 * (isMinus s).toNat + 2 ^ 52 * exponent.toNat + mantissa.toNat) % 2 ^ 52 =
      mantissa.toNat := by
    omega
  have special : exponent.toNat = 2 ^ 11 - 1 ↔ exponent = -1#11 :=
    (BitVec.toNat_eq (x := exponent) (y := -1#11)).symm
  have subnormal : exponent.toNat = 0 ↔ exponent = 0#11 :=
    (BitVec.toNat_eq (x := exponent) (y := 0#11)).symm
  have whole : mantissa.toNat = 0 ↔ mantissa = 0#52 :=
    (BitVec.toNat_eq (x := mantissa) (y := 0#52)).symm
  simp only [top, middle, low, sign, upper, lower, special, subnormal, whole]
  split_ifs with _ _ _ zero
  · rfl
  · rfl
  · rw [zero]
    rfl
  · rfl
  · rfl

/-- What the parts of a number stand for. -/
def partsValue (p : Parts) : ℚ :=
  signed (if p.negative then .negative else .positive) (p.significand * 2 ^ p.exponent)

theorem exists_parts (finite : IsFinite x) :
    ∃ parts, Rounding.read x = .finite parts ∧ partsValue parts = value x := by
  obtain ⟨s, q, stands, valued⟩ := exists_stands finite
  rw [read_eq, valued]
  generalize x.toModel.unpack = u at stands
  cases stands with
  | zero => exact ⟨_, rfl, by cases s <;> simp [partsValue, isMinus, signed]⟩
  | finite canonical nonzero => exact ⟨_, rfl, by cases s <;> rfl⟩

/-! ## The nearest whole number -/

theorem power_eq (n : ℕ) : (power n : ℚ) = 2 ^ n := by
  change ((2 ^ n : ℕ) : ℚ) = _
  push_cast
  rfl

/-- A quotient that is rounded by adding a half to it. -/
theorem abs_div_sub_le (n : ℕ) {unit : ℕ} (positive : 0 < unit) :
    |(((2 * n + unit) / (2 * unit) : ℕ) : ℚ) - n / unit| ≤ 1 / 2 := by
  have size : (0 : ℚ) < unit := by exact_mod_cast positive
  have least : (2 * n + unit) / (2 * unit) * (2 * unit) ≤ 2 * n + unit := Nat.div_mul_le_self ..
  have most : 2 * n + unit < ((2 * n + unit) / (2 * unit) + 1) * (2 * unit) :=
    Nat.lt_mul_of_div_lt (Nat.lt_succ_self _) (by omega)
  generalize (2 * n + unit) / (2 * unit) = whole at least most
  have least' : (whole : ℚ) * (2 * unit) ≤ 2 * n + unit := by exact_mod_cast least
  have most' : (2 * n + unit : ℚ) < (whole + 1) * (2 * unit) := by exact_mod_cast most
  have exact : (n : ℚ) / unit * unit = n := div_mul_cancel₀ _ size.ne'
  rw [abs_le]
  constructor <;> nlinarith

theorem abs_nearest_parts_sub_le (p : Parts) : |(p.nearest : ℚ) - partsValue p| ≤ 1 / 2 := by
  obtain ⟨negative, significand, exponent⟩ := p
  -- The size is a product where the exponent is not negative, and a quotient elsewhere.
  have size : ∃ n : ℕ, Parts.nearest ⟨negative, significand, exponent⟩ =
      (if negative then -(n : ℤ) else n) ∧ |(n : ℚ) - significand * 2 ^ exponent| ≤ 1 / 2 := by
    refine ⟨_, rfl, ?_⟩
    dsimp only
    split_ifs with whole
    · obtain ⟨n, rfl⟩ := Int.eq_ofNat_of_zero_le whole
      rw [Int.toNat_natCast, Nat.cast_mul, power_eq, zpow_natCast, sub_self, abs_zero]
      norm_num
    · obtain ⟨n, behind⟩ := Int.eq_ofNat_of_zero_le (by omega : 0 ≤ -exponent)
      obtain rfl : exponent = -n := by omega
      have unit : 0 < power n := Nat.pow_pos (by decide)
      have error := abs_div_sub_le significand unit
      rw [power_eq] at error
      rwa [neg_neg, Int.toNat_natCast, zpow_neg, zpow_natCast, ← div_eq_mul_inv]
  obtain ⟨n, nearest, error⟩ := size
  rw [nearest, partsValue]
  cases negative with
  | false => simpa [signed] using error
  | true =>
    simp only [if_true, signed, Int.cast_neg, Int.cast_natCast]
    rw [← neg_sub', abs_neg]
    exact error

/-- A finite number is rounded to a whole number within a half of it, which is then kept within the
range. -/
theorem exists_nearest (finite : IsFinite x) :
    ∃ n : ℤ, Rounding.nearest x = Rounding.clamp 64 n ∧ |(n : ℚ) - value x| ≤ 1 / 2 := by
  obtain ⟨parts, read, valued⟩ := exists_parts finite
  refine ⟨parts.nearest, ?_, valued ▸ abs_nearest_parts_sub_le parts⟩
  rw [Rounding.nearest, Rounding.whole, read]

/-- A number is made whole on the same side of zero. -/
theorem exists_nearest_sign (number : IsNumber x) :
    ∃ n : ℤ, Rounding.nearest x = Rounding.clamp 64 n ∧ (0 ≤ value x → 0 ≤ n) ∧
      (value x ≤ 0 → n ≤ 0) := by
  by_cases finite : IsFinite x
  · obtain ⟨n, nearest, error⟩ := exists_nearest finite
    obtain ⟨least, most⟩ := abs_le.mp error
    refine ⟨n, nearest, fun nonneg => ?_, fun nonpos => ?_⟩
    · have above : (-1 : ℚ) < n := by linarith
      exact Int.lt_iff_add_one_le.mp (by exact_mod_cast above)
    · have below : (n : ℚ) < 1 := by linarith
      exact Int.lt_add_one_iff.mp (by exact_mod_cast below)
  · have read := read_eq x
    have unpacked := number.number
    have beyond : ¬ |value x| < limit := fun inside => finite (isFinite_iff.mpr ⟨number, inside⟩)
    have positive : (0 : ℚ) < limit := by norm_num [limit]
    unfold value at beyond ⊢
    generalize x.toModel.unpack = u at read unpacked beyond ⊢
    cases unpacked with
    | stands stands inside => exact absurd (stands.abs_valueOf ▸ inside) beyond
    | infinity s =>
      cases s with
      | positive =>
        have value_eq : valueOf (.infinity .positive) = limit := rfl
        refine ⟨Rounding.limit 64, ?_, fun _ => by decide, fun nonpos => ?_⟩
        · rw [Rounding.nearest, Rounding.whole, read]
          decide
        · linarith
      | negative =>
        have value_eq : valueOf (.infinity .negative) = -limit := rfl
        refine ⟨-Rounding.limit 64, ?_, fun nonneg => ?_, fun _ => by decide⟩
        · rw [Rounding.nearest, Rounding.whole, read]
          decide
        · linarith

theorem nearest_of_not_isNumber (nan : ¬ IsNumber x) : Rounding.nearest x = 0 := by
  have read := read_eq x
  rw [unpack_of_not_isNumber nan] at read
  rw [Rounding.nearest, Rounding.whole, read]
  rfl

/-- What is worked out with something that is not a number is not one. -/
theorem not_isNumber_mul (nan : ¬ IsNumber x) (y : Float) : ¬ IsNumber (x * y) := by
  have product : x * y = packed (x.toModel.unpack.mul .binary64 y.toModel.unpack) := rfl
  have absorbs (v : UnpackedFloat) :
      UnpackedFloat.mul .binary64 .notANumber v = .notANumber := by
    cases v <;> rfl
  rw [product, unpack_of_not_isNumber nan, absorbs]
  decide +kernel

theorem not_isNumber_div (nan : ¬ IsNumber x) (y : Float) : ¬ IsNumber (x / y) := by
  have quotient : x / y = packed (x.toModel.unpack.div .binary64 y.toModel.unpack) := rfl
  have absorbs (v : UnpackedFloat) :
      UnpackedFloat.div .binary64 .notANumber v = .notANumber := by
    cases v <;> rfl
  rw [quotient, unpack_of_not_isNumber nan, absorbs]
  decide +kernel

/-! ## Whole numbers as lengths -/

theorem roundsTo_neg (finite : IsFinite x) : RoundsTo (-x) (-value x) := by
  obtain ⟨s, q, stands, valued⟩ := exists_stands finite
  rw [valued, ← signed_neg]
  exact stands.neg.roundsTo

/-- A whole number of 53 places has that value as a length. -/
theorem isFinite_ofNat {n : ℕ} (small : n < 2 ^ 53) :
    IsFinite (Float.ofNat n) ∧ value (Float.ofNat n) = n := by
  have rounds := roundsTo_ofNat n
  have exactly := rounds.value_eq.trans (rounded_natCast small)
  refine ⟨isFinite_iff.mpr ⟨rounds.number, ?_⟩, exactly⟩
  rw [exactly, abs_of_nonneg (Nat.cast_nonneg n)]
  calc (n : ℚ) < 2 ^ 53 := by exact_mod_cast small
    _ ≤ limit := pow_le_pow_right₀ one_le_two (by decide)

theorem isFinite_ofInt {n : ℤ} (small : n.natAbs < 2 ^ 53) :
    IsFinite (Float.ofInt n) ∧ value (Float.ofInt n) = n := by
  cases n with
  | ofNat n =>
    obtain ⟨finite, exactly⟩ := isFinite_ofNat small
    exact ⟨finite, exactly⟩
  | negSucc n =>
    obtain ⟨finite, exactly⟩ := isFinite_ofNat (n := n + 1) small
    obtain ⟨number, inside⟩ := isFinite_iff.mp finite
    have negated := roundsTo_neg finite
    have opposite : value (-Float.ofNat (n + 1)) = -value (Float.ofNat (n + 1)) := by
      rw [negated.value_eq, rounded_neg, rounded_value number]
    refine ⟨isFinite_iff.mpr ⟨negated.number, ?_⟩, ?_⟩
    · change |value (-Float.ofNat (n + 1))| < limit
      rwa [opposite, abs_neg]
    · change value (-Float.ofNat (n + 1)) = _
      rw [opposite, exactly, Int.cast_negSucc]

end PinPrinter.Binary64
