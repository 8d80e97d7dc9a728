import Mathlib
import PinPrinter.Proofs.Binary64.Mantissa

/-! # The value of a floating-point number

A length that is a number has a rational value; an infinity stands at the end of the range. Numbers
are compared by their values. What an operation comes to is packed into 64 bits, and keeps its value
if that has no more places than there are and lies within the range.
-/

namespace PinPrinter.Binary64

open Float.Model (Format UnpackedFloat)
open Float.Model.UnpackedFloat

/-! ## Unpacked numbers -/

/-- A size with a sign. -/
def signed : Sign → ℚ → ℚ
  | .positive, q => q
  | .negative, q => -q

/-- The value of an unpacked number. What is not a number counts as zero. -/
def valueOf : UnpackedFloat → ℚ
  | .finite s m e _ => signed s (m * 2 ^ e)
  | .infinity s => signed s limit
  | .zero _ | .notANumber => 0

variable {s : Sign} {q : ℚ} {u : UnpackedFloat}

theorem Stands.valueOf_eq (stands : Stands s q u) : valueOf u = signed s q := by
  cases stands with
  | zero => cases s <;> simp [valueOf, signed]
  | finite canonical nonzero => rfl

theorem Stands.nonneg (stands : Stands s q u) : 0 ≤ q := by
  cases stands with
  | zero => rfl
  | finite canonical nonzero => positivity

/-- What stands for a number needs no rounding. -/
theorem Stands.nearest_eq (stands : Stands s q u) : nearest q = q := by
  cases stands with
  | zero => exact nearest_zero
  | finite canonical nonzero => exact nearest_of_places canonical.places canonical.least

theorem rounded_signed (s : Sign) (nonneg : 0 ≤ q) :
    rounded (signed s q) = signed s (min (nearest q) limit) := by
  cases s with
  | positive => exact rounded_of_nonneg nonneg
  | negative => rw [signed, rounded_neg, rounded_of_nonneg nonneg, signed]

/-! ## Packing -/

/-- A packed number is taken apart again. -/
theorem unpack_packComponents (s : Sign) (exponent : BitVec 11) (mantissa : BitVec 52) :
    unpack .binary64 (packComponents .binary64 s exponent mantissa) =
      if exponent = -1#11 then
        if mantissa = 0#52 then .infinity s else .notANumber
      else if exponent = 0#11 then
        if h : mantissa = 0#52 then .zero s
        else .finite s mantissa.toNat (-1074) (Nat.pos_of_ne_zero (BitVec.toNat_ne.mp h))
      else .finite s (2 ^ 52 + mantissa.toNat) (exponent.toNat - 1075) (by positivity) := by
  simp only [unpack, unpackExponent_packComponents, unpackMantissa_packComponents,
    unpackSign_packComponents, Sign.ofBitVec_toBitVec]
  split_ifs with special zero subnormal zero
  · rfl
  · rfl
  · rfl
  · congr 1
    rw [subnormal]
    rfl
  · congr 1
    rw [BitVec.toNat_append, ← Nat.shiftLeft_add_eq_or_of_lt mantissa.isLt]
    rfl

theorem pack_finite (s : Sign) {m : ℕ} (e : ℤ) (nonzero : 0 < m) :
    pack .binary64 (.finite s m e nonzero) =
      if 2 ^ 11 ≤ (e + 1023 + 52).toNat + 1 then packComponents .binary64 s (-1#11) 0#52
      else if m.log2 + 1 = 53 then
        packComponents .binary64 s (.ofNat 11 (e + 1023 + 52).toNat) (.ofNat 52 m)
      else packComponents .binary64 s 0#11 (.ofNat 52 m) :=
  rfl

theorem Canonical.lt_limit_iff {m : ℕ} {e : ℤ} (canonical : Canonical m e) :
    (m * 2 ^ e : ℚ) < limit ↔ e ≤ 971 := by
  obtain ⟨places, least, filled⟩ := canonical
  have end_ : limit = 2 ^ (1024 : ℤ) := rfl
  rw [end_]
  constructor
  · intro inside
    by_contra beyond
    have full : (2 : ℚ) ^ (52 : ℤ) ≤ m := by
      rcases filled with full | last
      · exact_mod_cast full
      · omega
    have large : (2 : ℚ) ^ (1024 : ℤ) ≤ m * 2 ^ e := by
      calc (2 : ℚ) ^ (1024 : ℤ)
          ≤ 2 ^ (52 + e) := zpow_le_zpow_right₀ one_le_two (by omega)
        _ = 2 ^ (52 : ℤ) * 2 ^ e := zpow_add₀ two_ne_zero ..
        _ ≤ m * 2 ^ e := by gcongr
    exact absurd inside (not_lt.mpr large)
  · intro within
    have small : (m : ℚ) < 2 ^ (53 : ℤ) := by exact_mod_cast places
    calc (m * 2 ^ e : ℚ)
        < 2 ^ (53 : ℤ) * 2 ^ e := by gcongr
      _ = 2 ^ (53 + e) := (zpow_add₀ two_ne_zero ..).symm
      _ ≤ 2 ^ (1024 : ℤ) := zpow_le_zpow_right₀ one_le_two (by omega)

/-- Where its places are filled up, a number is packed without the highest of them. -/
theorem unpack_pack_normal (s : Sign) {m : ℕ} {e : ℤ} (canonical : Canonical m e)
    (inside : e ≤ 971) (full : 2 ^ 52 ≤ m) (nonzero : 0 < m) :
    unpack .binary64 (pack .binary64 (.finite s m e nonzero)) = .finite s m e nonzero := by
  obtain ⟨places, least, -⟩ := canonical
  have fits : ¬ 2 ^ 11 ≤ (e + 1023 + 52).toNat + 1 := by omega
  have bits : m.log2 + 1 = 53 := by
    rw [(Nat.log2_eq_iff nonzero.ne').mpr ⟨full, places⟩]
  have exponent : (BitVec.ofNat 11 (e + 1023 + 52).toNat).toNat = (e + 1023 + 52).toNat :=
    Nat.mod_eq_of_lt (by omega)
  have mantissa : (BitVec.ofNat 52 m).toNat = m - 2 ^ 52 := by
    rw [BitVec.toNat_ofNat]
    omega
  have normal : BitVec.ofNat 11 (e + 1023 + 52).toNat ≠ -1#11 := by
    rw [BitVec.toNat_ne, exponent]
    change _ ≠ 2047
    omega
  have regular : BitVec.ofNat 11 (e + 1023 + 52).toNat ≠ 0#11 := by
    rw [BitVec.toNat_ne, exponent]
    change _ ≠ 0
    omega
  rw [pack_finite, if_neg fits, if_pos bits, unpack_packComponents, if_neg normal, if_neg regular]
  congr 1
  · omega
  · omega

/-- A number that ends at the last place of all is packed as it is. -/
theorem unpack_pack_subnormal (s : Sign) {m : ℕ} (small : m < 2 ^ 52) (nonzero : 0 < m) :
    unpack .binary64 (pack .binary64 (.finite s m (-1074) nonzero)) =
      .finite s m (-1074) nonzero := by
  have bits : m.log2 + 1 ≠ 53 := by
    have few : m.log2 < 52 := (Nat.log2_lt nonzero.ne').mpr small
    omega
  have mantissa : (BitVec.ofNat 52 m).toNat = m := Nat.mod_eq_of_lt small
  have some_ : BitVec.ofNat 52 m ≠ 0#52 := by
    rw [BitVec.toNat_ne, mantissa]
    exact nonzero.ne'
  rw [pack_finite, if_neg (by decide), if_neg bits, unpack_packComponents, if_neg (by decide),
    if_pos rfl, dif_neg some_]
  congr 1

theorem unpack_pack_overflow (s : Sign) {m : ℕ} {e : ℤ} (beyond : ¬ e ≤ 971) (nonzero : 0 < m) :
    unpack .binary64 (pack .binary64 (.finite s m e nonzero)) = .infinity s := by
  have overflow : 2 ^ 11 ≤ (e + 1023 + 52).toNat + 1 := by omega
  rw [pack_finite, if_pos overflow, unpack_packComponents, if_pos rfl, if_pos rfl]

/-- What stands for a number is packed as it is, unless it lies beyond the range. -/
theorem unpack_pack_of_stands (stands : Stands s q u) :
    unpack .binary64 (pack .binary64 u) = if q < limit then u else .infinity s := by
  cases stands with
  | zero =>
    have inside : (0 : ℚ) < limit := by norm_num [limit]
    rw [if_pos inside]
    exact unpack_packComponents s 0#11 0#52
  | @finite m e canonical nonzero =>
    have range := canonical.lt_limit_iff
    by_cases inside : e ≤ 971
    · rw [if_pos (range.mpr inside)]
      by_cases full : 2 ^ 52 ≤ m
      · exact unpack_pack_normal s canonical inside full nonzero
      · obtain rfl : e = -1074 := canonical.filled.resolve_left full
        exact unpack_pack_subnormal s (not_le.mp full) nonzero
    · rw [if_neg (mt range.mp inside)]
      exact unpack_pack_overflow s inside nonzero

/-- A number that 64 bits can hold. -/
inductive Number : UnpackedFloat → Prop
  | infinity (s : Sign) : Number (.infinity s)
  | stands {s : Sign} {q : ℚ} {u : UnpackedFloat} (stands : Stands s q u) (inside : q < limit) :
      Number u

theorem unpack_cases (bits : BitVec 64) :
    unpack .binary64 bits = .notANumber ∨ Number (unpack .binary64 bits) := by
  rw [← @packComponents_unpackSign_unpackExponent_unpackMantissa .binary64 bits]
  generalize Sign.ofBitVec (@unpackSign .binary64 bits) = s
  generalize @unpackExponent .binary64 bits = exponent
  generalize @unpackMantissa .binary64 bits = mantissa
  rw [unpack_packComponents]
  have places : mantissa.toNat < 2 ^ 52 := mantissa.isLt
  split_ifs with special zero subnormal zero
  · exact .inr (.infinity s)
  · exact .inl rfl
  · exact .inr (.stands (s := s) .zero (by norm_num [limit]))
  · have canonical : Canonical mantissa.toNat (-1074) := ⟨by omega, le_rfl, .inr rfl⟩
    exact .inr (.stands (.finite canonical _) (canonical.lt_limit_iff.mpr (by norm_num)))
  · have most : exponent.toNat ≠ 2047 := fun last => special (BitVec.eq_of_toNat_eq last)
    have least : exponent.toNat ≠ 0 := fun first => subnormal (BitVec.eq_of_toNat_eq first)
    have bound : exponent.toNat < 2 ^ 11 := exponent.isLt
    have canonical : Canonical (2 ^ 52 + mantissa.toNat) (exponent.toNat - 1075) :=
      ⟨by omega, by omega, .inl (by omega)⟩
    exact .inr (.stands (.finite canonical _) (canonical.lt_limit_iff.mpr (by omega)))

/-! ## Comparing -/

/-- Of two numbers the one with the larger exponent is larger. -/
theorem Canonical.lt_of_exponent_lt {m₁ m₂ : ℕ} {e₁ e₂ : ℤ} (first : Canonical m₁ e₁)
    (second : Canonical m₂ e₂) (lt : e₁ < e₂) : (m₁ * 2 ^ e₁ : ℚ) < m₂ * 2 ^ e₂ := by
  have places : (m₁ : ℚ) < 2 ^ (53 : ℤ) := by exact_mod_cast first.places
  have full : (2 : ℚ) ^ (52 : ℤ) ≤ m₂ := by
    rcases second.filled with full | last
    · exact_mod_cast full
    · have least := first.least
      omega
  calc (m₁ * 2 ^ e₁ : ℚ)
      < 2 ^ (53 : ℤ) * 2 ^ e₁ := by gcongr
    _ = 2 ^ (53 + e₁) := (zpow_add₀ two_ne_zero ..).symm
    _ ≤ 2 ^ (52 + e₂) := zpow_le_zpow_right₀ one_le_two (by omega)
    _ = 2 ^ (52 : ℤ) * 2 ^ e₂ := zpow_add₀ two_ne_zero ..
    _ ≤ m₂ * 2 ^ e₂ := by gcongr

theorem Canonical.compare_eq {m₁ m₂ : ℕ} {e₁ e₂ : ℤ} (first : Canonical m₁ e₁)
    (second : Canonical m₂ e₂) :
    (compare e₁ e₂).then (compare m₁ m₂) = compare (m₁ * 2 ^ e₁ : ℚ) (m₂ * 2 ^ e₂) := by
  rcases lt_trichotomy e₁ e₂ with lt | rfl | gt
  · rw [compare_lt_iff_lt.mpr lt, compare_lt_iff_lt.mpr (first.lt_of_exponent_lt second lt)]
    rfl
  · have unit : (0 : ℚ) < 2 ^ e₁ := by positivity
    rw [compare_eq_iff_eq.mpr rfl]
    change compare m₁ m₂ = _
    rcases lt_trichotomy m₁ m₂ with lt | rfl | gt
    · rw [compare_lt_iff_lt.mpr lt, compare_lt_iff_lt.mpr]
      gcongr
    · rw [compare_eq_iff_eq.mpr rfl, compare_eq_iff_eq.mpr rfl]
    · rw [compare_gt_iff_gt.mpr gt, compare_gt_iff_gt.mpr]
      gcongr
  · rw [compare_gt_iff_gt.mpr gt, compare_gt_iff_gt.mpr (second.lt_of_exponent_lt first gt)]
    rfl

theorem Stands.abs_valueOf (stands : Stands s q u) : |valueOf u| = q := by
  rw [stands.valueOf_eq]
  cases s <;> simp [signed, abs_of_nonneg stands.nonneg]

theorem compare_neg_neg (a b : ℚ) : compare (-a) (-b) = (compare a b).swap := by
  rcases lt_trichotomy a b with lt | rfl | gt
  · rw [compare_lt_iff_lt.mpr lt, compare_gt_iff_gt.mpr (neg_lt_neg lt)]
    rfl
  · rw [compare_eq_iff_eq.mpr rfl, compare_eq_iff_eq.mpr rfl]
    rfl
  · rw [compare_gt_iff_gt.mpr gt, compare_lt_iff_lt.mpr (neg_lt_neg gt)]
    rfl

/-- An infinity lies beyond all numbers that stand for themselves. -/
theorem Stands.compare_infinity (stands : Stands s q u) (inside : q < limit) (t : Sign) :
    UnpackedFloat.compare (.infinity t) u =
        some (compare (signed t limit) (valueOf u)) ∧
      UnpackedFloat.compare u (.infinity t) =
        some (compare (valueOf u) (signed t limit)) := by
  have bounds := abs_lt.mp (stands.abs_valueOf.trans_lt inside)
  cases t with
  | positive =>
    rw [signed, compare_gt_iff_gt.mpr bounds.2, compare_lt_iff_lt.mpr bounds.2]
    cases stands <;> exact ⟨rfl, rfl⟩
  | negative =>
    rw [signed, compare_gt_iff_gt.mpr bounds.1, compare_lt_iff_lt.mpr bounds.1]
    cases stands <;> exact ⟨rfl, rfl⟩

theorem Stands.compare_eq {t : Sign} {p : ℚ} {v : UnpackedFloat} (first : Stands s q u)
    (second : Stands t p v) :
    u.compare v = some (compare (valueOf u) (valueOf v)) := by
  rw [first.valueOf_eq, second.valueOf_eq]
  cases first with
  | zero =>
    cases second with
    | zero => cases s <;> cases t <;> simp [UnpackedFloat.compare, signed]
    | @finite m e canonical nonzero =>
      have size : (0 : ℚ) < m * 2 ^ e := by positivity
      cases s <;> cases t <;>
        simp [UnpackedFloat.compare, signed, compare_gt_iff_gt.mpr, compare_lt_iff_lt.mpr, size]
  | @finite m e canonical nonzero =>
    have size : (0 : ℚ) < m * 2 ^ e := by positivity
    cases second with
    | zero =>
      cases s <;> cases t <;>
        simp [UnpackedFloat.compare, signed, compare_gt_iff_gt.mpr, compare_lt_iff_lt.mpr, size]
    | @finite m' e' canonical' nonzero' =>
      have size' : (0 : ℚ) < m' * 2 ^ e' := by positivity
      cases s with
      | positive =>
        cases t with
        | positive => exact congrArg some (canonical.compare_eq canonical')
        | negative =>
          rw [signed, signed, compare_gt_iff_gt.mpr (by linarith)]
          rfl
      | negative =>
        cases t with
        | positive =>
          rw [signed, signed, compare_lt_iff_lt.mpr (by linarith)]
          rfl
        | negative =>
          rw [signed, signed, compare_neg_neg, ← canonical.compare_eq canonical']
          rfl

/-- Numbers compare as their values do. -/
theorem Number.compare_eq {u v : UnpackedFloat} (first : Number u) (second : Number v) :
    u.compare v = some (compare (valueOf u) (valueOf v)) := by
  cases first with
  | infinity s =>
    cases second with
    | infinity t =>
      have positive : (0 : ℚ) < limit := by norm_num [limit]
      have opposite : -limit < limit := by linarith
      cases s <;> cases t <;>
        simp [UnpackedFloat.compare, valueOf, signed, compare_lt_iff_lt.mpr opposite,
          compare_gt_iff_gt.mpr opposite] <;> rfl
    | stands stands inside => exact (stands.compare_infinity inside s).1
  | stands stands inside =>
    cases second with
    | infinity t => exact (stands.compare_infinity inside t).2
    | stands stands' inside' => exact stands.compare_eq stands'

/-! ## Packed numbers -/

/-- Not every result of an operation is a number; an infinity is one. -/
def IsNumber (x : Float) : Prop :=
  x.isNaN = false

/-- A number within the range. -/
def IsFinite (x : Float) : Prop :=
  x.isFinite = true

instance (x : Float) : Decidable (IsNumber x) :=
  inferInstanceAs (Decidable (_ = _))

instance (x : Float) : Decidable (IsFinite x) :=
  inferInstanceAs (Decidable (_ = _))

/-- The value of a number. -/
def value (x : Float) : ℚ :=
  valueOf x.toModel.unpack

variable {x y : Float}

theorem unpack_of_not_isNumber (nan : ¬ IsNumber x) : x.toModel.unpack = .notANumber :=
  isNaN_iff.mp (Bool.not_eq_false _ ▸ nan)

theorem IsNumber.number (number : IsNumber x) : Number x.toModel.unpack := by
  rcases unpack_cases x.toModel.toBits.toBitVec with nan | number'
  · have isNaN : x.isNaN = true := isNaN_iff.mpr nan
    exact absurd (isNaN.symm.trans number) (by decide)
  · exact number'

theorem Number.isNaN (number : Number u) : u.isNaN = false := by
  cases number with
  | infinity s => rfl
  | stands stands inside => cases stands <;> rfl

theorem isNumber_of_number (number : Number x.toModel.unpack) : IsNumber x :=
  number.isNaN

theorem isFinite_iff : IsFinite x ↔ IsNumber x ∧ |value x| < limit := by
  have positive : (0 : ℚ) < limit := by norm_num [limit]
  unfold IsFinite value
  by_cases number : IsNumber x
  · rw [and_iff_right number]
    change x.toModel.unpack.isFinite = true ↔ _
    have unpacked := number.number
    generalize x.toModel.unpack = u at unpacked ⊢
    cases unpacked with
    | infinity s =>
      have beyond : ¬ |valueOf (.infinity s)| < limit := by
        cases s <;> simp [valueOf, signed, abs_of_pos positive]
      exact iff_of_false Bool.false_ne_true beyond
    | stands stands inside =>
      rw [stands.abs_valueOf]
      refine iff_of_true ?_ inside
      cases stands <;> rfl
  · refine iff_of_false ?_ fun h => number h.1
    change ¬ x.toModel.unpack.isFinite = true
    rw [unpack_of_not_isNumber number]
    decide

theorem compare_notANumber (u : UnpackedFloat) : u.compare .notANumber = none := by
  cases u with
  | infinity s => cases s <;> rfl
  | finite s m e nonzero => cases s <;> rfl
  | zero s => rfl
  | notANumber => rfl

/-- Where one of two is not a number, they do not compare. -/
theorem isNumber_of_compare {order : Ordering}
    (compared : x.toModel.unpack.compare y.toModel.unpack = some order) :
    IsNumber x ∧ IsNumber y := by
  constructor
  · by_contra nan
    rw [unpack_of_not_isNumber nan] at compared
    cases compared
  · by_contra nan
    rw [unpack_of_not_isNumber nan, compare_notANumber] at compared
    cases compared

theorem compare_unpack (number : IsNumber x) (number' : IsNumber y) :
    x.toModel.unpack.compare y.toModel.unpack = some (compare (value x) (value y)) :=
  number.number.compare_eq number'.number

theorem le_iff : x ≤ y ↔ IsNumber x ∧ IsNumber y ∧ value x ≤ value y := by
  have opened : x ≤ y ↔ ((x.toModel.unpack.compare y.toModel.unpack).any (·.isLE)) = true := by
    change decide _ = true ↔ _
    rw [decide_eq_true_iff]
    rfl
  rw [opened]
  constructor
  · intro below
    obtain ⟨order, compared, least⟩ := (Option.any_eq_true ..).mp below
    obtain ⟨number, number'⟩ := isNumber_of_compare compared
    rw [compare_unpack number number'] at compared
    obtain rfl := Option.some.inj compared
    exact ⟨number, number', compare_le_iff_le.mp (Ordering.ne_gt_iff_isLE.mpr least)⟩
  · rintro ⟨number, number', least⟩
    rw [compare_unpack number number']
    exact Ordering.ne_gt_iff_isLE.mp (compare_le_iff_le.mpr least)

theorem lt_iff : x < y ↔ IsNumber x ∧ IsNumber y ∧ value x < value y := by
  have opened : x < y ↔
      (x.toModel.unpack.compare y.toModel.unpack == some Ordering.lt) = true := by
    change decide _ = true ↔ _
    rw [decide_eq_true_iff]
    rfl
  rw [opened, beq_iff_eq]
  constructor
  · intro compared
    obtain ⟨number, number'⟩ := isNumber_of_compare compared
    rw [compare_unpack number number'] at compared
    exact ⟨number, number', compare_lt_iff_lt.mp (Option.some.inj compared)⟩
  · rintro ⟨number, number', less⟩
    rw [compare_unpack number number', compare_lt_iff_lt.mpr less]

end PinPrinter.Binary64
