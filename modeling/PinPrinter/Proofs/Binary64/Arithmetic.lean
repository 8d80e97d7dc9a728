import PinPrinter.Proofs.Binary64.Value

/-! # Arithmetic

The operations on finite numbers are exact up to rounding: what comes out is the rounded value of
the exact result. So is a whole number that is made a length.
-/

namespace PinPrinter.Binary64

open Float.Model (Format UnpackedFloat totalExponent)
open Float.Model.UnpackedFloat

/-- A number is what the exact result `q` is rounded to. -/
structure RoundsTo (x : Float) (q : ℚ) : Prop where
  number : IsNumber x
  value_eq : value x = rounded q

/-- An unpacked number in 64 bits. -/
def packed (u : UnpackedFloat) : Float :=
  .ofModel (.pack u)

variable {s t : Sign} {p q : ℚ} {u v : UnpackedFloat} {x y : Float}

theorem roundsTo_packed (nonneg : 0 ≤ q) (stands : Stands s (nearest q) u) :
    RoundsTo (packed u) (signed s q) := by
  have back : (packed u).toModel.unpack = _ := unpack_pack_of_stands stands
  by_cases inside : nearest q < limit
  · rw [if_pos inside] at back
    constructor
    · apply isNumber_of_number
      rw [back]
      exact .stands stands inside
    · rw [rounded_signed s nonneg, min_eq_left inside.le, ← stands.valueOf_eq, value, back]
  · rw [if_neg inside] at back
    constructor
    · apply isNumber_of_number
      rw [back]
      exact .infinity s
    · rw [rounded_signed s nonneg, min_eq_right (not_lt.mp inside), value, back]
      rfl

/-- What stands for itself is not rounded. -/
theorem Stands.roundsTo (stands : Stands s q u) : RoundsTo (packed u) (signed s q) :=
  roundsTo_packed stands.nonneg (stands.nearest_eq.symm ▸ stands)

theorem exists_stands (finite : IsFinite x) :
    ∃ s q, Stands s q x.toModel.unpack ∧ value x = signed s q := by
  obtain ⟨number, inside⟩ := isFinite_iff.mp finite
  unfold value at inside ⊢
  have unpacked := number.number
  generalize x.toModel.unpack = u at unpacked inside ⊢
  cases unpacked with
  | infinity s =>
    have positive : (0 : ℚ) < limit := by norm_num [limit]
    cases s <;> simp [valueOf, signed, abs_of_pos positive] at inside
  | stands stands => exact ⟨_, _, stands, stands.valueOf_eq⟩

/-! ## Sums and differences -/

theorem signed_neg (s : Sign) (q : ℚ) : signed (-s) q = -signed s q := by
  cases s
  · exact (neg_neg q).symm
  · rfl

/-- Mantissas are added at one exponent. -/
theorem roundsTo_normalize (n : ℤ) (e : ℤ) (zeroSign : Sign) :
    RoundsTo (packed (normalize .binary64 n e zeroSign)) (n * 2 ^ e) := by
  unfold UnpackedFloat.normalize
  rcases lt_trichotomy n 0 with negative | rfl | positive
  · rw [compare_lt_iff_lt.mpr negative]
    have size : ((-n).toNat : ℚ) = -n := by exact_mod_cast Int.toNat_of_nonneg (by omega)
    have rounds := roundsTo_packed (by positivity)
      (stands_round .negative (by omega : 0 < (-n).toNat) e)
    rw [size, signed, neg_mul, neg_neg] at rounds
    exact rounds
  · rw [compare_eq_iff_eq.mpr rfl, Int.cast_zero, zero_mul]
    have rounds := (Stands.zero (s := zeroSign)).roundsTo
    cases zeroSign <;> simpa [signed] using rounds
  · rw [compare_gt_iff_gt.mpr positive]
    have size : (n.toNat : ℚ) = n := by exact_mod_cast Int.toNat_of_nonneg positive.le
    have rounds := roundsTo_packed (by positivity)
      (stands_round .positive (by omega : 0 < n.toNat) e)
    rw [size, signed] at rounds
    exact rounds

/-- To write a mantissa at a smaller exponent does not change the value. -/
theorem apply_decreaseExponent (s : Sign) (m : ℕ) {e smaller : ℤ} (le : smaller ≤ e) :
    (s.apply (decreaseExponent m e smaller).1 : ℚ) * 2 ^ smaller = signed s (m * 2 ^ e) := by
  have same : ((decreaseExponent m e smaller).1 : ℚ) * 2 ^ smaller = m * 2 ^ e := by
    obtain ⟨k, rfl⟩ := Int.le.dest le
    have amount : (smaller + k - smaller).toNat = k := by omega
    rw [decreaseExponent, amount, Nat.shiftLeft_eq, zpow_add₀ two_ne_zero, zpow_natCast]
    push_cast
    ring
  cases s with
  | positive => simpa [Sign.apply, signed] using same
  | negative =>
    rw [signed, ← same]
    simp [Sign.apply]

theorem roundsTo_packed_add (first : Stands s p u) (second : Stands t q v) :
    RoundsTo (packed (u.add .binary64 v)) (signed s p + signed t q) := by
  have nothing (s : Sign) : signed s 0 = 0 := by cases s <;> simp [signed]
  cases first with
  | zero =>
    rw [nothing, zero_add]
    cases second with
    | zero =>
      rw [nothing, ← nothing (if s == t then s else .positive)]
      cases s <;> cases t <;> exact Stands.zero.roundsTo
    | finite canonical nonzero => exact (Stands.finite canonical nonzero).roundsTo
  | @finite m e canonical nonzero =>
    cases second with
    | zero =>
      rw [nothing, add_zero]
      exact (Stands.finite canonical nonzero).roundsTo
    | @finite m' e' canonical' nonzero' =>
      have rounds := roundsTo_normalize
        (s.apply (decreaseExponent m e (min e e')).1 +
          t.apply (decreaseExponent m' e' (min e e')).1)
        (min e e') .positive
      push_cast at rounds
      rw [add_mul, apply_decreaseExponent s m (min_le_left e e'),
        apply_decreaseExponent t m' (min_le_right e e')] at rounds
      exact rounds

/-- A difference is the sum with the opposite number. -/
theorem sub_eq_add_neg_of_stands (first : Stands s p u) (second : Stands t q v) :
    u.sub .binary64 v = u.add .binary64 v.neg := by
  cases first with
  | zero => cases second <;> rfl
  | @finite m e canonical nonzero =>
    cases second with
    | zero => rfl
    | @finite m' e' canonical' nonzero' =>
      have opposite (n : ℤ) : (-t).apply n = -t.apply n := by
        cases t
        · exact (neg_neg n).symm
        · rfl
      unfold UnpackedFloat.sub UnpackedFloat.neg UnpackedFloat.add
      dsimp only
      rw [opposite]
      rfl

theorem Stands.neg (stands : Stands s q u) : Stands (-s) q u.neg := by
  cases stands with
  | zero => exact .zero
  | finite canonical nonzero => exact .finite canonical nonzero

theorem roundsTo_add (finite : IsFinite x) (finite' : IsFinite y) :
    RoundsTo (x + y) (value x + value y) := by
  obtain ⟨s, p, stands, valued⟩ := exists_stands finite
  obtain ⟨t, q, stands', valued'⟩ := exists_stands finite'
  rw [valued, valued']
  exact roundsTo_packed_add stands stands'

theorem roundsTo_sub (finite : IsFinite x) (finite' : IsFinite y) :
    RoundsTo (x - y) (value x - value y) := by
  obtain ⟨s, p, stands, valued⟩ := exists_stands finite
  obtain ⟨t, q, stands', valued'⟩ := exists_stands finite'
  have rounds := roundsTo_packed_add stands stands'.neg
  rw [← sub_eq_add_neg_of_stands stands stands', signed_neg, ← sub_eq_add_neg] at rounds
  rw [valued, valued']
  exact rounds

theorem roundsTo_abs (finite : IsFinite x) : RoundsTo x.abs |value x| := by
  obtain ⟨s, q, stands, valued⟩ := exists_stands finite
  have size : |value x| = signed .positive q := stands.abs_valueOf
  have positive : Stands .positive q x.toModel.unpack.abs := by
    generalize x.toModel.unpack = u at stands
    cases stands with
    | zero => exact .zero
    | finite canonical nonzero => exact .finite canonical nonzero
  rw [size]
  exact positive.roundsTo

/-! ## Products and quotients -/

theorem signed_mul (s t : Sign) (p q : ℚ) : signed (s * t) (p * q) = signed s p * signed t q := by
  cases s <;> cases t
  · exact (neg_mul_neg p q).symm
  · exact (neg_mul p q).symm
  · exact (mul_neg p q).symm
  · rfl

theorem signed_div (s t : Sign) (p q : ℚ) : signed (s / t) (p / q) = signed s p / signed t q := by
  cases s <;> cases t
  · exact (neg_div_neg_eq p q).symm
  · exact (neg_div q p).symm
  · exact (div_neg p).symm
  · rfl

/-- A size with enough places in front of the point ends behind the point. -/
theorem le_lastPlace {e : ℤ} (filled : 2 ^ 52 ≤ q ∨ e ≤ -1074) : e ≤ lastPlace (q * 2 ^ e) := by
  by_cases last : e ≤ -1074
  · exact last.trans (le_max_right _ _)
  · have full : (2 : ℚ) ^ (52 : ℤ) ≤ q := by exact_mod_cast filled.resolve_right last
    have size : (2 : ℚ) ^ (52 + e) ≤ q * 2 ^ e := by
      rw [zpow_add₀ two_ne_zero]
      gcongr
    have positive : 0 < q * 2 ^ e := lt_of_lt_of_le (by positivity) size
    have log : 52 + e ≤ Int.log 2 (q * 2 ^ e) :=
      (Int.zpow_le_iff_le_log (by decide) positive).mp (by exact_mod_cast size)
    unfold lastPlace
    omega

theorem roundsTo_packed_mul (first : Stands s p u) (second : Stands t q v) :
    RoundsTo (packed (u.mul .binary64 v)) (signed s p * signed t q) := by
  rw [← signed_mul]
  cases first with
  | zero =>
    rw [zero_mul]
    cases second <;> exact Stands.zero.roundsTo
  | @finite m e canonical nonzero =>
    cases second with
    | zero =>
      rw [mul_zero]
      exact Stands.zero.roundsTo
    | @finite m' e' canonical' nonzero' =>
      have size : (m * 2 ^ e * (m' * 2 ^ e') : ℚ) = (m * m' : ℕ) * 2 ^ (e + e') := by
        rw [zpow_add₀ two_ne_zero]
        push_cast
        ring
      have product : 0 < m * m' := Nat.mul_pos nonzero nonzero'
      have filled : 2 ^ 52 ≤ m * m' ∨ e + e' ≤ -1074 := by
        rcases canonical.filled with full | last
        · exact .inl (full.trans (Nat.le_mul_of_pos_right m nonzero'))
        · rcases canonical'.filled with full' | last'
          · exact .inl (full'.trans (Nat.le_mul_of_pos_left m' nonzero))
          · exact .inr (by omega)
      have long := le_lastPlace (q := (m * m' : ℕ))
        (filled.imp_left fun full => by exact_mod_cast full)
      rw [size]
      exact roundsTo_packed (by positivity) (stands_roundWithAccuracy (s * t)
        (by exact_mod_cast product) (represents_exact (m * m')) (.inl product) long)

/-- The mantissa of a quotient has enough places. -/
theorem filled_divCore {m m' : ℕ} {e e' e₀ : ℤ} {k : ℕ} (nonzero : 0 < m)
    (least : e₀ ≤ max (totalExponent m e - totalExponent m' e' - 53) (-1074))
    (shift : e₀ + k = e - e') : m' * 2 ^ 52 ≤ m <<< k ∨ e₀ ≤ -1074 := by
  by_cases last : e₀ ≤ -1074
  · exact .inr last
  · have far : m'.log2 + 1 + 52 ≤ m.log2 + k := by
      unfold totalExponent at least
      omega
    refine .inl ?_
    rw [Nat.shiftLeft_eq]
    calc m' * 2 ^ 52
        ≤ 2 ^ (m'.log2 + 1) * 2 ^ 52 := Nat.mul_le_mul_right _ Nat.lt_log2_self.le
      _ = 2 ^ (m'.log2 + 1 + 52) := (pow_add ..).symm
      _ ≤ 2 ^ (m.log2 + k) := Nat.pow_le_pow_right two_pos far
      _ = 2 ^ m.log2 * 2 ^ k := pow_add ..
      _ ≤ m * 2 ^ k := Nat.mul_le_mul_right _ (Nat.log2_self_le nonzero.ne')

theorem roundsTo_packed_div (first : Stands s p u) (second : Stands t q v) (nonzero : q ≠ 0) :
    RoundsTo (packed (u.div .binary64 v)) (signed s p / signed t q) := by
  rw [← signed_div]
  cases second with
  | zero => exact absurd rfl nonzero
  | @finite m' e' canonical' nonzero' =>
    cases first with
    | zero =>
      rw [zero_div]
      exact Stands.zero.roundsTo
    | @finite m e canonical nonzero =>
      let e₀ := min (e - e') (max (totalExponent m e - totalExponent m' e' - 53) (-1074))
      let k := (e - e' - e₀).toNat
      have shift : e₀ + k = e - e' := by omega
      have filled := filled_divCore nonzero (min_le_right _ _) shift
      have size : (m * 2 ^ e / (m' * 2 ^ e') : ℚ) = (m <<< k : ℕ) / m' * 2 ^ e₀ := by
        have exponent : (2 : ℚ) ^ e = 2 ^ e' * 2 ^ e₀ * 2 ^ k := by
          rw [← zpow_natCast, ← zpow_add₀ two_ne_zero, ← zpow_add₀ two_ne_zero]
          congr 1
          omega
        rw [exponent, Nat.shiftLeft_eq]
        push_cast
        field_simp
      have divisor : (0 : ℚ) < m' := by exact_mod_cast nonzero'
      have positive : 0 < ((m <<< k : ℕ) / m' : ℚ) := by
        rw [Nat.shiftLeft_eq]
        positivity
      have known : 0 < m <<< k / m' ∨ e₀ ≤ -1022 := by
        rcases filled with full | last
        · exact .inl (Nat.div_pos ((Nat.le_mul_of_pos_right m' (by norm_num)).trans full) nonzero')
        · exact .inr (by omega)
      have long : e₀ ≤ lastPlace ((m <<< k : ℕ) / m' * 2 ^ e₀) := by
        apply le_lastPlace
        refine filled.imp_left fun full => ?_
        rw [le_div_iff₀ divisor, mul_comm]
        exact_mod_cast full
      rw [size]
      exact roundsTo_packed (by positivity) (stands_roundWithAccuracy (s / t) positive
        (represents_quotient (m <<< k) nonzero') known long)

theorem roundsTo_mul (finite : IsFinite x) (finite' : IsFinite y) :
    RoundsTo (x * y) (value x * value y) := by
  obtain ⟨s, p, stands, valued⟩ := exists_stands finite
  obtain ⟨t, q, stands', valued'⟩ := exists_stands finite'
  rw [valued, valued']
  exact roundsTo_packed_mul stands stands'

theorem roundsTo_div (finite : IsFinite x) (finite' : IsFinite y) (nonzero : value y ≠ 0) :
    RoundsTo (x / y) (value x / value y) := by
  obtain ⟨s, p, stands, valued⟩ := exists_stands finite
  obtain ⟨t, q, stands', valued'⟩ := exists_stands finite'
  rw [valued'] at nonzero
  rw [valued, valued']
  apply roundsTo_packed_div stands stands'
  rintro rfl
  cases t <;> simp [signed] at nonzero

/-! ## Whole numbers -/

theorem value_one : value 1.0 = 1 := by
  have unpacked : (1.0 : Float).toModel.unpack = .finite .positive (2 ^ 52) (-52) (by decide) := by
    rfl
  rw [value, unpacked, valueOf, signed]
  norm_num

/-- A whole number of 53 places is the length of that many inches. -/
theorem rounded_natCast {n : ℕ} (small : n < 2 ^ 53) : rounded n = n := by
  have places : nearest n = n := by simpa using nearest_of_places (e := 0) small (by decide)
  have inside : (n : ℚ) ≤ limit := by
    calc (n : ℚ) ≤ 2 ^ 53 := by exact_mod_cast small.le
      _ ≤ limit := pow_le_pow_right₀ one_le_two (by decide)
  rw [rounded_of_nonneg (Nat.cast_nonneg n), places, min_eq_left inside]

/-- An exact mantissa that is long enough is rounded. -/
theorem roundsTo_roundWithAccuracy {m : ℕ} {e : ℤ} (long : 2 ^ 52 ≤ m) :
    RoundsTo (packed (roundWithAccuracy .binary64 .positive m e .exact)) (m * 2 ^ e) := by
  have positive : (0 : ℚ) < m := by exact_mod_cast (Nat.two_pow_pos 52).trans_le long
  have place := le_lastPlace (q := m) (e := e) (.inl (by exact_mod_cast long))
  exact roundsTo_packed (by positivity) (stands_roundWithAccuracy .positive positive
    (represents_exact m) (.inl (by exact_mod_cast positive)) place)

/-- A whole number with more places than there are is rounded as a product. -/
theorem roundsTo_ofScientific {n : ℕ} (nonzero : n ≠ 0) :
    RoundsTo (.ofModel (Float.Model.ofScientific n 0)) n := by
  have long : 2 ^ 52 ≤ n <<< 53 * 1 := by
    rw [Nat.shiftLeft_eq]
    omega
  have rounds := roundsTo_roundWithAccuracy (e := -53 + 0) long
  have size : ((n <<< 53 * 1 : ℕ) : ℚ) * 2 ^ (-53 + 0 : ℤ) = n := by
    rw [Nat.shiftLeft_eq, mul_one]
    push_cast
    rw [mul_assoc]
    norm_num
  rw [size] at rounds
  have product : UnpackedFloat.ofScientific .binary64 n 0 =
      roundWithAccuracy .binary64 .positive (n <<< 53 * 1) (-53 + 0) .exact := by
    have least : ¬ (0 : ℤ) < -(2 ^ 11 + n.log2) := by omega
    unfold UnpackedFloat.ofScientific
    rw [dif_neg nonzero, if_neg (by decide), if_neg least, if_pos le_rfl]
    rfl
  change RoundsTo (packed (UnpackedFloat.ofScientific .binary64 n 0)) n
  rw [product]
  exact rounds

theorem roundsTo_ofNat (n : ℕ) : RoundsTo (Float.ofNat n) n := by
  by_cases small : n < 2 ^ 53
  · have exactly := rounded_natCast small
    have direct : RoundsTo n.toUInt64.toFloat n := by
      have rounds := roundsTo_normalize n 0 .positive
      rw [zpow_zero, mul_one, Int.cast_natCast] at rounds
      have same : n.toUInt64.toNat = n := Nat.mod_eq_of_lt (by omega)
      change RoundsTo (packed (UnpackedFloat.normalize .binary64 n.toUInt64.toNat 0 .positive)) n
      rw [same]
      exact rounds
    have finite : IsFinite n.toUInt64.toFloat := by
      rw [isFinite_iff, direct.value_eq, exactly, abs_of_nonneg (Nat.cast_nonneg n)]
      refine ⟨direct.number, ?_⟩
      calc (n : ℚ) < 2 ^ 53 := by exact_mod_cast small
        _ ≤ limit := pow_le_pow_right₀ one_le_two (by decide)
    have times := roundsTo_mul finite (y := 1.0) (by decide)
    rw [direct.value_eq, exactly, value_one, mul_one] at times
    have product : Float.ofNat n = n.toUInt64.toFloat * 1.0 := by
      have unit : Float.exactlyRepresentablePowersOfTen[0] = 1.0 := by rfl
      have direct : Float.ofNat n =
          n.toUInt64.toFloat * Float.exactlyRepresentablePowersOfTen[0] :=
        dif_pos ⟨small, by decide⟩
      rw [direct, unit]
    rw [product]
    exact times
  · have nonzero : n ≠ 0 := by
      rintro rfl
      exact small (by decide)
    have large : ¬ (n < 2 ^ 53 ∧ 0 ≤ 22) := fun h => small h.1
    have scientific : Float.ofNat n = .ofModel (Float.Model.ofScientific n 0) := dif_neg large
    rw [scientific]
    exact roundsTo_ofScientific nonzero

end PinPrinter.Binary64
