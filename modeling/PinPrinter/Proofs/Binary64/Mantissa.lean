import Mathlib
import PinPrinter.Proofs.Binary64.Nearest

/-! # Mantissas on the way to a result

An operation comes to a mantissa that may be too long, and to what is known about the places behind
it: the next place, and whether anything but zeros follows. Dropping a place keeps this knowledge,
and it is all that is needed to find the nearest number of 53 places in the end.
-/

namespace PinPrinter.Binary64

open Float.Model (Format totalExponent)
open Float.Model.UnpackedFloat

/-! ## What is known of a number -/

/-- What is left of `q` behind a mantissa and the place that follows it. -/
def rest (em : ExtendedMantissa) (q : ℚ) : ℚ :=
  q - em.mantissa - if em.roundBit then 1 / 2 else 0

/-- An extended mantissa is what is known of `q`. -/
structure Represents (em : ExtendedMantissa) (q : ℚ) : Prop where
  nonneg : 0 ≤ rest em q
  lt_half : rest em q < 1 / 2
  sticky : em.stickyBit = true ↔ 0 < rest em q

variable {em : ExtendedMantissa} {q : ℚ}

theorem Represents.of_rest {r : ℚ} (left : rest em q = r) (nonneg : 0 ≤ r) (lt_half : r < 1 / 2)
    (sticky : em.stickyBit = true ↔ 0 < r) : Represents em q := by
  subst left
  exact ⟨nonneg, lt_half, sticky⟩

theorem represents_exact (m : ℕ) : Represents (.ofMantissaAndAccuracy m .exact) m := by
  apply Represents.of_rest (r := 0)
  · simp [rest, ExtendedMantissa.ofMantissaAndAccuracy]
  · rfl
  · norm_num
  · simp [ExtendedMantissa.ofMantissaAndAccuracy]

/-- The quotient of a division, with its remainder put into two bits. -/
theorem represents_quotient (n : ℕ) {d : ℕ} (positive : 0 < d) :
    Represents (.ofMantissaAndAccuracy (n / d) (accuracyOfFraction (n % d) d)) (n / d : ℚ) := by
  have positive' : (0 : ℚ) < d := by exact_mod_cast positive
  have split : (n / d : ℚ) - (n / d : ℕ) = (n % d : ℕ) / d := by
    have whole : (n : ℚ) = d * (n / d : ℕ) + (n % d : ℕ) := by
      exact_mod_cast (Nat.div_add_mod n d).symm
    rw [sub_eq_iff_eq_add, div_eq_iff positive'.ne', add_mul, div_mul_cancel₀ _ positive'.ne']
    linarith
  have proper : ((n % d : ℕ) / d : ℚ) < 1 := by
    rw [div_lt_one positive']
    exact_mod_cast Nat.mod_lt n positive
  generalize n % d = r at split proper
  by_cases exactly : r = 0
  · have known : accuracyOfFraction r d = .exact := if_pos exactly
    rw [known]
    apply Represents.of_rest (r := 0)
    · simp [rest, ExtendedMantissa.ofMantissaAndAccuracy, split, exactly]
    · rfl
    · norm_num
    · simp [ExtendedMantissa.ofMantissaAndAccuracy]
  · have known : accuracyOfFraction r d = .inexact (compare (2 * r) d) := if_neg exactly
    have some_left : (0 : ℚ) < r / d := by
      have nonzero : (0 : ℚ) < r := by exact_mod_cast Nat.pos_of_ne_zero exactly
      positivity
    rw [known]
    rcases lt_trichotomy (2 * r) d with below | half | above
    · have less : (r / d : ℚ) < 1 / 2 := by
        rw [div_lt_div_iff₀ positive' two_pos]
        exact_mod_cast (by omega : r * 2 < 1 * d)
      rw [Nat.compare_eq_lt.mpr below]
      apply Represents.of_rest (r := r / d)
      · simp [rest, ExtendedMantissa.ofMantissaAndAccuracy, split]
      · exact some_left.le
      · exact less
      · simpa [ExtendedMantissa.ofMantissaAndAccuracy] using some_left
    · have equal : (r / d : ℚ) = 1 / 2 := by
        rw [div_eq_div_iff positive'.ne' two_ne_zero]
        exact_mod_cast (by omega : r * 2 = 1 * d)
      rw [Nat.compare_eq_eq.mpr half]
      apply Represents.of_rest (r := 0)
      · simp [rest, ExtendedMantissa.ofMantissaAndAccuracy, split, equal]
      · rfl
      · norm_num
      · simp [ExtendedMantissa.ofMantissaAndAccuracy]
    · have more : (1 / 2 : ℚ) < r / d := by
        rw [div_lt_div_iff₀ two_pos positive']
        exact_mod_cast (by omega : 1 * d < r * 2)
      rw [Nat.compare_eq_gt.mpr above]
      apply Represents.of_rest (r := r / d - 1 / 2)
      · simp [rest, ExtendedMantissa.ofMantissaAndAccuracy, split]
      · linarith
      · linarith
      · simpa [ExtendedMantissa.ofMantissaAndAccuracy] using more

/-- A place is dropped. -/
theorem Represents.shiftRightOne (represents : Represents em q) :
    Represents em.shiftRightOne (q / 2) := by
  have halved :
      rest em.shiftRightOne (q / 2) = rest em q / 2 + if em.roundBit then 1 / 4 else 0 := by
    have split : (em.mantissa : ℚ) = 2 * (em.mantissa / 2 : ℕ) + (em.mantissa % 2 : ℕ) := by
      exact_mod_cast (Nat.div_add_mod em.mantissa 2).symm
    unfold rest ExtendedMantissa.shiftRightOne
    dsimp only
    rcases Nat.mod_two_eq_zero_or_one em.mantissa with even | odd
    · rw [even] at split ⊢
      push_cast at split
      cases em.roundBit <;> simp <;> linarith
    · rw [odd] at split ⊢
      push_cast at split
      cases em.roundBit <;> simp <;> linarith
  obtain ⟨nonneg, lt_half, sticky⟩ := represents
  have bit : em.shiftRightOne.stickyBit = (em.roundBit || em.stickyBit) := rfl
  cases next : em.roundBit with
  | false =>
    simp only [next, Bool.false_eq_true, if_false, add_zero] at halved
    constructor
    · linarith
    · linarith
    · rw [bit, next, Bool.false_or, sticky, halved]
      constructor <;> intro <;> linarith
  | true =>
    simp only [next, if_true] at halved
    constructor
    · linarith
    · linarith
    · rw [bit, next, Bool.true_or]
      exact iff_of_true rfl (by linarith)

theorem Represents.shiftRight (represents : Represents em q) (n : ℕ) :
    Represents (em >>> n) (q / 2 ^ n) := by
  change Represents (Nat.repeat _ n em) _
  induction n with
  | zero => simpa [Nat.repeat] using represents
  | succ n ih =>
    have halved : q / 2 ^ (n + 1) = q / 2 ^ n / 2 := by
      rw [pow_succ, div_div]
    rw [halved]
    exact ih.shiftRightOne

theorem Represents.floor (represents : Represents em q) : ⌊q⌋ = em.mantissa := by
  obtain ⟨nonneg, lt_half, -⟩ := represents
  rw [Int.floor_eq_iff]
  unfold rest at nonneg lt_half
  push_cast
  constructor
  · split_ifs at nonneg <;> linarith
  · split_ifs at lt_half <;> linarith

/-- The two bits are enough to round. -/
theorem Represents.roundedMantissa (represents : Represents em q) :
    (em.roundedMantissa : ℤ) = nearestEven q := by
  have floor := represents.floor
  have fract : Int.fract q = q - em.mantissa := by
    rw [Int.fract, floor]
    rfl
  obtain ⟨nonneg, lt_half, sticky⟩ := represents
  unfold nearestEven
  rw [fract, floor]
  obtain ⟨mantissa, roundBit, stickyBit⟩ := em
  unfold rest at nonneg lt_half sticky
  cases roundBit with
  | false =>
    have low : q - mantissa < 1 / 2 := by simpa using lt_half
    rw [if_pos low]
    cases stickyBit <;> rfl
  | true =>
    have high : ¬ q - mantissa < 1 / 2 := by
      simp only [if_true] at nonneg
      linarith
    rw [if_neg high]
    cases stickyBit with
    | false =>
      have tie : ¬ 1 / 2 < q - mantissa := by
        simp only [if_true, Bool.false_eq_true, false_iff] at sticky
        linarith
      rw [if_neg tie]
      rfl
    | true =>
      have above : 1 / 2 < q - mantissa := by
        simp only [if_true, true_iff] at sticky
        linarith
      rw [if_pos above]
      rfl

/-! ## Rounding a mantissa -/

/-- Mantissa and exponent of a finite number: all 53 places are filled up, unless the last one is
the last of all. -/
structure Canonical (m : ℕ) (e : ℤ) : Prop where
  places : m < 2 ^ 53
  least : -1074 ≤ e
  filled : 2 ^ 52 ≤ m ∨ e = -1074

/-- A number of a sign and of a size that has no more places than there are. -/
inductive Stands (s : Sign) : ℚ → Float.Model.UnpackedFloat → Prop
  | zero : Stands s 0 (.zero s)
  | finite {m : ℕ} {e : ℤ} (canonical : Canonical m e) (nonzero : 0 < m) :
      Stands s (m * 2 ^ e) (.finite s m e nonzero)

theorem targetExponent_eq (t : ℤ) : Format.binary64.targetExponent t = max (t - 53) (-1074) :=
  rfl

theorem log_eq {x : ℚ} {l : ℤ} (least : 2 ^ l ≤ x) (most : x < 2 ^ (l + 1)) : Int.log 2 x = l := by
  have positive : 0 < x := lt_of_lt_of_le (by positivity) least
  have above : l ≤ Int.log 2 x :=
    (Int.zpow_le_iff_le_log (by decide) positive).mp (by exact_mod_cast least)
  have below : Int.log 2 x < l + 1 :=
    (Int.lt_zpow_iff_log_lt (by decide) positive).mp (by exact_mod_cast most)
  omega

/-- The exponent that a mantissa is shifted to is that of the last place of the result. -/
theorem targetExponent_eq_lastPlace {m : ℕ} {e : ℤ} (positive : 0 < q) (floor : ⌊q⌋ = m)
    (known : 0 < m ∨ e ≤ -1022) :
    Format.binary64.targetExponent (totalExponent m e) = lastPlace (q * 2 ^ e) := by
  have unit : (0 : ℚ) < 2 ^ e := by positivity
  obtain ⟨least, most⟩ := Int.floor_eq_iff.mp floor
  push_cast at least most
  rw [targetExponent_eq, totalExponent, lastPlace]
  rcases Nat.eq_zero_or_pos m with rfl | nonzero
  · have small : q * 2 ^ e < 2 ^ e := by
      calc q * 2 ^ e < 1 * 2 ^ e := by gcongr; simpa using most
        _ = 2 ^ e := one_mul _
    have log : Int.log 2 (q * 2 ^ e) < e :=
      (Int.lt_zpow_iff_log_lt (by decide) (by positivity)).mp (by exact_mod_cast small)
    have zero : Nat.log2 0 = 0 := rfl
    omega
  · have log : Int.log 2 (q * 2 ^ e) = m.log2 + e := by
      apply log_eq
      · rw [zpow_add₀ two_ne_zero]
        have bound : ((2 : ℚ) ^ (m.log2 : ℤ)) ≤ q := by
          refine le_trans ?_ least
          exact_mod_cast Nat.log2_self_le nonzero.ne'
        gcongr
      · rw [add_right_comm, zpow_add₀ two_ne_zero]
        have bound : q < (2 : ℚ) ^ (m.log2 + 1 : ℤ) := by
          refine lt_of_lt_of_le most ?_
          exact_mod_cast (Nat.lt_log2_self : m < 2 ^ (m.log2 + 1))
        gcongr
    omega

/-- A rounded mantissa has at most 53 places, or it is the power of two behind them, which loses a
place that is zero. -/
theorem canonical_shiftToTargetExponent {m : ℕ} {e : ℤ} (most : m ≤ 2 ^ 53) (least : -1074 ≤ e)
    (filled : 2 ^ 52 ≤ m ∨ e = -1074) :
    let shifted := shiftToTargetExponent .binary64 m e .exact
    Canonical shifted.1.mantissa shifted.2 ∧
      (shifted.1.mantissa * 2 ^ shifted.2 : ℚ) = m * 2 ^ e := by
  rcases most.lt_or_eq with places | power
  · have stays : (Format.binary64.targetExponent (totalExponent m e) - e).toNat = 0 := by
      have bits : m.log2 ≤ 52 := by
        rcases Nat.eq_zero_or_pos m with rfl | nonzero
        · decide
        · exact Nat.lt_succ_iff.mp ((Nat.log2_lt nonzero.ne').mpr places)
      rw [targetExponent_eq, totalExponent]
      omega
    have shifted : shiftToTargetExponent .binary64 m e .exact = (⟨m, false, false⟩, e) := by
      rw [shiftToTargetExponent, shiftToExponent, stays]
      simp only [Nat.cast_zero, add_zero]
      rfl
    rw [shifted]
    exact ⟨⟨places, least, filled⟩, rfl⟩
  · subst power
    have one : (Format.binary64.targetExponent (totalExponent (2 ^ 53) e) - e).toNat = 1 := by
      rw [targetExponent_eq, totalExponent, Nat.log2_two_pow]
      omega
    have shifted : shiftToTargetExponent .binary64 (2 ^ 53) e .exact =
        (⟨2 ^ 52, false, false⟩, e + 1) := by
      rw [shiftToTargetExponent, shiftToExponent, one]
      rfl
    rw [shifted]
    refine ⟨⟨by norm_num, by omega, .inl le_rfl⟩, ?_⟩
    rw [zpow_add_one₀ two_ne_zero]
    push_cast
    ring

/-- A mantissa of which enough is known is rounded to the nearest number. -/
theorem stands_roundWithAccuracy {m : ℕ} {e : ℤ} {accuracy : Accuracy} (s : Sign)
    (positive : 0 < q) (represents : Represents (.ofMantissaAndAccuracy m accuracy) q)
    (known : 0 < m ∨ e ≤ -1022) (long : e ≤ lastPlace (q * 2 ^ e)) :
    Stands s (nearest (q * 2 ^ e)) (roundWithAccuracy .binary64 s m e accuracy) := by
  have floor : ⌊q⌋ = m := by
    rw [represents.floor]
    rcases accuracy with _ | _ | _ | _ <;> rfl
  have target := targetExponent_eq_lastPlace positive floor known
  have positive' : 0 < q * 2 ^ e := by positivity
  obtain ⟨k, place⟩ := Int.le.dest long
  have amount : (lastPlace (q * 2 ^ e) - e).toNat = k := by omega
  -- The mantissa is cut off at the last place of the result and rounded there.
  let cut := ExtendedMantissa.ofMantissaAndAccuracy m accuracy >>> k
  have first : shiftToTargetExponent .binary64 m e accuracy = (cut, lastPlace (q * 2 ^ e)) := by
    rw [shiftToTargetExponent, target, shiftToExponent, amount, place]
  have scaled : q * 2 ^ e / 2 ^ lastPlace (q * 2 ^ e) = q / 2 ^ k := by
    rw [← place, zpow_add₀ two_ne_zero, zpow_natCast]
    field_simp
  have rounded :
      (cut.roundedMantissa : ℤ) = nearestEven (q * 2 ^ e / 2 ^ lastPlace (q * 2 ^ e)) := by
    rw [scaled]
    exact (represents.shiftRight k).roundedMantissa
  have value : nearest (q * 2 ^ e) = cut.roundedMantissa * 2 ^ lastPlace (q * 2 ^ e) := by
    rw [nearest, ← rounded]
    rfl
  have unit : (0 : ℚ) < 2 ^ lastPlace (q * 2 ^ e) := by positivity
  have most : cut.roundedMantissa ≤ 2 ^ 53 := by
    have bound := nearest_le_zpow positive'
    rw [value, zpow_add₀ two_ne_zero, mul_le_mul_iff_left₀ unit] at bound
    exact_mod_cast bound
  have least : -1074 ≤ lastPlace (q * 2 ^ e) := le_max_right _ _
  have filled : 2 ^ 52 ≤ cut.roundedMantissa ∨ lastPlace (q * 2 ^ e) = -1074 := by
    rcases least.lt_or_eq with normal | last
    · have bound := zpow_le_nearest positive' normal
      rw [value, zpow_add₀ two_ne_zero, mul_le_mul_iff_left₀ unit] at bound
      exact .inl (by exact_mod_cast bound)
    · exact .inr last.symm
  obtain ⟨canonical, same⟩ := canonical_shiftToTargetExponent most least filled
  rw [value, ← same]
  simp only [roundWithAccuracy, first]
  split_ifs with zero
  · rw [zero, Nat.cast_zero, zero_mul]
    exact .zero
  · exact .finite canonical (Nat.pos_of_ne_zero zero)

/-- An exact mantissa, however short or long, is rounded to the nearest number. -/
theorem stands_round {m : ℕ} (s : Sign) (nonzero : 0 < m) (e : ℤ) :
    Stands s (nearest (m * 2 ^ e)) (round .binary64 s m e) := by
  have positive : (0 : ℚ) < m := by exact_mod_cast nonzero
  have target := targetExponent_eq_lastPlace (e := e) positive (Int.floor_natCast m) (.inl nonzero)
  let k := (e - lastPlace (m * 2 ^ e)).toNat
  have same : ((m <<< k : ℕ) : ℚ) * 2 ^ (e - k) = m * 2 ^ e := by
    rw [Nat.shiftLeft_eq, zpow_sub₀ two_ne_zero, zpow_natCast]
    push_cast
    field_simp
  have long : e - k ≤ lastPlace ((m <<< k : ℕ) * 2 ^ (e - k)) := by
    rw [same]
    omega
  have nonzero' : 0 < m <<< k := by
    rw [Nat.shiftLeft_eq]
    positivity
  have stands := stands_roundWithAccuracy s (by exact_mod_cast nonzero')
    (represents_exact (m <<< k)) (.inl nonzero') long
  rw [same] at stands
  unfold Float.Model.UnpackedFloat.round
  simp only [target, decreaseExponent]
  exact stands

end PinPrinter.Binary64
