/-! # Whole numbers from lengths

Lengths are binary floating-point numbers; pixels, points and sizes are whole. A finite number is
a signed significand times a power of two, so the floor and the nearest whole number are exact
integer arithmetic on its parts.
-/

namespace PinPrinter.Rounding

/-- A power of two. -/
def power (n : Nat) : Nat :=
  Nat.pow 2 n

/-- The parts of a finite floating-point number: `± significand * 2 ^ exponent`. -/
structure Parts where
  negative : Bool
  significand : Nat
  exponent : Int
  deriving DecidableEq, Repr

/-- What a floating-point number stands for. -/
inductive Reading where
  | finite (parts : Parts)
  | infinite (negative : Bool)
  | notANumber
  deriving DecidableEq, Repr

/-- Read the sign, exponent and fraction of a number. -/
def read (x : Float) : Reading :=
  let bits : Nat := x.toBits.toNat
  let negative : Bool := power 63 ≤ bits
  let exponent : Nat := bits / power 52 % power 11
  let fraction : Nat := bits % power 52
  if exponent = power 11 - 1 then
    if fraction = 0 then .infinite negative else .notANumber
  else if exponent = 0 then .finite ⟨negative, fraction, -1074⟩
  else .finite ⟨negative, power 52 + fraction, (exponent : Int) - 1075⟩

/-- The greatest whole number that is not above. -/
def Parts.floor (p : Parts) : Int :=
  let scaled : Int := if p.negative then -p.significand else p.significand
  if 0 ≤ p.exponent then scaled * power p.exponent.toNat
  else Int.fdiv scaled (power (-p.exponent).toNat)

/-- The nearest whole number; a half goes away from zero. -/
def Parts.nearest (p : Parts) : Int :=
  let magnitude : Nat :=
    if 0 ≤ p.exponent then p.significand * power p.exponent.toNat
    else
      let unit := power (-p.exponent).toNat
      (2 * p.significand + unit) / (2 * unit)
  if p.negative then -magnitude else magnitude

/-- The whole number that is left when the places behind the point are cut off. -/
def Parts.truncate (p : Parts) : Int :=
  let magnitude : Nat :=
    if 0 ≤ p.exponent then p.significand * power p.exponent.toNat
    else p.significand / power (-p.exponent).toNat
  if p.negative then -magnitude else magnitude

/-- The end of the range of whole numbers of some bits, the sign among them. -/
def limit (bits : Nat) : Int :=
  power (bits - 1)

/-- A whole number is within the range. -/
def Fits (bits : Nat) (n : Int) : Prop :=
  -limit bits ≤ n ∧ n < limit bits

instance (bits : Nat) (n : Int) : Decidable (Fits bits n) :=
  inferInstanceAs (Decidable (_ ∧ _))

/-- A whole number kept within the range: what is beyond an end goes to that end. -/
def clamp (bits : Nat) (n : Int) : Int :=
  max (-limit bits) (min n (limit bits - 1))

/-- A whole number cut to the range: what is beyond one end comes back at the other. -/
def wrap (bits : Nat) (n : Int) : Int :=
  n.bmod (power bits)

theorem limit_pos (bits : Nat) : 0 < limit bits :=
  Int.natCast_pos.mpr (Nat.pow_pos (by decide))

theorem fits_clamp (bits : Nat) (n : Int) : Fits bits (clamp bits n) := by
  have positive := limit_pos bits
  unfold Fits clamp
  omega

theorem clamp_of_fits {bits : Nat} {n : Int} (fits : Fits bits n) : clamp bits n = n := by
  obtain ⟨least, most⟩ := fits
  unfold clamp
  omega

theorem wrap_of_fits {bits : Nat} {n : Int} (positive : 0 < bits) (fits : Fits bits n) :
    wrap bits n = n := by
  obtain ⟨few, rfl⟩ := Nat.exists_eq_add_one.mpr positive
  have half : power (few + 1) = 2 * power few := Nat.pow_succ'
  have range : limit (few + 1) = power few := rfl
  obtain ⟨least, most⟩ := fits
  exact Int.bmod_eq_of_le_mul_two (by omega) (by omega)

/-- A whole number read off a floating-point number by `f`; what has no value counts as zero, and
what is too large goes to the end of the range. -/
def whole (f : Parts → Int) (x : Float) : Int :=
  match read x with
  | .finite parts => clamp 64 (f parts)
  | .infinite true => -limit 64
  | .infinite false => limit 64 - 1
  | .notANumber => 0

/-- The greatest whole number that is not above `x`. -/
def floor (x : Float) : Int :=
  whole Parts.floor x

/-- The whole number nearest to `x`; a half goes away from zero. -/
def nearest (x : Float) : Int :=
  whole Parts.nearest x

/-- The whole number that is left of `x` when the places behind the point are cut off. -/
def truncate (x : Float) : Int :=
  whole Parts.truncate x

theorem fits_whole (f : Parts → Int) (x : Float) : Fits 64 (whole f x) := by
  have positive := limit_pos 64
  unfold whole
  split
  · exact fits_clamp 64 _
  · unfold Fits
    omega
  · unfold Fits
    omega
  · unfold Fits
    omega

/-- The pixel that a length in inches falls on. -/
def pixel (inches : Float) (dpi : Nat) : Int :=
  floor (inches * Float.ofNat dpi + 0.5)

end PinPrinter.Rounding
