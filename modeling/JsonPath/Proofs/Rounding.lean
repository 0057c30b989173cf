import JsonPath.Number.Double
import Mathlib.Algebra.Order.Field.Power
import Mathlib.Algebra.Order.Ring.Abs
import Mathlib.Data.Rat.Cast.Order
import Mathlib.Tactic.FieldSimp
import Mathlib.Tactic.Linarith
import Mathlib.Tactic.Positivity
import Mathlib.Tactic.Ring

/-!
# Rounding to binary64

The value of a binary64 number is rational, and so is what is rounded. Rounding takes the exponent
at which the mantissa just has room, and there the nearest integer for the mantissa. It is shown to
give the binary64 number that is nearest of all, those with other exponents included.

Results:
1. `compare_eq`: binary64 numbers are ordered as their values are.
2. `exponentOf_spec`: the mantissa at the exponent that is taken is full, unless there is no smaller
   exponent.
3. `ofRatio_isNearest`: a ratio is rounded to the nearest number, and a tie goes to the even one.
4. `IsNearest.mono`, `IsNearest.exact`: rounding keeps the order, and leaves what is a binary64
   number as it is.
5. `ofInt_isSome`, `ofInt_exact`: no integer of 64 bits is too large, and those that a mantissa has
   room for do not change.
-/

namespace JsonPath.Double

/-! ## Values -/

/-- A magnitude with a sign. -/
def withSign (negative : Bool) (v : ℚ) : ℚ := if negative then -v else v

/-- The numerical value without its sign. -/
def magnitude (x : Double) : ℚ := x.mantissa * 2 ^ x.exponent

/-- The numerical value. -/
def value (x : Double) : ℚ := withSign x.negative x.magnitude

/-- The mantissa is not too long, the exponent is in its range, and unless that is the least one the
mantissa is full. -/
structure WellFormed (x : Double) : Prop where
  short : x.mantissa < 2 ^ precision
  least : minExponent ≤ x.exponent
  greatest : x.exponent ≤ maxExponent
  full : x.exponent = minExponent ∨ 2 ^ (precision - 1) ≤ x.mantissa

/-- No binary64 number is nearer to `v`, and if another one is as near the mantissa is even. -/
structure IsNearest (x : Double) (v : ℚ) : Prop where
  wellFormed : x.WellFormed
  nearest {y : Double} : y.WellFormed → |x.value - v| ≤ |y.value - v|
  even {y : Double} : y.WellFormed → |x.value - v| = |y.value - v| → y.value ≠ x.value →
    Even x.mantissa

theorem magnitude_nonneg (x : Double) : 0 ≤ x.magnitude := by
  unfold magnitude
  positivity

/-! ## Order -/

/-- Integers are ordered as their multiples of a unit are. -/
theorem compare_scaled {a b : Int} {unit : ℚ} (pos : 0 < unit) :
    Ord.compare a b = Ord.compare (a * unit : ℚ) (b * unit) := by
  have grows : StrictMono fun n : Int => (n * unit : ℚ) := by
    intro m n less
    exact mul_lt_mul_of_pos_right (Int.cast_lt.mpr less) pos
  rw [← cmp_eq_compare, ← cmp_eq_compare]
  exact (grows.cmp_map_eq a b).symm

/-- A multiple of a smaller power of two has the same value. -/
theorem multipleAt_mul {x : Double} {exponent : Int} (below : exponent ≤ x.exponent) :
    (x.multipleAt exponent * 2 ^ exponent : ℚ) = x.value := by
  have split : (2 : ℚ) ^ x.exponent = 2 ^ (x.exponent - exponent).toNat * 2 ^ exponent := by
    rw [← zpow_natCast, ← zpow_add₀ two_ne_zero]
    congr 1
    omega
  rw [multipleAt, Int.shiftLeft_eq, value, withSign, magnitude, signed, split]
  split <;> push_cast <;> ring

/-- The order of two numbers is that of their values. -/
theorem compare_eq (x y : Double) : x.compare y = Ord.compare x.value y.value := by
  have pos : (0 : ℚ) < 2 ^ min x.exponent y.exponent := by positivity
  rw [compare, compare_scaled pos, multipleAt_mul (min_le_left ..),
    multipleAt_mul (min_le_right ..)]

/-! ## The nearest integer -/

/-- The nearest integer is no more than a half away, and it is even if it is a half away. -/
theorem roundHalfEven_near (num : Nat) {den : Nat} (pos : 0 < den) :
    |(roundHalfEven num den : ℚ) - num / den| ≤ 1 / 2 ∧
      (|(roundHalfEven num den : ℚ) - num / den| = 1 / 2 → Even (roundHalfEven num den)) := by
  have pos' : (0 : ℚ) < den := Nat.cast_pos.mpr pos
  have split : (num / den : ℚ) = (num / den : Nat) + (num % den : Nat) / (den : ℚ) := by
    field_simp
    exact_mod_cast (Nat.div_add_mod num den).symm
  have small : num % den < den := Nat.mod_lt num pos
  rw [split, roundHalfEven]
  generalize num / den = quotient, num % den = remainder at small
  have lessHalf : (remainder / den : ℚ) < 1 / 2 ↔ 2 * remainder < den := by
    rw [div_lt_div_iff₀ pos' two_pos, one_mul, mul_comm]
    exact_mod_cast Iff.rfl
  have isHalf : (remainder / den : ℚ) = 1 / 2 ↔ 2 * remainder = den := by
    rw [div_eq_div_iff pos'.ne' two_ne_zero, one_mul, mul_comm]
    exact_mod_cast Iff.rfl
  have notWhole : (remainder / den : ℚ) < 1 := (div_lt_one pos').mpr (Nat.cast_lt.mpr small)
  have positive : (0 : ℚ) ≤ remainder / den := by positivity
  split
  · next down =>
    rw [← lessHalf, ← isHalf] at down
    generalize (remainder / den : ℚ) = part at *
    rw [sub_add_cancel_left, abs_neg, abs_of_nonneg positive]
    refine ⟨down.elim le_of_lt fun tie => tie.1.le, fun tie => ?_⟩
    rcases down with less | ⟨-, even⟩
    · exact absurd tie less.ne
    · exact Nat.even_iff.mpr even
  · next up =>
    rw [← lessHalf, ← isHalf, not_or, not_lt, not_and] at up
    generalize (remainder / den : ℚ) = part at *
    have gap : ((quotient + 1 : Nat) - (quotient + part) : ℚ) = 1 - part := by
      push_cast
      ring
    rw [gap, abs_of_pos (by linarith)]
    refine ⟨by linarith, fun tie => ?_⟩
    have odd := up.2 (by linarith)
    exact Nat.even_add_one.mpr (Nat.even_iff.not.mpr odd)

/-- No integer is nearer, and if another one is as near the integer is even. -/
theorem roundHalfEven_nearest (num : Nat) {den : Nat} (pos : 0 < den) (k : Int) :
    |(roundHalfEven num den : ℚ) - num / den| ≤ |(k : ℚ) - num / den| ∧
      (|(roundHalfEven num den : ℚ) - num / den| = |(k : ℚ) - num / den| →
        k ≠ roundHalfEven num den → Even (roundHalfEven num den)) := by
  obtain ⟨near, even⟩ := roundHalfEven_near num pos
  generalize roundHalfEven num den = n at *
  by_cases same : k = n
  · subst same
    exact ⟨le_refl _, fun _ other => absurd rfl other⟩
  · -- Two integers are at least one apart.
    have apart : (1 : ℚ) ≤ |(k : ℚ) - n| := by
      have : 1 ≤ |k - n| := Int.one_le_abs (sub_ne_zero.mpr same)
      exact_mod_cast this
    have triangle := abs_sub_le (k : ℚ) (num / den) n
    rw [abs_sub_comm (num / den : ℚ)] at triangle
    exact ⟨by linarith, fun tie _ => even (by linarith)⟩

/-! ## The exponent -/

theorem power_mul (n : Nat) (exponent : Int) : (2 : ℚ) ^ n * 2 ^ exponent = 2 ^ (n + exponent) := by
  rw [zpow_add₀ two_ne_zero, zpow_natCast]

theorem scale_pos (num : Nat) {den : Nat} (pos : 0 < den) (exponent : Int) :
    0 < (scale num den exponent).2 := by
  show 0 < den <<< exponent.toNat
  rw [Nat.shiftLeft_eq]
  exact Nat.mul_pos pos (Nat.two_pow_pos _)

/-- Scaling divides by a power of two. -/
theorem scale_ratio (num den : Nat) (exponent : Int) :
    ((scale num den exponent).1 / (scale num den exponent).2 : ℚ) = num / den / 2 ^ exponent := by
  have power : (2 : ℚ) ^ exponent = 2 ^ exponent.toNat / 2 ^ (-exponent).toNat := by
    rw [← zpow_natCast, ← zpow_natCast, ← zpow_sub₀ two_ne_zero]
    congr 1
    omega
  rw [scale, Nat.shiftLeft_eq, Nat.shiftLeft_eq, power]
  push_cast
  field_simp

/-- A ratio lies between the powers of two that the numbers of bits tell. -/
theorem ratio_bounds {num den : Nat} (pos : 0 < num) (pos' : 0 < den) :
    (2 : ℚ) ^ (num.log2 - den.log2 - 1 : Int) < num / den ∧
      (num / den : ℚ) < 2 ^ (num.log2 - den.log2 + 1 : Int) := by
  have low : (2 ^ num.log2 : ℚ) ≤ num := by exact_mod_cast Nat.log2_self_le pos.ne'
  have high : (num : ℚ) < 2 ^ (num.log2 + 1) := by exact_mod_cast Nat.lt_log2_self
  have low' : (2 ^ den.log2 : ℚ) ≤ den := by exact_mod_cast Nat.log2_self_le pos'.ne'
  have high' : (den : ℚ) < 2 ^ (den.log2 + 1) := by exact_mod_cast Nat.lt_log2_self
  have den_pos : (0 : ℚ) < den := Nat.cast_pos.mpr pos'
  have lower : (2 : ℚ) ^ (num.log2 - den.log2 - 1 : Int) = 2 ^ num.log2 / 2 ^ (den.log2 + 1) := by
    rw [sub_sub, zpow_sub₀ two_ne_zero]
    rfl
  have upper : (2 : ℚ) ^ (num.log2 - den.log2 + 1 : Int) = 2 ^ (num.log2 + 1) / 2 ^ den.log2 := by
    rw [sub_add_eq_add_sub, zpow_sub₀ two_ne_zero]
    rfl
  rw [lower, upper]
  constructor
  · exact div_lt_div₀' low high' (by positivity) (by positivity)
  · exact div_lt_div₀ high low' (by positivity) (by positivity)

/-- At its exponent a ratio needs a mantissa that is not too long, and unless that is the least
exponent, one that is full. -/
theorem exponentOf_spec {num den : Nat} (pos : 0 < num) (pos' : 0 < den) :
    minExponent ≤ exponentOf num den ∧
      (num / den : ℚ) < 2 ^ precision * 2 ^ exponentOf num den ∧
      (exponentOf num den = minExponent ∨
        2 ^ (precision - 1) * 2 ^ exponentOf num den ≤ (num / den : ℚ)) := by
  obtain ⟨low, high⟩ := ratio_bounds pos pos'
  rw [exponentOf]
  generalize guessed : max minExponent ((num.log2 : Int) - den.log2 - precision) = guess
  have fits : (scale num den guess).1 < (scale num den guess).2 <<< precision ↔
      (num / den : ℚ) < 2 ^ precision * 2 ^ guess := by
    have scaled_pos : (0 : ℚ) < (scale num den guess).2 :=
      Nat.cast_pos.mpr (scale_pos num pos' guess)
    rw [← div_lt_iff₀ (by positivity), ← scale_ratio, div_lt_iff₀ scaled_pos, Nat.shiftLeft_eq,
      mul_comm]
    exact_mod_cast Iff.rfl
  split
  · next short =>
    refine ⟨by omega, fits.mp short, ?_⟩
    rcases le_or_gt ((num.log2 : Int) - den.log2 - precision) minExponent with small | large
    · exact .inl (by omega)
    · have full : ((precision - 1 : Nat) : Int) + guess = num.log2 - den.log2 - 1 := by
        simp only [precision] at *
        omega
      rw [power_mul, full]
      exact .inr low.le
  · next long =>
    have below : (num.log2 - den.log2 + 1 : Int) ≤ precision + (guess + 1) := by omega
    have shifted : ((precision - 1 : Nat) : Int) + (guess + 1) = precision + guess := by
      simp only [precision]
      omega
    refine ⟨by omega, ?_, .inr ?_⟩
    · rw [power_mul]
      exact high.trans_le (zpow_le_zpow_right₀ one_le_two below)
    · rw [power_mul, shifted, ← power_mul]
      exact not_lt.mp (fits.not.mp long)

/-! ## Rounding a ratio -/

theorem wellFormed_zero (negative : Bool) : (zero negative).WellFormed :=
  ⟨Nat.two_pow_pos precision, le_refl _, show minExponent ≤ maxExponent by decide, .inl rfl⟩

/-- The integer that a ratio, as a multiple of the last place at its exponent, is rounded to. -/
def roundedMantissa (num den : Nat) : Nat :=
  roundHalfEven (scale num den (exponentOf num den)).1 (scale num den (exponentOf num den)).2

section

variable {negative : Bool} {num den : Nat} {x y : Double}

variable (num) in
/-- No other multiple of the last place is nearer to the ratio. -/
theorem roundedMantissa_nearest (pos : 0 < den) (k : Int) :
    |(roundedMantissa num den * 2 ^ exponentOf num den - num / den : ℚ)| ≤
        |(k * 2 ^ exponentOf num den - num / den : ℚ)| ∧
      (|(roundedMantissa num den * 2 ^ exponentOf num den - num / den : ℚ)| =
          |(k * 2 ^ exponentOf num den - num / den : ℚ)| →
        k ≠ roundedMantissa num den → Even (roundedMantissa num den)) := by
  obtain ⟨nearest, even⟩ := roundHalfEven_nearest (scale num den (exponentOf num den)).1
    (scale_pos num pos (exponentOf num den)) k
  rw [scale_ratio] at nearest even
  rw [roundedMantissa]
  generalize roundHalfEven _ _ = n at *
  have unit : (0 : ℚ) < 2 ^ exponentOf num den := by positivity
  have scaled (q : ℚ) : |q * 2 ^ exponentOf num den - num / den| =
      |q - num / den / 2 ^ exponentOf num den| * 2 ^ exponentOf num den := by
    rw [← abs_of_pos unit, ← abs_mul, abs_of_pos unit, sub_mul, div_mul_cancel₀ _ unit.ne']
  rw [scaled, scaled]
  exact ⟨mul_le_mul_of_nonneg_right nearest unit.le,
    fun tie => even (mul_right_cancel₀ unit.ne' tie)⟩

/-- Rounding up may make the mantissa one bit too long, but no more. -/
theorem roundedMantissa_bounds (pos : 0 < num) (pos' : 0 < den) :
    roundedMantissa num den ≤ 2 ^ precision ∧
      (exponentOf num den = minExponent ∨ 2 ^ (precision - 1) ≤ roundedMantissa num den) := by
  obtain ⟨-, short, full⟩ := exponentOf_spec pos pos'
  obtain ⟨near, -⟩ := roundHalfEven_near (scale num den (exponentOf num den)).1
    (scale_pos num pos' (exponentOf num den))
  have unit : (0 : ℚ) < 2 ^ exponentOf num den := by positivity
  rw [← div_lt_iff₀ unit] at short
  rw [← le_div_iff₀ unit] at full
  rw [scale_ratio, abs_le] at near
  rw [roundedMantissa]
  generalize roundHalfEven _ _ = n at *
  generalize (num / den / 2 ^ exponentOf num den : ℚ) = v at *
  constructor
  · have : (n : ℚ) < (2 ^ precision + 1 : Nat) := by
      push_cast
      linarith
    exact Nat.lt_add_one_iff.mp (Nat.cast_lt.mp this)
  · refine full.imp id fun full => ?_
    have : ((2 ^ (precision - 1) : Nat) : ℚ) < (n + 1 : Nat) := by
      push_cast
      linarith
    exact Nat.lt_add_one_iff.mp (Nat.cast_lt.mp this)

/-- A mantissa that is one bit too long is full at the next exponent. -/
theorem ofRatio_eq (pos : 0 < num) :
    ofRatio negative num den =
      if roundedMantissa num den = 2 ^ precision then
        if maxExponent < exponentOf num den + 1 then none
        else some ⟨negative, 2 ^ (precision - 1), exponentOf num den + 1⟩
      else if maxExponent < exponentOf num den then none
      else if roundedMantissa num den = 0 then some (zero negative)
      else some ⟨negative, roundedMantissa num den, exponentOf num den⟩ := by
  rw [ofRatio, if_neg pos.ne']
  have full : (2 ^ (precision - 1) = 0) = False := eq_false (Nat.two_pow_pos _).ne'
  simp only [Nat.one_shiftLeft, ← roundedMantissa.eq_def]
  generalize roundedMantissa num den = n, exponentOf num den = exponent
  generalize 2 ^ (precision - 1) = half at *
  by_cases carry : n = 2 ^ precision
  · simp only [if_pos carry, full, if_false]
  · simp only [if_neg carry]

theorem ofRatio_eq_some (pos : 0 < num) (pos' : 0 < den)
    (made : ofRatio negative num den = some x) :
    x.negative = negative ∧ x.WellFormed ∧
      x.magnitude = roundedMantissa num den * 2 ^ exponentOf num den ∧
      (Even (roundedMantissa num den) → Even x.mantissa) := by
  obtain ⟨least, -⟩ := exponentOf_spec pos pos'
  obtain ⟨short, full⟩ := roundedMantissa_bounds pos pos'
  rw [ofRatio_eq pos] at made
  generalize roundedMantissa num den = n, exponentOf num den = exponent at *
  split at made
  · next carry =>
    obtain ⟨bounded, made⟩ := Option.ite_none_left_eq_some.mp made
    cases made
    refine ⟨rfl, ⟨?_, ?_, not_lt.mp bounded, .inr (le_refl _)⟩, ?_, fun _ => ?_⟩
    · exact Nat.pow_lt_pow_right one_lt_two (Nat.lt_succ_self _)
    · exact least.trans (Int.le_add_one (le_refl exponent))
    · rw [magnitude, carry]
      push_cast
      rw [power_mul, power_mul]
      congr 1
      simp only [precision]
      omega
    · exact Nat.even_pow.mpr ⟨even_two, by decide⟩
  · next fits =>
    obtain ⟨bounded, made⟩ := Option.ite_none_left_eq_some.mp made
    split at made
    · next zero =>
      cases made
      refine ⟨rfl, wellFormed_zero negative, ?_, fun _ => Even.zero⟩
      rw [zero, magnitude, Double.zero, Nat.cast_zero, zero_mul, zero_mul]
    · cases made
      exact ⟨rfl, ⟨lt_of_le_of_ne short fits, least, not_lt.mp bounded, full⟩, rfl, id⟩

/-- A binary64 number is a multiple of a given last place or less than every full mantissa there. -/
theorem magnitude_grid (wellFormed : y.WellFormed) (exponent : Int) :
    (∃ k : Nat, y.magnitude = k * 2 ^ exponent) ∨
      (exponent ≠ minExponent ∧ y.magnitude < 2 ^ (precision - 1) * 2 ^ exponent) := by
  rcases le_or_gt exponent y.exponent with coarse | fine
  · refine .inl ⟨y.mantissa * 2 ^ (y.exponent - exponent).toNat, ?_⟩
    rw [magnitude]
    push_cast
    rw [mul_assoc, power_mul]
    congr 2
    omega
  · refine .inr ⟨fun same => (wellFormed.least.trans_lt fine).ne' same, ?_⟩
    have short : (y.mantissa : ℚ) < 2 ^ precision := by exact_mod_cast wellFormed.short
    calc y.magnitude < 2 ^ precision * 2 ^ y.exponent :=
          mul_lt_mul_of_pos_right short (by positivity)
      _ = 2 ^ (precision + y.exponent) := power_mul ..
      _ ≤ 2 ^ (((precision - 1 : Nat) : Int) + exponent) :=
          zpow_le_zpow_right₀ one_le_two (by simp only [precision]; omega)
      _ = 2 ^ (precision - 1) * 2 ^ exponent := (power_mul ..).symm

/-- No magnitude is nearer to a ratio than the one that it is rounded to. -/
theorem magnitude_nearest (pos : 0 < num) (pos' : 0 < den)
    (made : ofRatio negative num den = some x) (wellFormed : y.WellFormed) :
    |x.magnitude - num / den| ≤ |y.magnitude - num / den| ∧
      (|x.magnitude - num / den| = |y.magnitude - num / den| → y.magnitude ≠ x.magnitude →
        Even x.mantissa) := by
  obtain ⟨-, -, is, even⟩ := ofRatio_eq_some pos pos' made
  obtain ⟨-, -, full⟩ := exponentOf_spec pos pos'
  rw [is]
  rcases magnitude_grid wellFormed (exponentOf num den) with ⟨k, multiple⟩ | ⟨other, less⟩
  · rw [multiple]
    obtain ⟨nearest, tie⟩ := roundedMantissa_nearest num pos' k
    refine ⟨nearest, fun same different => even (tie same ?_)⟩
    rintro same
    rw [Nat.cast_inj.mp same] at different
    exact different rfl
  · -- The least number with a full mantissa lies between the two.
    have full := full.resolve_left other
    have between := (roundedMantissa_nearest num pos' (2 ^ (precision - 1) : Nat)).1
    push_cast at between
    have nearer : |(2 ^ (precision - 1) * 2 ^ exponentOf num den - num / den : ℚ)| <
        |y.magnitude - num / den| := by
      rw [abs_of_nonpos (by linarith), abs_of_neg (by linarith)]
      linarith
    exact ⟨between.trans nearer.le, fun tie => absurd tie (between.trans_lt nearer).ne⟩

end

/-! ## Rounding with a sign -/

/-- Numbers of the other sign are further away, unless they are zero. -/
theorem magnitude_distance (y : Double) (negative : Bool) {v : ℚ} (pos : 0 < v) :
    |y.magnitude - v| ≤ |y.value - withSign negative v| ∧
      (|y.magnitude - v| = |y.value - withSign negative v| →
        y.value = withSign negative y.magnitude) := by
  have nonneg := y.magnitude_nonneg
  have opposite {u : ℚ} (nonneg : 0 ≤ u) :
      |u - v| ≤ u + v ∧ (|u - v| = u + v → u = 0) := by
    rcases le_total v u with above | below
    · rw [abs_of_nonneg (sub_nonneg.mpr above)]
      exact ⟨by linarith, fun same => by linarith⟩
    · rw [abs_of_nonpos (sub_nonpos.mpr below)]
      exact ⟨by linarith, fun same => by linarith⟩
  obtain ⟨closer, zero⟩ := opposite nonneg
  have positive : 0 < y.magnitude + v := by linarith
  have mirrored : |(-y.magnitude - v)| = y.magnitude + v := by
    rw [← neg_add', abs_neg, abs_of_pos positive]
  have mirrored' : |y.magnitude - -v| = y.magnitude + v := by
    rw [sub_neg_eq_add, abs_of_pos positive]
  have turned : |(-y.magnitude - -v)| = |y.magnitude - v| := by
    rw [neg_sub_neg, abs_sub_comm]
  rw [value]
  cases y.negative <;> cases negative <;>
    simp only [withSign, if_true, if_false, Bool.false_eq_true, mirrored, mirrored', turned]
  · exact ⟨le_refl _, fun _ => trivial⟩
  · exact ⟨closer, fun same => by rw [zero same, neg_zero]⟩
  · exact ⟨closer, fun same => by rw [zero same, neg_zero]⟩
  · exact ⟨le_refl _, fun _ => trivial⟩

theorem value_zero (negative : Bool) : (zero negative).value = 0 := by
  rw [value, magnitude]
  cases negative <;> simp [withSign, zero]

/-- A ratio is rounded to the nearest binary64 number, and a tie goes to the even one. -/
theorem ofRatio_isNearest {negative : Bool} {num den : Nat} {x : Double} (pos : 0 < den)
    (made : ofRatio negative num den = some x) : x.IsNearest (withSign negative (num / den)) := by
  rcases Nat.eq_zero_or_pos num with rfl | positive
  · rw [ofRatio, if_pos rfl] at made
    cases made
    have none : withSign negative ((0 : Nat) / den) = 0 := by
      cases negative <;> simp [withSign]
    rw [none]
    refine ⟨wellFormed_zero negative, fun _ => ?_, fun _ _ _ => Even.zero⟩
    rw [value_zero, sub_zero, abs_zero]
    exact abs_nonneg _
  · have ratio : (0 : ℚ) < num / den := by positivity
    obtain ⟨sign, wellFormed, -⟩ := ofRatio_eq_some positive pos made
    have own : |x.value - withSign negative (num / den)| = |x.magnitude - num / den| := by
      rw [value, sign]
      cases negative
      · rfl
      · show |(-x.magnitude - -(num / den))| = _
        rw [neg_sub_neg, abs_sub_comm]
    refine ⟨wellFormed, fun {y} formed => ?_, fun {y} formed tie different => ?_⟩
    · rw [own]
      exact (magnitude_nearest positive pos made formed).1.trans
        (magnitude_distance y negative ratio).1
    · obtain ⟨nearest, even⟩ := magnitude_nearest positive pos made formed
      obtain ⟨closer, same⟩ := magnitude_distance y negative ratio
      rw [own] at tie
      have tie' := le_antisymm closer (tie ▸ nearest)
      refine even (tie.trans tie'.symm) fun equal => different ?_
      rw [same tie', equal, value, sign]

/-! ## What nearest numbers have in common -/

section

variable {x y : Double} {v w : ℚ}

theorem WellFormed.isNearest (wellFormed : x.WellFormed) : x.IsNearest x.value := by
  refine ⟨wellFormed, fun {y} _ => ?_, fun {y} _ tie different => ?_⟩
  · rw [sub_self, abs_zero]
    exact abs_nonneg _
  · rw [sub_self, abs_zero, eq_comm, abs_eq_zero, sub_eq_zero] at tie
    exact absurd tie different

namespace IsNearest

/-- Rounding does not lead past a binary64 number. -/
theorem le_of_le (nearest : x.IsNearest v) (wellFormed : y.WellFormed) (below : v ≤ y.value) :
    x.value ≤ y.value := by
  by_contra past
  rw [not_le] at past
  have closer := nearest.nearest wellFormed
  rw [abs_of_pos (by linarith), abs_of_nonneg (by linarith)] at closer
  linarith

theorem ge_of_ge (nearest : x.IsNearest v) (wellFormed : y.WellFormed) (above : y.value ≤ v) :
    y.value ≤ x.value := by
  by_contra past
  rw [not_le] at past
  have closer := nearest.nearest wellFormed
  rw [abs_of_neg (by linarith), abs_of_nonpos (by linarith)] at closer
  linarith

/-- A binary64 number is rounded to itself. -/
theorem exact (nearest : x.IsNearest y.value) (wellFormed : y.WellFormed) : x.value = y.value :=
  le_antisymm (nearest.le_of_le wellFormed (le_refl _)) (nearest.ge_of_ge wellFormed (le_refl _))

/-- Rounding keeps the order, although it may make numbers equal. -/
theorem mono (nearest : x.IsNearest v) (nearest' : y.IsNearest w) (less : v < w) :
    x.value ≤ y.value := by
  by_contra past
  rw [not_le] at past
  -- Neither number is on the far side of the middle between the two results.
  have upper : x.value + y.value ≤ 2 * v := by
    have closer := nearest.nearest nearest'.wellFormed
    rcases abs_cases (x.value - v) with ⟨is, _⟩ | ⟨is, _⟩ <;>
      rcases abs_cases (y.value - v) with ⟨is', _⟩ | ⟨is', _⟩ <;> linarith
  have lower : 2 * w ≤ x.value + y.value := by
    have closer := nearest'.nearest nearest.wellFormed
    rcases abs_cases (x.value - w) with ⟨is, _⟩ | ⟨is, _⟩ <;>
      rcases abs_cases (y.value - w) with ⟨is', _⟩ | ⟨is', _⟩ <;> linarith
  linarith

end IsNearest

end

/-! ## Rounding an integer -/

theorem withSign_natAbs (n : Int) : withSign (decide (n < 0)) ((n.natAbs : ℚ) / (1 : Nat)) = n := by
  rw [Nat.cast_one, div_one, Nat.cast_natAbs, withSign]
  by_cases negative : n < 0
  · simp [negative, abs_of_neg negative]
  · simp [negative, abs_of_nonneg (not_lt.mp negative)]

/-- An integer is rounded to the nearest binary64 number. -/
theorem ofInt_isNearest {n : Int} {x : Double} (made : ofInt n = some x) : x.IsNearest n := by
  rw [← withSign_natAbs n]
  exact ofRatio_isNearest Nat.one_pos made

/-- Integers of 64 bits are not too large for a binary64 number. -/
theorem ofInt_isSome {n : Int} (bounded : n.natAbs < 2 ^ 64) : (ofInt n).isSome := by
  rcases Nat.eq_zero_or_pos n.natAbs with zero | pos
  · rw [ofInt, zero, ofRatio, if_pos rfl]
    rfl
  obtain ⟨-, -, full⟩ := exponentOf_spec pos Nat.one_pos
  have small : exponentOf n.natAbs 1 + 1 ≤ maxExponent := by
    rcases full with least | full
    · rw [least]
      decide
    · rw [Nat.cast_one, div_one, power_mul] at full
      have bounded : (n.natAbs : ℚ) < 2 ^ (64 : Int) := by exact_mod_cast bounded
      have := (zpow_lt_zpow_iff_right₀ one_lt_two).mp (full.trans_lt bounded)
      simp only [precision, maxExponent] at *
      omega
  have finite : ¬maxExponent < exponentOf n.natAbs 1 + 1 := not_lt.mpr small
  have finite' : ¬maxExponent < exponentOf n.natAbs 1 := by omega
  rw [ofInt, ofRatio_eq pos, if_neg finite, if_neg finite']
  repeat' split
  all_goals rfl

/-- The last place of an integer that a mantissa has room for is not above its own. -/
theorem multiple_of_short {n : Nat} (pos : 0 < n) (short : n ≤ 2 ^ precision) :
    ∃ k : Int, (k * 2 ^ exponentOf n 1 : ℚ) = n / (1 : Nat) := by
  obtain ⟨-, -, full⟩ := exponentOf_spec pos Nat.one_pos
  rw [Nat.cast_one, div_one] at full ⊢
  generalize exponentOf n 1 = exponent at *
  rcases le_or_gt exponent 0 with fine | coarse
  · refine ⟨n * 2 ^ (-exponent).toNat, ?_⟩
    have undone : ((-exponent).toNat : Int) + exponent = 0 := by omega
    push_cast
    rw [mul_assoc, power_mul, undone, zpow_zero, mul_one]
  · have full := full.resolve_left fun least => by
      rw [least] at coarse
      exact absurd coarse (by decide)
    have short' : (n : ℚ) ≤ 2 ^ (precision : Int) := by exact_mod_cast short
    rw [power_mul] at full
    -- Only for `2 ^ precision` itself the last place is not a unit or less.
    have twos : exponent = 1 := by
      have := (zpow_le_zpow_iff_right₀ one_lt_two).mp (full.trans short')
      simp only [precision] at this
      omega
    rw [twos] at full ⊢
    refine ⟨2 ^ (precision - 1), ?_⟩
    rw [Int.cast_pow, Int.cast_ofNat, power_mul]
    exact le_antisymm full short'

/-- Integers that a mantissa has room for are rounded to themselves. -/
theorem ofInt_exact {n : Int} {x : Double} (made : ofInt n = some x)
    (short : n.natAbs ≤ 2 ^ precision) : x.value = n := by
  rcases Nat.eq_zero_or_pos n.natAbs with zero | pos
  · rw [ofInt, zero, ofRatio, if_pos rfl] at made
    cases made
    rw [value_zero, Int.natAbs_eq_zero.mp zero, Int.cast_zero]
  obtain ⟨sign, -, is, -⟩ := ofRatio_eq_some pos Nat.one_pos made
  obtain ⟨k, multiple⟩ := multiple_of_short pos short
  have nearest := (roundedMantissa_nearest n.natAbs Nat.one_pos k).1
  rw [multiple, sub_self, abs_zero, ← is] at nearest
  rw [value, sign, sub_eq_zero.mp (abs_nonpos_iff.mp nearest), withSign_natAbs]

end JsonPath.Double
