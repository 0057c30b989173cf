/-!
# Binary64 numbers, exactly

A finite binary64 number is an integer times a power of two, so rounding to it and comparing by it
need only integer arithmetic.

* `Double.ofRatio` rounds a quotient to the nearest such number, a half going to the even one, and
  is `none` where that number would be infinite.
* `Double.compare` orders by numerical value, so the two zeros are equal.
-/

namespace JsonPath

/-- A finite binary64 number, `mantissa * 2 ^ exponent` with a sign.

The mantissa has at most 53 bits and the exponent is at least -1074; unless the exponent is -1074,
the mantissa has all 53 bits. -/
structure Double where
  negative : Bool
  mantissa : Nat
  exponent : Int
deriving DecidableEq, Repr

namespace Double

/-- The number of bits of a full mantissa. -/
def precision : Nat := 53

/-- The exponent of the numbers next to zero. -/
def minExponent : Int := -1074

/-- The exponent of the largest numbers. -/
def maxExponent : Int := 971

/-- Zero with a sign. -/
def zero (negative : Bool) : Double := ⟨negative, 0, minExponent⟩

/-- The integer nearest to `num / den`; of two that are equally near, the even one. -/
def roundHalfEven (num den : Nat) : Nat :=
  let quotient := num / den
  let twice := 2 * (num % den)
  if twice < den ∨ (twice = den ∧ quotient % 2 = 0) then quotient else quotient + 1

/-- Numerator and denominator of `num / den` divided by `2 ^ exponent`. -/
def scale (num den : Nat) (exponent : Int) : Nat × Nat :=
  (num <<< (-exponent).toNat, den <<< exponent.toNat)

/-- The exponent at which `num / den` needs no more than a full mantissa. -/
def exponentOf (num den : Nat) : Int :=
  let guess := max minExponent ((num.log2 : Int) - den.log2 - precision)
  let scaled := scale num den guess
  if scaled.1 < scaled.2 <<< precision then guess else guess + 1

/-- The binary64 number nearest to the positive or negative quotient `num / den`, or `none` where
the nearest is infinite. -/
def ofRatio (negative : Bool) (num den : Nat) : Option Double :=
  if num = 0 then some (zero negative)
  else
    let exponent := exponentOf num den
    let scaled := scale num den exponent
    let mantissa := roundHalfEven scaled.1 scaled.2
    let carried : Nat × Int :=
      if mantissa = 1 <<< precision then (1 <<< (precision - 1), exponent + 1)
      else (mantissa, exponent)
    if maxExponent < carried.2 then none
    else if carried.1 = 0 then some (zero negative)
    else some ⟨negative, carried.1, carried.2⟩

/-- The binary64 number nearest to an integer. -/
def ofInt (n : Int) : Option Double :=
  ofRatio (decide (n < 0)) n.natAbs 1

/-- The power `10 ^ n`. -/
def powerOfTen (n : Nat) : Nat := Nat.pow 10 n

/-- The decimal exponents beyond which a number of `digits` digits is too large or too small to
matter. -/
def decimalBound : Nat := 400

/-- The binary64 number nearest to `significand * 10 ^ power`. A power so far out that the outcome
is settled is never computed. -/
def ofDecimal (negative : Bool) (significand : Nat) (power : Int) : Option Double :=
  let digits : Int := (Nat.toDigits 10 significand).length
  if significand = 0 then some (zero negative)
  else if (decimalBound : Int) < power + digits then none
  else if power + digits < -(decimalBound : Int) then some (zero negative)
  else ofRatio negative (significand * powerOfTen power.toNat) (powerOfTen (-power).toNat)

/-- The mantissa with the sign. -/
def signed (x : Double) : Int :=
  if x.negative then -(x.mantissa : Int) else x.mantissa

/-- The number as a multiple of `2 ^ exponent`, for an exponent no greater than its own. -/
def multipleAt (x : Double) (exponent : Int) : Int :=
  x.signed <<< (x.exponent - exponent).toNat

/-- The order of the numerical values. -/
def compare (x y : Double) : Ordering :=
  let common := min x.exponent y.exponent
  Ord.compare (x.multipleAt common) (y.multipleAt common)

end Double

end JsonPath
