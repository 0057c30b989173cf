import JsonPath.Number.Double

/-!
# The shortest decimal text of a binary64 number

Every binary64 number is the one nearest to a whole interval of reals. Its text is the decimal with
the fewest digits in that interval; of several with that many digits the nearest, and of two equally
near the one with the even last digit.

* `Double.shortest` gives those digits and the power of ten of the last one.
* `Double.text` lays them out: plainly for magnitudes from 1e-5 up to 1e16, with an exponent beyond.
-/

namespace JsonPath

/-- A positive decimal, `digits * 10 ^ power`. -/
structure Decimal where
  digits : Nat
  power : Int
deriving DecidableEq, Repr

namespace Double

/-- Whether `a * 2 ^ p` is at most `b * 10 ^ q`. -/
def binaryLeDecimal (a : Nat) (p : Int) (b : Nat) (q : Int) : Bool :=
  a <<< p.toNat * powerOfTen (-q).toNat ≤ (b * powerOfTen q.toNat) <<< (-p).toNat

/-- Whether `b * 10 ^ q` is at most `a * 2 ^ p`. -/
def decimalLeBinary (b : Nat) (q : Int) (a : Nat) (p : Int) : Bool :=
  (b * powerOfTen q.toNat) <<< (-p).toNat ≤ a <<< p.toNat * powerOfTen (-q).toNat

/-- Four times the mantissa of the lower end of the interval that rounds to the number. Below a
power of two the numbers lie twice as close, except at the least exponent. -/
def lowerEnd (m : Nat) (e : Int) : Nat :=
  if m = 1 <<< (precision - 1) ∧ minExponent < e then 4 * m - 1 else 4 * m - 2

/-- Four times the mantissa of the upper end of the interval that rounds to the number. -/
def upperEnd (m : Nat) : Nat := 4 * m + 2

/-- Whether `d` rounds to `m * 2 ^ e`. The ends of the interval do so if `m` is even. -/
def reads (m : Nat) (e : Int) (d : Decimal) : Bool :=
  let low := lowerEnd m e
  let high := upperEnd m
  if m % 2 = 0 then
    binaryLeDecimal low (e - 2) d.digits d.power && decimalLeBinary d.digits d.power high (e - 2)
  else
    !decimalLeBinary d.digits d.power low (e - 2) && !binaryLeDecimal high (e - 2) d.digits d.power

/-- The power of ten of the leading digit of `m * 2 ^ e`. -/
def leadingPower (m : Nat) (e : Int) : Int :=
  let guess := ((m.log2 : Int) + e) * 1233 / 4096
  if decimalLeBinary 1 (guess + 1) m e then guess + 1
  else if decimalLeBinary 1 guess m e then guess
  else guess - 1

/-- The decimal of `n` digits that reads back as `m * 2 ^ e` and is nearest to it. -/
def nearest (m : Nat) (e : Int) (n : Nat) : Option Decimal :=
  let power := leadingPower m e - n + 1
  let num := m <<< e.toNat * powerOfTen (-power).toNat
  let den := powerOfTen power.toNat <<< (-e).toNat
  let below : Decimal := ⟨num / den, power⟩
  let above : Decimal := ⟨num / den + 1, power⟩
  let rounded : Decimal := ⟨roundHalfEven num den, power⟩
  match reads m e below, reads m e above with
  | true, true => some rounded
  | true, false => some below
  | false, true => some above
  | false, false => none

/-- No binary64 number needs more digits than this. -/
def mostDigits : Nat := 17

/-- The shortest decimal that reads back as the magnitude of `x`. -/
def shortest (x : Double) : Decimal :=
  ((List.range mostDigits).findSome? fun n => nearest x.mantissa x.exponent (n + 1)).getD ⟨0, 0⟩

/-- The least power of ten of the leading digit that is written without an exponent. -/
def plainFrom : Int := -5

/-- The least power of ten of the leading digit from which on an exponent is written. -/
def plainBelow : Int := 16

/-- The digits of a decimal without the zeros at their end. -/
def trimmed (digits : List Char) : List Char :=
  (digits.reverse.dropWhile (· == '0')).reverse

/-- Lays out digits whose first has the power of ten `lead`. -/
def layout (digits : List Char) (lead : Int) : List Char :=
  if plainFrom ≤ lead ∧ lead < 0 then
    '0' :: '.' :: (List.replicate (-lead - 1).toNat '0' ++ digits)
  else if 0 ≤ lead ∧ lead < plainBelow then
    let whole := lead.toNat + 1
    if digits.length ≤ whole then
      digits ++ List.replicate (whole - digits.length) '0' ++ ['.', '0']
    else digits.take whole ++ '.' :: digits.drop whole
  else
    let mark := if lead < 0 then ['e', '-'] else ['e', '+']
    let fraction := if digits.length ≤ 1 then [] else '.' :: digits.drop 1
    digits.take 1 ++ fraction ++ mark ++ Nat.toDigits 10 lead.natAbs

/-- The shortest text that reads back as `x`; zero is written `0.0`. -/
def text (x : Double) : String :=
  let magnitude :=
    if x.mantissa = 0 then ['0', '.', '0']
    else
      let decimal := x.shortest
      let written := Nat.toDigits 10 decimal.digits
      layout (trimmed written) (decimal.power + written.length - 1)
  String.ofList (if x.negative then '-' :: magnitude else magnitude)

end Double

end JsonPath
