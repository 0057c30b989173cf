import JsonPath.Number.Numeral
import JsonPath.Number.Shortest

/-!
# JSON numbers

A number is an integer or a binary64 number, and keeps which of the two it was read as.

* `Number.ofNumeral` reads a numeral of a document.
* `Number.compare` orders two numbers. Integers that share a 64-bit range are ordered exactly; any
  other pair is ordered as binary64 numbers.
* `Number.text` writes a number so that its form can be told again.
-/

namespace JsonPath

/-- A number of a document or of a query. -/
inductive Number where
  | integer (n : Int)
  | double (x : Double)
deriving DecidableEq, Repr

/-- Whether `n` is a signed 64-bit integer. -/
def fitsSigned (n : Int) : Bool :=
  decide (Int64.minValue.toInt ≤ n) && decide (n ≤ Int64.maxValue.toInt)

/-- Whether `n` is an unsigned 64-bit integer. -/
def fitsUnsigned (n : Int) : Bool :=
  decide (0 ≤ n) && decide (n < UInt64.size)

theorem fitsSigned_iff {n : Int} :
    fitsSigned n ↔ -9223372036854775808 ≤ n ∧ n ≤ 9223372036854775807 := by
  have least : Int64.minValue.toInt = -9223372036854775808 := by decide
  have greatest : Int64.maxValue.toInt = 9223372036854775807 := by decide
  rw [fitsSigned, least, greatest, Bool.and_eq_true, decide_eq_true_iff, decide_eq_true_iff]

theorem fitsUnsigned_iff {n : Int} : fitsUnsigned n ↔ 0 ≤ n ∧ n ≤ 18446744073709551615 := by
  have size : UInt64.size = 18446744073709551616 := rfl
  rw [fitsUnsigned, size, Bool.and_eq_true, decide_eq_true_iff, decide_eq_true_iff]
  omega

/-- The decimal digits of an integer, after a minus sign where it is negative. -/
def decimalText (n : Int) : String :=
  String.ofList
    (if n < 0 then '-' :: Nat.toDigits 10 n.natAbs else Nat.toDigits 10 n.natAbs)

namespace Number

/-- The nearest binary64 number. -/
def toDouble : Number → Option Double
  | .integer n => Double.ofInt n
  | .double x => some x

/-- The order of two numbers. -/
def compare : Number → Number → Option Ordering
  | .integer m, .integer n =>
    if fitsSigned m && fitsSigned n || fitsUnsigned m && fitsUnsigned n then
      some (Ord.compare m n)
    else compareDoubles (.integer m) (.integer n)
  | a, b => compareDoubles a b
where
  /-- The order of the nearest binary64 numbers. -/
  compareDoubles (a b : Number) : Option Ordering :=
    match a.toDouble, b.toDouble with
    | some x, some y => some (x.compare y)
    | _, _ => none

/-- The number that a numeral stands for in a document: an integer if it is written plainly and fits
64 bits, signed if it has a minus sign, and a binary64 number otherwise. Minus zero is no integer. A
numeral beyond the largest binary64 number stands for nothing. -/
def ofNumeral (n : Numeral) : Option Number :=
  let value := n.wholeValue
  let fits := if n.negative then decide (value < 0) && fitsSigned value else fitsUnsigned value
  if n.isPlain && fits then some (.integer value) else n.toDouble.map .double

/-- Integers are written as their digits, binary64 numbers by their shortest text. -/
def text : Number → String
  | .integer n => decimalText n
  | .double x => x.text

end Number

end JsonPath
