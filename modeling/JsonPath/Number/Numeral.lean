import JsonPath.Number.Double

/-!
# Decimal numerals as written

A `Numeral` keeps the parts of a number as they stand in a text: sign, whole digits, fraction digits
and exponent digits.

* `Numeral.scan` reads the longest numeral at the head of a text; a point or an exponent mark
  without digits after it is left unread.
* `Numeral.toDouble` is the nearest binary64 number.
-/

namespace JsonPath

/-- The parts of a decimal numeral. The fraction is present exactly if a point was written, the
exponent, with its sign, exactly if an exponent mark was. -/
structure Numeral where
  negative : Bool
  whole : List Char
  fraction : Option (List Char)
  exponent : Option (Bool × List Char)
deriving DecidableEq, Repr

/-- The value of a run of decimal digits. -/
def digitsValue (ds : List Char) : Nat :=
  ds.foldl (fun n d => n * 10 + (d.toNat - '0'.toNat)) 0

namespace Numeral

/-- Whether neither a point nor an exponent was written. -/
def isPlain (n : Numeral) : Bool :=
  n.fraction.isNone && n.exponent.isNone

/-- Whether the whole part has a zero in front of further digits. -/
def hasLeadingZero (n : Numeral) : Bool :=
  match n.whole with
  | '0' :: _ :: _ => true
  | _ => false

/-- The whole part with its sign. -/
def wholeValue (n : Numeral) : Int :=
  if n.negative then -(digitsValue n.whole : Int) else digitsValue n.whole

/-- The power of ten of the last digit written. -/
def power (n : Numeral) : Int :=
  let written : Int :=
    match n.exponent with
    | none => 0
    | some (true, ds) => -(digitsValue ds : Int)
    | some (false, ds) => digitsValue ds
  written - (n.fraction.getD []).length

/-- The nearest binary64 number, or `none` where that is infinite. -/
def toDouble (n : Numeral) : Option Double :=
  Double.ofDecimal n.negative (digitsValue (n.whole ++ n.fraction.getD [])) n.power

/-- The decimal digits at the head of a text, and the rest. -/
def scanDigits (cs : List Char) : List Char × List Char :=
  (cs.takeWhile Char.isDigit, cs.dropWhile Char.isDigit)

/-- A point with digits after it at the head of a text. -/
def scanFraction (cs : List Char) : Option (List Char) × List Char :=
  match cs with
  | '.' :: rest =>
    let ds := scanDigits rest
    if ds.1.isEmpty then (none, cs) else (some ds.1, ds.2)
  | _ => (none, cs)

/-- A sign at the head of a text: whether it is a minus, and the rest. -/
def scanSign (cs : List Char) : Bool × List Char :=
  match cs with
  | '-' :: rest => (true, rest)
  | '+' :: rest => (false, rest)
  | _ => (false, cs)

/-- An exponent mark with digits after it at the head of a text. -/
def scanExponent (cs : List Char) : Option (Bool × List Char) × List Char :=
  match cs with
  | mark :: rest =>
    if mark = 'e' ∨ mark = 'E' then
      let sign := scanSign rest
      let ds := scanDigits sign.2
      if ds.1.isEmpty then (none, cs) else (some (sign.1, ds.1), ds.2)
    else (none, cs)
  | [] => (none, cs)

/-- The longest numeral at the head of a text, and the rest. -/
def scan (cs : List Char) : Option (Numeral × List Char) :=
  let negative := cs.head? == some '-'
  let ds := scanDigits (if negative then cs.tail else cs)
  if ds.1.isEmpty then none
  else
    let fraction := scanFraction ds.2
    let exponent := scanExponent fraction.2
    some (⟨negative, ds.1, fraction.1, exponent.1⟩, exponent.2)

end Numeral

end JsonPath
