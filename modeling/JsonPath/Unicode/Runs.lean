/-!
# Properties of characters as run lengths

A table lists, from the first code point on, how many code points in a row share a value. Tables are
kept as text and decoded once.

* `Runs.value?` looks a code point up.
* `Runs.zipWith` joins two tables value by value.
-/

namespace JsonPath

/-- How many code points in a row have a value, from the first code point on. -/
abbrev Runs (α : Type) := List (Nat × α)

namespace Runs

/-- The value of the `n`th code point. -/
def value? : Runs α → Nat → Option α
  | [], _ => none
  | (length, x) :: rest, n => if n < length then some x else value? rest (n - length)

/-- Runs of the given lengths that have and lack a property by turns. -/
def alternating : Bool → List Nat → Runs Bool
  | _, [] => []
  | inside, length :: rest => (length, inside) :: alternating (!inside) rest

/-- Applies a function to the value of every code point. -/
def mapValue (f : α → β) (runs : Runs α) : Runs β :=
  runs.map fun run => (run.1, f run.2)

/-- Joins the values that two tables have for each code point. -/
def zipWith (f : α → β → γ) : Runs α → Runs β → Runs γ
  | [], _ => []
  | _, [] => []
  | (m, a) :: as, (n, b) :: bs =>
    if m < n then (m, f a b) :: zipWith f as ((n - m, b) :: bs)
    else if n < m then (n, f a b) :: zipWith f ((m - n, a) :: as) bs
    else (m, f a b) :: zipWith f as bs
termination_by as bs => as.length + bs.length

/-- Makes one run of neighbours that have the same value. -/
def merged [DecidableEq α] : Runs α → Runs α
  | [] => []
  | (length, x) :: rest =>
    if length = 0 then merged rest
    else match merged rest with
      | (n, y) :: others =>
        if x = y then (length + n, x) :: others else (length, x) :: (n, y) :: others
      | [] => [(length, x)]

/-- Reads runs written as a decimal length and the letters of a value, one after the other.
`length` and `letters`, in reverse, are those of the run that is being read. -/
def decodeFrom : List Char → Nat → List Char → Runs String
  | [], length, letters => [(length, String.ofList letters.reverse)]
  | c :: cs, length, letters =>
    if c.isDigit then
      let digit := c.toNat - '0'.toNat
      if letters.isEmpty then decodeFrom cs (length * 10 + digit) []
      else (length, String.ofList letters.reverse) :: decodeFrom cs digit []
    else decodeFrom cs length (c :: letters)

/-- Reads runs written as a decimal length and the letters of a value. -/
def decode (text : String) : Runs String :=
  decodeFrom text.toList 0 []

/-- Reads lengths written in decimal with blanks between them; `length` is what has been read of
the first one. -/
def decodeLengthsFrom : List Char → Nat → List Nat
  | [], length => [length]
  | c :: cs, length =>
    if c = ' ' then length :: decodeLengthsFrom cs 0
    else decodeLengthsFrom cs (length * 10 + (c.toNat - '0'.toNat))

/-- Reads lengths written in decimal with blanks between them. -/
def decodeLengths (text : String) : List Nat :=
  decodeLengthsFrom text.toList 0

end Runs

end JsonPath
