import JsonPath.Regex.Basic

/-!
# The weight of a regular expression

An expression is refused if it is too heavy. Its weight is that of the states of a machine that
reads bytes: a repetition weighs as much as all the copies it stands for, and a set of characters as
the tree of the ranges of bytes that its characters are written with.

This approximates what an engine measures, since how one counts its states is not documented. Of
patterns that weigh very nearly as much as is allowed, an engine may refuse others.

* `byteRanges` splits a range of code points into sequences of ranges of bytes.
* `Regex.weight` adds everything up.
-/

namespace JsonPath

/-- The bytes of a code point that takes `n + 1` of them, the last one first and only the bits that
tell code points apart. -/
def codeUnits : Nat → Nat → List Nat
  | 0, c => [c]
  | n + 1, c => c % 64 :: codeUnits n (c / 64)

/-- Splits a range of code points at the places where all units behind the first few begin anew.
The units behind those are worth `2 ^ (6 * level)` together, and `n` levels are above. -/
def splitAligned : Nat → Nat → Nat → Nat → List (Nat × Nat)
  | 0, _, low, high => [(low, high)]
  | n + 1, level, low, high =>
    let block := 1 <<< (6 * level)
    if low / block == high / block then [(low, high)]
    else
      let first := if low % block == 0 then low else (low / block + 1) * block
      let last := if high % block == block - 1 then high + 1 else high / block * block
      (if low < first then [(low, first - 1)] else [])
        ++ (if first < last then splitAligned n (level + 1) first (last - 1) else [])
        ++ (if last ≤ high then [(last, high)] else [])

/-- The sequences of ranges of units for the code points from `low` to `high`, all of which take
`n + 1` bytes. The first number tells apart the lengths. -/
def sequencesOf (n low high : Nat) : List (List (Nat × Nat × Nat)) :=
  (splitAligned n 1 low high).map fun range =>
    ((codeUnits n range.1).zip (codeUnits n range.2)).reverse.map fun units => (n, units)

/-- The parts of a range of code points within other ranges. -/
def clipped (low high : Nat) (bounds : List (Nat × Nat × Nat)) : List (Nat × Nat × Nat) :=
  (bounds.map fun b => (b.1, max low b.2.1, min high b.2.2)).filter fun b => b.2.1 ≤ b.2.2

/-- The ranges of characters that take as many bytes, one more than the first number says. -/
def encodedRanges : List (Nat × Nat × Nat) :=
  [(0, 0, 0x7f), (1, 0x80, 0x7ff), (2, 0x800, 0xd7ff), (2, 0xe000, 0xffff),
    (3, 0x10000, 0x10ffff)]

/-- The sequences of ranges of bytes for a range of code points. -/
def byteRanges (low high : Nat) : List (List (Nat × Nat × Nat)) :=
  (clipped low high encodedRanges).flatMap fun b => sequencesOf b.1 b.2.1 b.2.2

/-- How many items at the head of two lists are the same. -/
def sharedLength [DecidableEq α] : List α → List α → Nat
  | a :: as, b :: bs => if a = b then sharedLength as bs + 1 else 0
  | _, _ => 0

/-- The number of nodes of the tree of all sequences. -/
def treeSize (sequences : List (List (Nat × Nat × Nat))) : Nat :=
  (sequences.foldl (fun (total, last) s => (total + s.length - sharedLength last s, s))
    (0, [])).1

/-- The weight of a state. -/
def stateWeight : Nat := 32

/-- The weight of a set of characters. -/
def CharSet.weight (s : CharSet) : Nat :=
  match s.ranges with
  | [] => stateWeight
  | [(low, high)] =>
    if low = high then stateWeight * (Char.ofNat low).utf8Size else ofRanges [(low, high)]
  | ranges => ofRanges ranges
where
  /-- The weight of several characters. -/
  ofRanges (ranges : List (Nat × Nat)) : Nat :=
    if ranges.all (·.2 < 0x80) then 2 * stateWeight + 8 * ranges.length
    else
      let sequences := ranges.flatMap fun r => byteRanges r.1 r.2
      stateWeight * (treeSize sequences + 2) + 4 * sequences.length

namespace Regex

/-- The weight of an expression. What takes no characters is not repeated.

It approximates the size that an engine measures. Left out are the states that every pattern has:
the capture of all that is matched, the loop in front of a match that may begin anywhere, and the
state at its end. An engine builds two machines and measures each by itself. The one that reads
forwards has the captures, and the one that reads backwards has larger trees for sets. Here the
captures of the first are added to the trees of the second. -/
def weight : Regex → Nat
  | .empty | .look _ => stateWeight
  | .set s => s.weight
  | .append first second => first.weight + second.weight
  | .either first second => first.weight + second.weight + stateWeight
  | .capture inner => inner.weight + 2 * stateWeight
  | .repetition inner least most =>
    let copies (n : Nat) := if inner.isZeroWidth then min n 1 else n
    match most with
    | none => (copies least + 1) * (inner.weight + stateWeight)
    | some n => copies n * inner.weight + (copies n - copies least) * stateWeight + stateWeight

/-- The greatest weight of an expression that is not refused. -/
def greatestWeight : Nat := 10 * 1024 * 1024

end Regex

end JsonPath
