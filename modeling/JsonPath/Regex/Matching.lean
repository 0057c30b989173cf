import JsonPath.Regex.Basic

/-!
# Finding a match

A text with `n` characters has `n + 1` places. A set of places is kept as a number whose bit `i`
says whether place `i` is in it, so that all ways of matching are followed at once.

* `Regex.within` says of each part of an expression where in a text it may match.
* `Walk.ends` gives the places where matches end that begin at given places.
* `Regex.isMatch` asks whether there is a match anywhere.
-/

namespace JsonPath

/-- A regular expression as one text sees it: which characters a set takes, and at which places a
condition is met. -/
inductive Walk where
  /-- Goes on behind the character at each of the places. -/
  | step (places : Nat)
  /-- Stays at those of the places. -/
  | stay (places : Nat)
  | append (first second : Walk)
  | either (first second : Walk)
  | repetition (inner : Walk) (least : Nat) (most : Option Nat)

/-- The places in front of the characters for which `p` holds. -/
def placesBefore (p : Char → Bool) : List Char → Nat
  | [] => 0
  | c :: cs => (if p c then 1 else 0) + 2 * placesBefore p cs

/-- The places where `p` holds of the characters around; `before` is the one in front of `cs`. -/
def placesBetween (p : Option Char → Option Char → Bool) (before : Option Char) :
    List Char → Nat
  | [] => if p before none then 1 else 0
  | c :: cs => (if p before (some c) then 1 else 0) + 2 * placesBetween p (some c) cs

/-- All places of a text. -/
def allPlaces (cs : List Char) : Nat := 1 <<< (cs.length + 1) - 1

/-- The expression as the text sees it. -/
def Regex.within (cs : List Char) : Regex → Walk
  | .empty => .stay (allPlaces cs)
  | .set s => .step (placesBefore s.contains cs)
  | .look condition =>
    .stay (placesBetween (fun before after => condition.holds before after) none cs)
  | .append first second => .append (first.within cs) (second.within cs)
  | .either first second => .either (first.within cs) (second.within cs)
  | .repetition inner least most => .repetition (inner.within cs) least most
  | .capture inner => inner.within cs

/-- Applies `f` so many times, or fewer if nothing changes any more. -/
def iterated (f : Nat → Nat) : Nat → Nat → Nat
  | 0, places => places
  | n + 1, places =>
    let next := f places
    if next == places then places else iterated f n next

/-- The places where matches end that begin at one of `places`. Beyond the least number of
repetitions the places reached so far are kept; a text with `bound` places is exhausted after as
many repetitions. -/
def Walk.ends (bound : Nat) : Walk → Nat → Nat
  | .step mask, places => (places &&& mask) <<< 1
  | .stay mask, places => places &&& mask
  | .append first second, places => second.ends bound (first.ends bound places)
  | .either first second, places => first.ends bound places ||| second.ends bound places
  | .repetition inner least most, places =>
    let more := match most with
      | none => bound
      | some n => min bound (n - least)
    iterated (fun reached => reached ||| inner.ends bound reached) more
      (iterated (inner.ends bound) least places)

/-- Whether some part of the text matches the expression. -/
def Regex.isMatch (r : Regex) (text : String) : Bool :=
  let cs := text.toList
  (r.within cs).ends (cs.length + 1) (allPlaces cs) != 0

end JsonPath
