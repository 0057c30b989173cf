import JsonPath.Regex.CharSet

/-!
# Regular expressions

A `Regex` is a regular expression whose parts are settled: sets of characters, and conditions on the
characters around a place.

* `Look.holds` says whether a condition is met between two characters.
* `Regex.isZeroWidth` recognises the expressions that take no characters.
-/

namespace JsonPath

/-- A condition on a place in a text. Those on words come with the set of the characters that words
are made of. -/
inductive Look where
  | textStart
  | textEnd
  /-- The start of a line; with `pairs` set a carriage return ends a line too, alone or in front of
  a line feed. -/
  | lineStart (pairs : Bool)
  | lineEnd (pairs : Bool)
  | wordBoundary (words : CharSet)
  | noWordBoundary (words : CharSet)
  | wordStart (words : CharSet)
  | wordEnd (words : CharSet)
  | wordStartHalf (words : CharSet)
  | wordEndHalf (words : CharSet)
deriving DecidableEq, Repr

/-- Whether there is a character and it is in the set. -/
def CharSet.containsSome (s : CharSet) : Option Char → Bool
  | none => false
  | some c => s.contains c

/-- Whether the condition is met between two characters; one is missing at an end of the text. -/
def Look.holds (before after : Option Char) : Look → Bool
  | .textStart => before.isNone
  | .textEnd => after.isNone
  | .lineStart false => before.isNone || before == some '\n'
  | .lineStart true =>
    before.isNone || before == some '\n' || before == some '\r' && after != some '\n'
  | .lineEnd false => after.isNone || after == some '\n'
  | .lineEnd true =>
    after.isNone || after == some '\r' || after == some '\n' && before != some '\r'
  | .wordBoundary words => words.containsSome before != words.containsSome after
  | .noWordBoundary words => words.containsSome before == words.containsSome after
  | .wordStart words => !words.containsSome before && words.containsSome after
  | .wordEnd words => words.containsSome before && !words.containsSome after
  | .wordStartHalf words => !words.containsSome before
  | .wordEndHalf words => !words.containsSome after

/-- A regular expression. -/
inductive Regex where
  | empty
  /-- One character of the set. -/
  | set (s : CharSet)
  | look (condition : Look)
  | append (first second : Regex)
  | either (first second : Regex)
  /-- At least `least` times, and no more than `most` times if that is given. -/
  | repetition (inner : Regex) (least : Nat) (most : Option Nat)
  | capture (inner : Regex)
deriving Repr

namespace Regex

/-- The expressions one after the other. -/
def concat : List Regex → Regex
  | [] => .empty
  | [r] => r
  | r :: rs => .append r (concat rs)

/-- One of the expressions. -/
def oneOf : List Regex → Regex
  | [] => .set .empty
  | [r] => r
  | r :: rs => .either r (oneOf rs)

/-- Whether the expression takes no characters wherever it matches. -/
def isZeroWidth : Regex → Bool
  | .empty | .look _ => true
  | .set _ => false
  | .append first second => first.isZeroWidth && second.isZeroWidth
  | .either first second => first.isZeroWidth && second.isZeroWidth
  | .repetition inner _ most => inner.isZeroWidth || most == some 0
  | .capture inner => inner.isZeroWidth

end Regex

end JsonPath
