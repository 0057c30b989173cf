import JsonPath.Regex.Matching
import JsonPath.Regex.Meaning
import JsonPath.Regex.Parser
import JsonPath.Regex.Weight

/-!
# Interoperable regular expressions

Patterns in queries are written in a dialect that several engines share. It differs in one point
from the one that is read here: a dot stands for neither of the characters that end lines.

* `spellDots` writes the dots of a pattern out as the set they stand for.
* `compileRegex` makes a pattern ready to match.
-/

namespace JsonPath

/-- The regular expression that a text stands for, unless it is no pattern, has no meaning or is too
heavy. -/
def Regex.ofText? (text : String) : Option Regex := do
  let pattern ← Pattern.read? text
  let regex ← pattern.regex?
  if regex.weight ≤ greatestWeight then return regex else none

/-- How much of a text a pattern must match. -/
inductive MatchMode where
  /-- All of it. -/
  | full
  /-- Some part of it. -/
  | search
deriving DecidableEq, Repr

/-- The set that a dot stands for, as it is written. -/
def dotSpelling : List Char := ['[', '^', '\\', 'n', '\\', 'r', ']']

/-- The pattern with its dots written out. Between brackets, and behind a backslash, a dot is a
character and stays; `inside` tells whether the head of the pattern is between brackets. -/
def spellDots (inside : Bool) : List Char → List Char
  | [] => []
  | '\\' :: c :: cs => '\\' :: c :: spellDots inside cs
  | c :: cs =>
    if inside then c :: spellDots (c != ']') cs
    else if c = '.' then dotSpelling ++ spellDots false cs
    else c :: spellDots (c == '[') cs

/-- The text of the regular expression for a pattern. To match all of a text, the pattern is put
between the conditions for its two ends. -/
def regexText (mode : MatchMode) (pattern : String) : String :=
  let spelled := String.ofList (spellDots false pattern.toList)
  match mode with
  | .full => "\\A(?:" ++ spelled ++ ")\\z"
  | .search => spelled

/-- A pattern ready to match, and the text of its regular expression. -/
structure CompiledRegex where
  text : String
  regex : Regex
deriving Repr

/-- Makes a pattern ready to match, unless it is invalid. -/
def compileRegex (mode : MatchMode) (pattern : String) : Option CompiledRegex :=
  let text := regexText mode pattern
  (Regex.ofText? text).map fun regex => ⟨text, regex⟩

/-- Whether the text matches. -/
def CompiledRegex.isMatch (r : CompiledRegex) (text : String) : Bool :=
  r.regex.isMatch text

end JsonPath
