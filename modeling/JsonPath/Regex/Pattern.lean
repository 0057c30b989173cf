/-!
# Regular expressions as written

A `Pattern` is the tree of the text of a regular expression. It still says how a character was
escaped and where flags are switched, since what a part means depends on the flags in force.

* `Pattern.depth` counts how deep its parts stand inside one another.
-/

namespace JsonPath

/-- A switch of how the parts behind it are read. -/
inductive RegexFlag where
  | caseInsensitive
  | multiLine
  | dotMatchesLineFeed
  | swapGreed
  | unicode
  | carriageReturn
  | verbose
deriving DecidableEq, Repr

/-- A switch and the way it is set. -/
structure FlagSetting where
  flag : RegexFlag
  on : Bool
deriving DecidableEq, Repr

/-- A condition on a place in a text. -/
inductive Assertion where
  | startOfLine
  | endOfLine
  | startOfText
  | endOfText
  | wordBoundary
  | noWordBoundary
  | wordStart
  | wordEnd
  | wordStartHalf
  | wordEndHalf
deriving DecidableEq, Repr

/-- The classes that one letter behind a backslash names. -/
inductive LetterClass where
  | digit
  | space
  | word
deriving DecidableEq, Repr

/-- A character as written; `byteEscape` is set if it was given by two hexadecimal digits. -/
structure PatternChar where
  char : Char
  byteEscape : Bool
deriving DecidableEq, Repr

/-- A class named by a property, and by a value of the property if it has values. -/
structure PropertyClass where
  negated : Bool
  name : String
  value : Option String
deriving DecidableEq, Repr

/-- How two sets between brackets are joined. -/
inductive SetOperator where
  | inter
  | minus
  | symmetric
deriving DecidableEq, Repr

/-- What stands between brackets. -/
inductive ClassSet where
  | char (c : PatternChar)
  | range (low high : PatternChar)
  | posix (name : String) (negated : Bool)
  | property (named : PropertyClass)
  | letter (named : LetterClass) (negated : Bool)
  | bracketed (negated : Bool) (set : ClassSet)
  /-- Items side by side, none or at least two of them. -/
  | union (items : List ClassSet)
  | joined (operator : SetOperator) (left right : ClassSet)
deriving Repr

/-- A regular expression as written. -/
inductive Pattern where
  | empty
  /-- A setting of flags from here to the end of the group. -/
  | flags (settings : List FlagSetting)
  | char (c : PatternChar)
  | dot
  | assertion (a : Assertion)
  | property (named : PropertyClass)
  | letter (named : LetterClass) (negated : Bool)
  | bracketed (negated : Bool) (set : ClassSet)
  | repetition (inner : Pattern) (least : Nat) (most : Option Nat)
  | group (captures : Bool) (settings : List FlagSetting) (inner : Pattern)
  /-- At least two alternatives. -/
  | alternation (branches : List Pattern)
  /-- At least two parts one after the other. -/
  | concat (parts : List Pattern)
deriving Repr

namespace ClassSet

/-- The set of items side by side; one alone stands for itself. -/
def ofItems : List ClassSet → ClassSet
  | [s] => s
  | items => .union items

mutual

/-- How many brackets, unions and joins stand inside one another. -/
def depth : ClassSet → Nat
  | .bracketed _ set => 1 + set.depth
  | .union items => match items with
    | [] => 0
    | _ => 1 + depthOfAll items
  | .joined _ left right => 1 + max left.depth right.depth
  | _ => 0
termination_by structural s => s

/-- The greatest depth among the items. -/
def depthOfAll : List ClassSet → Nat
  | [] => 0
  | s :: ss => max s.depth (depthOfAll ss)
termination_by structural ss => ss

end

end ClassSet

namespace Pattern

/-- The pattern of parts one after the other; one alone stands for itself. -/
def ofParts : List Pattern → Pattern
  | [] => .empty
  | [p] => p
  | parts => .concat parts

/-- The pattern of alternatives; one alone stands for itself. -/
def ofBranches : List Pattern → Pattern
  | [p] => p
  | branches => .alternation branches

mutual

/-- How many brackets, repetitions, groups, alternations and rows of parts stand inside one
another. -/
def depth : Pattern → Nat
  | .bracketed _ set => 1 + set.depth
  | .repetition inner _ _ => 1 + inner.depth
  | .group _ _ inner => 1 + inner.depth
  | .alternation branches => 1 + depthOfAll branches
  | .concat parts => 1 + depthOfAll parts
  | _ => 0
termination_by structural p => p

/-- The greatest depth among the patterns. -/
def depthOfAll : List Pattern → Nat
  | [] => 0
  | p :: ps => max p.depth (depthOfAll ps)
termination_by structural ps => ps

end

end Pattern

end JsonPath
