import JsonPath.Unicode.Age
import JsonPath.Unicode.Boundary
import JsonPath.Unicode.CaseFolding
import JsonPath.Unicode.Category
import JsonPath.Unicode.Property
import JsonPath.Unicode.Script

/-!
# Sets of characters

A `CharSet` says of every code point whether it is inside. The operations on sets are those on truth
values, code point by code point.
-/

namespace JsonPath

/-- A set of characters, as runs of code points outside and inside. -/
structure CharSet where
  runs : Runs Bool
deriving DecidableEq, Repr

namespace CharSet

/-- The number of code points. -/
def codePoints : Nat := 0x110000

/-- Whether a character is in the set. -/
def contains (s : CharSet) (c : Char) : Bool :=
  (s.runs.value? c.toNat).getD false

/-- No character. -/
def empty : CharSet := ⟨[(codePoints, false)]⟩

/-- Every character. -/
def full : CharSet := ⟨[(codePoints, true)]⟩

/-- The code points from `low` to `high`, both included. -/
def range (low high : Nat) : CharSet :=
  ⟨[(low, false), (high + 1 - low, true), (codePoints - (high + 1), false)]⟩

/-- One character alone. -/
def single (c : Char) : CharSet := range c.toNat c.toNat

/-- Decides each code point from what two sets say of it. -/
def combine (f : Bool → Bool → Bool) (s t : CharSet) : CharSet :=
  ⟨(s.runs.zipWith f t.runs).merged⟩

/-- What is in one set or the other. -/
def union (s t : CharSet) : CharSet := s.combine or t

/-- What is in both sets. -/
def inter (s t : CharSet) : CharSet := s.combine and t

/-- What is in the first set and not in the second. -/
def minus (s t : CharSet) : CharSet := s.combine (fun a b => a && !b) t

/-- What is in exactly one of two sets. -/
def symmetric (s t : CharSet) : CharSet := s.combine xor t

/-- What is not in the set. -/
def complement (s : CharSet) : CharSet := ⟨s.runs.mapValue not⟩

/-- What is in one of the sets. -/
def unions (sets : List CharSet) : CharSet := sets.foldl union empty

/-- The characters whose category is one of those given. -/
def ofCategories (categories : List GeneralCategory) : CharSet :=
  ⟨(GeneralCategory.table.mapValue (categories.contains ·)).merged⟩

/-- The characters of a script. -/
def ofScript (script : Script) : CharSet :=
  ⟨(Script.table.mapValue (· == script)).merged⟩

/-- The characters that are used in a script: those of the script, except where others are listed
for them, and those that list it. -/
def usedIn (script : Script) : CharSet :=
  ⟨(Script.table.zipWith (fun own uses => (if uses.isEmpty then [own] else uses).contains script)
    Script.uses).merged⟩

/-- The characters that a version of Unicode knows. -/
def knownTo (version : UnicodeVersion) : CharSet :=
  ⟨(UnicodeVersion.table.mapValue version.hasAge).merged⟩

/-- The characters of a class that helps to find boundaries, by the code of the class. -/
def ofClass (p : BoundaryProperty) (code : String) : CharSet :=
  ⟨(p.table.mapValue (· == code)).merged⟩

/-- The characters that have a property. -/
def ofProperty (property : Property) : CharSet := ⟨property.runs⟩

/-- The ranges of code points inside, from the first on; `next` is the code point that the runs
begin at. -/
def rangesFrom (next : Nat) : Runs Bool → List (Nat × Nat)
  | [] => []
  | (length, inside) :: rest =>
    if inside && length != 0 then (next, next + length - 1) :: rangesFrom (next + length) rest
    else rangesFrom (next + length) rest

/-- The ranges of code points inside the set. -/
def ranges (s : CharSet) : List (Nat × Nat) :=
  rangesFrom 0 s.runs.merged

/-- The set of the given code points. -/
def ofCodePoints (ns : List Nat) : CharSet :=
  ns.foldl (fun s n => s.union (range n n)) empty

/-- Adds every character that differs only in case from one in the set. -/
def closeCase (s : CharSet) : CharSet :=
  let inside (n : Nat) : Bool := (s.runs.value? n).getD false
  let pairs := foldRuns.flatMap FoldRun.pairs
  let touched := (pairs.filter fun p => inside p.1 || inside p.2).map (·.2)
  let others := (pairs.filter fun p => touched.contains p.2).map (·.1)
  s.union (ofCodePoints ((touched ++ others).filter fun n => !inside n))

/-- Adds every letter of ASCII that differs only in case from one in the set. -/
def closeAsciiCase (s : CharSet) : CharSet :=
  let letters := (List.range 26).flatMap fun i => [(0x41 + i, 0x61 + i), (0x61 + i, 0x41 + i)]
  s.union (ofCodePoints
    ((letters.filter fun p => (s.runs.value? p.1).getD false).map (·.2)))

/-! ## Named sets -/

/-- The decimal digits of all scripts. -/
def digits : CharSet := ofCategories [.decimalNumber]

/-- Blank space of all scripts. -/
def spaces : CharSet := ofProperty Property.whiteSpace

/-- The characters of words of all scripts. -/
def words : CharSet :=
  unions [ofProperty Property.alphabetic, ofProperty Property.joinControl,
    ofCategories [.nonspacingMark, .spacingMark, .enclosingMark, .decimalNumber,
      .connectorPunctuation]]

/-- The decimal digits of ASCII. -/
def asciiDigits : CharSet := range 0x30 0x39

/-- Blank space of ASCII. -/
def asciiSpaces : CharSet := union (range 0x09 0x0d) (range 0x20 0x20)

/-- The characters of words of ASCII. -/
def asciiWords : CharSet :=
  unions [range 0x30 0x39, range 0x41 0x5a, range 0x5f 0x5f, range 0x61 0x7a]

/-- The set of a name that stands between `[:` and `:]`. -/
def posix? (name : String) : Option CharSet :=
  match name with
  | "alnum" => some (unions [range 0x30 0x39, range 0x41 0x5a, range 0x61 0x7a])
  | "alpha" => some (union (range 0x41 0x5a) (range 0x61 0x7a))
  | "ascii" => some (range 0 0x7f)
  | "blank" => some (union (range 0x09 0x09) (range 0x20 0x20))
  | "cntrl" => some (union (range 0 0x1f) (range 0x7f 0x7f))
  | "digit" => some asciiDigits
  | "graph" => some (range 0x21 0x7e)
  | "lower" => some (range 0x61 0x7a)
  | "print" => some (range 0x20 0x7e)
  | "punct" =>
    some (unions [range 0x21 0x2f, range 0x3a 0x40, range 0x5b 0x60, range 0x7b 0x7e])
  | "space" => some asciiSpaces
  | "upper" => some (range 0x41 0x5a)
  | "word" => some asciiWords
  | "xdigit" => some (unions [range 0x30 0x39, range 0x41 0x46, range 0x61 0x66])
  | _ => none

/-- A name of a property in the form in which names are compared: lower case, without blanks, dashes
and lines below, and without `is` in front. -/
def comparedName (name : String) : String :=
  let cs := name.toList
  let lower := cs.map Char.toLower
  let isIs := lower.take 2 == ['i', 's']
  let kept := ((if isIs then lower.drop 2 else lower).filter fun c =>
    c != ' ' && c != '_' && c != '-' && c.toNat < 0x80)
  if isIs && kept == ['c'] then "isc" else String.ofList kept

/-- The characters of a general category, or of one of three classes that are none. -/
def ofCategoryName? (name : String) : Option CharSet :=
  match name with
  | "any" => some full
  | "ascii" => some (range 0 0x7f)
  | "assigned" => some (ofCategories [.unassigned]).complement
  | _ => (GeneralCategory.named? name).map ofCategories

/-- The characters that a name alone stands for: those with a property, of a category or of a
script. -/
def named? (name : String) : Option CharSet :=
  let name := comparedName name
  let property :=
    if name = "cf" || name = "sc" || name = "lc" then none else Property.named? name
  match property with
  | some p => some (ofProperty p)
  | none =>
    match ofCategoryName? name with
    | some s => some s
    | none => (Script.named? name).map ofScript

/-- The characters for which a property with values has the given one. -/
def valued? (property value : String) : Option CharSet :=
  let value := comparedName value
  match comparedName property with
  | "gc" | "generalcategory" => ofCategoryName? value
  | "sc" | "script" => (Script.named? value).map ofScript
  | "scx" | "scriptextensions" => (Script.named? value).map usedIn
  | "age" => (UnicodeVersion.named? value).map knownTo
  | "gcb" | "graphemeclusterbreak" => ofBoundary? .graphemeBreak value
  | "wb" | "wordbreak" => ofBoundary? .wordBreak value
  | "sb" | "sentencebreak" => ofBoundary? .sentenceBreak value
  | _ => none
where
  /-- The characters of a class that helps to find boundaries. -/
  ofBoundary? (p : BoundaryProperty) (value : String) : Option CharSet :=
    (p.named? value).map (ofClass p)

end CharSet

end JsonPath
