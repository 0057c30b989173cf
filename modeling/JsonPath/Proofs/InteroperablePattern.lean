import JsonPath.Regex.Interoperable
import JsonPath.Proofs.Matching

/-!
# Interoperable patterns and their languages

RFC 9485 gives I-Regexps a grammar and, by way of XML Schema, a meaning. Both are stated here apart
from any reader or matcher: a pattern is a tree with one constructor for each way the grammar forms
a phrase, it is written as one text, and its language is defined on the tree.

* `Alternatives.text` is the text of a pattern, and `Alternatives.language` the set of the texts it
  stands for.
* `Alternatives.isPortable` singles out the patterns whose text says the same to the dialect that is
  read here. Of the characters that stand for themselves in an I-Regexp, a caret and a dollar are
  anchors there, and two ampersands or tildes in brackets join sets.
* `spellDots_spell`: writing the dots of a text out is writing the tree with other dots.
-/

namespace JsonPath

namespace IRegexp

/-! ## Characters -/

/-- The characters that stand for themselves outside brackets. -/
def isNormal (c : Char) : Bool :=
  let n := c.toNat
  n ≤ 0x27 || n == 0x2c || n == 0x2d || (0x2f ≤ n && n ≤ 0x3e) || (0x40 ≤ n && n ≤ 0x5a)
    || (0x5e ≤ n && n ≤ 0x7a) || 0x7e ≤ n

/-- The characters that stand for themselves between brackets, wherever they are. -/
def isSetChar (c : Char) : Bool :=
  let n := c.toNat
  n ≤ 0x2c || (0x2e ≤ n && n ≤ 0x5a) || 0x5e ≤ n

/-- The characters that may stand behind a backslash. -/
def escapeMarks : List Char :=
  ['(', ')', '*', '+', '-', '.', '?', '[', '\\', ']', '^', 'n', 'r', 't', '\x7b', '|', '\x7d']

/-- The character that a mark behind a backslash stands for. -/
def markValue (mark : Char) : Char :=
  if mark = 'n' then '\n' else if mark = 'r' then '\r' else if mark = 't' then '\t' else mark

/-- A character written as itself, where that is admitted, or behind a backslash. -/
inductive WrittenChar (admits : Char → Bool) where
  | plain (c : Char) (admitted : admits c = true)
  | escaped (mark : Char) (known : mark ∈ escapeMarks)

namespace WrittenChar

variable {admits : Char → Bool}

/-- The character that is written. -/
def value : WrittenChar admits → Char
  | plain c _ => c
  | escaped mark _ => markValue mark

/-- How the character is written. -/
def text : WrittenChar admits → List Char
  | plain c _ => [c]
  | escaped mark _ => ['\\', mark]

/-- Whether this is the character, written as itself. -/
def isPlain (c : Char) : WrittenChar admits → Bool
  | plain d _ => d == c
  | escaped _ _ => false

end WrittenChar

/-! ## Categories -/

/-- The names of categories, and of groups of them. -/
def categoryNames : List String :=
  ["L", "Ll", "Lm", "Lo", "Lt", "Lu", "M", "Mc", "Me", "Mn", "N", "Nd", "Nl", "No", "P", "Pc",
    "Pd", "Pe", "Pf", "Pi", "Po", "Ps", "Z", "Zl", "Zp", "Zs", "S", "Sc", "Sk", "Sm", "So", "C",
    "Cc", "Cf", "Cn", "Co"]

/-- A class of the characters of a category, or of all others. -/
structure CategoryEscape where
  negated : Bool
  name : String
  known : name ∈ categoryNames

namespace CategoryEscape

/-- How the class is written. -/
def text (named : CategoryEscape) : List Char :=
  '\\' :: (if named.negated then 'P' else 'p') :: '\x7b' :: named.name.toList ++ ['\x7d']

/-- Whether the character is in the class. A group has the categories whose codes begin with its
letter. -/
def contains (named : CategoryEscape) (c : Char) : Bool :=
  xor named.negated (named.name.toList.isPrefixOf (GeneralCategory.of c).code.toList)

end CategoryEscape

/-! ## Sets between brackets -/

/-- An item between brackets. -/
inductive SetItem where
  | char (c : WrittenChar isSetChar)
  | range (low high : WrittenChar isSetChar)
  | category (named : CategoryEscape)

namespace SetItem

/-- How the item is written. -/
def text : SetItem → List Char
  | char c => c.text
  | range low high => low.text ++ '-' :: high.text
  | category named => named.text

/-- Whether the character is one of those of the item. -/
def contains (d : Char) : SetItem → Bool
  | char c => d == c.value
  | range low high => low.value ≤ d && d ≤ high.value
  | category named => named.contains d

/-- Whether the item begins with this character, written as itself. -/
def opensWith (d : Char) : SetItem → Bool
  | char c => c.isPlain d
  | range low _ => low.isPlain d
  | category _ => false

/-- Whether the item is this character, written as itself. -/
def isPlain (d : Char) : SetItem → Bool
  | char c => c.isPlain d
  | _ => false

/-- Whether the item means the same in both dialects: a range must not run backwards. -/
def isPortable : SetItem → Bool
  | range low high => low.value ≤ high.value
  | _ => true

end SetItem

/-- Whether the character, written as itself, stands twice in a row in front of or between items. -/
def doubles (d : Char) : List SetItem → Bool
  | a :: b :: items => (a.isPlain d && b.opensWith d) || doubles d (b :: items)
  | _ => false

/-- A set between brackets. A dash stands for itself in front of all items and behind them. -/
structure BracketedSet where
  negated : Bool
  leadingDash : Bool
  items : List SetItem
  trailingDash : Bool
  nonempty : leadingDash = true ∨ items ≠ []

namespace BracketedSet

/-- The text of a dash that may be missing. -/
def dash (present : Bool) : List Char := if present then ['-'] else []

/-- How the set is written behind its opening bracket and the mark that negates it. -/
def content (set : BracketedSet) : List Char :=
  dash set.leadingDash ++ set.items.flatMap SetItem.text ++ dash set.trailingDash ++ [']']

/-- How the set is written. -/
def text (set : BracketedSet) : List Char :=
  '[' :: (if set.negated then ['^'] else []) ++ set.content

/-- Whether the character is in the set. -/
def contains (set : BracketedSet) (c : Char) : Bool :=
  xor set.negated
    (((set.leadingDash || set.trailingDash) && c == '-') || set.items.any (·.contains c))

/-- Whether the set means the same in both dialects. Two ampersands or two tildes in a row join sets
in the other one, and a caret at the head negates. -/
def isPortable (set : BracketedSet) : Bool :=
  set.items.all SetItem.isPortable && !doubles '&' set.items && !doubles '~' set.items
    && (set.negated || set.leadingDash || !set.items.head?.any (SetItem.opensWith '^'))

/-- The set that a dot stands for: all characters but those that end lines. -/
def noLineEnd : BracketedSet where
  negated := true
  leadingDash := false
  items := [.char (.escaped 'n' (by decide)), .char (.escaped 'r' (by decide))]
  trailingDash := false
  nonempty := .inr (by simp)

end BracketedSet

/-! ## Quantifiers -/

/-- A count, written in decimal. -/
structure Count where
  digits : List Char
  nonempty : digits ≠ []
  decimal : ∀ c ∈ digits, c.isDigit = true

/-- The number that is written. -/
def Count.value (count : Count) : Nat :=
  count.digits.foldl (fun n d => n * 10 + (d.toNat - '0'.toNat)) 0

/-- How often an atom is repeated. -/
inductive Quantifier where
  | once
  | optional
  | any
  | some
  | exactly (count : Count)
  | atLeast (count : Count)
  | between (least most : Count)

namespace Quantifier

/-- How the quantifier is written. -/
def text : Quantifier → List Char
  | once => []
  | optional => ['?']
  | any => ['*']
  | some => ['+']
  | exactly count => '\x7b' :: count.digits ++ ['\x7d']
  | atLeast count => '\x7b' :: count.digits ++ [',', '\x7d']
  | between least most => '\x7b' :: least.digits ++ ',' :: most.digits ++ ['\x7d']

/-- The least and, if there is one, the greatest number of repetitions. -/
def bounds : Quantifier → Nat × Option Nat
  | once => (1, .some 1)
  | optional => (0, .some 1)
  | any => (0, none)
  | some => (1, none)
  | exactly count => (count.value, .some count.value)
  | atLeast count => (count.value, none)
  | between least most => (least.value, .some most.value)

/-- Whether the quantifier means the same in both dialects: the counts are in order, and none is too
great to be read. -/
def isPortable : Quantifier → Bool
  | exactly count | atLeast count => count.value ≤ PatternReader.greatestCount
  | between least most => least.value ≤ most.value && most.value ≤ PatternReader.greatestCount
  | _ => true

end Quantifier

/-! ## Patterns -/

mutual

/-- What can be repeated. -/
inductive Atom where
  | char (c : WrittenChar isNormal)
  | dot
  | category (named : CategoryEscape)
  | bracketed (set : BracketedSet)
  | group (inner : Alternatives)

/-- Repeated atoms one after the other. -/
inductive Branch where
  | empty
  | piece (atom : Atom) (quantifier : Quantifier) (rest : Branch)

/-- One branch, or several of them to choose from: a whole pattern. -/
inductive Alternatives where
  | last (branch : Branch)
  | either (branch : Branch) (others : Alternatives)

end

/-! How a phrase is written if `dot` is written for each dot. -/

mutual

/-- How an atom is written. -/
def Atom.spell (dot : List Char) : Atom → List Char
  | .char c => c.text
  | .dot => dot
  | .category named => named.text
  | .bracketed set => set.text
  | .group inner => '(' :: inner.spell dot ++ [')']
termination_by structural atom => atom

/-- How a branch is written. -/
def Branch.spell (dot : List Char) : Branch → List Char
  | .empty => []
  | .piece atom quantifier rest => atom.spell dot ++ quantifier.text ++ rest.spell dot
termination_by structural branch => branch

/-- How a pattern is written. -/
def Alternatives.spell (dot : List Char) : Alternatives → List Char
  | .last branch => branch.spell dot
  | .either branch others => branch.spell dot ++ '|' :: others.spell dot
termination_by structural alternatives => alternatives

end

/-- The text of a pattern. -/
def Alternatives.text (t : Alternatives) : String := String.ofList (t.spell ['.'])

mutual

/-- The texts that an atom stands for. -/
def Atom.language : Atom → Language Char
  | .char c => singles (· = c.value)
  | .dot => singles fun d => d ≠ '\n' ∧ d ≠ '\r'
  | .category named => singles (named.contains · = true)
  | .bracketed set => singles (set.contains · = true)
  | .group inner => inner.language
termination_by structural atom => atom

/-- The texts that a branch stands for. -/
def Branch.language : Branch → Language Char
  | .empty => 1
  | .piece atom quantifier rest =>
    repeated atom.language quantifier.bounds.1 quantifier.bounds.2 * rest.language
termination_by structural branch => branch

/-- The texts that a pattern stands for. -/
def Alternatives.language : Alternatives → Language Char
  | .last branch => branch.language
  | .either branch others => branch.language + others.language
termination_by structural alternatives => alternatives

end

/-- A dot stands for what the set of all characters but those that end lines does. -/
theorem Atom.language_dot : Atom.dot.language = (Atom.bracketed .noLineEnd).language := by
  rw [Atom.language, Atom.language]
  congr 1
  funext d
  simp [BracketedSet.contains, BracketedSet.noLineEnd, SetItem.contains, WrittenChar.value,
    markValue]

mutual

/-- Whether an atom means the same in both dialects. Outside brackets a caret and a dollar have to
be escaped or put between brackets. -/
def Atom.isPortable : Atom → Bool
  | .char c => !c.isPlain '^' && !c.isPlain '$'
  | .dot => true
  | .category _ => true
  | .bracketed set => set.isPortable
  | .group inner => inner.isPortable
termination_by structural atom => atom

/-- Whether a branch means the same in both dialects. -/
def Branch.isPortable : Branch → Bool
  | .empty => true
  | .piece atom quantifier rest => atom.isPortable && quantifier.isPortable && rest.isPortable
termination_by structural branch => branch

/-- Whether a pattern means the same in both dialects. -/
def Alternatives.isPortable : Alternatives → Bool
  | .last branch => branch.isPortable
  | .either branch others => branch.isPortable && others.isPortable
termination_by structural alternatives => alternatives

end

/-! ## Writing dots out -/

/-- A character of a kind is none of some marks that are not of the kind. -/
theorem notMem_of_holds {p : Char → Bool} {c : Char} (holds : p c = true) {marks : List Char}
    (others : marks.any p = false) : c ∉ marks :=
  fun mark => List.any_eq_false.mp others c mark holds

theorem ne_of_holds {p : Char → Bool} {c d : Char} (holds : p c = true) (other : p d = false) :
    c ≠ d := by
  rintro rfl
  exact Bool.false_ne_true (other.symm.trans holds)

/-- The characters that are written out, or that change what is written out behind them. -/
def spellingMarks (inside : Bool) : List Char :=
  if inside then ['\\', ']'] else ['\\', '[', '.']

theorem spellDots_cons {c : Char} (noEscape : c ≠ '\\') (inside : Bool) (cs : List Char) :
    spellDots inside (c :: cs)
      = if inside then c :: spellDots (c != ']') cs
        else if c = '.' then dotSpelling ++ spellDots false cs
        else c :: spellDots (c == '[') cs := by
  rw [spellDots]
  intro _ _ escape _
  exact noEscape escape

section

variable {inside : Bool}

theorem spellDots_unmarked {cs : List Char} (unmarked : ∀ c ∈ cs, c ∉ spellingMarks inside)
    (rest : List Char) : spellDots inside (cs ++ rest) = cs ++ spellDots inside rest := by
  induction cs with
  | nil => rfl
  | cons c cs ih =>
    have others := ih fun d member => unmarked d (List.mem_cons_of_mem c member)
    have head := unmarked c List.mem_cons_self
    cases inside with
    | false =>
      obtain ⟨noEscape, noBracket, noDot⟩ : c ≠ '\\' ∧ c ≠ '[' ∧ c ≠ '.' := by
        simpa [spellingMarks] using head
      rw [List.cons_append, spellDots_cons noEscape]
      simp [noDot, beq_false_of_ne noBracket, others]
    | true =>
      obtain ⟨noEscape, noBracket⟩ : c ≠ '\\' ∧ c ≠ ']' := by
        simpa [spellingMarks] using head
      rw [List.cons_append, spellDots_cons noEscape]
      simp [bne_iff_ne.mpr noBracket, others]

theorem WrittenChar.spellDots_text {admits : Char → Bool}
    (special : (spellingMarks inside).any admits = false) (c : WrittenChar admits)
    (rest : List Char) : spellDots inside (c.text ++ rest) = c.text ++ spellDots inside rest := by
  cases c with
  | plain c admitted =>
    exact spellDots_unmarked (by simpa [text] using notMem_of_holds admitted special) rest
  | escaped mark known => rfl

theorem CategoryEscape.spellDots_text (named : CategoryEscape) (rest : List Char) :
    spellDots inside (named.text ++ rest) = named.text ++ spellDots inside rest := by
  have letters : ∀ name ∈ categoryNames, ('\x7b' :: name.toList ++ ['\x7d']).all
      (fun c => !(spellingMarks inside).contains c) = true := by
    cases inside <;> decide +kernel
  have unmarked : ∀ c ∈ '\x7b' :: named.name.toList ++ ['\x7d'], c ∉ spellingMarks inside := by
    intro c member
    simpa using List.all_eq_true.mp (letters named.name named.known) c member
  simpa [text, spellDots] using spellDots_unmarked unmarked rest

end

theorem SetItem.spellDots_text (item : SetItem) (rest : List Char) :
    spellDots true (item.text ++ rest) = item.text ++ spellDots true rest := by
  cases item with
  | char c => exact c.spellDots_text (by decide) rest
  | range low high =>
    have special : (spellingMarks true).any isSetChar = false := by decide
    have dash (cs : List Char) : spellDots true ('-' :: cs) = '-' :: spellDots true cs :=
      spellDots_cons (by decide) true cs
    simp only [text, List.append_assoc, List.cons_append, low.spellDots_text special, dash,
      high.spellDots_text special]
  | category named => exact named.spellDots_text rest

theorem BracketedSet.spellDots_text (set : BracketedSet) (rest : List Char) :
    spellDots false (set.text ++ rest) = set.text ++ spellDots false rest := by
  have items (rest : List Char) : spellDots true (set.items.flatMap SetItem.text ++ rest)
      = set.items.flatMap SetItem.text ++ spellDots true rest := by
    induction set.items with
    | nil => rfl
    | cons item items ih => simp [SetItem.spellDots_text, ih]
  have dash (present : Bool) (rest : List Char) :
      spellDots true (dash present ++ rest) = dash present ++ spellDots true rest := by
    cases present <;> rfl
  have content (rest : List Char) :
      spellDots true (set.content ++ rest) = set.content ++ spellDots false rest := by
    simp only [BracketedSet.content, List.append_assoc, dash, items]
    rfl
  cases negated : set.negated <;> simp [text, spellDots, content, negated]

theorem Quantifier.spellDots_text (quantifier : Quantifier) (rest : List Char) :
    spellDots false (quantifier.text ++ rest) = quantifier.text ++ spellDots false rest := by
  apply spellDots_unmarked
  have digits (count : Count) : ∀ c ∈ count.digits, c ∉ spellingMarks false :=
    fun c member => notMem_of_holds (count.decimal c member) (by decide)
  have marks : ['?', '*', '+', '\x7b', ',', '\x7d'].all
      (fun c => !(spellingMarks false).contains c) = true := by decide
  have mark (c : Char) (known : c ∈ ['?', '*', '+', '\x7b', ',', '\x7d']) :
      c ∉ spellingMarks false := by
    simpa using List.all_eq_true.mp marks c known
  intro c member
  cases quantifier with
  | once => exact absurd member List.not_mem_nil
  | optional | any | some => exact mark c (by simp_all [text])
  | exactly count | atLeast count =>
    by_cases digit : c ∈ count.digits
    · exact digits count c digit
    · exact mark c (by rw [text] at member; grind)
  | between least most =>
    by_cases first : c ∈ least.digits
    · exact digits least c first
    · by_cases second : c ∈ most.digits
      · exact digits most c second
      · exact mark c (by rw [text] at member; grind)

mutual

theorem Atom.spellDots_spell (atom : Atom) (rest : List Char) :
    spellDots false (atom.spell ['.'] ++ rest)
      = atom.spell dotSpelling ++ spellDots false rest := by
  match atom with
  | .char c => exact c.spellDots_text (by decide) rest
  | .dot => rfl
  | .category named => exact named.spellDots_text rest
  | .bracketed set => exact set.spellDots_text rest
  | .group inner => simp [Atom.spell, spellDots, inner.spellDots_spell]
termination_by structural atom

theorem Branch.spellDots_spell (branch : Branch) (rest : List Char) :
    spellDots false (branch.spell ['.'] ++ rest)
      = branch.spell dotSpelling ++ spellDots false rest := by
  match branch with
  | .empty => rfl
  | .piece atom quantifier others =>
    simp [Branch.spell, atom.spellDots_spell, quantifier.spellDots_text, others.spellDots_spell]
termination_by structural branch

/-- Writing out the dots of a text replaces those that stand for characters, and nothing else. -/
theorem Alternatives.spellDots_spell (t : Alternatives) (rest : List Char) :
    spellDots false (t.spell ['.'] ++ rest) = t.spell dotSpelling ++ spellDots false rest := by
  match t with
  | .last branch => exact branch.spellDots_spell rest
  | .either branch others =>
    simp [Alternatives.spell, branch.spellDots_spell, spellDots, others.spellDots_spell]
termination_by structural t

end

end IRegexp

end JsonPath
