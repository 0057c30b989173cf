import JsonPath.Query.Expression
import JsonPath.Query.Lexer
import Mathlib.Algebra.Group.Int.Defs
import Mathlib.Algebra.Group.Nat.Defs

/-!
# The grammar of queries

Which texts are phrases of a query, and what tree each of them stands for. The grammar is one over
characters: it knows neither tokens nor the order in which a reader goes over a text. A `Phrase`
also depends on the place where its text begins, because trees hold the spans of their parts.

Filters, negations, parentheses and calls may stand inside one another only so deep. The phrases of
an expression are therefore given for each number of levels that are left. `OperandText` and
`ComparableText` are over the phrases one level deeper, `none` where no level is left, and
`expressionText` ties the knot.

* `QueryText` is a query, with the phrase of its filters left open.
* `Derivation` is a whole query text with a tree of limited depth.
-/

namespace JsonPath.Grammar

/-- The texts of one kind that may begin at a place, each with what it stands for. -/
abbrev Phrase (α : Type) := Position → List Char → α → Prop

/-- The span of a text that begins at `place`. -/
def spanOf (place : Position) (cs : List Char) : Span :=
  ⟨place.offset, (place.afterAll cs).offset⟩

/-! ## Blank space and lists -/

def Blank (cs : List Char) : Prop := ∀ c ∈ cs, isQueryBlank c

/-- A phrase with blank space in front of it, or none. -/
def Spaced {α : Type} (phrase : Phrase α) : Phrase α := fun place cs x =>
  ∃ blank text, Blank blank ∧ cs = blank ++ text ∧ phrase (place.afterAll blank) text x

/-- Phrases with a separator between each two. -/
inductive Separated {α : Type} (separator : List Char) (item : Phrase α) : Phrase (List α) where
  | single {place : Position} {cs : List Char} {x : α} (head : item place cs x) :
      Separated separator item place cs [x]
  | cons {place : Position} {cs before after rest : List Char} {x : α} {xs : List α}
      (head : item place cs x) (spacedBefore : Blank before) (spacedAfter : Blank after)
      (tail : Separated separator item
        (place.afterAll (cs ++ (before ++ (separator ++ after)))) rest xs) :
      Separated separator item place (cs ++ (before ++ (separator ++ (after ++ rest)))) (x :: xs)

/-- A phrase up to a closing bracket or parenthesis, which may stand behind blank space. -/
def Enclosed {α : Type} (close : Char) (inner : Phrase α) : Phrase α := fun place cs x =>
  ∃ inside blank, Blank blank ∧ cs = inside ++ (blank ++ [close]) ∧ inner place inside x

/-- A phrase of the next level, where there is one. -/
def Within {α : Type} (deeper : Option (Phrase α)) : Phrase α := fun place cs x =>
  ∃ phrase, deeper = some phrase ∧ phrase place cs x

/-! ## Names and strings -/

/-- A member name that needs no quotes. -/
def IsName (cs : List Char) : Prop :=
  ∃ first rest, cs = first :: rest ∧ isNameFirst first ∧ ∀ c ∈ rest, isNameChar c

def IsFunctionName (cs : List Char) : Prop :=
  ∃ first rest, cs = first :: rest ∧ first.isLower ∧
    ∀ c ∈ rest, c.isLower ∨ c.isDigit ∨ c = '_'

/-- What a backslash and one more character stand for, between quotes of either kind. -/
def shortEscapes : List (Char × Char) :=
  [('b', '\x08'), ('f', '\x0c'), ('n', '\n'), ('r', '\r'), ('t', '\t'), ('/', '/'), ('\\', '\\')]

/-- Four hexadecimal digits, in either case, and the unit they name. -/
def HexText (cs : List Char) (unit : Nat) : Prop :=
  ∃ a b c d, cs.map hexDigit? = [some a, some b, some c, some d] ∧
    unit = ((a * 16 + b) * 16 + c) * 16 + d

/-- The spellings of a character between quotes. -/
inductive CharText (quote : Char) : List Char → Char → Prop where
  | plain {c : Char} (printed : 0x20 ≤ c.toNat) (inside : c ≠ quote) (bare : c ≠ '\\') :
      CharText quote [c] c
  | quote : CharText quote ['\\', quote] quote
  | short {mark c : Char} (listed : (mark, c) ∈ shortEscapes) : CharText quote ['\\', mark] c
  | unit {digits : List Char} {c : Char} (named : HexText digits c.toNat) :
      CharText quote ('\\' :: 'u' :: digits) c
  | pair {first second : List Char} {high low : Nat} {c : Char} (opened : HexText first high)
      (closed : HexText second low) (isHigh : isHighSurrogate high) (isLow : isLowSurrogate low)
      (named : c.toNat = 0x10000 + (high - 0xD800) * 0x400 + (low - 0xDC00)) :
      CharText quote ('\\' :: 'u' :: (first ++ '\\' :: 'u' :: second)) c

/-- The spellings of the characters between quotes. -/
inductive InsideText (quote : Char) : List Char → List Char → Prop where
  | nil : InsideText quote [] []
  | cons {text rest cs : List Char} {c : Char} (head : CharText quote text c)
      (tail : InsideText quote rest cs) : InsideText quote (text ++ rest) (c :: cs)

/-- A quoted string. -/
def StringText (cs : List Char) (value : String) : Prop :=
  ∃ quote inside, (quote = '\'' ∨ quote = '"') ∧ InsideText quote inside value.toList ∧
    cs = quote :: (inside ++ [quote])

/-! ## Numbers -/

def Digits (cs : List Char) : Prop := cs ≠ [] ∧ ∀ c ∈ cs, c.isDigit

/-- Digits with no zero in front of others. -/
def Whole (cs : List Char) : Prop := Digits cs ∧ (cs.head? = some '0' → cs = ['0'])

def signText (negative : Bool) : List Char := if negative then ['-'] else []

/-- A point and digits, or nothing. -/
inductive FractionText : List Char → Option (List Char) → Prop where
  | absent : FractionText [] none
  | present {ds : List Char} (digits : Digits ds) : FractionText ('.' :: ds) (some ds)

/-- An exponent mark, a sign if need be, and digits, or nothing. -/
inductive ExponentText : List Char → Option (Bool × List Char) → Prop where
  | absent : ExponentText [] none
  | present {mark : Char} {sign ds : List Char} {negative : Bool} (marked : mark = 'e' ∨ mark = 'E')
      (signed : (sign, negative) ∈ [([], false), (['+'], false), (['-'], true)])
      (digits : Digits ds) : ExponentText (mark :: (sign ++ ds)) (some (negative, ds))

/-- A numeral by its parts, leading zeros and all. -/
def NumeralText (cs : List Char) (n : Numeral) : Prop :=
  ∃ fraction exponent, Digits n.whole ∧ FractionText fraction n.fraction ∧
    ExponentText exponent n.exponent ∧
    cs = signText n.negative ++ (n.whole ++ (fraction ++ exponent))

/-- An index or a bound of a slice: no minus zero, and no more than 53 bits. -/
def IntegerText (cs : List Char) (n : Int) : Prop :=
  ∃ negative ds, Whole ds ∧ (negative = true → ds ≠ ['0']) ∧ cs = signText negative ++ ds ∧
    n = (if negative then -(digitsValue ds : Int) else digitsValue ds) ∧ n.natAbs < 2 ^ 53

/-- A number as a literal: an integer if it is written plainly and fits 64 signed bits, and a
binary64 number otherwise. -/
inductive NumberText (cs : List Char) : Number → Prop where
  | integer {n : Numeral} (spelled : NumeralText cs n) (whole : Whole n.whole)
      (plain : n.isPlain) (fits : fitsSigned n.wholeValue) : NumberText cs (.integer n.wholeValue)
  | double {n : Numeral} {x : Double} (spelled : NumeralText cs n) (whole : Whole n.whole)
      (other : ¬(n.isPlain ∧ fitsSigned n.wholeValue)) (finite : n.toDouble = some x) :
      NumberText cs (.double x)

/-! ## Selectors and segments -/

/-- A bound of a slice behind a colon, or nothing. -/
inductive BoundText : List Char → Option Int → Prop where
  | absent : BoundText [] none
  | present {blank cs : List Char} {n : Int} (spaced : Blank blank) (integer : IntegerText cs n) :
      BoundText (blank ++ cs) (some n)

/-- The first bound of a slice up to its colon. -/
inductive StartText : List Char → Option Int → Prop where
  | absent : StartText [] none
  | present {cs blank : List Char} {n : Int} (integer : IntegerText cs n) (spaced : Blank blank) :
      StartText (cs ++ blank) (some n)

/-- An index or a slice. -/
inductive PositionText : List Char → Selector Expression → Prop where
  | index {cs : List Char} {n : Int} (integer : IntegerText cs n) : PositionText cs (.index n)
  | slice {first second : List Char} {start stop : Option Int} (started : StartText first start)
      (stopped : BoundText second stop) :
      PositionText (first ++ ':' :: second) (.slice ⟨start, stop, none⟩)
  | stepped {first second blank third : List Char} {start stop step : Option Int}
      (started : StartText first start) (stopped : BoundText second stop) (spaced : Blank blank)
      (stepped : BoundText third step) :
      PositionText (first ++ ':' :: (second ++ (blank ++ ':' :: third)))
        (.slice ⟨start, stop, step⟩)

/-- A selector between brackets, with the phrase of filters left open. -/
inductive SelectorText (filter : Phrase Expression) (place : Position) :
    List Char → Selector Expression → Prop where
  | name {cs : List Char} {value : String} (string : StringText cs value) :
      SelectorText filter place cs (.name value)
  | wildcard : SelectorText filter place ['*'] .wildcard
  | position {cs : List Char} {s : Selector Expression} (position : PositionText cs s) :
      SelectorText filter place cs s
  | filter {cs : List Char} {e : Expression} (predicate : Spaced filter (place.after '?') cs e) :
      SelectorText filter place ('?' :: cs) (.filter e)

/-- The selectors behind an opening bracket, and the closing one. -/
def BracketText (filter : Phrase Expression) : Phrase (List (Selector Expression)) :=
  Enclosed ']' (Spaced (Separated [','] (SelectorText filter)))

/-- The one selector behind dots. -/
inductive ShorthandText : List Char → Selector Expression → Prop where
  | wildcard : ShorthandText ['*'] .wildcard
  | name {cs : List Char} (named : IsName cs) : ShorthandText cs (.name (String.ofList cs))

inductive SegmentText (filter : Phrase Expression) (place : Position) :
    List Char → Segment Expression → Prop where
  | dot {cs : List Char} {s : Selector Expression} (short : ShorthandText cs s) :
      SegmentText filter place ('.' :: cs) ⟨.child, [s]⟩
  | dots {cs : List Char} {s : Selector Expression} (short : ShorthandText cs s) :
      SegmentText filter place ('.' :: '.' :: cs) ⟨.descendant, [s]⟩
  | bracket {cs : List Char} {selectors : List (Selector Expression)}
      (bracketed : BracketText filter (place.afterAll ['[']) cs selectors) :
      SegmentText filter place ('[' :: cs) ⟨.child, selectors⟩
  | dotsBracket {cs : List Char} {selectors : List (Selector Expression)}
      (bracketed : BracketText filter (place.afterAll ['.', '.', '[']) cs selectors) :
      SegmentText filter place ('.' :: '.' :: '[' :: cs) ⟨.descendant, selectors⟩

/-- Segments one after the other, blank space in front of each of them. -/
inductive SegmentsText (filter : Phrase Expression) : Phrase (List (Segment Expression)) where
  | nil {place : Position} : SegmentsText filter place [] []
  | cons {place : Position} {cs rest : List Char} {s : Segment Expression}
      {ss : List (Segment Expression)} (head : Spaced (SegmentText filter) place cs s)
      (tail : SegmentsText filter (place.afterAll cs) rest ss) :
      SegmentsText filter place (cs ++ rest) (s :: ss)

def rootChar : QueryRoot → Char
  | .document => '$'
  | .current => '@'

/-- A query, with the phrase of its filters left open. -/
def QueryText (filter : Phrase Expression) (root : QueryRoot) : Phrase (Query Expression) :=
  fun place cs tree => ∃ rest segments, cs = rootChar root :: rest ∧
    SegmentsText filter (place.after (rootChar root)) rest segments ∧
    tree = ⟨root, segments, spanOf place cs⟩

/-! ## Expressions -/

/-- The words that are literals. -/
def wordLiterals : List (List Char × Value) :=
  [(['t', 'r', 'u', 'e'], .bool true), (['f', 'a', 'l', 's', 'e'], .bool false),
    (['n', 'u', 'l', 'l'], .null)]

/-- The arguments of a call, in front of its closing parenthesis. -/
inductive ArgumentsText (expression : Phrase Expression) : Phrase (List Expression) where
  | none {place : Position} : ArgumentsText expression place [] []
  | some {place : Position} {cs : List Char} {es : List Expression}
      (listed : Spaced (Separated [','] expression) place cs es) :
      ArgumentsText expression place cs es

/-- A literal, a query or a call, over the expressions one level deeper. -/
inductive ComparableText (deeper : Option (Phrase Expression)) (place : Position) :
    List Char → Expression → Prop where
  | number {cs : List Char} {n : Number} (number : NumberText cs n) :
      ComparableText deeper place cs (.literal (.number n) (spanOf place cs))
  | string {cs : List Char} {value : String} (string : StringText cs value) :
      ComparableText deeper place cs (.literal (.string value) (spanOf place cs))
  | word {cs : List Char} {value : Value} (listed : (cs, value) ∈ wordLiterals) :
      ComparableText deeper place cs (.literal value (spanOf place cs))
  | query {root : QueryRoot} {cs : List Char} {tree : Query Expression}
      (query : QueryText (Within deeper) root place cs tree) :
      ComparableText deeper place cs (.query tree)
  | call {name cs : List Char} {es : List Expression} (named : IsFunctionName name)
      (arguments : Enclosed ')' (Within (deeper.map ArgumentsText))
        (place.afterAll (name ++ ['('])) cs es) :
      ComparableText deeper place (name ++ '(' :: cs)
        (.call (String.ofList name) es (spanOf place (name ++ '(' :: cs)))

/-- A comparable, an expression in parentheses or the negation of an operand, over the operands and
the expressions one level deeper. -/
inductive OperandText (deeperOperand deeper : Option (Phrase Expression)) (place : Position) :
    List Char → Expression → Prop where
  | comparable {cs : List Char} {e : Expression} (comparable : ComparableText deeper place cs e) :
      OperandText deeperOperand deeper place cs e
  | not {cs : List Char} {e : Expression}
      (operand : Spaced (Within deeperOperand) (place.after '!') cs e) :
      OperandText deeperOperand deeper place ('!' :: cs) (.not e (spanOf place ('!' :: cs)))
  | paren {cs : List Char} {e : Expression}
      (expression : Enclosed ')' (Spaced (Within deeper)) (place.after '(') cs e) :
      OperandText deeperOperand deeper place ('(' :: cs) (.paren e (spanOf place ('(' :: cs)))

/-- An operand alone, or two comparables with an operator between them. -/
inductive ComparisonText (operand comparable : Phrase Expression) (place : Position) :
    List Char → Expression → Prop where
  | alone {cs : List Char} {e : Expression} (only : operand place cs e) :
      ComparisonText operand comparable place cs e
  | compared {first blank second : List Char} {left right : Expression}
      {operator : ComparisonOperator} (before : comparable place first left) (spaced : Blank blank)
      (behind : Spaced comparable (place.afterAll (first ++ (blank ++ operator.text.toList)))
        second right) :
      ComparisonText operand comparable place (first ++ (blank ++ (operator.text.toList ++ second)))
        (.comparison operator left right
          (spanOf place (first ++ (blank ++ (operator.text.toList ++ second)))))

/-- One item, which stays as it is, or several, which are joined. -/
inductive JoinedText (separator : List Char) (join : List Expression → Span → Expression)
    (item : Phrase Expression) (place : Position) : List Char → Expression → Prop where
  | single {cs : List Char} {e : Expression} (only : item place cs e) :
      JoinedText separator join item place cs e
  | several {cs : List Char} {es : List Expression} (items : Separated separator item place cs es)
      (two : 2 ≤ es.length) : JoinedText separator join item place cs (join es (spanOf place cs))

/-- A whole expression, over the operands and the expressions one level deeper. -/
def ExpressionText (deeperOperand deeper : Option (Phrase Expression)) : Phrase Expression :=
  JoinedText ['|', '|'] .or <| JoinedText ['&', '&'] .and <|
    ComparisonText (OperandText deeperOperand deeper) (ComparableText deeper)

/-! ## Levels -/

mutual

/-- The operands inside which so many levels are left. -/
def operandText : Nat → Phrase Expression
  | 0 => OperandText none none
  | n + 1 => OperandText (some (operandText n)) (some (expressionText n))

/-- The expressions inside which so many levels are left. -/
def expressionText : Nat → Phrase Expression
  | 0 => ExpressionText none none
  | n + 1 => ExpressionText (some (operandText n)) (some (expressionText n))

end

/-- The expression of a filter where so many levels are left, the filter itself being the first. -/
def filterText : Nat → Phrase Expression
  | 0 => Within none
  | n + 1 => expressionText n

/-- A whole text: a query from the root in which filters, negations, parentheses and calls stand
inside one another no deeper than `limit`. -/
def Derivation (limit : Nat) (source : String) (tree : Query Expression) : Prop :=
  QueryText (filterText limit) .document .start source.toList tree

end JsonPath.Grammar
