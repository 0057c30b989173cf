import JsonPath.Query.Expression
import JsonPath.Query.Lexer

/-!
# From tokens to the tree of a query

Reading goes by descent from one kind of phrase to the next. In a filter `||` binds loosest, then
`&&`, then the comparisons, of which no two stand side by side, then `!`.

Filters, negations, parentheses and calls may stand inside one another only up to a limit. The
parsers of expressions are therefore a family, one for each number of levels that are still allowed:
those with none left refuse to go deeper, the others go on to the family's member below them. The
limit thereby bounds the recursion, and each list is bounded by the lexemes that are left.

* `parse` reads a whole text.
-/

namespace JsonPath

/-- Where parsing stands: the byte where the last lexeme taken ends, the lexemes ahead and the place
where the text ends. -/
structure Cursor where
  reached : Nat
  ahead : List Lexeme
  finish : Position

namespace Cursor

/-- The place of the next lexeme, or that where the text ends. -/
def place (c : Cursor) : Position :=
  match c.ahead with
  | [] => c.finish
  | l :: _ => l.start

/-- An error at the next lexeme, or at the end of the text. -/
def error (c : Cursor) (fault : SyntaxFault) : SyntaxError :=
  ⟨fault, c.place, c.ahead.head?.map fun l => String.ofList l.text⟩

/-- Whether the next lexeme is that symbol. -/
def sees (c : Cursor) (symbol : Symbol) : Bool :=
  match c.ahead with
  | [] => false
  | l :: _ => l.token == .symbol symbol

/-- The comparison operator that is the next lexeme. -/
def comparison? (c : Cursor) : Option ComparisonOperator :=
  match c.ahead with
  | ⟨.symbol (.comparison operator), _, _⟩ :: _ => some operator
  | _ => none

end Cursor

/-- An error at a lexeme that has been taken. -/
def Lexeme.error (l : Lexeme) (fault : SyntaxFault) : SyntaxError :=
  ⟨fault, l.start, some (String.ofList l.text)⟩

/-- Reading from the lexemes ahead. -/
abbrev Parser := StateT Cursor (Except SyntaxError)

namespace Parser

/-! ## Steps -/

/-- Fails at the next lexeme. -/
def fail (fault : SyntaxFault) : Parser α := do
  throw ((← get).error fault)

/-- Fails because something else than the next lexeme was needed. -/
def expected (expectation : Expectation) : Parser α := do
  fail (.unexpected expectation (← get).ahead.head?)

/-- Takes the next lexeme. -/
def advance : Parser Unit :=
  modify fun c =>
    match c.ahead with
    | [] => c
    | l :: rest => ⟨l.stop.offset, rest, c.finish⟩

/-- Takes the symbol, which must be next. -/
def take (symbol : Symbol) (expectation : Expectation) : Parser Unit := do
  if (← get).sees symbol then advance else expected expectation

/-- Items read until there is no further one, no more of them than the count says. -/
def manyUpTo (item : Parser (Option α)) : Nat → Parser (List α)
  | 0 => return []
  | n + 1 => do
    match ← item with
    | none => return []
    | some x => return x :: (← manyUpTo item n)

/-- Items read until there is no further one; each takes a lexeme. -/
def many (item : Parser (Option α)) : Parser (List α) := do
  manyUpTo item (← get).ahead.length

/-- Items with a symbol between each two, no more of them than the count says and one. -/
def separatedUpTo (separator : Symbol) (item : Parser α) : Nat → Parser (List α)
  | 0 => return [← item]
  | n + 1 => do
    let x ← item
    if (← get).sees separator then
      advance
      return x :: (← separatedUpTo separator item n)
    else return [x]

/-- At least one item, with a symbol between each two. -/
def separated (separator : Symbol) (item : Parser α) : Parser (List α) := do
  separatedUpTo separator item (← get).ahead.length

/-! ## Numbers -/

/-- The largest magnitude of an index or of a bound of a slice, `2 ^ 53 - 1`. -/
def greatestIndex : Int := 9007199254740991

/-- The integer that a numeral stands for as an index or as a bound of a slice. -/
def indexOf (n : Numeral) : Except SyntaxFault Int :=
  if !n.isPlain then .error .notAnInteger
  else if n.hasLeadingZero then .error .leadingZero
  else if n.negative && n.whole == ['0'] then .error .negativeZero
  else if -greatestIndex ≤ n.wholeValue ∧ n.wholeValue ≤ greatestIndex then .ok n.wholeValue
  else .error .integerOutOfRange

/-- The number that a numeral stands for as a literal: an integer if it is written plainly and fits
64 signed bits, a binary64 number otherwise. -/
def literalOf (n : Numeral) : Except SyntaxFault Number :=
  if n.hasLeadingZero then .error .leadingZero
  else if n.isPlain && fitsSigned n.wholeValue then .ok (.integer n.wholeValue)
  else match n.toDouble with
    | some x => .ok (.double x)
    | none => .error .numberOutOfRange

/-- An integer, if a number is next. -/
def index? : Parser (Option Int) := do
  match (← get).ahead with
  | ⟨.number numeral, _, _⟩ :: _ =>
    match indexOf numeral with
    | .ok n => do
      advance
      return some n
    | .error fault => fail fault
  | _ => return none

/-! ## Segments and selectors -/

/-- An index, or a slice if a colon follows. -/
def indexOrSlice : Parser (Selector Expression) := do
  let start ← index?
  if (← get).sees .colon then
    advance
    let stop ← index?
    if (← get).sees .colon then
      advance
      return .slice ⟨start, stop, ← index?⟩
    else return .slice ⟨start, stop, none⟩
  else match start with
    | some n => return .index n
    | none => expected .index

/-- A selector between brackets, its filter read by `filter`. -/
def selector (filter : Parser Expression) : Parser (Selector Expression) := do
  match (← get).ahead.head?.map Lexeme.token with
  | some (.string name) => do
    advance
    return .name name
  | some (.symbol .star) => do
    advance
    return .wildcard
  | some (.symbol .question) => do
    advance
    return .filter (← filter)
  | some (.number _) | some (.symbol .colon) => indexOrSlice
  | _ => expected .selector

/-- The selectors behind an opening bracket, and the closing one. -/
def bracketed (filter : Parser Expression) : Parser (List (Selector Expression)) := do
  let selectors ← separated .comma (selector filter)
  take .closeBracket .commaOrBracket
  return selectors

/-- The one selector behind the dot or the two dots `marker`, which it must touch. -/
def shorthand (marker : Lexeme) (kind : SegmentKind) : Parser (Segment Expression) := do
  let c ← get
  if marker.touches c.place then
    match c.ahead.head?.map Lexeme.token with
    | some (.symbol .star) => do
      advance
      return ⟨kind, [.wildcard]⟩
    | some (.name name) => do
      advance
      return ⟨kind, [.name name]⟩
    | _ => expected .nameOrStar
  else fail (.blankAfter marker)

/-- A segment, if one is next. -/
def segment? (filter : Parser Expression) : Parser (Option (Segment Expression)) := do
  match (← get).ahead with
  | [] => return none
  | marker :: _ =>
    match marker.token with
    | .symbol .dot => do
      advance
      return some (← shorthand marker .child)
    | .symbol .dots => do
      advance
      let c ← get
      if c.sees .openBracket && marker.touches c.place then
        advance
        return some ⟨.descendant, ← bracketed filter⟩
      else return some (← shorthand marker .descendant)
    | .symbol .openBracket => do
      advance
      return some ⟨.child, ← bracketed filter⟩
    | _ => return none

/-- The query that begins at byte `start`, behind its root. -/
def query (filter : Parser Expression) (root : QueryRoot) (start : Nat) :
    Parser (Query Expression) := do
  let segments ← many (segment? filter)
  return ⟨root, segments, ⟨start, (← get).reached⟩⟩

/-! ## Expressions -/

/-- One level deeper, if there is one. -/
def nested (limit : Nat) (inner : Option (Parser α)) : Parser α :=
  inner.getD (fail (.tooDeep limit))

/-- Whether a name may be called. -/
def isFunctionName (name : String) : Bool :=
  match name.toList with
  | [] => false
  | c :: cs => c.isLower && cs.all fun d => d.isLower || d.isDigit || d == '_'

/-- The arguments behind an opening parenthesis, up to the closing one. -/
def arguments (expression : Parser Expression) : Parser (List Expression) := do
  if (← get).sees .closeParen then return [] else separated .comma expression

/-- A call of the function that `marker` names. -/
def call (limit : Nat) (inner : Option (Parser Expression)) (marker : Lexeme) (name : String) :
    Parser Expression := do
  advance
  if !isFunctionName name then throw (marker.error (.invalidFunctionName name))
  let c ← get
  if !marker.touches c.place then
    fail .blankBeforeArguments
  advance
  let arguments ← nested limit (inner.map arguments)
  take .closeParen .commaOrParen
  return .call name arguments ⟨marker.start.offset, (← get).reached⟩

/-- The literal that a word is. -/
def wordLiteral? (name : String) : Option Value :=
  if name = "true" then some (.bool true)
  else if name = "false" then some (.bool false)
  else if name = "null" then some .null
  else none

/-- A literal, a query or a call. -/
def comparable (limit : Nat) (inner : Option (Parser Expression)) : Parser Expression := do
  match (← get).ahead with
  | [] => expected .comparable
  | l :: rest =>
    match l.token with
    | .number numeral =>
      match literalOf numeral with
      | .ok n => do
        advance
        return .literal (.number n) l.span
      | .error fault => fail fault
    | .string value => do
      advance
      return .literal (.string value) l.span
    | .symbol .dollar => do
      advance
      return .query (← query (nested limit inner) .document l.start.offset)
    | .symbol .at => do
      advance
      return .query (← query (nested limit inner) .current l.start.offset)
    | .name name =>
      if rest.head?.map Lexeme.token == some (.symbol .openParen) then call limit inner l name
      else match wordLiteral? name with
        | some value => do
          advance
          return .literal value l.span
        | none => expected .comparable
    | _ => expected .comparable

/-- A negation, an expression in parentheses or a comparable. The parsers one level deeper are
`innerOperand` for what is negated and `inner` for a whole expression. -/
def operand (limit : Nat) (innerOperand inner : Option (Parser Expression)) :
    Parser Expression := do
  match (← get).ahead with
  | [] => expected .comparable
  | l :: _ =>
    match l.token with
    | .symbol .bang => do
      advance
      let negated ← nested limit innerOperand
      return .not negated ⟨l.start.offset, negated.span.stop⟩
    | .symbol .openParen => do
      advance
      let expression ← nested limit inner
      take .closeParen .closeParen
      return .paren expression ⟨l.start.offset, (← get).reached⟩
    | _ => comparable limit inner

/-- An operand, compared with what follows if a comparison operator is next. -/
def comparison (operand comparable : Parser Expression) : Parser Expression := do
  let left ← operand
  match (← get).comparison? with
  | none => return left
  | some operator =>
    if !left.isComparable then fail (.leftNotComparable operator)
    advance
    let right ← comparable
    if (← get).comparison?.isSome then fail .chainedComparison
    return .comparison operator left right (left.span.join right.span)

/-- Joins the operands of `&&` or `||`; one alone stays as it is. -/
def joined (join : List Expression → Span → Expression) : List Expression → Expression
  | [] => join [] ⟨0, 0⟩
  | [e] => e
  | e :: es => join (e :: es) (es.foldl (fun span e => span.join e.span) e.span)

/-- Comparisons joined by `&&`. -/
def conjunction (comparison : Parser Expression) : Parser Expression :=
  return joined .and (← separated .both comparison)

/-- Conjunctions joined by `||`. -/
def disjunction (conjunction : Parser Expression) : Parser Expression :=
  return joined .or (← separated .either conjunction)

mutual

/-- An operand inside which so many levels are left. -/
def operandAt (limit : Nat) : Nat → Parser Expression
  | 0 => fun c => operand limit none none c
  | n + 1 => fun c => operand limit (some (operandAt limit n)) (some (expressionAt limit n)) c

/-- A whole expression inside which so many levels are left. -/
def expressionAt (limit : Nat) : Nat → Parser Expression
  | 0 => fun c =>
    disjunction (conjunction (comparison (operand limit none none) (comparable limit none))) c
  | n + 1 => fun c =>
    let inner := some (expressionAt limit n)
    disjunction (conjunction (comparison (operand limit (some (operandAt limit n)) inner)
      (comparable limit inner))) c

end

/-- The expression of a filter of the outermost query. -/
def filter (limit : Nat) : Parser Expression :=
  match limit with
  | 0 => fail (.tooDeep 0)
  | n + 1 => expressionAt limit n

/-- A whole text: a query from the root with nothing before and nothing after it. -/
def wholeQuery (limit : Nat) : Parser (Query Expression) := do
  let c ← get
  if c.place.offset ≠ 0 then fail .leadingBlank
  take .dollar .dollar
  let tree ← query (filter limit) .document 0
  let c ← get
  if !c.ahead.isEmpty then expected .segmentOrEnd
  if c.finish.offset ≠ tree.span.stop then fail .trailingBlank
  return tree

end Parser

/-- The tree of a text that is already cut into lexemes. -/
def Lexemes.parse (limit : Nat) (lexemes : Lexemes) : Except SyntaxError (Query Expression) :=
  (Parser.wholeQuery limit).run' ⟨0, lexemes.lexemes, lexemes.finish⟩

/-- The tree of a query text, in which filters, negations, parentheses and calls stand inside one
another no deeper than `limit`. -/
def parse (limit : Nat) (source : String) : Except SyntaxError (Query Expression) := do
  (← Lexemes.read source).parse limit

end JsonPath
