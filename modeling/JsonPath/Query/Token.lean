import JsonPath.Number.Numeral
import JsonPath.Query.Selector
import JsonPath.Text.Position

/-!
# Tokens of a query

A `Lexeme` is a token together with the text it was read from and the place where that begins. A
whole query text is read as `Lexemes`: the lexemes in order, and the place where the text ends.
-/

namespace JsonPath

/-- A token that is always written the same way. -/
inductive Symbol where
  | dollar
  | at
  | dot
  | dots
  | star
  | question
  | comma
  | colon
  | openBracket
  | closeBracket
  | openParen
  | closeParen
  | comparison (operator : ComparisonOperator)
  | both
  | either
  | bang
deriving DecidableEq, Repr

/-- The symbol as it is written. -/
def Symbol.text : Symbol → String
  | .dollar => "$"
  | .at => "@"
  | .dot => "."
  | .dots => ".."
  | .star => "*"
  | .question => "?"
  | .comma => ","
  | .colon => ":"
  | .openBracket => "["
  | .closeBracket => "]"
  | .openParen => "("
  | .closeParen => ")"
  | .comparison operator => operator.text
  | .both => "&&"
  | .either => "||"
  | .bang => "!"

/-- A token of a query. -/
inductive Token where
  /-- A number; whether it may stand where it does is not decided here. -/
  | number (numeral : Numeral)
  /-- A quoted string, by its value. -/
  | string (value : String)
  /-- A member name, a function name or a word such as `true`. -/
  | name (name : String)
  | symbol (symbol : Symbol)
deriving DecidableEq, Repr

/-- A token, the text it was read from and the place where that text begins. -/
structure Lexeme where
  token : Token
  text : List Char
  start : Position
deriving DecidableEq, Repr

namespace Lexeme

/-- The place where the text of the lexeme ends. -/
def stop (l : Lexeme) : Position := l.start.afterAll l.text

/-- The range of the text of the lexeme. -/
def span (l : Lexeme) : Span := ⟨l.start.offset, l.stop.offset⟩

/-- Whether the text of the lexeme ends at that place. -/
def touches (l : Lexeme) (place : Position) : Bool :=
  l.stop.offset == place.offset

/-- What the lexeme is called in messages. -/
def describe (l : Lexeme) : String :=
  match l.token with
  | .number _ => "number " ++ String.ofList l.text
  | .string value => "string '" ++ value ++ "'"
  | .name name => "name '" ++ name ++ "'"
  | .symbol symbol => "'" ++ symbol.text ++ "'"

end Lexeme

/-- The lexemes of a text in order, and the place where the text ends. -/
structure Lexemes where
  lexemes : List Lexeme
  finish : Position
deriving DecidableEq, Repr

end JsonPath
