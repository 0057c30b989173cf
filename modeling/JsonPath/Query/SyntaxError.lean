import JsonPath.Query.Token

/-!
# What can be wrong with the text of a query

A `SyntaxFault` is a cause, a `SyntaxError` a cause together with the place where it was found and
the text that stands there. `SyntaxFault.message` holds all the wording.
-/

namespace JsonPath

/-- What would have been right where something else stood. -/
inductive Expectation where
  | dollar
  | segmentOrEnd
  | nameOrStar
  | selector
  | index
  | commaOrBracket
  | commaOrParen
  | closeParen
  | comparable
deriving DecidableEq, Repr

/-- The wording of an expectation. -/
def Expectation.text : Expectation → String
  | .dollar => "'$'"
  | .segmentOrEnd => "segment or end of input"
  | .nameOrStar => "member name or '*'"
  | .selector => "selector"
  | .index => "index"
  | .commaOrBracket => "',' or ']'"
  | .commaOrParen => "',' or ')'"
  | .closeParen => "')'"
  | .comparable => "literal, query or function call"

/-- Why a text is no query. -/
inductive SyntaxFault where
  /-- No token begins with the character. -/
  | unexpectedCharacter (c : Char)
  | invalidEscape
  /-- A control character stands in a string as it is. -/
  | controlCharacter
  | unterminatedString
  /-- Another lexeme, or the end of the text, stands where one thing was needed. -/
  | unexpected (expected : Expectation) (found : Option Lexeme)
  | leadingBlank
  | trailingBlank
  /-- Blank space follows a dot or two dots. -/
  | blankAfter (marker : Lexeme)
  /-- Blank space follows a function name. -/
  | blankBeforeArguments
  | invalidFunctionName (name : String)
  /-- What stands to the left of the operator is neither literal nor query nor call. -/
  | leftNotComparable (operator : ComparisonOperator)
  | chainedComparison
  /-- Filters, negations, parentheses and calls stand too deep inside one another. -/
  | tooDeep (limit : Nat)
  | notAnInteger
  | leadingZero
  | negativeZero
  | integerOutOfRange
  | numberOutOfRange
deriving DecidableEq, Repr

/-- How a character is named in a message. Only characters of ASCII reach a message so. -/
def characterName (c : Char) : String :=
  if c = '\t' then "\\t"
  else if c = '\r' then "\\r"
  else if c = '\n' then "\\n"
  else if c = '\'' then "\\'"
  else if c = '"' then "\\\""
  else if c = '\\' then "\\\\"
  else if 0x20 ≤ c.toNat ∧ c.toNat ≤ 0x7e then String.ofList [c]
  else "\\u\x7b" ++ String.ofList (Nat.toDigits 16 c.toNat) ++ "\x7d"

/-- The wording of a cause. -/
def SyntaxFault.message : SyntaxFault → String
  | .unexpectedCharacter c => "unexpected character '" ++ characterName c ++ "'"
  | .invalidEscape => "invalid escape sequence"
  | .controlCharacter => "control characters must be escaped in string literals"
  | .unterminatedString => "unterminated string literal"
  | .unexpected expected found =>
    "expected " ++ expected.text ++ ", found " ++ (found.map Lexeme.describe).getD "end of input"
  | .leadingBlank => "leading blank space is not allowed"
  | .trailingBlank => "trailing blank space is not allowed"
  | .blankAfter marker => "blank space is not allowed after " ++ marker.describe
  | .blankBeforeArguments => "blank space is not allowed between a function name and '('"
  | .invalidFunctionName name => "invalid function name '" ++ name ++ "'"
  | .leftNotComparable operator => "left operand of '" ++ operator.text ++ "' is not comparable"
  | .chainedComparison => "comparison operators cannot be chained"
  | .tooDeep limit => "maximum nesting depth of " ++ decimal limit ++ " exceeded"
  | .notAnInteger => "expected an integer"
  | .leadingZero => "leading zeros are not allowed"
  | .negativeZero => "negative zero is not allowed"
  | .integerOutOfRange => "integer out of range"
  | .numberOutOfRange => "number out of range"
where
  /-- The decimal digits of a limit. -/
  decimal (n : Nat) : String := String.ofList (Nat.toDigits 10 n)

/-- A cause, the place where it was found, and the text of what stands there; there is none at the
end of the text. -/
structure SyntaxError where
  fault : SyntaxFault
  place : Position
  offending : Option String
deriving DecidableEq, Repr

/-- The wording of an error without its place. -/
def SyntaxError.message (e : SyntaxError) : String := e.fault.message

end JsonPath
