import JsonPath.Json.Value
import JsonPath.Query.Selector
import JsonPath.Text.Position

/-!
# Queries as written

A `Query` is the tree of a query text. Its filters are `Expression`s, not yet typed: what may stand
as a test and what may be compared is settled later. Every expression and every query knows the span
of the text that it was read from.
-/

namespace JsonPath

/-- A query whose filters are of type `φ`, and the span of its text. -/
structure Query (φ : Type) where
  root : QueryRoot
  segments : List (Segment φ)
  span : Span
deriving Repr

/-- The expression of a filter, each node with the span of its text. -/
inductive Expression where
  /-- A number, a string, `true`, `false` or `null`. -/
  | literal (value : Value) (span : Span)
  | query (tree : Query Expression)
  /-- A call of a function by its name. -/
  | call (name : String) (arguments : List Expression) (span : Span)
  | comparison (operator : ComparisonOperator) (left right : Expression) (span : Span)
  | not (operand : Expression) (span : Span)
  | and (operands : List Expression) (span : Span)
  | or (operands : List Expression) (span : Span)
  | paren (inner : Expression) (span : Span)
deriving Repr

namespace Expression

/-- The span of the text of the expression. -/
def span : Expression → Span
  | .literal _ span => span
  | .query tree => tree.span
  | .call _ _ span => span
  | .comparison _ _ _ span => span
  | .not _ span => span
  | .and _ span => span
  | .or _ span => span
  | .paren _ span => span

/-- The name of the function, if the expression is a call. -/
def functionName? : Expression → Option String
  | .call name _ _ => some name
  | _ => none

/-- Whether the expression may stand beside a comparison operator. -/
def isComparable : Expression → Bool
  | .literal .. | .query _ | .call .. => true
  | _ => false

end Expression

end JsonPath
