import JsonPath.Function.Extension
import JsonPath.Query.Selector

/-!
# Queries ready to run

A `Plan` is a query whose calls are bound to functions. Every `Filter` has a type that its form
determines.
-/

namespace JsonPath

/-- How tests are combined. -/
inductive LogicalOperator where
  | not
  | and
  | or
deriving DecidableEq, Repr

/-- The operator as it is written. -/
def LogicalOperator.text : LogicalOperator → String
  | .not => "!"
  | .and => "&&"
  | .or => "||"

/-- An expression of a filter whose calls are bound to functions. -/
inductive Filter where
  | literal (value : Value)
  | query (root : QueryRoot) (segments : List (Segment Filter))
  | comparison (operator : ComparisonOperator) (left right : Filter)
  /-- Tests combined; `not` has one operand. -/
  | logical (operator : LogicalOperator) (operands : List Filter)
  | call (name : String) (function : FunctionExtension) (arguments : List Filter)
  /-- An expression in parentheses, which stands as a test. -/
  | test (inner : Filter)

/-- The type of an expression. -/
def Filter.type : Filter → ExpressionType
  | .literal _ => .value
  | .query .. => .nodes
  | .comparison .. | .logical .. | .test _ => .combined
  | .call _ function _ => function.returnType

/-- A query ready to run, and its text. -/
structure Plan where
  source : String
  segments : List (Segment Filter)

end JsonPath
