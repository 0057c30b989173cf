import JsonPath.ExpressionType
import JsonPath.Json.Value

/-!
# Values of filter expressions

A `FilterValue` is what an expression of a filter comes to: there is one form for each type of
expression.
-/

namespace JsonPath

/-- What an expression comes to. -/
inductive FilterValue where
  /-- A JSON value, or Nothing. -/
  | value (v : Option Value)
  | logical (b : Bool)
  | nodes (values : List Value)
deriving Repr

namespace FilterValue

/-- The absence of a value. -/
def nothing : FilterValue := .value none

/-- What stands for a missing result of the type: Nothing, false or no nodes. -/
def emptyOf : ExpressionType → FilterValue
  | .value => nothing
  | .logical => .logical false
  | .nodes => .nodes []

/-- The type whose form the value has. -/
def type : FilterValue → ExpressionType
  | .value _ => .value
  | .logical _ => .logical
  | .nodes _ => .nodes

@[simp] theorem type_emptyOf (t : ExpressionType) : (emptyOf t).type = t := by
  cases t <;> rfl

/-- The JSON value, if there is one. -/
def value? : FilterValue → Option Value
  | .value v => v
  | _ => none

/-- The string, if there is one. -/
def string? (v : FilterValue) : Option String :=
  match v.value? with
  | some (.string s) => some s
  | _ => none

/-- The outcome of a test, if it is one. -/
def logical? : FilterValue → Option Bool
  | .logical b => some b
  | _ => none

/-- The nodes, if it is a list of them. -/
def nodes? : FilterValue → Option (List Value)
  | .nodes values => some values
  | _ => none

/-- Whether it is the absence of a value. -/
def isNothing : FilterValue → Bool
  | .value none => true
  | _ => false

end FilterValue

end JsonPath
