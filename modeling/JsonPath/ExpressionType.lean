/-!
# Types of filter expressions

Every expression of a filter has one of three types, known before the filter is run. The rules here
say where an expression of each type may stand, and what becomes of it where another type is needed.
-/

namespace JsonPath

/-- The type of an expression. -/
inductive ExpressionType where
  /-- One JSON value, or Nothing. -/
  | value
  /-- The outcome of a test. -/
  | logical
  /-- A list of nodes, possibly empty. -/
  | nodes
deriving DecidableEq, Repr

namespace ExpressionType

/-- What an expression of the first type becomes where the second is needed. Nodes become a value if
there is exactly one of them, and a test that asks whether there are any. -/
def coerce : ExpressionType → ExpressionType → Option ExpressionType
  | .value, .value | .nodes, .value => some .value
  | .logical, .logical | .nodes, .logical => some .logical
  | .nodes, .nodes => some .nodes
  | _, _ => none

/-- Whether an expression of the type may stand as a test. -/
def isTest : ExpressionType → Bool
  | .logical | .nodes => true
  | .value => false

/-- Whether an expression of the type may be compared. -/
def isComparable : ExpressionType → Bool
  | .value | .nodes => true
  | .logical => false

/-- The type of a comparison and of what `!`, `&&` and `||` make of their operands. -/
def combined : ExpressionType := .logical

/-- The word for the type in messages. -/
def text : ExpressionType → String
  | .value => "ValueType"
  | .logical => "LogicalType"
  | .nodes => "NodesType"

/-- The short word for the type. -/
def tag : ExpressionType → String
  | .value => "Value"
  | .logical => "Logical"
  | .nodes => "Nodes"

/-- A list of types in a message. -/
def listText (types : List ExpressionType) : String :=
  ", ".intercalate (types.map text)

end ExpressionType

end JsonPath
