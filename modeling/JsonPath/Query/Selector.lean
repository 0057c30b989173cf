/-!
# Segments and selectors

The vocabulary that a query as written and a query ready to run have in common. A `Segment φ` holds
selectors whose filters are of type `φ`: expressions as written in the one case, and tests that have
been checked in the other.
-/

namespace JsonPath

/-- The node a query starts from. -/
inductive QueryRoot where
  /-- `$`, the root of the document. -/
  | document
  /-- `@`, the node that a filter looks at. -/
  | current
deriving DecidableEq, Repr

/-- Which nodes a segment applies its selectors to. -/
inductive SegmentKind where
  /-- The node itself. -/
  | child
  /-- The node and everything below it. -/
  | descendant
deriving DecidableEq, Repr

/-- The bounds of a slice of an array, each of which may be left out. -/
structure SliceBounds where
  start : Option Int
  stop : Option Int
  step : Option Int
deriving DecidableEq, Repr

/-- What a selector picks among the children of a node. -/
inductive Selector (φ : Type) where
  /-- The member of that name. -/
  | name (name : String)
  /-- The element at that place; a negative one counts from the end. -/
  | index (index : Int)
  /-- Every child. -/
  | wildcard
  /-- The elements in a range. -/
  | slice (bounds : SliceBounds)
  /-- The children for which the filter holds. -/
  | filter (predicate : φ)
deriving Repr

/-- Selectors, each applied in turn to the same nodes. -/
structure Segment (φ : Type) where
  kind : SegmentKind
  selectors : List (Selector φ)
deriving Repr

/-- How two operands are compared. -/
inductive ComparisonOperator where
  | equal
  | notEqual
  | less
  | lessOrEqual
  | greater
  | greaterOrEqual
deriving DecidableEq, Repr

/-- The operator as it is written. -/
def ComparisonOperator.text : ComparisonOperator → String
  | .equal => "=="
  | .notEqual => "!="
  | .less => "<"
  | .lessOrEqual => "<="
  | .greater => ">"
  | .greaterOrEqual => ">="

end JsonPath
