import JsonPath.Json.Value
import JsonPath.Query.Selector

/-!
# Comparison

* `Value.equals` is equality of JSON values: numbers by their value, objects whatever the order of
  their members.
* `ComparisonOperator.compare` applies an operator to two operands.
-/

namespace JsonPath

namespace Value

mutual

/-- Whether two values are equal. -/
def equals : Value → Value → Bool
  | .null, .null => true
  | .bool a, .bool b => a == b
  | .number m, .number n => m.compare n == some .eq
  | .string s, .string t => s == t
  | .array as, .array bs => as.length == bs.length && equalElements as bs
  | .object ms, .object ns => ms.length == ns.length && membersAmong ns ms
  | _, _ => false
termination_by structural v => v

/-- Whether values are equal one by one, as far as there are two of them. -/
def equalElements : List Value → List Value → Bool
  | a :: as, b :: bs => a.equals b && equalElements as bs
  | _, _ => true
termination_by structural as => as

/-- Whether each member has an equal one of its name among `ns`. -/
def membersAmong (ns : Members) : List (String × Value) → Bool
  | [] => true
  | m :: ms => memberAmong ns m && membersAmong ns ms
termination_by structural ms => ms

/-- Whether a member has an equal one of its name among `ns`. -/
def memberAmong (ns : Members) : String × Value → Bool
  | (name, v) =>
    match member? name ns with
    | some w => v.equals w
    | none => false
termination_by structural m => m

end

/-- Whether the first value is less than the second. Only two numbers or two strings are ordered;
strings are ordered by their characters. -/
def less : Value → Value → Bool
  | .number m, .number n => m.compare n == some .lt
  | .string s, .string t => s < t
  | _, _ => false

end Value

/-- An operand of a comparison. -/
inductive Comparable where
  | nothing
  | value (v : Value)
  /-- Several nodes, which no single value stands for. -/
  | ambiguous
deriving Repr

namespace Comparable

/-- The operand that some nodes are. -/
def ofNodes : List Value → Comparable
  | [] => .nothing
  | [v] => .value v
  | _ => .ambiguous

/-- Whether two operands are equal. -/
def equals : Comparable → Comparable → Bool
  | .nothing, .nothing => true
  | .value v, .value w => v.equals w
  | _, _ => false

/-- Whether the first operand is less than the second. -/
def less : Comparable → Comparable → Bool
  | .value v, .value w => v.less w
  | _, _ => false

end Comparable

/-- Applies an operator to two operands. -/
def ComparisonOperator.compare (operator : ComparisonOperator) (left right : Comparable) : Bool :=
  match operator with
  | .equal => left.equals right
  | .notEqual => !left.equals right
  | .less => left.less right
  | .lessOrEqual => left.less right || left.equals right
  | .greater => right.less left
  | .greaterOrEqual => right.less left || left.equals right

end JsonPath
