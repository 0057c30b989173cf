import JsonPath.Number

/-!
# JSON values

Documents, literals and the values that functions compute are all of type `Value`. The members of an
object keep the order in which their names first appeared.
-/

namespace JsonPath

/-- A JSON value. -/
inductive Value where
  | null
  | bool (b : Bool)
  | number (n : Number)
  | string (s : String)
  | array (elements : List Value)
  | object (members : List (String × Value))
deriving Inhabited, Repr, BEq

/-- The members of an object. -/
abbrev Members := List (String × Value)

namespace Value

/-- Gives the member `name` the value `v`: in its place if there is one, and at the end if not. -/
def put (name : String) (v : Value) : Members → Members
  | [] => [(name, v)]
  | m :: ms => if m.1 = name then (name, v) :: ms else m :: put name v ms

/-- The value of the member `name`. -/
def member? (name : String) : Members → Option Value
  | [] => none
  | m :: ms => if m.1 = name then some m.2 else member? name ms

/-- The members of an object; other values have none. -/
def members : Value → Members
  | .object ms => ms
  | _ => []

/-- The elements of an array; other values have none. -/
def elements : Value → List Value
  | .array vs => vs
  | _ => []

/-- Whether the value is an array or an object. -/
def isContainer : Value → Bool
  | .array _ | .object _ => true
  | _ => false

/-- The integer `n`. -/
def ofNat (n : Nat) : Value := .number (.integer n)

mutual

/-- The number of nodes of the value, itself included. -/
def size : Value → Nat
  | .array elements => 1 + sizeOfAll elements
  | .object members => 1 + sizeOfMembers members
  | _ => 1
termination_by structural v => v

/-- The number of nodes of all the values. -/
def sizeOfAll : List Value → Nat
  | [] => 0
  | v :: vs => v.size + sizeOfAll vs
termination_by structural vs => vs

/-- The number of nodes of all the members' values. -/
def sizeOfMembers : List (String × Value) → Nat
  | [] => 0
  | m :: ms => sizeOfMember m + sizeOfMembers ms
termination_by structural ms => ms

/-- The number of nodes of a member's value. -/
def sizeOfMember : String × Value → Nat
  | (_, v) => v.size
termination_by structural m => m

end

end Value

end JsonPath
