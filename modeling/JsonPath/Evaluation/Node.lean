import JsonPath.Json.Value
import JsonPath.Text.Escape

/-!
# Nodes and their locations

A node is a value of a document together with its location. A query that is run for its result keeps
the `NormalizedPath` of every node; one within a filter needs no locations, and the unit type serves
as location then.

* `Value.children` lists the children of a value with the steps that lead to them.
* `NormalizedPath.text` writes a path.
-/

namespace JsonPath

/-- A step from a value to one of its children. -/
inductive PathStep where
  | name (name : String)
  | index (index : Nat)
deriving DecidableEq, Repr

/-- The steps from the root of a document to a node. -/
structure NormalizedPath where
  steps : List PathStep
deriving DecidableEq, Repr

/-- A type of locations. -/
class Location (L : Type) where
  /-- The location one step below another. -/
  child : L → PathStep → L

instance : Location Unit where
  child _ _ := ()

namespace NormalizedPath

/-- The path of the root. -/
def root : NormalizedPath := ⟨[]⟩

/-- The path one step further. -/
def child (p : NormalizedPath) (step : PathStep) : NormalizedPath := ⟨p.steps ++ [step]⟩

instance : Location NormalizedPath where
  child := child

/-- The number of steps. -/
def length (p : NormalizedPath) : Nat := p.steps.length

/-- Whether it is the path of the root. -/
def isRoot (p : NormalizedPath) : Bool := p.steps.isEmpty

/-- How a character of a name is written between single quotes. -/
def escaped (c : Char) : List Char :=
  if c = '\x08' then ['\\', 'b']
  else if c = '\x0c' then ['\\', 'f']
  else if c = '\n' then ['\\', 'n']
  else if c = '\r' then ['\\', 'r']
  else if c = '\t' then ['\\', 't']
  else if c = '\'' then ['\\', '\'']
  else if c = '\\' then ['\\', '\\']
  else if c.toNat < 0x20 then '\\' :: 'u' :: hexText 4 c.toNat
  else [c]

/-- How a step is written. -/
def stepText : PathStep → List Char
  | .name name => '[' :: '\'' :: (name.toList.flatMap escaped ++ ['\'', ']'])
  | .index index => '[' :: (Nat.toDigits 10 index ++ [']'])

/-- How a path is written. -/
def text (p : NormalizedPath) : String :=
  String.ofList ('$' :: p.steps.flatMap stepText)

end NormalizedPath

/-- A value and its location. -/
structure Located (L : Type) where
  location : L
  value : Value
deriving Repr

/-- A value and its path. -/
abbrev Node := Located NormalizedPath

/-- The members of an object or the elements of an array, in their order, with the steps to them. -/
def Value.children : Value → List (PathStep × Value)
  | .object members => members.map fun m => (.name m.1, m.2)
  | .array elements => elements.zipIdx.map fun e => (.index e.2, e.1)
  | _ => []

namespace Located

/-- The node one step below. -/
def child [Location L] (node : Located L) (step : PathStep × Value) : Located L :=
  ⟨Location.child node.location step.1, step.2⟩

/-- The children of a node. -/
def children [Location L] (node : Located L) : List (Located L) :=
  node.value.children.map node.child

end Located

end JsonPath
