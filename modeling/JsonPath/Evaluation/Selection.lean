import JsonPath.Evaluation.Event
import JsonPath.Evaluation.Node
import JsonPath.Noted
import JsonPath.Query.Selector

/-!
# Selecting nodes

Segments are applied one after the other, each to all nodes that the one before selected.

* `resolveIndex` and `SliceBounds.indices` say which elements of an array are meant.
* `descendants` lists a node and what is below it, down to a limit.
* `select` applies segments.
-/

namespace JsonPath

/-! ## Elements of an array -/

/-- The place that an index stands for among `length` elements; a negative one counts from the
end. -/
def resolveIndex (length : Nat) (index : Int) : Option Nat :=
  let resolved := if index < 0 then length + index else index
  if 0 ≤ resolved ∧ resolved < length then some resolved.toNat else none

namespace SliceBounds

/-- A bound counted from the start. -/
def resolved (length : Nat) (bound : Int) : Int :=
  if bound < 0 then length + bound else bound

/-- The nearest number between two others. -/
def clamp (low high n : Int) : Int := max low (min n high)

/-- The numbers `start`, `start + step`, … of which `count` are taken. -/
def progression (start step : Int) (count : Nat) : List Int :=
  (List.range count).map fun (k : Nat) => start + k * step

/-- How many numbers `low`, `low + step`, … are below `high`. -/
def stepsBetween (low high step : Int) : Nat :=
  ((high - low + step - 1) / step).toNat

/-- The first place of a slice, and the place that it ends in front of; a slice that goes backwards
counts down between them. -/
def limits (length : Nat) (b : SliceBounds) (forward : Bool) : Int × Int :=
  if forward then
    (clamp 0 length ((b.start.map (resolved length)).getD 0),
      clamp 0 length ((b.stop.map (resolved length)).getD length))
  else
    (clamp (-1) (length - 1) ((b.start.map (resolved length)).getD (length - 1)),
      clamp (-1) (length - 1) ((b.stop.map (resolved length)).getD (-length - 1)))

/-- The places of a slice among `length` elements, in the order in which they are selected. A step
of zero selects nothing. -/
def indices (length : Nat) (b : SliceBounds) : List Nat :=
  let step := b.step.getD 1
  let places :=
    if 0 < step then
      let (first, last) := b.limits length true
      progression first step (stepsBetween first last step)
    else if step < 0 then
      let (first, last) := b.limits length false
      progression first step (stepsBetween last first (-step))
    else []
  places.map Int.toNat

end SliceBounds

/-- The element at a place with the step to it. -/
def elementAt? (elements : Array Value) (index : Nat) : Option (PathStep × Value) :=
  elements[index]?.map fun v => (.index index, v)

/-! ## Descendants -/

/-- Visits nodes in the order of the document. `pending` holds the nodes yet to be visited, the next
one first, and how deep they are; no more nodes are visited than the count says. The second result
tells whether anything was left out for being too deep. -/
def visit [Location L] (maxDepth : Nat) :
    Nat → List (Located L × Nat) → List (Located L) × Bool
  | 0, _ => ([], false)
  | _, [] => ([], false)
  | n + 1, (node, depth) :: pending =>
    let below := node.children
    if depth < maxDepth then
      let visited := visit maxDepth n (below.map (·, depth + 1) ++ pending)
      (node :: visited.1, visited.2)
    else
      let visited := visit maxDepth n pending
      (node :: visited.1, !below.isEmpty || visited.2)

/-- A node and everything below it that is not too deep. -/
def descendants [Location L] (maxDepth : Nat) (node : Located L) :
    Noted Event (List (Located L)) := do
  let visited := visit maxDepth node.value.size [(node, 0)]
  Noted.noteIf visited.2 (.truncated maxDepth)
  return visited.1

/-! ## Selectors and segments -/

/-- A test of a node, of which only the value matters. -/
abbrev Test := Value → Noted Event Bool

/-- The children of a node that a selector picks, in the order in which it picks them. -/
def Selector.pick [Location L] (node : Located L) :
    Selector Test → Noted Event (List (Located L))
  | .name key =>
    return ((Value.member? key node.value.members).map fun v => node.child (.name key, v)).toList
  | .index place =>
    let elements := node.value.elements.toArray
    return (((resolveIndex elements.size place).bind (elementAt? elements)).map
      node.child).toList
  | .wildcard => return node.children
  | .slice bounds =>
    let elements := node.value.elements.toArray
    return ((bounds.indices elements.size).filterMap (elementAt? elements)).map node.child
  | .filter test => Noted.filter (fun child => test child.value) node.children

/-- What a segment selects for one node. -/
def Segment.apply [Location L] (maxDepth : Nat) (segment : Segment Test) (node : Located L) :
    Noted Event (List (Located L)) :=
  let pickAll (node : Located L) := Noted.collect (Selector.pick node) segment.selectors
  match segment.kind with
  | .child => pickAll node
  | .descendant => do Noted.collect pickAll (← descendants maxDepth node)

/-- What segments select from nodes, one segment after the other. -/
def select [Location L] (maxDepth : Nat) :
    List (Segment Test) → List (Located L) → Noted Event (List (Located L))
  | [], nodes => return nodes
  | segment :: segments, nodes => do
    select maxDepth segments (← Noted.collect (segment.apply maxDepth) nodes)

end JsonPath
