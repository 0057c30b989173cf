import JsonPath.Evaluation.Comparison
import JsonPath.Evaluation.Selection
import JsonPath.Plan

/-!
# Running filters

Every expression of a filter comes to a `FilterValue`, which is then taken for what the place of the
expression needs: a test, an operand of a comparison, or an argument of a declared type. In a query
that has been checked no expression stands where its type has no meaning.

* `Filter.evaluate` gives the value of an expression at a node.
* `filterTests` makes tests of the filters in segments, so that the segments can be applied.
-/

namespace JsonPath

namespace FilterValue

/-! ## What a place makes of a value -/

/-- The value as a test: its outcome, or whether there is any node. -/
def toTest : FilterValue → Bool
  | .logical b => b
  | .nodes values => !values.isEmpty
  | .value _ => false

/-- The value as an operand of a comparison. -/
def toComparable : FilterValue → Comparable
  | .value (some v) => .value v
  | .value none => .nothing
  | .nodes values => .ofNodes values
  | .logical _ => .nothing

/-- The value as an argument of the declared type. A list of nodes is a value only if it has exactly
one. -/
def toArgument (v : FilterValue) : ExpressionType → Option FilterValue
  | .value =>
    match v with
    | .value w => some (.value w)
    | .nodes [w] => some (.value (some w))
    | _ => none
  | .logical => some (.logical v.toTest)
  | .nodes =>
    match v with
    | .nodes values => some (.nodes values)
    | _ => none

end FilterValue

/-- What the expressions of a query have in common while it runs. -/
structure EvaluationContext where
  maxDepth : Nat
  /-- The root of the document. -/
  root : Value

/-- The node that a query within a filter starts from. -/
def EvaluationContext.start (c : EvaluationContext) (current : Value) : QueryRoot → Value
  | .document => c.root
  | .current => current

/-- Takes a value for what a place needs, with a note if the type has no meaning there. -/
def placedAs (allowed : ExpressionType → Bool) (use : FilterValue → α)
    (v : Noted Event FilterValue) : Noted Event α := do
  let v ← v
  Noted.noteIf (!allowed v.type) (.misplaced v.type)
  return use v

/-- Calls a function. An answer in another form than declared counts as the empty value. -/
def FunctionExtension.invoke (f : FunctionExtension) (name : String)
    (arguments : List FilterValue) : Noted Event FilterValue := do
  Noted.note (.called name f arguments)
  let answer := f.evaluate arguments
  if answer.type = f.returnType then return answer
  else do
    Noted.note (.misanswered name answer.type f.returnType)
    return .emptyOf f.returnType

mutual

/-- The value of an expression at a node. -/
def Filter.evaluate (c : EvaluationContext) : Filter → Value → Noted Event FilterValue
  | .literal value, _ => return .value (some value)
  | .query root segments, current => do
    let start : Located Unit := ⟨(), c.start current root⟩
    let nodes ← select c.maxDepth (filterTests c segments) [start]
    return .nodes (nodes.map (·.value))
  | .comparison operator left right, current => do
    let l ← placedAs ExpressionType.isComparable FilterValue.toComparable (left.evaluate c current)
    let r ← placedAs ExpressionType.isComparable FilterValue.toComparable (right.evaluate c current)
    return .logical (operator.compare l r)
  | .logical operator operands, current => do
    match operator with
    | .and => return .logical (← allHold c operands current)
    | .or => return .logical (← anyHolds c operands current)
    | .not => return .logical (!(← anyHolds c operands current))
  | .call name function arguments, current => do
    match ← argumentValues c name arguments function.argumentTypes current with
    | none => return .emptyOf function.returnType
    | some values => function.invoke name values
  | .test inner, current => do
    return .logical (← placedAs ExpressionType.isTest FilterValue.toTest (inner.evaluate c current))
termination_by structural f => f

/-- Whether all expressions hold as tests; those behind one that does not are not looked at. -/
def allHold (c : EvaluationContext) : List Filter → Value → Noted Event Bool
  | [], _ => return true
  | f :: fs, current => do
    if ← placedAs ExpressionType.isTest FilterValue.toTest (f.evaluate c current)
    then allHold c fs current
    else return false
termination_by structural fs => fs

/-- Whether some expression holds as a test; those behind it are not looked at. -/
def anyHolds (c : EvaluationContext) : List Filter → Value → Noted Event Bool
  | [], _ => return false
  | f :: fs, current => do
    if ← placedAs ExpressionType.isTest FilterValue.toTest (f.evaluate c current)
    then return true
    else anyHolds c fs current
termination_by structural fs => fs

/-- The arguments of a call, each as its declared type needs it; there are none if one of them does
not reduce to a value. -/
def argumentValues (c : EvaluationContext) (name : String) :
    List Filter → List ExpressionType → Value → Noted Event (Option (List FilterValue))
  | [], _, _ => return some []
  | f :: fs, types, current =>
    match types with
    | [] => return some []
    | t :: ts => do
      let argument ← placedAs (fun type => (type.coerce t).isSome) (·.toArgument t)
        (f.evaluate c current)
      match argument with
      | none => do
        Noted.note (.unreduced name t)
        return none
      | some v => return (← argumentValues c name fs ts current).map (v :: ·)
termination_by structural fs => fs

/-- The segments with tests for their filters. -/
def filterTests (c : EvaluationContext) : List (Segment Filter) → List (Segment Test)
  | [] => []
  | s :: ss => segmentTests c s :: filterTests c ss
termination_by structural ss => ss

/-- The segment with tests for its filters. -/
def segmentTests (c : EvaluationContext) : Segment Filter → Segment Test
  | ⟨kind, selectors⟩ => ⟨kind, selectorTests c selectors⟩
termination_by structural s => s

/-- The selectors with tests for filters. -/
def selectorTests (c : EvaluationContext) : List (Selector Filter) → List (Selector Test)
  | [] => []
  | s :: ss => selectorTest c s :: selectorTests c ss
termination_by structural ss => ss

/-- The selector with a test for a filter. -/
def selectorTest (c : EvaluationContext) : Selector Filter → Selector Test
  | .name name => .name name
  | .index index => .index index
  | .wildcard => .wildcard
  | .slice bounds => .slice bounds
  | .filter predicate =>
    .filter fun current =>
      placedAs ExpressionType.isTest FilterValue.toTest (predicate.evaluate c current)
termination_by structural s => s

end

end JsonPath
