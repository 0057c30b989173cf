import JsonPath.Diagnostic
import JsonPath.Function.Repository
import JsonPath.Plan
import JsonPath.Query.Expression

/-!
# From the tree of a query to a plan

Analysis binds the calls in a query to functions and checks that every expression may stand where it
does. Its notes are the findings, in the order of the text, those about the parts of an expression
in front of those about the expression itself.

What has no plan yields none, and nothing more is said about what it is part of; its neighbours are
looked at all the same. A finding about the place of an expression leaves its plan as it is.

* `Expression.analyse` and `segmentsOf` go over expressions and segments.
-/

namespace JsonPath

/-- Where the names and the texts of expressions are looked up. -/
structure AnalysisContext where
  source : String
  repository : Repository

/-- A result with the findings on the way to it. -/
abbrev Analysis := Noted Diagnostic

/-- All items, if none is missing. -/
def allPresent : List (Option α) → Option (List α)
  | [] => some []
  | x? :: xs =>
    match x?, allPresent xs with
    | some x, some xs => some (x :: xs)
    | _, _ => none

namespace AnalysisContext

/-- The text of an expression. -/
def textOf (c : AnalysisContext) (e : Expression) : String :=
  e.span.text c.source

/-! ## Places -/

/-- The finding that an expression is no test. -/
def noTest (c : AnalysisContext) (e : Expression) : Diagnostic :=
  match e.functionName? with
  | some name => .functionIsNoTest name
  | none => .invalidTest (c.textOf e)

/-- The finding that an expression cannot be compared. -/
def notComparable (c : AnalysisContext) (e : Expression) : Diagnostic :=
  match e.functionName? with
  | some name => .functionIsNotComparable name
  | none => .invalidTest (c.textOf e)

/-- Adds the finding `misplaced` if the type of the plan does not do. -/
def placed (allowed : ExpressionType → Bool) (misplaced : Diagnostic)
    (plan : Analysis (Option Filter)) : Analysis (Option Filter) := do
  match ← plan with
  | none => return none
  | some f =>
    Noted.noteIf (!allowed f.type) misplaced
    return some f

/-- Checks that an expression may stand as a test. -/
def asTest (c : AnalysisContext) (e : Expression) (plan : Analysis (Option Filter)) :
    Analysis (Option Filter) :=
  placed ExpressionType.isTest (c.noTest e) plan

/-- Checks that an expression may be compared. -/
def asComparable (c : AnalysisContext) (e : Expression) (plan : Analysis (Option Filter)) :
    Analysis (Option Filter) :=
  placed ExpressionType.isComparable (c.notComparable e) plan

/-! ## Calls -/

/-- Each argument with the type it takes on. One that no type is declared for keeps its own. -/
def coerced (c : AnalysisContext) :
    List ExpressionType → List (Filter × Expression) → List CoercedArgument
  | _, [] => []
  | [], (f, e) :: rest => ⟨some f.type, c.textOf e⟩ :: coerced c [] rest
  | t :: ts, (f, e) :: rest => ⟨f.type.coerce t, c.textOf e⟩ :: coerced c ts rest

/-- Whether there are as many arguments as declared, and each takes on its type. -/
def fits (expected : List ExpressionType) (actual : List CoercedArgument) : Bool :=
  actual.length == expected.length && actual.all (·.type.isSome)

/-- The plan of a call whose arguments have been analysed. -/
def call (c : AnalysisContext) (name : String) (arguments : List Expression)
    (plans : List (Option Filter)) : Analysis (Option Filter) :=
  match c.repository.lookup name with
  | none => do
    Noted.note (.unknownFunction name)
    return none
  | some function =>
    match allPresent plans with
    | none => return none
    | some filters => do
      let actual := c.coerced function.argumentTypes (filters.zip arguments)
      Noted.noteIf (!fits function.argumentTypes actual)
        (.badArguments name function.argumentTypes actual)
      return some (.call name function filters)

end AnalysisContext

/-- The plan of combined tests. -/
def logicalOf (operator : LogicalOperator) (plans : List (Option Filter)) : Option Filter :=
  (allPresent plans).map (.logical operator)

/-- The plan of a comparison. -/
def comparisonOf (operator : ComparisonOperator) :
    Option Filter → Option Filter → Option Filter
  | some left, some right => some (.comparison operator left right)
  | _, _ => none

/-! ## Trees -/

mutual

/-- The plan of an expression. -/
def Expression.analyse (c : AnalysisContext) : Expression → Analysis (Option Filter)
  | .literal value _ => return some (.literal value)
  | .query tree => queryOf c tree
  | .call name arguments _ => do
    c.call name arguments (← argumentsOf c arguments)
  | .comparison operator left right _ => do
    let first ← c.asComparable left (left.analyse c)
    let second ← c.asComparable right (right.analyse c)
    return comparisonOf operator first second
  | .not operand _ => do
    let plan ← c.asTest operand (operand.analyse c)
    return logicalOf .not [plan]
  | .and operands _ => return logicalOf .and (← testsOf c operands)
  | .or operands _ => return logicalOf .or (← testsOf c operands)
  | .paren inner _ => do
    let plan ← c.asTest inner (inner.analyse c)
    return plan.map .test
termination_by structural e => e

/-- The plan of each expression. -/
def argumentsOf (c : AnalysisContext) : List Expression → Analysis (List (Option Filter))
  | [] => return []
  | e :: es => do
    let plan ← e.analyse c
    return plan :: (← argumentsOf c es)
termination_by structural es => es

/-- The plan of each expression, all of which stand as tests. -/
def testsOf (c : AnalysisContext) : List Expression → Analysis (List (Option Filter))
  | [] => return []
  | e :: es => do
    let plan ← c.asTest e (e.analyse c)
    return plan :: (← testsOf c es)
termination_by structural es => es

/-- The plan of a query within a filter. -/
def queryOf (c : AnalysisContext) : Query Expression → Analysis (Option Filter)
  | ⟨root, segments, _⟩ => do
    return (allPresent (← segmentsOf c segments)).map (.query root)
termination_by structural q => q

/-- The plan of each segment. -/
def segmentsOf (c : AnalysisContext) :
    List (Segment Expression) → Analysis (List (Option (Segment Filter)))
  | [] => return []
  | s :: ss => do
    let plan ← segmentOf c s
    return plan :: (← segmentsOf c ss)
termination_by structural ss => ss

/-- The plan of a segment. -/
def segmentOf (c : AnalysisContext) : Segment Expression → Analysis (Option (Segment Filter))
  | ⟨kind, selectors⟩ => do
    return (allPresent (← selectorsOf c selectors)).map (⟨kind, ·⟩)
termination_by structural s => s

/-- The plan of each selector. -/
def selectorsOf (c : AnalysisContext) :
    List (Selector Expression) → Analysis (List (Option (Selector Filter)))
  | [] => return []
  | s :: ss => do
    let plan ← selectorOf c s
    return plan :: (← selectorsOf c ss)
termination_by structural ss => ss

/-- The plan of a selector; a filter stands as a test. -/
def selectorOf (c : AnalysisContext) : Selector Expression → Analysis (Option (Selector Filter))
  | .name name => return some (.name name)
  | .index index => return some (.index index)
  | .wildcard => return some .wildcard
  | .slice bounds => return some (.slice bounds)
  | .filter predicate => do
    let plan ← c.asTest predicate (predicate.analyse c)
    return plan.map .filter
termination_by structural s => s

end

end JsonPath
