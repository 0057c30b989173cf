import JsonPath.Function.Extension
import JsonPath.Log
import JsonPath.Number

/-!
# What happens while a query runs

An `Event` is something that happens in the course of evaluation. `Event.line?` says what the log is
told of it.
-/

namespace JsonPath

/-- Something that happens while a query runs. -/
inductive Event where
  /-- A traversal left out what is deeper than the limit. -/
  | truncated (maxDepth : Nat)
  /-- A function is called with arguments. -/
  | called (name : String) (function : FunctionExtension) (arguments : List FilterValue)
  /-- An argument has no single value, and the function is not called. -/
  | unreduced (name : String) (declared : ExpressionType)
  /-- A function answered in another form than it declares. -/
  | misanswered (name : String) (answered declared : ExpressionType)
  /-- An expression stands where one of its type has no meaning. -/
  | misplaced (type : ExpressionType)
  /-- The query has been run. -/
  | finished (source : String) (count : Nat)

/-- The line of the log for an event. -/
def Event.line? : Event → Option LogLine
  | .truncated maxDepth =>
    some ⟨.warn, "descendant traversal truncated at depth " ++ decimalText maxDepth⟩
  | .called .. => none
  | .unreduced name declared =>
    some ⟨.trace, "argument of " ++ name ++ " does not reduce to " ++ declared.text⟩
  | .misanswered name answered declared =>
    some ⟨.warn, "function extension " ++ name ++ " returned " ++ answered.text
      ++ " but declares " ++ declared.text⟩
  | .misplaced _ => none
  | .finished source count =>
    some ⟨.trace, source ++ " matched " ++ decimalText count ++ " nodes"⟩

end JsonPath
