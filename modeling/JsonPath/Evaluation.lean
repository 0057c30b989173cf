import JsonPath.Evaluation.Filter
import JsonPath.Settings

/-!
# Running queries

`Plan.evaluate` gives the nodes of a document that a plan selects, with what happened on the way.
Evaluation does not fail: what is missing or does not fit is not selected.
-/

namespace JsonPath

/-- The nodes of a document that a plan selects, in the order of selection. -/
def Plan.evaluate (settings : EvaluatorSettings) (plan : Plan) (document : Value) :
    Noted Event (List Node) := do
  let tests := filterTests ⟨settings.maxDepth, document⟩ plan.segments
  let nodes ← select settings.maxDepth tests [⟨.root, document⟩]
  Noted.note (.finished plan.source nodes.length)
  return nodes

/-- What the log is told while a query runs. -/
def Noted.lines (run : Noted Event α) : List LogLine :=
  run.notes.filterMap Event.line?

end JsonPath
