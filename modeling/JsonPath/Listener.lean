import JsonPath.Diagnostic
import JsonPath.Log

/-!
# Listeners

A listener is told the findings about a query text. It is a set of operations, one for each kind of
finding, on a state of type `σ`; those that are not given of their own pack the finding up as a
`Diagnostic` and hand it to `diagnostic`.

* `Diagnostic.dispatch` hands a finding to the operation for its kind.
* `Listener.fanOut` passes every finding on to several listeners.
-/

namespace JsonPath

/-- What becomes of a state with each kind of finding. -/
structure Listener (σ : Type) where
  /-- Takes the findings for which there is no operation of its own. -/
  diagnostic : Diagnostic → σ → σ := fun _ s => s
  unknownFunction : String → σ → σ := fun name => diagnostic (.unknownFunction name)
  functionIsNoTest : String → σ → σ := fun name => diagnostic (.functionIsNoTest name)
  functionIsNotComparable : String → σ → σ :=
    fun name => diagnostic (.functionIsNotComparable name)
  badArguments : String → List ExpressionType → List CoercedArgument → σ → σ :=
    fun name expected actual => diagnostic (.badArguments name expected actual)
  invalidTest : String → σ → σ := fun text => diagnostic (.invalidTest text)
  malformed : Nat → Nat → String → Option String → σ → σ :=
    fun line column message offending => diagnostic (.malformed line column message offending)

/-- Hands a finding to the operation for its kind. -/
def Diagnostic.dispatch (l : Listener σ) : Diagnostic → σ → σ
  | .unknownFunction name => l.unknownFunction name
  | .functionIsNoTest name => l.functionIsNoTest name
  | .functionIsNotComparable name => l.functionIsNotComparable name
  | .badArguments name expected actual => l.badArguments name expected actual
  | .invalidTest text => l.invalidTest text
  | .malformed line column message offending => l.malformed line column message offending

namespace Listener

/-- Hands findings over one after the other. -/
def hear (l : Listener σ) (ds : List Diagnostic) (s : σ) : σ :=
  ds.foldl (fun s d => d.dispatch l s) s

/-- Ignores every finding. -/
def silent : Listener σ := {}

/-- Keeps every finding, the last one at the end. -/
def collector : Listener (List Diagnostic) where
  diagnostic d ds := ds ++ [d]

/-- Takes the findings that a collector keeps, and leaves it empty. -/
def takeKept (ds : List Diagnostic) : List Diagnostic × List Diagnostic := (ds, [])

/-- Writes every finding to the log as an error. -/
def logging : Listener (List LogLine) where
  diagnostic d lines := lines ++ [⟨.error, d.message⟩]

/-- Keeps the names of the functions that are unknown and ignores everything else. -/
def unknownNames : Listener (List String) where
  unknownFunction name names := names ++ [name]

/-- Passes every finding on to each of the listeners in turn. -/
def fanOut (ls : List (Listener σ)) : Listener σ where
  diagnostic d s := ls.foldl (fun s l => d.dispatch l s) s

/-- The listener on a part of a state, which `change` applies a function to. -/
def onPart (change : (τ → τ) → σ → σ) (l : Listener τ) : Listener σ where
  diagnostic d := change (l.diagnostic d)
  unknownFunction name := change (l.unknownFunction name)
  functionIsNoTest name := change (l.functionIsNoTest name)
  functionIsNotComparable name := change (l.functionIsNotComparable name)
  badArguments name expected actual := change (l.badArguments name expected actual)
  invalidTest text := change (l.invalidTest text)
  malformed line column message offending :=
    change (l.malformed line column message offending)

end Listener

end JsonPath
