import JsonPath.Listener
import JsonPath.Plan.Analysis
import JsonPath.Query.Log
import JsonPath.Settings

/-!
# Compilation

A query text is read and analysed. It has a plan only if there is nothing to report about it.

* `compile` gives the plan, with what the log is told and what is reported as notes.
* `compileFor` tells a listener, in the order of the notes.
-/

namespace JsonPath

/-- What happens in the course of compilation. -/
inductive CompileNote where
  | logged (line : LogLine)
  | reported (finding : Diagnostic)

namespace CompileNote

/-- The line for the log, if the note is one. -/
def line? : CompileNote → Option LogLine
  | .logged line => some line
  | .reported _ => none

/-- The finding, if the note reports one. -/
def finding? : CompileNote → Option Diagnostic
  | .logged _ => none
  | .reported finding => some finding

end CompileNote

/-- The plan of a tree, if there is nothing to report, with what the log is told. -/
def planOf (source : String) (segments : Option (List (Segment Filter))) (findings : Nat) :
    Noted LogLine (Option Plan) :=
  match segments, findings with
  | some segments, 0 =>
    ⟨some ⟨source, segments⟩,
      [⟨.debug, "compiled JSONPath " ++ quoted source ++ " into " ++ decimalText segments.length
        ++ " segments"⟩]⟩
  | _, _ =>
    ⟨none,
      [⟨.debug, "JSONPath " ++ quoted source ++ " failed to compile with " ++ decimalText findings
        ++ " diagnostics"⟩]⟩

/-- The line that tells that a text is no query. -/
def SyntaxError.logLine (source : String) (e : SyntaxError) : LogLine :=
  ⟨.debug, "JSONPath " ++ quoted source ++ " rejected by the parser: " ++ e.report⟩

/-- The plan of a query text. -/
def compile (settings : CompilerSettings) (repository : Repository) (source : String) :
    Noted CompileNote (Option Plan) := do
  match ← (parseLogged settings.maxNestingDepth source).mapNotes .logged with
  | .error e => do
    Noted.note (.logged (e.logLine source))
    Noted.note (.reported (.ofSyntaxError e))
    return none
  | .ok tree => do
    let analysis := segmentsOf ⟨source, repository⟩ tree.segments
    let segments ← analysis.mapNotes .reported
    (planOf source (allPresent segments) analysis.notes.length).mapNotes .logged

/-- The findings about a query text, in the order in which they are reported. -/
def findings (settings : CompilerSettings) (repository : Repository) (source : String) :
    List Diagnostic :=
  (compile settings repository source).notes.filterMap CompileNote.finding?

/-- The wording for a text that has no plan, from what was found about it. -/
def failureMessage (source : String) (found : List Diagnostic) : String :=
  "Failed to compile JSONPath \"" ++ source ++ "\": "
    ++ "; ".intercalate (found.map Diagnostic.message)

/-- Compiles a text and tells a listener what is found; `record` keeps what the log is told. -/
def compileFor (listener : Listener σ) (record : LogLine → σ → σ) (settings : CompilerSettings)
    (repository : Repository) (source : String) (s : σ) : Option Plan × σ :=
  let compiled := compile settings repository source
  (compiled.value, compiled.notes.foldl (fun s n => tell n s) s)
where
  /-- Passes a note on. -/
  tell : CompileNote → σ → σ
    | .logged line, s => record line s
    | .reported finding, s => finding.dispatch listener s

end JsonPath
