import JsonPath.CommandLine.Arguments
import JsonPath.Evaluation
import JsonPath.Json.Writer
import JsonPath.Plan.Compile

/-!
# The command line

`Request.run` says what a request prints and which code it ends with. The files and the input that
it reads are given to it as an `Environment`.
-/

namespace JsonPath

/-- The texts that a command may read. One that is missing, or is no text, cannot be read. -/
structure Environment where
  file : String → Option String
  input : Option String

/-- What a command prints and the code that it ends with. -/
structure Outcome where
  code : Nat
  stdout : String
  stderr : String
deriving DecidableEq, Repr

namespace Outcome

/-- Lines one below the other. -/
def lines (texts : List String) : String :=
  String.join (texts.map (· ++ "\n"))

/-- Success with lines to print. -/
def success (stdout stderr : List String) : Outcome := ⟨0, lines stdout, lines stderr⟩

/-- Failure with lines to print. -/
def failure (stderr : List String) : Outcome := ⟨1, "", lines stderr⟩

/-- The failure of something that the command rests on. -/
def error (message : String) : Outcome := failure ["Error: " ++ message]

end Outcome

namespace Request

/-- How to call the program. -/
def usage : List String :=
  ["Usage: octofhir-jsonpath [OPTIONS] <COMMAND>",
    "",
    "Commands:",
    "  evaluate <EXPRESSION>  Evaluate a JSONPath query against a JSON document",
    "  validate <EXPRESSION>  Compile a JSONPath query and report every diagnostic",
    "  functions              List the registered function extensions with their signatures",
    "",
    "Options:",
    "  -c, --config <CONFIG>  JSON file with compiler and evaluator settings",
    "  -h, --help             Print help",
    "  -V, --version          Print version"]

/-- The settings in a file, or those that hold if none is named. -/
def settings (e : Environment) : Option String → Except Outcome Settings
  | none => .ok {}
  | some file =>
    match e.file file with
    | none => .error (.error ("Error reading config '" ++ file ++ "'"))
    | some text =>
      match Settings.read text with
      | .ok settings => .ok settings
      | .error _ => .error (.error ("Error parsing config '" ++ file ++ "'"))

/-- The document in a file, or in the input if none is named. -/
def document (e : Environment) (file : Option String) : Except Outcome Value := do
  let text ←
    match file with
    | some file =>
      match e.file file with
      | some text => pure text
      | none => throw (.error ("Error reading file '" ++ file ++ "'"))
    | none =>
      match e.input with
      | some text => pure text
      | none => throw (.error "Error reading from stdin")
  match Value.read documentDepth text with
  | .ok v => return v
  | .error _ => throw (.error "Error parsing JSON document")

/-- Runs a query. -/
def evaluate (e : Environment) (s : Settings) (query : String) (file : Option String)
    (paths pretty quiet : Bool) : Except Outcome Outcome := do
  let document ← document e file
  match (compile s.compiler .builtins query).value with
  | none =>
    return .failure ((findings s.compiler .builtins query).map fun d => "✗ " ++ d.message)
  | some plan =>
    let nodes := (plan.evaluate s.evaluator document).value
    let result := Value.array
      (nodes.map fun n => if paths then .string n.location.text else n.value)
    return .success [if pretty then result.pretty else result.compact]
      (if quiet then []
        else ["Expression: " ++ query, "Matched " ++ decimalText nodes.length ++ " nodes"])

/-- Says whether a query is valid. -/
def validate (s : Settings) (query : String) (quiet : Bool) : Outcome :=
  match (compile s.compiler .builtins query).value with
  | some _ =>
    .success (if quiet then ["VALID"] else ["✓ Expression is valid", "Expression: " ++ query]) []
  | none =>
    .failure
      (if quiet then ["INVALID"]
        else ("✗ Invalid expression: " ++ query)
          :: (findings s.compiler .builtins query).map fun d => "  " ++ d.message)

/-- The lines about a function. -/
def functionLines (name : String) (f : FunctionExtension) : List String :=
  (name ++ "(" ++ ExpressionType.listText f.argumentTypes ++ ") -> " ++ f.returnType.text)
    :: (if f.documentation.isEmpty then [] else ["    " ++ f.documentation])

/-- Lists the functions that are known. -/
def listFunctions : Outcome :=
  .success (Repository.builtins.entries.flatMap fun e => functionLines e.1 e.2) []

/-- What a request prints and which code it ends with. -/
def run (e : Environment) : Request → Outcome
  | .version => .success ["octofhir-jsonpath 0.1.0"] []
  | .help => .success usage []
  | .misuse => ⟨2, "", Outcome.lines usage⟩
  | .command config task =>
    let outcome : Except Outcome Outcome := do
      let s ← settings e config
      match task with
      | .evaluate query file paths pretty quiet => evaluate e s query file paths pretty quiet
      | .validate query quiet => return validate s query quiet
      | .functions => return listFunctions
    match outcome with
    | .ok outcome => outcome
    | .error outcome => outcome

/-- The files that a request reads. -/
def files : Request → List String
  | .command config (.evaluate _ file _ _ _) => config.toList ++ file.toList
  | .command config _ => config.toList
  | _ => []

/-- Whether a request reads the input. -/
def readsInput : Request → Bool
  | .command _ (.evaluate _ none _ _ _) => true
  | _ => false

end Request

end JsonPath
