/-!
# Arguments of the command line

`Request.ofArguments` reads the arguments: options, the name of a command, and what belongs to the
command. Options may stand in any order. A long option takes its value from behind an equals sign or
from the next argument; short options may be written together behind one dash, and what is left
behind one that takes a value is the value. Behind `--` there are no options.
-/

namespace JsonPath

/-- What is to be done with a query. -/
inductive Command where
  /-- Runs a query on a document that is read from a file, or from the input if none is named. -/
  | evaluate (query : String) (file : Option String) (paths pretty quiet : Bool)
  /-- Says whether a query is valid. -/
  | validate (query : String) (quiet : Bool)
  /-- Lists the functions that are known. -/
  | functions
deriving DecidableEq, Repr

/-- What the arguments ask for. -/
inductive Request where
  | version
  | help
  /-- The arguments do not fit. -/
  | misuse
  /-- A command, under the settings of a file if one is named. -/
  | command (config : Option String) (command : Command)
deriving DecidableEq, Repr

/-- The options. -/
inductive CommandOption where
  | config
  | file
  | paths
  | pretty
  | quiet
  | help
  | version
deriving DecidableEq, Repr

namespace CommandOption

/-- The letter of an option. -/
def letter? : CommandOption → Option Char
  | .config => some 'c'
  | .file => some 'f'
  | .paths => none
  | .pretty => some 'p'
  | .quiet => some 'q'
  | .help => some 'h'
  | .version => some 'V'

/-- The word of an option. -/
def word : CommandOption → String
  | .config => "config"
  | .file => "file"
  | .paths => "paths"
  | .pretty => "pretty"
  | .quiet => "quiet"
  | .help => "help"
  | .version => "version"

/-- Whether an option takes a value. -/
def takesValue : CommandOption → Bool
  | .config | .file => true
  | _ => false

/-- The options in front of a command. -/
def global : List CommandOption := [.config, .version, .help]

/-- The options of `evaluate`. -/
def ofEvaluate : List CommandOption := [.config, .file, .paths, .pretty, .quiet, .help]

/-- The options of `validate`. -/
def ofValidate : List CommandOption := [.config, .quiet, .help]

/-- The options of `functions`. -/
def ofFunctions : List CommandOption := [.config, .help]

end CommandOption

/-- The options that were given, with their values, and the other arguments. -/
structure ArgumentScan where
  options : List (CommandOption × String)
  words : List String

namespace ArgumentScan

/-- Whether an option was given. -/
def has (scan : ArgumentScan) (o : CommandOption) : Bool :=
  scan.options.any (·.1 == o)

/-- The value of an option. -/
def value? (scan : ArgumentScan) (o : CommandOption) : Option String :=
  (scan.options.find? (·.1 == o)).map (·.2)

/-- Adds an option. The first of `--help` and `--version` ends all reading, and no option is given
twice. -/
def addOption (scan : ArgumentScan) (o : CommandOption) (value : String) :
    Except Request ArgumentScan :=
  if o = .help then .error .help
  else if o = .version then .error .version
  else if scan.has o then .error .misuse
  else .ok { scan with options := (o, value) :: scan.options }

/-- Adds words that belong to no option, of which there may be no more than `most` in all. -/
def addWords (most : Nat) (scan : ArgumentScan) (words : List String) :
    Except Request ArgumentScan :=
  if scan.words.length + words.length ≤ most then
    .ok { scan with words := scan.words ++ words }
  else .error .misuse

/-- Whether an argument looks like an option. -/
def looksLikeOption (argument : String) : Bool :=
  match argument.toList with
  | '-' :: _ :: _ => true
  | _ => false

/-- What is behind an equals sign at the head of a value. -/
def withoutEquals (cs : List Char) : List Char :=
  match cs with
  | '=' :: rest => rest
  | _ => cs

/-- Reads the letters behind one dash; the second result is an option that takes the next argument
as its value. -/
def addLetters (allowed : List CommandOption) (scan : ArgumentScan) :
    List Char → Except Request (ArgumentScan × Option CommandOption)
  | [] => .ok (scan, none)
  | c :: cs =>
    match allowed.find? (·.letter? == some c) with
    | none => .error .misuse
    | some o =>
      if o.takesValue then
        if cs.isEmpty then .ok (scan, some o)
        else (scan.addOption o (String.ofList (withoutEquals cs))).map (·, none)
      else do addLetters allowed (← scan.addOption o "") cs

/-- Reads the word behind two dashes; the second result is an option that takes the next argument as
its value. -/
def addWord (allowed : List CommandOption) (scan : ArgumentScan) (cs : List Char) :
    Except Request (ArgumentScan × Option CommandOption) :=
  let name := String.ofList (cs.takeWhile (· != '='))
  match allowed.find? (·.word == name), cs.dropWhile (· != '=') with
  | none, _ => .error .misuse
  | some o, [] =>
    if o.takesValue then .ok (scan, some o) else (scan.addOption o "").map (·, none)
  | some o, _ :: value =>
    if o.takesValue then (scan.addOption o (String.ofList value)).map (·, none) else .error .misuse

/-- Reads arguments up to the first that is no option if `single` is set, and all of them if not.
There may be at most `most` words. An option that waits for its value is `waiting`. The second
result is what was not read. -/
def read (allowed : List CommandOption) (single : Bool) (most : Nat) (scan : ArgumentScan)
    (waiting : Option CommandOption) :
    List String → Except Request (ArgumentScan × List String)
  | [] => if waiting.isSome then .error .misuse else .ok (scan, [])
  | argument :: rest =>
    match waiting with
    | some o =>
      if looksLikeOption argument then .error .misuse
      else do read allowed single most (← scan.addOption o argument) none rest
    | none =>
      match argument.toList with
      | ['-', '-'] =>
        if single then .error .misuse else do return (← scan.addWords most rest, [])
      | '-' :: '-' :: cs => do
        let (scan, waiting) ← addWord allowed scan cs
        read allowed single most scan waiting rest
      | '-' :: c :: cs => do
        let (scan, waiting) ← addLetters allowed scan (c :: cs)
        read allowed single most scan waiting rest
      | _ => do
        let scan ← scan.addWords most [argument]
        if single then return (scan, rest) else read allowed single most scan none rest

/-- All options and words among arguments, with at most `most` words. -/
def all (allowed : List CommandOption) (most : Nat) (arguments : List String) :
    Except Request ArgumentScan :=
  (read allowed false most ⟨[], []⟩ none arguments).map (·.1)

end ArgumentScan

namespace Request

/-- The request for a command. Settings named behind the command count more than those in front. -/
def ofCommand (config : Option String) (scan : ArgumentScan) (command : Command) : Request :=
  .command ((scan.value? .config).or config) command

/-- What may follow the command `help`: nothing, or the name of one command. -/
def helpTopics : List (List String) :=
  [[], ["evaluate"], ["validate"], ["functions"], ["help"]]

/-- The request for the command of a name with the arguments behind it. -/
def ofNamed (config : Option String) (name : String) (arguments : List String) :
    Except Request Request := do
  match name with
  | "evaluate" =>
    let scan ← ArgumentScan.all CommandOption.ofEvaluate 1 arguments
    match scan.words with
    | [query] =>
      return ofCommand config scan
        (.evaluate query (scan.value? .file) (scan.has .paths) (scan.has .pretty)
          (scan.has .quiet))
    | _ => throw .misuse
  | "validate" =>
    let scan ← ArgumentScan.all CommandOption.ofValidate 1 arguments
    match scan.words with
    | [query] => return ofCommand config scan (.validate query (scan.has .quiet))
    | _ => throw .misuse
  | "functions" =>
    let scan ← ArgumentScan.all CommandOption.ofFunctions 0 arguments
    return ofCommand config scan .functions
  | "help" => throw (if helpTopics.contains arguments then .help else .misuse)
  | _ => throw .misuse

/-- What the arguments ask for. -/
def ofArguments (arguments : List String) : Request :=
  let read : Except Request Request := do
    let (scan, rest) ← ArgumentScan.read CommandOption.global true 1 ⟨[], []⟩ none arguments
    match scan.words with
    | [name] => ofNamed (scan.value? .config) name rest
    | _ => throw .misuse
  match read with
  | .ok request => request
  | .error request => request

end Request

end JsonPath
