import JsonPath.Json.Reader

/-!
# Settings

The limits that a query is compiled and run under. They are read from a JSON text: an object with
members, or an array whose elements stand for the members in their order. What is left out keeps its
value, and members that are unknown are passed over.

* `Settings.read` reads a text.
-/

namespace JsonPath

/-- The settings of compilation. -/
structure CompilerSettings where
  /-- How deep filters, negations, parentheses and calls may stand inside one another. -/
  maxNestingDepth : Nat := 128
deriving DecidableEq, Repr

/-- The settings of evaluation. -/
structure EvaluatorSettings where
  /-- How far below its input a descendant segment goes. -/
  maxDepth : Nat := 1024
deriving DecidableEq, Repr

/-- All settings. -/
structure Settings where
  compiler : CompilerSettings := {}
  evaluator : EvaluatorSettings := {}
deriving DecidableEq, Repr

/-! ## Reading -/

/-- A member that is read into a record: its name, whether it has been met, and how its value
changes the record. -/
structure SettingField (α : Type) where
  name : String
  seen : Bool
  read : Reader (α → α)

namespace SettingField

/-- A field that is read by `reader`. -/
def of (name : String) (reader : Reader β) (change : β → α → α) : SettingField α :=
  ⟨name, false, do return change (← reader)⟩

/-- Marks the field of that name as met. -/
def mark (name : String) (fields : List (SettingField α)) : List (SettingField α) :=
  fields.map fun f => if f.name = name then { f with seen := true } else f

end SettingField

namespace Settings

/-- The largest number that a limit can be. -/
def greatestLimit : Int := UInt64.size - 1

/-- A limit: a whole number that is not negative. Whatever else is there is read as far as it takes
to see what it is. -/
def limit : Reader Nat := do
  let c ← Reader.peek
  if c = '[' ∨ c = '\x7b' then throw .mistyped
  else match ← Reader.valueOr (throw .mistyped) with
    | .number (.integer n) => if 0 ≤ n ∧ n ≤ greatestLimit then return n.toNat else throw .mistyped
    | _ => throw .mistyped

/-- The elements of an array behind its opening bracket, each read into the record by the field at
its place. An array with more elements than fields is malformed. -/
def elementsInto : List (SettingField α) → α → Bool → Reader α
  | [], record, _ => do
    if (← Reader.peek) = ']' then do
      Reader.drop
      return record
    else throw .malformed
  | f :: fields, record, first => do
    let c ← Reader.peek
    if c = ']' then do
      Reader.drop
      return record
    else do
      if !first then
        if c = ',' then Reader.drop else throw .malformed
        if (← Reader.peek) = ']' then throw .malformed
      let change ← f.read
      elementsInto fields (change record) false

/-- The members of an object behind its opening brace, read into the record by the fields of their
names. A field may be met only once. -/
def membersInto : Nat → List (SettingField α) → α → Bool → Reader α
  | 0, _, _, _ => throw .truncated
  | n + 1, fields, record, first => do
    let c ← Reader.peek
    if c = '\x7d' then do
      Reader.drop
      return record
    else do
      if !first then
        if c = ',' then Reader.drop else throw .malformed
      if (← Reader.peek) = '"' then Reader.drop else throw .malformed
      let name ← Reader.string
      match fields.find? (·.name == name) with
      | none => do
        Reader.expect ':'
        Reader.skipValue
        membersInto n fields record false
      | some f =>
        if f.seen then throw .mistyped
        else do
          Reader.expect ':'
          let change ← f.read
          membersInto n (SettingField.mark name fields) (change record) false

/-- A record whose members are given by fields. -/
def record (fields : List (SettingField α)) (start : α) : Reader α := do
  let c ← Reader.peek
  if c = '\x7b' then do
    Reader.drop
    membersInto (← read) fields start true
  else if c = '[' then do
    Reader.drop
    elementsInto fields start true
  else do
    let _ ← Reader.valueOr (throw .mistyped)
    throw .mistyped

/-- The settings of compilation. -/
def compilerSettings : Reader CompilerSettings :=
  record [.of "max_nesting_depth" limit fun n s => { s with maxNestingDepth := n }] {}

/-- The settings of evaluation. -/
def evaluatorSettings : Reader EvaluatorSettings :=
  record [.of "max_depth" limit fun n s => { s with maxDepth := n }] {}

/-- All settings. -/
def settings : Reader Settings :=
  record
    [.of "compiler" compilerSettings fun c s => { s with compiler := c },
      .of "evaluator" evaluatorSettings fun e s => { s with evaluator := e }] {}

/-- The settings that a text holds. -/
def read (text : String) : Except ReadError Settings :=
  settings.whole text

end Settings

end JsonPath
