import JsonPath.Function.Builtin
import JsonPath.Log
import JsonPath.Noted
import JsonPath.Text.Quoted

/-!
# The functions that are known by name

A `Repository` holds functions under their names, in the order of the names. It is a value: what was
compiled against it, or put aside as a snapshot, goes on seeing the functions that it held then.

* `Repository.register` puts a function under a name, in place of an earlier one.
* `Repository.unregister` takes one away.
-/

namespace JsonPath

/-- Functions under their names, in ascending order of the names. -/
structure Repository where
  entries : List (String × FunctionExtension)
  ascending : entries.Pairwise fun a b => a.1 < b.1

namespace Repository

/-- A repository without functions. -/
def empty : Repository := ⟨[], .nil⟩

/-- Puts a function into its place among entries in ascending order. -/
def insertEntry (name : String) (f : FunctionExtension) :
    List (String × FunctionExtension) → List (String × FunctionExtension)
  | [] => [(name, f)]
  | e :: es =>
    if name < e.1 then (name, f) :: e :: es
    else if name = e.1 then (name, f) :: es
    else e :: insertEntry name f es

theorem mem_insertEntry {name : String} {f : FunctionExtension} {e : String × FunctionExtension} :
    ∀ {es : List (String × FunctionExtension)}, e ∈ insertEntry name f es → e = (name, f) ∨ e ∈ es
  | [], member => by simpa [insertEntry] using member
  | d :: ds, member => by
    simp only [insertEntry] at member
    split at member
    · simpa using member
    · split at member
      · rcases List.mem_cons.1 member with here | later
        · exact .inl here
        · exact .inr (List.mem_cons_of_mem _ later)
      · rcases List.mem_cons.1 member with here | later
        · exact .inr (by simp [here])
        · rcases mem_insertEntry later with new | old
          · exact .inl new
          · exact .inr (List.mem_cons_of_mem _ old)

theorem ascending_insertEntry (name : String) (f : FunctionExtension) :
    ∀ {es : List (String × FunctionExtension)}, es.Pairwise (fun a b => a.1 < b.1) →
      (insertEntry name f es).Pairwise fun a b => a.1 < b.1
  | [], _ => by simp [insertEntry]
  | d :: ds, ascending => by
    have ⟨below, rest⟩ := List.pairwise_cons.1 ascending
    simp only [insertEntry]
    split
    · rename_i less
      refine List.pairwise_cons.2 ⟨fun e member => ?_, ascending⟩
      rcases List.mem_cons.1 member with rfl | later
      · exact less
      · exact String.lt_trans less (below e later)
    · split
      · rename_i same
        exact List.pairwise_cons.2 ⟨fun e member => same ▸ below e member, rest⟩
      · rename_i notLess notSame
        refine List.pairwise_cons.2 ⟨fun e member => ?_, ascending_insertEntry name f rest⟩
        rcases mem_insertEntry member with rfl | old
        · exact Std.lt_of_le_of_ne (String.not_lt.1 notLess) (Ne.symm notSame)
        · exact below e old

/-- The repository with a function under a name. -/
def insert (r : Repository) (name : String) (f : FunctionExtension) : Repository :=
  ⟨insertEntry name f r.entries, ascending_insertEntry name f r.ascending⟩

/-- The repository without a name. -/
def erase (r : Repository) (name : String) : Repository :=
  ⟨r.entries.filter (·.1 != name), r.ascending.filter _⟩

/-- The repository of the functions that are always there. -/
def builtins : Repository :=
  Builtin.all.foldl (fun r e => r.insert e.1 e.2) empty

/-- The function under a name. -/
def lookup (r : Repository) (name : String) : Option FunctionExtension :=
  (r.entries.find? (·.1 == name)).map (·.2)

/-- Whether there is a function under a name. -/
def contains (r : Repository) (name : String) : Bool :=
  (r.lookup name).isSome

/-- All names in ascending order. -/
def names (r : Repository) : List String :=
  r.entries.map (·.1)

/-- How many functions there are. -/
def size (r : Repository) : Nat :=
  r.entries.length

/-- Puts a function under a name; the function that was there before is given back. -/
def register (r : Repository) (name : String) (f : FunctionExtension) :
    Noted LogLine (Repository × Option FunctionExtension) :=
  ⟨(r.insert name f, r.lookup name),
    [⟨.debug, "Registering JSONPath function extension \"" ++ name ++ "\" (["
      ++ ", ".intercalate (f.argumentTypes.map ExpressionType.tag) ++ "]) -> "
      ++ f.returnType.text⟩]⟩

/-- Takes the function under a name away and gives it back. -/
def unregister (r : Repository) (name : String) :
    Noted LogLine (Repository × Option FunctionExtension) :=
  match r.lookup name with
  | none => ⟨(r, none), []⟩
  | some f =>
    ⟨(r.erase name, some f),
      [⟨.debug, "Unregistering JSONPath function extension \"" ++ name ++ "\""⟩]⟩

/-- The names in one line behind a title. -/
def namesText (title : String) (r : Repository) : String :=
  title ++ " \x7b names: [" ++ ", ".intercalate (r.names.map quoted) ++ "] \x7d"

/-- The repository in one line. -/
def describe : Repository → String := namesText "FunctionExtensionRepository"

/-- A repository put aside in one line. -/
def describeSnapshot : Repository → String := namesText "RepositorySnapshot"

end Repository

end JsonPath
