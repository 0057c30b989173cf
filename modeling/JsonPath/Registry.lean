import JsonPath.Plan.Compile

/-!
# Registries

A registry holds the repository that functions are registered with. The repository is in a cell, and
the views that are taken of it share this cell. A cell is written only while nobody else holds it;
if somebody does, the registry goes on with a cell of its own, and the views keep the one they have.

* `Registry.register` and `Registry.unregister` write.
* `Registry.snapshot` takes a view, and `Registry.drop` gives one up.
* `Registry.compile` takes a view for as long as it compiles a text.
-/

namespace JsonPath

/-- A repository, and how many hold it: the registry, and the views that share it. -/
structure Cell where
  content : Repository
  holders : Nat

/-- All cells, and the one with the functions that are registered now. -/
structure Registry where
  cells : List Cell
  current : Nat

/-- A view of a registry: the cell that it holds. -/
structure View where
  cell : Nat
deriving DecidableEq, Repr

namespace Registry

/-- A registry of its own for a repository. -/
def ofRepository (r : Repository) : Registry := ⟨[⟨r, 1⟩], 0⟩

/-- What a cell contains. A cell that there is not contains no function. -/
def content (g : Registry) (cell : Nat) : Repository :=
  (g.cells[cell]?.map Cell.content).getD .empty

/-- How many hold a cell. -/
def holders (g : Registry) (cell : Nat) : Nat :=
  (g.cells[cell]?.map Cell.holders).getD 0

/-- The functions that are registered now. -/
def repository (g : Registry) : Repository := g.content g.current

/-- The functions that a view shows. -/
def viewed (g : Registry) (v : View) : Repository := g.content v.cell

/-- The cells with another number of holders for one of them. -/
def recount (change : Nat → Nat) (cell : Nat) (cells : List Cell) : List Cell :=
  cells.modify cell fun c => { c with holders := change c.holders }

/-- The registry with another repository. It is written where the earlier one was if that is not
shared, and into a new cell otherwise. -/
def replace (g : Registry) (r : Repository) : Registry :=
  if g.holders g.current = 1 then
    { g with cells := g.cells.modify g.current fun c => { c with content := r } }
  else ⟨recount (· - 1) g.current g.cells ++ [⟨r, 1⟩], g.cells.length⟩

/-- The function under a name. -/
def lookup (g : Registry) (name : String) : Option FunctionExtension := g.repository.lookup name

/-- Whether there is a function under a name. -/
def contains (g : Registry) (name : String) : Bool := g.repository.contains name

/-- All names in ascending order. -/
def names (g : Registry) : List String := g.repository.names

/-- How many functions there are. -/
def size (g : Registry) : Nat := g.repository.size

/-- Puts a function under a name; the function that was there before is given back. -/
def register (g : Registry) (name : String) (f : FunctionExtension) :
    Noted LogLine (Registry × Option FunctionExtension) := do
  let done ← g.repository.register name f
  return (g.replace done.1, done.2)

/-- Takes the function under a name away and gives it back. If there is none, nothing is written. -/
def unregister (g : Registry) (name : String) :
    Noted LogLine (Registry × Option FunctionExtension) := do
  if g.contains name then
    let done ← g.repository.unregister name
    return (g.replace done.1, done.2)
  else return (g, none)

/-- Takes a view of the functions that are registered now. -/
def snapshot (g : Registry) : Registry × View :=
  ({ g with cells := recount (· + 1) g.current g.cells }, ⟨g.current⟩)

/-- Gives a view up. -/
def drop (g : Registry) (v : View) : Registry :=
  { g with cells := recount (· - 1) v.cell g.cells }

/-- Compiles a text with the functions that are registered now. -/
def compile (g : Registry) (settings : CompilerSettings) (source : String) :
    Registry × Noted CompileNote (Option Plan) :=
  let taken := g.snapshot
  (taken.1.drop taken.2, JsonPath.compile settings (taken.1.viewed taken.2) source)

end Registry

end JsonPath
