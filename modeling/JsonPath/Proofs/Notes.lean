import JsonPath.Evaluation.Selection

/-!
# Notes that satisfy a predicate

`Noted.Only p m` says that every note of `m` satisfies `p`. The lemmas carry it through the ways in
which noted computations are put together, up to the selection of nodes by segments.

Results:
1. `only_bind`, `only_collect`, `only_filter`: notes of a whole come from its parts.
2. `only_select`: if the tests of all filters take only such notes, and leaving out what is too deep
   may be noted, then selecting takes only such notes.
-/

namespace JsonPath

namespace Noted

variable {ν α β : Type} {p : ν → Prop}

/-- Every note that was taken satisfies `p`. -/
def Only (p : ν → Prop) (m : Noted ν α) : Prop :=
  ∀ n ∈ m.notes, p n

@[simp] theorem only_pure (x : α) : Only p (pure x) := by
  simp [Only]

@[simp] theorem only_bind (m : Noted ν α) (f : α → Noted ν β) :
    Only p (m >>= f) ↔ Only p m ∧ Only p (f m.value) := by
  simp only [Only, notes_bind, List.mem_append, or_imp, forall_and]

@[simp] theorem only_note (n : ν) : Only p (note n) ↔ p n := by
  simp [Only, note]

@[simp] theorem only_noteIf (condition : Bool) (n : ν) :
    Only p (noteIf condition n) ↔ (condition = true → p n) := by
  cases condition <;> simp [Only, noteIf]

theorem only_collect {f : α → Noted ν (List β)} {xs : List α}
    (each : ∀ x ∈ xs, Only p (f x)) : Only p (collect f xs) := by
  induction xs with
  | nil => exact only_pure _
  | cons x xs ih =>
    have later := ih fun y member => each y (List.mem_cons_of_mem _ member)
    simp only [collect, only_bind, only_pure, and_true]
    exact ⟨each x List.mem_cons_self, later⟩

theorem only_filter {test : α → Noted ν Bool} {xs : List α}
    (each : ∀ x ∈ xs, Only p (test x)) : Only p (filter test xs) := by
  induction xs with
  | nil => exact only_pure _
  | cons x xs ih =>
    have later := ih fun y member => each y (List.mem_cons_of_mem _ member)
    simp only [filter, only_bind, only_pure, and_true]
    exact ⟨each x List.mem_cons_self, later⟩

end Noted

/-! ## Selection -/

/-- The tests of a selector take only notes that satisfy `p`. -/
def Selector.TestsOnly (p : Event → Prop) (selector : Selector Test) : Prop :=
  ∀ test, selector = .filter test → ∀ v, (test v).Only p

variable {L : Type} [Location L] {p : Event → Prop}

theorem only_pick {selector : Selector Test} (tests : selector.TestsOnly p) (node : Located L) :
    (selector.pick node).Only p := by
  cases selector with
  | filter test => exact Noted.only_filter fun child _ => tests test rfl child.value
  | _ => exact Noted.only_pure _

theorem only_descendants {maxDepth : Nat} (truncated : p (.truncated maxDepth))
    (node : Located L) : (descendants maxDepth node).Only p := by
  simp only [descendants, Noted.only_bind, Noted.only_noteIf, Noted.only_pure, and_true]
  exact fun _ => truncated

theorem only_apply {maxDepth : Nat} (truncated : p (.truncated maxDepth)) {segment : Segment Test}
    (tests : ∀ selector ∈ segment.selectors, selector.TestsOnly p) (node : Located L) :
    (segment.apply maxDepth node).Only p := by
  have pickAll : ∀ node : Located L,
      (Noted.collect (Selector.pick node) segment.selectors).Only p := fun node =>
    Noted.only_collect fun selector member => only_pick (tests selector member) node
  simp only [Segment.apply]
  split
  · exact pickAll node
  · rw [Noted.only_bind]
    exact ⟨only_descendants truncated node, Noted.only_collect fun node _ => pickAll node⟩

theorem only_select {maxDepth : Nat} (truncated : p (.truncated maxDepth))
    {segments : List (Segment Test)}
    (tests : ∀ segment ∈ segments, ∀ selector ∈ segment.selectors, selector.TestsOnly p)
    (nodes : List (Located L)) : (select maxDepth segments nodes).Only p := by
  induction segments generalizing nodes with
  | nil => exact Noted.only_pure _
  | cons segment segments ih =>
    simp only [select, Noted.only_bind]
    constructor
    · exact Noted.only_collect fun node _ =>
        only_apply truncated (tests segment List.mem_cons_self) node
    · exact ih (fun s member => tests s (List.mem_cons_of_mem _ member)) _

end JsonPath
