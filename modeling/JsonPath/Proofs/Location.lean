import JsonPath.Proofs.PathRoundTrip
import JsonPath.Proofs.Reordering
import JsonPath.Proofs.Selection

/-!
# Where selected values stand

Selection keeps the path of a node beside its value and takes both one step further at a time.
`Value.Leads` says what the steps of a path promise: the names are those of members of objects, the
indices are below the lengths of arrays, and the last step arrives at the value.

Results:
1. `leads_selected`: the path of a selected node leads to its value.
2. `Value.Leads.locate`: where no name is given twice, following the path gives this value and no
   other.
3. `selected_value_located`: the two together, for all that a plan selects.
-/

namespace JsonPath

namespace Value

/-- The steps lead from the one value to the other. -/
inductive Leads : Value → List PathStep → Value → Prop where
  | here {v : Value} : Leads v [] v
  | member {members : Members} {key : String} {v w : Value} {steps : List PathStep}
      (listed : (key, v) ∈ members) (further : Leads v steps w) :
      Leads (.object members) (.name key :: steps) w
  | element {elements : List Value} {place : Nat} {v w : Value} {steps : List PathStep}
      (below : place < elements.length) (there : elements[place] = v) (further : Leads v steps w) :
      Leads (.array elements) (.index place :: steps) w

theorem Leads.append {u v w : Value} {steps later : List PathStep} (first : u.Leads steps v)
    (second : v.Leads later w) : u.Leads (steps ++ later) w := by
  induction first with
  | here => exact second
  | member listed _ ih => exact .member listed (ih second)
  | element below there _ ih => exact .element below there (ih second)

/-- The step to a child leads there. -/
theorem leads_child {v : Value} {step : PathStep × Value} (listed : step ∈ v.children) :
    v.Leads [step.1] step.2 := by
  cases v with
  | object members =>
    obtain ⟨m, member, rfl⟩ := List.mem_map.mp listed
    exact .member member .here
  | array elements =>
    obtain ⟨e, member, rfl⟩ := List.mem_map.mp listed
    obtain ⟨below, there⟩ := List.getElem?_eq_some_iff.mp (List.mem_zipIdx_iff_getElem?.mp member)
    exact .element below there .here
  | _ => cases listed

/-- Where no name is given twice, the steps lead to one value only, and following them finds it. -/
theorem Leads.locate {v w : Value} {steps : List PathStep} (leads : v.Leads steps w)
    (unique : v.UniqueNames) :
    steps.foldlM (fun v (step : PathStep) => step.child? v) v = some w := by
  induction leads with
  | here => rfl
  | @member members key v w steps listed _ ih =>
    have found : PathStep.child? (.name key) (.object members) = some v := by
      rw [child?_name]
      exact (member?_eq_some unique.1).mpr listed
    rw [List.foldlM_cons, found]
    exact ih (membersUnique_iff.mp unique.2 _ listed)
  | @element elements place v w steps below there _ ih =>
    have found : PathStep.child? (.index place) (.array elements) = some v := by
      rw [child?_index]
      exact List.getElem?_eq_some_iff.mpr ⟨below, there⟩
    rw [List.foldlM_cons, found]
    exact ih (elementsUnique_iff.mp unique v (there ▸ List.getElem_mem below))

end Value

/-- Whatever selects, the path of a selected node leads from the root to its value. -/
theorem leads_selected (maxDepth : Nat) (segments : List (Segment Test)) (document : Value) :
    ∀ node ∈ (select maxDepth segments [(⟨.root, document⟩ : Node)]).value,
      document.Leads node.location.steps node.value := by
  refine forall_select ?_ maxDepth segments ?_
  · intro node leads child listed
    obtain ⟨step, below, rfl⟩ := List.mem_map.mp listed
    exact leads.append (Value.leads_child below)
  · intro node member
    cases List.mem_singleton.mp member
    exact .here

/-- Where no name is given twice, the path of a selected node is where its value is found. -/
theorem locate_selected (maxDepth : Nat) (segments : List (Segment Test)) {document : Value}
    (unique : document.UniqueNames) :
    ∀ node ∈ (select maxDepth segments [(⟨.root, document⟩ : Node)]).value,
      node.location.locate document = some node.value :=
  fun node member => (leads_selected maxDepth segments document node member).locate unique

/-- Every reported location is that of the reported value. The path of a node that a plan selects
leads from the root of the document to the value of the node; where no object has two members of one
name, following the path finds exactly this value. -/
theorem selected_value_located (plan : Plan) (limits : EvaluatorSettings) (document : Value) :
    ∀ node ∈ (plan.evaluate limits document).value,
      document.Leads node.location.steps node.value ∧
        (document.UniqueNames → node.location.locate document = some node.value) :=
  fun node member => ⟨leads_selected limits.maxDepth _ document node member,
    fun unique => locate_selected limits.maxDepth _ unique node member⟩

/-- A node behind a descendant segment, a negative index and a slice that goes backwards. -/
theorem selected_value_located_backwards :
    let document : Value := .object [("a", .array [.null, .array [.bool true, .bool false]])]
    ∃ plan, (compile {} .builtins "$..a[-1][::-1]").value = some plan ∧
      document.UniqueNames ∧
      ∃ node ∈ (plan.evaluate {} document).value,
        node.location = ⟨[.name "a", .index 1, .index 0]⟩ ∧
        document.Leads node.location.steps node.value ∧
        node.location.locate document = some node.value := by
  intro document
  have selects : (compile {} .builtins "$..a[-1][::-1]").value.any fun plan =>
      (plan.evaluate {} document).value.any
        (·.location = ⟨[.name "a", .index 1, .index 0]⟩) := by decide +kernel
  obtain ⟨plan, compiled, selects⟩ := (Option.any_eq_true _ _).mp selects
  obtain ⟨node, member, place⟩ := List.any_eq_true.mp selects
  have unique : document.UniqueNames :=
    ⟨by decide, ⟨trivial, ⟨trivial, trivial, trivial⟩, trivial⟩, trivial⟩
  obtain ⟨leads, located⟩ := selected_value_located plan {} document node member
  exact ⟨plan, compiled, unique, node, member, of_decide_eq_true place, leads, located unique⟩

end JsonPath
