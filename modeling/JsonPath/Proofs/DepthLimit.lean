import JsonPath.Evaluation
import JsonPath.Proofs.Declarations
import JsonPath.Proofs.DocumentOrder
import JsonPath.Proofs.Outcome

/-!
# The limit on the depth of traversal

A traversal stops at a limit that counts from where it starts, be it at a node that a segment is
applied to or at the start of a query within a filter. Nothing that is reached from a document is
higher than the document itself, so a limit that is not below this height is nowhere noticed. Where
there are no filters a limit takes nodes away and does nothing else.

Results:
1. `select_shallow`: segments select the same under limits that are high enough.
2. `evaluate_shallow`: filters come to the same, in all queries within them.
3. `select_sublist`: under the lower of two limits there is never more selected.
4. `depth_limit_only_drops`: the same for whole runs.
-/

namespace JsonPath

variable {L : Type} [Location L]

/-! ## Limits that are high enough -/

namespace Noted

variable {ν α β : Type} {xs : List α}

theorem bind_congr {m m' : Noted ν α} {f g : α → Noted ν β} (same : m = m')
    (later : f m'.value = g m'.value) : m >>= f = m' >>= g := by
  subst same
  exact congrArg (fun run : Noted ν β => (⟨run.value, m.notes ++ run.notes⟩ : Noted ν β)) later

theorem collect_congr {f g : α → Noted ν (List β)} (same : ∀ x ∈ xs, f x = g x) :
    collect f xs = collect g xs := by
  induction xs with
  | nil => rfl
  | cons x xs ih =>
    rw [List.forall_mem_cons] at same
    rw [collect, collect, same.1, ih same.2]

theorem filter_congr {p q : α → Noted ν Bool} (same : ∀ x ∈ xs, p x = q x) :
    filter p xs = filter q xs := by
  induction xs with
  | nil => rfl
  | cons x xs ih =>
    rw [List.forall_mem_cons] at same
    rw [filter, filter, same.1, ih same.2]

end Noted

/-- Two limits, neither of which is below the height `n`. -/
structure HighEnough (n m m' : Nat) : Prop where
  first : n ≤ m
  second : n ≤ m'

/-- The tests cannot be told apart on values that are no higher than `n`. -/
def Test.SameUpTo (n : Nat) (test test' : Test) : Prop :=
  ∀ v : Value, v.height ≤ n → test v = test' v

section

variable {n m m' : Nat}

theorem height_child_le {node : Located L} (low : node.value.height ≤ n) :
    ∀ child ∈ node.children, child.value.height ≤ n := by
  intro child listed
  obtain ⟨step, below, rfl⟩ := List.mem_map.mp listed
  exact Nat.le_of_lt (Nat.lt_of_lt_of_le (Value.height_child_lt below) low)

theorem pick_shallow {s s' : Selector Test} (same : s.Lift (Test.SameUpTo n) s')
    {node : Located L} (low : node.value.height ≤ n) : s.pick node = s'.pick node := by
  cases same with
  | filter related =>
    apply Noted.filter_congr
    intro child listed
    exact related child.value (height_child_le low child listed)
  | _ => rfl

theorem pickAll_shallow {ss ss' : List (Selector Test)}
    (same : List.Forall₂ (Selector.Lift (Test.SameUpTo n)) ss ss') {node : Located L}
    (low : node.value.height ≤ n) :
    Noted.collect (Selector.pick node) ss = Noted.collect (Selector.pick node) ss' := by
  induction same with
  | nil => rfl
  | cons first _ ih => rw [Noted.collect, Noted.collect, pick_shallow first low, ih]

theorem descendants_shallow (high : HighEnough n m m') {node : Located L}
    (low : node.value.height ≤ n) : descendants m node = descendants m' node := by
  have quiet {limit : Nat} (enough : n ≤ limit) : (descendants limit node).notes = [] := by
    rw [notes_descendants, if_neg (Nat.not_lt.mpr (Nat.le_trans low enough))]
  have values : (descendants m node).value = (descendants m' node).value := by
    rw [value_descendants, value_descendants, ← walk_of_height_le low high.first,
      ← walk_of_height_le low high.second]
  have notes : (descendants m node).notes = (descendants m' node).notes := by
    rw [quiet high.first, quiet high.second]
  exact congrArg₂ Noted.mk values notes

theorem apply_shallow (high : HighEnough n m m') {s s' : Segment Test}
    (same : s.Lift (Test.SameUpTo n) s') {node : Located L} (low : node.value.height ≤ n) :
    s.apply m node = s'.apply m' node := by
  obtain ⟨kind, each⟩ := same
  unfold Segment.apply
  cases kind with
  | child => exact pickAll_shallow each low
  | descendant =>
    apply Noted.bind_congr (descendants_shallow high low)
    apply Noted.collect_congr
    rw [value_descendants]
    intro below walked
    exact pickAll_shallow each (forall_walk (fun _ => height_child_le) m' low below walked)

/-- What is selected, and what is noted, is the same under all limits that are not below the height
of the nodes that selection starts from. -/
theorem select_shallow (high : HighEnough n m m') {ss ss' : List (Segment Test)}
    (same : List.Forall₂ (Segment.Lift (Test.SameUpTo n)) ss ss') {nodes : List (Located L)}
    (low : ∀ node ∈ nodes, node.value.height ≤ n) : select m ss nodes = select m' ss' nodes := by
  induction same generalizing nodes with
  | nil => rfl
  | @cons s s' ss ss' first _ ih =>
    have applied : Noted.collect (s.apply m) nodes = Noted.collect (s'.apply m') nodes :=
      Noted.collect_congr fun node listed => apply_shallow high first (low node listed)
    apply Noted.bind_congr applied
    apply ih
    rw [Noted.value_collect]
    intro below member
    obtain ⟨node, listed, member⟩ := List.mem_flatMap.mp member
    exact forall_apply (fun _ => height_child_le) m' s' (low node listed) below member

end

section

variable {m m' : Nat} {document : Value}

-- Only at queries do the limits come into play; everywhere else both runs take the same way.
mutual

/-- A filter comes to the same, by the same events, under all limits that are not below the height
of the document. -/
theorem evaluate_shallow (high : HighEnough document.height m m') :
    ∀ (f : Filter) {current : Value}, current.height ≤ document.height →
      f.evaluate ⟨m, document⟩ current = f.evaluate ⟨m', document⟩ current
  | .literal _, _, _ => rfl
  | .query root segments, current, here => by
    have start : (EvaluationContext.start ⟨m, document⟩ current root).height ≤
        document.height := by
      cases root with
      | document => exact Nat.le_refl _
      | current => exact here
    rw [Filter.evaluate, Filter.evaluate]
    refine congrArg (· >>= _) (select_shallow high (filterTests_shallow high segments) ?_)
    exact List.forall_mem_singleton.mpr start
  | .comparison _ left right, _, here => by
    rw [Filter.evaluate, Filter.evaluate, evaluate_shallow high left here,
      evaluate_shallow high right here]
  | .logical operator operands, _, here => by
    cases operator with
    | not => exact congrArg (· >>= _) (anyHolds_shallow high operands here)
    | and => exact congrArg (· >>= _) (allHold_shallow high operands here)
    | or => exact congrArg (· >>= _) (anyHolds_shallow high operands here)
  | .call name function arguments, _, here => by
    rw [Filter.evaluate, Filter.evaluate, argumentValues_shallow high name arguments _ here]
  | .test inner, _, here => by
    rw [Filter.evaluate, Filter.evaluate, evaluate_shallow high inner here]
termination_by structural f => f

theorem allHold_shallow (high : HighEnough document.height m m') :
    ∀ (fs : List Filter) {current : Value}, current.height ≤ document.height →
      allHold ⟨m, document⟩ fs current = allHold ⟨m', document⟩ fs current
  | [], _, _ => rfl
  | f :: fs, _, here => by
    rw [allHold, allHold, evaluate_shallow high f here, allHold_shallow high fs here]
termination_by structural fs => fs

theorem anyHolds_shallow (high : HighEnough document.height m m') :
    ∀ (fs : List Filter) {current : Value}, current.height ≤ document.height →
      anyHolds ⟨m, document⟩ fs current = anyHolds ⟨m', document⟩ fs current
  | [], _, _ => rfl
  | f :: fs, _, here => by
    rw [anyHolds, anyHolds, evaluate_shallow high f here, anyHolds_shallow high fs here]
termination_by structural fs => fs

theorem argumentValues_shallow (high : HighEnough document.height m m') (name : String) :
    ∀ (fs : List Filter) (types : List ExpressionType) {current : Value},
      current.height ≤ document.height →
        argumentValues ⟨m, document⟩ name fs types current =
          argumentValues ⟨m', document⟩ name fs types current
  | [], _, _, _ => rfl
  | f :: fs, types, _, here => by
    cases types with
    | nil => rfl
    | cons t ts =>
      rw [argumentValues, argumentValues, evaluate_shallow high f here,
        argumentValues_shallow high name fs ts here]
termination_by structural fs => fs

theorem filterTests_shallow (high : HighEnough document.height m m') :
    ∀ (ss : List (Segment Filter)),
      List.Forall₂ (Segment.Lift (Test.SameUpTo document.height)) (filterTests ⟨m, document⟩ ss)
        (filterTests ⟨m', document⟩ ss)
  | [] => .nil
  | s :: ss => .cons (segmentTests_shallow high s) (filterTests_shallow high ss)
termination_by structural ss => ss

theorem segmentTests_shallow (high : HighEnough document.height m m') :
    ∀ (s : Segment Filter), (segmentTests ⟨m, document⟩ s).Lift
      (Test.SameUpTo document.height) (segmentTests ⟨m', document⟩ s)
  | ⟨kind, selectors⟩ => .mk kind (selectorTests_shallow high selectors)
termination_by structural s => s

theorem selectorTests_shallow (high : HighEnough document.height m m') :
    ∀ (ss : List (Selector Filter)),
      List.Forall₂ (Selector.Lift (Test.SameUpTo document.height))
        (selectorTests ⟨m, document⟩ ss) (selectorTests ⟨m', document⟩ ss)
  | [] => .nil
  | s :: ss => .cons (selectorTest_shallow high s) (selectorTests_shallow high ss)
termination_by structural ss => ss

theorem selectorTest_shallow (high : HighEnough document.height m m') :
    ∀ (s : Selector Filter), (selectorTest ⟨m, document⟩ s).Lift
      (Test.SameUpTo document.height) (selectorTest ⟨m', document⟩ s)
  | .filter predicate => .filter fun _ here => congrArg _ (evaluate_shallow high predicate here)
  | .name key => .name key
  | .index place => .index place
  | .wildcard => .wildcard
  | .slice bounds => .slice bounds
termination_by structural s => s

end

end

/-! ## Lower limits -/

theorem apply_sublist {m n : Nat} (higher : m ≤ n) (s : Segment Test) (node : Located L) :
    (s.apply m node).value.Sublist (s.apply n node).value := by
  rw [value_apply, value_apply]
  cases s.kind with
  | child => exact List.Sublist.refl _
  | descendant => exact (walk_sublist higher node).flatMap s.picks

/-- Under the lower of two limits less is selected, in the same order, as long as the tests are the
same. -/
theorem select_sublist {m n : Nat} (higher : m ≤ n) (ss : List (Segment Test))
    {nodes nodes' : List (Located L)} (fewer : nodes.Sublist nodes') :
    (select m ss nodes).value.Sublist (select n ss nodes').value := by
  induction ss generalizing nodes nodes' with
  | nil => exact fewer
  | cons s ss ih =>
    rw [select_cons, select_cons]
    apply ih
    have each := List.Sublist.flatMap_right nodes fun node _ => apply_sublist higher s node
    exact each.trans (fewer.flatMap fun node => (s.apply n node).value)

/-- Whether the selector is a filter. -/
def Selector.isFilter {φ : Type} : Selector φ → Bool
  | .filter _ => true
  | _ => false

/-- Without filters there are no tests that a limit could play a part in. -/
theorem filterTests_plain {ss : List (Segment Filter)}
    (plain : ∀ s ∈ ss, ∀ selector ∈ s.selectors, selector.isFilter = false)
    (c c' : EvaluationContext) : filterTests c ss = filterTests c' ss := by
  rw [filterTests_eq_map, filterTests_eq_map]
  refine List.map_congr_left fun s listed => ?_
  rw [segmentTests_eq, segmentTests_eq]
  refine congrArg (Segment.mk s.kind) (List.map_congr_left fun selector member => ?_)
  have noFilter := plain s listed selector member
  cases selector with
  | filter predicate => cases noFilter
  | _ => rfl

/-! ## Results -/

/-- The limit on the depth does nothing to documents that are within it, and otherwise it only drops
results. Under a limit that is not below the height of the document a plan runs as under any larger
one, in its filters too. And a plan without filters selects under a lower limit some of the nodes
that it selects under a higher one, in the same order. -/
theorem depth_limit_only_drops (plan : Plan) (document : Value) {limits wider : EvaluatorSettings}
    (higher : limits.maxDepth ≤ wider.maxDepth) :
    (document.height ≤ limits.maxDepth →
      plan.evaluate limits document = plan.evaluate wider document) ∧
    ((∀ s ∈ plan.segments, ∀ selector ∈ s.selectors, selector.isFilter = false) →
      (plan.evaluate limits document).value.Sublist (plan.evaluate wider document).value) := by
  constructor
  · intro within
    have high : HighEnough document.height limits.maxDepth wider.maxDepth :=
      ⟨within, Nat.le_trans within higher⟩
    have same := filterTests_shallow high plan.segments
    have low : ∀ node ∈ [(⟨.root, document⟩ : Node)], node.value.height ≤ document.height :=
      List.forall_mem_singleton.mpr (Nat.le_refl _)
    exact Noted.bind_congr (select_shallow high same low) rfl
  · intro plain
    show (select limits.maxDepth (filterTests ⟨limits.maxDepth, document⟩ plan.segments)
      [(⟨.root, document⟩ : Node)]).value.Sublist _
    rw [filterTests_plain plain _ ⟨wider.maxDepth, document⟩]
    exact select_sublist higher _ (List.Sublist.refl _)

/-- A plan with a traversal inside a filter under a limit that is just enough, and a plan without
filters under one that is not. -/
theorem depth_limit_only_drops_nested :
    let document : Value := .array [.object [("a", .array [.null, .bool true])]]
    (∃ plan, (compile {} .builtins "$..[?count(@..*) > 1]").value = some plan ∧
      document.height ≤ 3 ∧ plan.evaluate ⟨3⟩ document = plan.evaluate {} document) ∧
    ∃ plan, (compile {} .builtins "$..*").value = some plan ∧
      (∀ s ∈ plan.segments, ∀ selector ∈ s.selectors, selector.isFilter = false) ∧
      (plan.evaluate ⟨1⟩ document).value.Sublist (plan.evaluate ⟨2⟩ document).value := by
  intro document
  have compiles : (compile {} .builtins "$..[?count(@..*) > 1]").value.isSome := by decide +kernel
  have compilesPlain : (compile {} .builtins "$..*").value.any fun plan =>
      plan.segments.all fun s => s.selectors.all fun selector => !selector.isFilter := by
    decide +kernel
  obtain ⟨plan, compiled⟩ := Option.isSome_iff_exists.mp compiles
  obtain ⟨other, compiledPlain, plain⟩ := (Option.any_eq_true _ _).mp compilesPlain
  simp only [List.all_eq_true, Bool.not_eq_true'] at plain
  have within : document.height ≤ 3 := by decide
  constructor
  · exact ⟨plan, compiled, within, (depth_limit_only_drops plan document (by decide)).1 within⟩
  · exact ⟨other, compiledPlain, plain, (depth_limit_only_drops other document (by decide)).2 plain⟩

end JsonPath
