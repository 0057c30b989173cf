import JsonPath.Plan.Compile
import JsonPath.Proofs.ArrayPlaces
import JsonPath.Proofs.DocumentOrder
import JsonPath.Proofs.Outcome
import JsonPath.Proofs.Reordering
import Mathlib.Data.List.Flatten
import Mathlib.Data.List.Nodup
import Mathlib.Data.List.Perm.Subperm

/-!
# Queries that select no node twice

A segment with one selector picks no child of a node twice, and two nodes have no child in common.
So segments for children, one selector each, select nodes of one level of the document, each no more
often than it is there. The nodes so far below all that a traversal visits are also nodes of the
document, so one traversal does no harm; behind a second one nodes could come up again.

`xs.Subperm ys` says that the items of `xs` are among those of `ys`, each no more often, in whatever
order; `xs.Sublist ys` that their order is the same.

Results:
1. `walk_succ_perm`: a traversal visits, beside the first node, the children of what one of a level
   less visits.
2. `select_among_level`: what segments for children select is among a level.
3. `select_among_walk`: with one traversal it is among the nodes of the document.
4. `walk_inOrder`, `walk_locations_nodup`: these are in order, and their locations are distinct.
5. `single_selectors_distinct`: the same for whole runs.
-/

namespace JsonPath

variable {L : Type} [Location L]

/-! ## Lists among one another -/

section

variable {α β : Type} {xs ys : List α} {f g : α → List β}

theorem sublist_flatMap (fewer : xs.Sublist ys) (each : ∀ x, (f x).Sublist (g x)) :
    (xs.flatMap f).Sublist (ys.flatMap g) :=
  (List.Sublist.flatMap_right xs fun x _ => each x).trans (fewer.flatMap g)

theorem subperm_flatMap (fewer : xs.Subperm ys) (each : ∀ x, (f x).Subperm (g x)) :
    (xs.flatMap f).Subperm (ys.flatMap g) := by
  have pointwise (zs : List α) : (zs.flatMap f).Subperm (zs.flatMap g) := by
    induction zs with
    | nil => exact List.Subperm.refl _
    | cons z zs ih => exact (each z).append ih
  obtain ⟨zs, permuted, within⟩ := fewer
  exact (pointwise xs).trans ⟨zs.flatMap g, permuted.flatMap_right g, within.flatMap g⟩

end

/-! ## Levels -/

/-- The nodes exactly so many steps below a node, in the order of the document. -/
def level : Nat → Located L → List (Located L)
  | 0, node => [node]
  | n + 1, node => node.children.flatMap (level n)

theorem level_sublist_walk (n : Nat) (node : Located L) :
    (level n node).Sublist (walk n node) := by
  induction n generalizing node with
  | zero => exact List.Sublist.refl _
  | succ n ih => exact (sublist_flatMap (List.Sublist.refl node.children) ih).cons node

/-- What is visited beside the first node are the children of what is visited one level less
deep. -/
theorem walk_succ_perm (n : Nat) (node : Located L) :
    (walk (n + 1) node).Perm (node :: (walk n node).flatMap Located.children) := by
  induction n generalizing node with
  | zero =>
    rw [walk, walk, List.flatMap_singleton]
    exact (List.Perm.of_eq (List.flatMap_singleton' node.children)).cons node
  | succ n ih =>
    have below := List.Perm.flatMap_left node.children fun child _ => ih child
    have apart := List.flatMap_append_perm node.children ([·])
      fun child => (walk n child).flatMap Located.children
    rw [List.flatMap_singleton'] at apart
    rw [walk, walk, List.flatMap_cons, List.flatMap_assoc]
    exact (below.trans apart.symm).cons node

/-- What is so many steps below all that is visited is visited by a traversal that goes so much
deeper. -/
theorem walk_flatMap_level (n k : Nat) (node : Located L) :
    ((walk n node).flatMap (level k)).Subperm (walk (n + k) node) := by
  induction k generalizing n with
  | zero =>
    show List.Subperm ((walk n node).flatMap ([·])) _
    rw [List.flatMap_singleton']
    exact List.Subperm.refl _
  | succ k ih =>
    have deeper : ((walk n node).flatMap Located.children).Subperm (walk (n + 1) node) :=
      (List.sublist_cons_self node _).subperm.trans (walk_succ_perm n node).symm.subperm
    have below := subperm_flatMap deeper fun x => List.Subperm.refl (level k x)
    rw [List.flatMap_assoc] at below
    have depth : n + (k + 1) = n + 1 + k := by omega
    rw [depth]
    exact below.trans (ih (n + 1))

/-! ## What segments with one selector select -/

theorem value_apply_single {segment : Segment Test} {selector : Selector Test}
    (single : segment.selectors = [selector]) (maxDepth : Nat) (node : Located L) :
    (segment.apply maxDepth node).value =
      match segment.kind with
      | .child => (selector.pick node).value
      | .descendant => (walk maxDepth node).flatMap fun below => (selector.pick below).value := by
  have picks (node : Located L) : segment.picks node = (selector.pick node).value := by
    unfold Segment.picks
    rw [single, List.flatMap_singleton]
  rw [value_apply]
  cases segment.kind with
  | child => exact picks node
  | descendant => exact congrArg (List.flatMap · _) (funext picks)

/-- What is selected behind a segment is selected from each node that the segment selects. -/
theorem select_cons_node (maxDepth : Nat) (segment : Segment Test) (segments : List (Segment Test))
    (node : Located L) :
    (select maxDepth (segment :: segments) [node]).value =
      (segment.apply maxDepth node).value.flatMap
        fun below => (select maxDepth segments [below]).value := by
  rw [select_cons, List.flatMap_singleton, select_flatMap]

section

variable {R : List (Located L) → List (Located L) → Prop} (refl : ∀ nodes, R nodes nodes)
  (joins : ∀ {xs ys f g}, R xs ys → (∀ node, R (f node) (g node)) →
    R (xs.flatMap f) (ys.flatMap g))

include refl joins

/-- Segments for children select among the nodes of one level. How they stand to these is how what
is picked stands to the children it is picked from. -/
theorem select_among_level (maxDepth : Nat) {segments : List (Segment Test)}
    (each : ∀ s ∈ segments, s.kind = .child ∧ ∃ selector, s.selectors = [selector] ∧
      ∀ node, R (selector.pick node).value node.children) (node : Located L) :
    R (select maxDepth segments [node]).value (level segments.length node) := by
  induction segments generalizing node with
  | nil => exact refl [node]
  | cons segment segments ih =>
    rw [List.forall_mem_cons] at each
    obtain ⟨⟨child, selector, single, picked⟩, others⟩ := each
    rw [select_cons_node, value_apply_single single, child]
    exact joins (picked node) (ih others)

end

/-- With no more than one traversal, what is selected is among the nodes of the document. -/
theorem select_among_walk (maxDepth : Nat) {segments : List (Segment Test)}
    (single : ∀ s ∈ segments, ∃ selector, s.selectors = [selector])
    (once : segments.countP (·.kind = .descendant) ≤ 1) (node : Located L) :
    (select maxDepth segments [node]).value.Subperm (walk (segments.length + maxDepth) node) := by
  induction segments generalizing node with
  | nil => exact (walk_sublist (Nat.zero_le _) node).subperm
  | cons segment segments ih =>
    rw [List.forall_mem_cons] at single
    obtain ⟨⟨selector, alone⟩, single⟩ := single
    rw [List.countP_cons] at once
    rw [select_cons_node, value_apply_single alone, List.length_cons]
    cases kind : segment.kind with
    | child =>
      have below := subperm_flatMap (pick_subperm selector node) (ih single (by omega))
      rw [Nat.add_right_comm]
      exact below.trans (List.sublist_cons_self node _).subperm
    | descendant =>
      -- The other segments are for children: behind the traversal they lead to one level.
      have noOther : segments.countP (·.kind = .descendant) = 0 := by
        simp only [kind, decide_true, if_true] at once
        omega
      have each : ∀ s ∈ segments, s.kind = .child ∧ ∃ selector, s.selectors = [selector] ∧
          ∀ node : Located L, (selector.pick node).value.Subperm node.children := by
        intro s listed
        obtain ⟨selector, alone⟩ := single s listed
        refine ⟨?_, selector, alone, pick_subperm selector⟩
        have notDescendant := List.countP_eq_zero.mp noOther s listed
        cases kind : s.kind with
        | child => rfl
        | descendant => simp [kind] at notDescendant
      have behind := select_among_level List.Subperm.refl subperm_flatMap maxDepth each
      have below (x : Located L) := subperm_flatMap (pick_subperm selector x) behind
      have visited := subperm_flatMap (List.Subperm.refl (walk maxDepth node)) below
      rw [← List.flatMap_assoc] at visited
      rw [Nat.add_comm]
      exact visited.trans (walk_flatMap_level maxDepth (segments.length + 1) node)

/-! ## Locations -/

/-- Where no name is given twice, the steps to the children of a value are distinct. -/
theorem steps_nodup {v : Value} (unique : v.UniqueNames) : (v.children.map Prod.fst).Nodup := by
  cases v with
  | array elements =>
    have places : (elements.zipIdx.map Prod.snd).Nodup :=
      List.pairwise_map.mpr ((zipIdx_ascend elements).imp Nat.ne_of_lt)
    have steps := places.map (f := PathStep.index) fun _ _ same => PathStep.index.inj same
    rw [List.map_map] at steps
    rw [Value.children, List.map_map]
    exact steps
  | object members =>
    have steps := unique.1.map (f := PathStep.name) fun _ _ same => PathStep.name.inj same
    rw [List.map_map] at steps
    rw [Value.children, List.map_map]
    exact steps
  | _ => exact List.nodup_nil

theorem uniqueNames_child {v : Value} (unique : v.UniqueNames) :
    ∀ step ∈ v.children, step.2.UniqueNames := by
  intro step listed
  cases v with
  | array elements =>
    obtain ⟨e, member, rfl⟩ := List.mem_map.mp listed
    have there := List.mem_of_getElem? (List.mem_zipIdx_iff_getElem?.mp member)
    exact Value.elementsUnique_iff.mp unique e.1 there
  | object members =>
    obtain ⟨m, member, rfl⟩ := List.mem_map.mp listed
    exact Value.membersUnique_iff.mp unique.2 m member
  | _ => cases listed

/-- The location of a node goes on from that of a node above it. -/
theorem walk_location {n : Nat} {node below : Node} (visited : below ∈ walk n node) :
    node.location.steps <+: below.location.steps := by
  refine forall_walk (P := fun x : Node => node.location.steps <+: x.location.steps)
    (fun x above child listed => ?_) n (List.prefix_refl _) below visited
  obtain ⟨step, -, rfl⟩ := List.mem_map.mp listed
  exact above.trans (List.prefix_append _ _)

/-- Where no name is given twice, a walk visits no location twice. -/
theorem walk_locations_nodup (n : Nat) {node : Node} (unique : node.value.UniqueNames) :
    ((walk n node).map Located.location).Nodup := by
  induction n generalizing node with
  | zero => exact List.nodup_singleton _
  | succ n ih =>
    -- What is below a child is further down by the step to that child.
    have further {step : PathStep × Value} {location : NormalizedPath}
        (visited : location ∈ (walk n (node.child step)).map Located.location) :
        node.location.steps ++ [step.1] <+: location.steps := by
      obtain ⟨below, member, rfl⟩ := List.mem_map.mp visited
      exact walk_location member
    rw [walk, List.map_cons, List.map_flatMap, Located.children, List.flatMap_map, List.nodup_cons,
      List.nodup_flatMap]
    refine ⟨fun again => ?_, fun step listed => ih (uniqueNames_child unique step listed), ?_⟩
    · obtain ⟨step, -, visited⟩ := List.mem_flatMap.mp again
      have longer := (further visited).length_le
      rw [List.length_append, List.length_singleton] at longer
      omega
    · refine (List.pairwise_map.mp (steps_nodup unique)).imp fun {step step'} different => ?_
      intro location visited visited'
      have same : node.location.steps ++ [step.1] = node.location.steps ++ [step'.1] :=
        (List.prefix_of_prefix_length_le (further visited) (further visited')
          (by rw [List.length_append, List.length_append]; rfl)).eq_of_length
            (by rw [List.length_append, List.length_append]; rfl)
      exact different (List.singleton_inj.mp (List.append_cancel_left same))

/-! ## Results -/

theorem isBackward_selectorTest (c : EvaluationContext) (selector : Selector Filter) :
    (selectorTest c selector).isBackward = selector.isBackward := by
  cases selector <;> rfl

/-- A query whose segments have one selector each, of which no more than one is a traversal, selects
no node twice: where no object has two members of one name, the paths of the result are distinct. If
it has no traversal, nor a slice that goes backwards, the result is in the order of the document. -/
theorem single_selectors_distinct (plan : Plan) (limits : EvaluatorSettings) {document : Value}
    (unique : document.UniqueNames) (single : ∀ s ∈ plan.segments, s.selectors.length = 1)
    (once : plan.segments.countP (·.kind = .descendant) ≤ 1) :
    ((plan.evaluate limits document).value.map Located.location).Nodup ∧
    ((∀ s ∈ plan.segments, s.kind = .child ∧
        ∀ selector ∈ s.selectors, selector.isBackward = false) →
      (plan.evaluate limits document).value.Pairwise
        (Located.InOrder (⟨.root, document⟩ : Node))) := by
  let start : Node := ⟨.root, document⟩
  let c : EvaluationContext := ⟨limits.maxDepth, document⟩
  have selection : (plan.evaluate limits document).value =
      (select limits.maxDepth (plan.segments.map (segmentTests c)) [start]).value := by
    rw [← filterTests_eq_map]
    rfl
  have singleTests : ∀ s ∈ plan.segments, ∃ selector ∈ s.selectors,
      (segmentTests c s).selectors = [selectorTest c selector] := by
    intro s listed
    obtain ⟨selector, is⟩ := List.length_eq_one_iff.mp (single s listed)
    refine ⟨selector, is ▸ List.mem_cons_self, ?_⟩
    rw [segmentTests_eq, is, List.map_singleton]
  rw [selection]
  constructor
  · have alone : ∀ s ∈ plan.segments.map (segmentTests c),
        ∃ selector, s.selectors = [selector] := by
      rw [List.forall_mem_map]
      intro s listed
      obtain ⟨selector, -, is⟩ := singleTests s listed
      exact ⟨_, is⟩
    have onceTested :
        (plan.segments.map (segmentTests c)).countP (·.kind = .descendant) ≤ 1 := by
      have kinds : ((fun s : Segment Test => decide (s.kind = .descendant)) ∘ segmentTests c) =
          fun s => decide (s.kind = .descendant) := by
        funext s
        rw [Function.comp_apply, segmentTests_eq]
      rw [List.countP_map, kinds]
      exact once
    obtain ⟨inOrder, permuted, within⟩ := select_among_walk limits.maxDepth alone onceTested start
    have distinct := (walk_locations_nodup _ unique).sublist (within.map Located.location)
    exact (permuted.map Located.location).nodup_iff.mp distinct
  · intro forward
    have each : ∀ s ∈ plan.segments.map (segmentTests c), s.kind = .child ∧
        ∃ selector, s.selectors = [selector] ∧
          ∀ node : Node, (selector.pick node).value.Sublist node.children := by
      rw [List.forall_mem_map]
      intro s listed
      obtain ⟨child, forward⟩ := forward s listed
      obtain ⟨selector, member, is⟩ := singleTests s listed
      have goesForward : (selectorTest c selector).isBackward = false := by
        rw [isBackward_selectorTest]
        exact forward selector member
      rw [segmentTests_eq] at is ⊢
      exact ⟨child, _, is, pick_sublist goesForward⟩
    have among := select_among_level List.Sublist.refl sublist_flatMap limits.maxDepth each start
    exact (walk_inOrder _ start).sublist (among.trans (level_sublist_walk _ start))

/-- A traversal with a slice that goes backwards behind it, and a query for children only. -/
theorem single_selectors_distinct_backwards :
    let document : Value := .object [("a", .array [.null, .array [.null, .null]]), ("b", .null)]
    document.UniqueNames ∧
    (∃ plan, (compile {} .builtins "$..*[::-1]").value = some plan ∧
      (∀ s ∈ plan.segments, s.selectors.length = 1) ∧
      plan.segments.countP (·.kind = .descendant) ≤ 1 ∧
      ((plan.evaluate {} document).value.map Located.location).Nodup) ∧
    ∃ plan, (compile {} .builtins "$.*[:-1][?@ == null]").value = some plan ∧
      (∀ s ∈ plan.segments, s.kind = .child ∧
        ∀ selector ∈ s.selectors, selector.isBackward = false) ∧
      (plan.evaluate {} document).value.Pairwise
        (Located.InOrder (⟨.root, document⟩ : Node)) := by
  intro document
  have unique : document.UniqueNames :=
    ⟨by decide, ⟨trivial, ⟨trivial, trivial, trivial⟩, trivial⟩, trivial, trivial⟩
  have compiles : (compile {} .builtins "$..*[::-1]").value.any fun plan =>
      (plan.segments.all fun s => s.selectors.length == 1) &&
        decide (plan.segments.countP (·.kind = .descendant) ≤ 1) := by
    decide +kernel
  have compilesForward : (compile {} .builtins "$.*[:-1][?@ == null]").value.any fun plan =>
      plan.segments.all fun s => s.selectors.length == 1 && decide (s.kind = .child) &&
        s.selectors.all fun selector => !selector.isBackward := by
    decide +kernel
  obtain ⟨plan, compiled, holds⟩ := (Option.any_eq_true _ _).mp compiles
  obtain ⟨other, compiledForward, holdsForward⟩ := (Option.any_eq_true _ _).mp compilesForward
  simp only [Bool.and_eq_true, List.all_eq_true, beq_iff_eq, decide_eq_true_eq] at holds
  simp only [Bool.and_eq_true, List.all_eq_true, beq_iff_eq, decide_eq_true_eq,
    Bool.not_eq_true'] at holdsForward
  obtain ⟨single, once⟩ := holds
  have singleForward : ∀ s ∈ other.segments, s.selectors.length = 1 :=
    fun s listed => (holdsForward s listed).1.1
  have forward : ∀ s ∈ other.segments, s.kind = .child ∧
      ∀ selector ∈ s.selectors, selector.isBackward = false :=
    fun s listed => ⟨(holdsForward s listed).1.2, (holdsForward s listed).2⟩
  have noTraversal : other.segments.countP (·.kind = .descendant) ≤ 1 := by
    rw [List.countP_eq_zero.mpr fun s listed => by simp [(forward s listed).1]]
    exact Nat.zero_le 1
  exact ⟨unique, ⟨plan, compiled, single, once,
      (single_selectors_distinct plan {} unique single once).1⟩,
    other, compiledForward, forward,
      (single_selectors_distinct other {} unique singleForward noTraversal).2 forward⟩

end JsonPath
