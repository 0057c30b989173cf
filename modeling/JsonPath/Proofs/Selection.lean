import JsonPath.Evaluation.Selection
import Mathlib.Algebra.GroupWithZero.Nat

/-!
# What segments select

Selection takes notes on its way, and it walks documents with a list of nodes that are yet to be
visited. Neither shows in the nodes that it gives. The lemmas say what these are: each node is
treated by itself, and its location plays no part in which nodes below it are selected.

Results:
1. `value_descendants`, `notes_descendants`: a node and what is below it are visited in the order of
   the document, down to the limit, and it is noted if anything is below that.
2. `select_append`, `select_flatMap`: segments and nodes, one after the other.
3. `select_relocated`: what is selected under other locations.
4. `forall_select`: what passes from nodes to their children holds of what is selected.
-/

namespace JsonPath

namespace Noted

variable {ν α β : Type}

theorem value_collect (f : α → Noted ν (List β)) (xs : List α) :
    (collect f xs).value = xs.flatMap fun x => (f x).value := by
  induction xs with
  | nil => rfl
  | cons x xs ih =>
    rw [List.flatMap_cons, ← ih]
    rfl

theorem value_filter (test : α → Noted ν Bool) (xs : List α) :
    (filter test xs).value = xs.filter fun x => (test x).value := by
  induction xs with
  | nil => rfl
  | cons x xs ih =>
    rw [List.filter_cons, ← ih]
    rfl

end Noted

variable {L M : Type} [Location L] [Location M]

/-! ## Descendants -/

theorem Value.sizeOfAll_eq (elements : List Value) :
    sizeOfAll elements = (elements.map size).sum := by
  induction elements with
  | nil => rfl
  | cons v vs ih => rw [sizeOfAll, ih, List.map_cons, List.sum_cons]

theorem Value.sizeOfMembers_eq (members : Members) :
    sizeOfMembers members = (members.map fun m => m.2.size).sum := by
  induction members with
  | nil => rfl
  | cons m ms ih => rw [sizeOfMembers, ih, List.map_cons, List.sum_cons, sizeOfMember]

/-- The nodes of a value are itself and the nodes of its children. -/
theorem Value.size_eq (v : Value) : v.size = 1 + (v.children.map fun c => c.2.size).sum := by
  cases v with
  | array elements =>
    have values : elements.zipIdx.map Prod.fst = elements := List.zipIdx_map_fst 0 elements
    rw [size, sizeOfAll_eq, children, List.map_map]
    conv => lhs; rw [← values, List.map_map]
    rfl
  | object members =>
    rw [size, sizeOfMembers_eq, children, List.map_map]
    rfl
  | _ => rfl

namespace Value

mutual

/-- The largest number of steps from the value down to a node. -/
def height : Value → Nat
  | .array elements => heightOfAll elements
  | .object members => heightOfMembers members
  | _ => 0
termination_by structural v => v

/-- The largest number of steps into one of the values and further down. -/
def heightOfAll : List Value → Nat
  | [] => 0
  | v :: vs => max (v.height + 1) (heightOfAll vs)
termination_by structural vs => vs

/-- The largest number of steps to one of the members' values and further down. -/
def heightOfMembers : List (String × Value) → Nat
  | [] => 0
  | m :: ms => max (heightOfMember m + 1) (heightOfMembers ms)
termination_by structural ms => ms

/-- The height of a member's value. -/
def heightOfMember : String × Value → Nat
  | (_, v) => v.height
termination_by structural m => m

end

theorem lt_heightOfAll {n : Nat} {elements : List Value} :
    n < heightOfAll elements ↔ ∃ v ∈ elements, n ≤ v.height := by
  induction elements with
  | nil => simp [heightOfAll]
  | cons v vs ih =>
    have either : n < max (v.height + 1) (heightOfAll vs) ↔ n ≤ v.height ∨ n < heightOfAll vs := by
      omega
    rw [heightOfAll, either, ih]
    simp only [List.mem_cons, exists_eq_or_imp]

theorem lt_heightOfMembers {n : Nat} {members : Members} :
    n < heightOfMembers members ↔ ∃ m ∈ members, n ≤ m.2.height := by
  induction members with
  | nil => simp [heightOfMembers]
  | cons m ms ih =>
    have either : n < max (m.2.height + 1) (heightOfMembers ms) ↔
        n ≤ m.2.height ∨ n < heightOfMembers ms := by
      omega
    rw [heightOfMembers, heightOfMember, either, ih]
    simp only [List.mem_cons, exists_eq_or_imp]

/-- A value is higher than each of its children, and no higher than that takes. -/
theorem lt_height {n : Nat} {v : Value} : n < v.height ↔ ∃ c ∈ v.children, n ≤ c.2.height := by
  cases v with
  | array elements =>
    rw [height, lt_heightOfAll, children]
    constructor
    · rintro ⟨v, listed, high⟩
      obtain ⟨place, there⟩ := List.getElem?_of_mem listed
      have stands : (v, place) ∈ elements.zipIdx := List.mem_zipIdx_iff_getElem?.mpr there
      exact ⟨_, List.mem_map_of_mem stands, high⟩
    · rintro ⟨_, listed, high⟩
      obtain ⟨e, member, rfl⟩ := List.mem_map.mp listed
      exact ⟨e.1, List.mem_of_getElem? (List.mem_zipIdx_iff_getElem?.mp member), high⟩
  | object members =>
    rw [height, lt_heightOfMembers, children]
    simp only [List.mem_map, exists_exists_and_eq_and]
  | _ => simp [height, children]

theorem height_child_lt {v : Value} {c : PathStep × Value} (listed : c ∈ v.children) :
    c.2.height < v.height :=
  lt_height.mpr ⟨c, listed, Nat.le_refl _⟩

/-- Only a value with children has a height. -/
theorem height_pos {v : Value} : 0 < v.height ↔ v.children ≠ [] := by
  rw [lt_height]
  constructor
  · rintro ⟨c, listed, -⟩
    exact List.ne_nil_of_mem listed
  · intro some
    obtain ⟨c, listed⟩ := List.exists_mem_of_ne_nil _ some
    exact ⟨c, listed, Nat.zero_le _⟩

end Value

/-- A node and what is below it, so many levels down. A node comes in front of what is below it, and
its children come in their order. -/
def walk : Nat → Located L → List (Located L)
  | 0, node => [node]
  | n + 1, node => node :: node.children.flatMap (walk n)

/-- Something below the node is more than so many levels down. -/
def reachesBelow (n : Nat) (node : Located L) : Bool := decide (n < node.value.height)

theorem reachesBelow_zero (node : Located L) :
    reachesBelow 0 node = !node.children.isEmpty := by
  rw [Bool.eq_iff_iff, reachesBelow, decide_eq_true_iff, Value.height_pos, Located.children]
  cases node.value.children <;> simp

theorem reachesBelow_succ (n : Nat) (node : Located L) :
    reachesBelow (n + 1) node = node.children.any (reachesBelow n) := by
  rw [Bool.eq_iff_iff, reachesBelow, decide_eq_true_iff, Value.lt_height, Located.children,
    List.any_map, List.any_eq_true]
  exact exists_congr fun c => and_congr_right fun _ => decide_eq_true_iff.symm

/-- Visiting walks the pending nodes one after the other, if there is fuel for all that is below
them, and tells whether anything was too deep. -/
theorem visit_eq_walk (maxDepth : Nat) {n : Nat} {pending : List (Located L × Nat)}
    (enough : (pending.map fun p => p.1.value.size).sum ≤ n) :
    visit maxDepth n pending =
      (pending.flatMap fun p => walk (maxDepth - p.2) p.1,
        pending.any fun p => reachesBelow (maxDepth - p.2) p.1) := by
  induction n generalizing pending with
  | zero =>
    cases pending with
    | nil => rfl
    | cons p pending =>
      rw [List.map_cons, List.sum_cons, Value.size_eq] at enough
      omega
  | succ n ih =>
    match pending with
    | [] => rfl
    | (node, depth) :: pending =>
      rw [List.map_cons, List.sum_cons, Value.size_eq] at enough
      dsimp only at enough
      simp only [visit, List.flatMap_cons, List.any_cons]
      by_cases shallow : depth < maxDepth
      · have later : maxDepth - depth = maxDepth - (depth + 1) + 1 := by omega
        have room : ((node.children.map (·, depth + 1) ++ pending).map
            fun p => p.1.value.size).sum ≤ n := by
          simp only [Located.children, Located.child, List.map_append, List.map_map,
            List.sum_append, Function.comp_def]
          omega
        rw [if_pos shallow, ih room, List.flatMap_append, List.flatMap_map, List.any_append,
          List.any_map, later, walk, reachesBelow_succ]
        rfl
      · have bottom : maxDepth - depth = 0 := by omega
        have room : (pending.map fun p => p.1.value.size).sum ≤ n := by omega
        rw [if_neg shallow, ih room, bottom, reachesBelow_zero]
        rfl

theorem visit_node (maxDepth : Nat) (node : Located L) :
    visit maxDepth node.value.size [(node, 0)] =
      (walk maxDepth node, reachesBelow maxDepth node) := by
  have enough : (([(node, 0)] : List (Located L × Nat)).map fun p => p.1.value.size).sum ≤
      node.value.size := by
    simp
  have walked := visit_eq_walk maxDepth enough
  rw [List.flatMap_cons, List.flatMap_nil, List.append_nil, List.any_cons, List.any_nil,
    Bool.or_false] at walked
  exact walked

theorem value_descendants (maxDepth : Nat) (node : Located L) :
    (descendants maxDepth node).value = walk maxDepth node :=
  congrArg Prod.fst (visit_node maxDepth node)

/-- It is noted, once, if something below the node is too deep. -/
theorem notes_descendants (maxDepth : Nat) (node : Located L) :
    (descendants maxDepth node).notes =
      if maxDepth < node.value.height then [.truncated maxDepth] else [] := by
  have visited := congrArg Prod.snd (visit_node maxDepth node)
  simp only [descendants, Noted.notes_bind, Noted.notes_pure, List.append_nil, Noted.noteIf,
    visited, reachesBelow, decide_eq_true_eq]

/-! ## Segments one after the other -/

/-- What the selectors of a segment pick from a node. -/
def Segment.picks (segment : Segment Test) (node : Located L) : List (Located L) :=
  segment.selectors.flatMap fun selector => (selector.pick node).value

theorem value_apply (maxDepth : Nat) (segment : Segment Test) (node : Located L) :
    (segment.apply maxDepth node).value =
      match segment.kind with
      | .child => segment.picks node
      | .descendant => (walk maxDepth node).flatMap segment.picks := by
  have picked (node : Located L) :
      (Noted.collect (Selector.pick node) segment.selectors).value = segment.picks node :=
    Noted.value_collect _ _
  unfold Segment.apply
  cases segment.kind with
  | child => exact picked node
  | descendant =>
    rw [Noted.value_bind, Noted.value_collect, value_descendants]
    exact congrArg (List.flatMap · _) (funext picked)

theorem select_cons (maxDepth : Nat) (segment : Segment Test) (segments : List (Segment Test))
    (nodes : List (Located L)) :
    (select maxDepth (segment :: segments) nodes).value =
      (select maxDepth segments
        (nodes.flatMap fun node => (segment.apply maxDepth node).value)).value := by
  rw [select, Noted.value_bind, Noted.value_collect]

/-- Segments select from what the segments in front of them have selected. -/
theorem select_append (maxDepth : Nat) (first second : List (Segment Test))
    (nodes : List (Located L)) :
    (select maxDepth (first ++ second) nodes).value =
      (select maxDepth second (select maxDepth first nodes).value).value := by
  induction first generalizing nodes with
  | nil => rfl
  | cons segment first ih => rw [List.cons_append, select_cons, select_cons, ih]

/-- Segments select from each node by itself. -/
theorem select_flatMap (maxDepth : Nat) (segments : List (Segment Test))
    (nodes : List (Located L)) :
    (select maxDepth segments nodes).value =
      nodes.flatMap fun node => (select maxDepth segments [node]).value := by
  induction segments generalizing nodes with
  | nil => exact (List.flatMap_singleton' nodes).symm
  | cons segment segments ih =>
    have alone (node : Located L) : (select maxDepth (segment :: segments) [node]).value =
        (segment.apply maxDepth node).value.flatMap
          fun below => (select maxDepth segments [below]).value := by
      rw [select_cons, List.flatMap_singleton, ih]
    rw [select_cons, ih, List.flatMap_assoc]
    exact congrArg nodes.flatMap (funext fun node => (alone node).symm)

/-! ## Other locations -/

/-- The value of a node at another location. -/
def Located.relocated (place : L → M) (node : Located L) : Located M :=
  ⟨place node.location, node.value⟩

section

variable {place : L → M} (follows : ∀ l step, place (Location.child l step) =
  Location.child (place l) step)

include follows

theorem children_relocated (node : Located L) :
    (node.relocated place).children = node.children.map (Located.relocated place) := by
  rw [Located.children, Located.children, List.map_map]
  refine List.map_congr_left fun step _ => ?_
  exact congrArg (Located.mk · step.2) (follows node.location step.1).symm

theorem walk_relocated (n : Nat) (node : Located L) :
    walk n (node.relocated place) = (walk n node).map (Located.relocated place) := by
  induction n generalizing node with
  | zero => rfl
  | succ n ih =>
    rw [walk, walk, children_relocated follows, List.map_cons, List.map_flatMap, List.flatMap_map]
    exact congrArg (_ :: List.flatMap · _) (funext ih)

theorem pick_relocated (selector : Selector Test) (node : Located L) :
    (selector.pick (node.relocated place)).value =
      (selector.pick node).value.map (Located.relocated place) := by
  have child (step : PathStep × Value) :
      (node.relocated place).child step = (node.child step).relocated place :=
    congrArg (Located.mk · step.2) (follows node.location step.1).symm
  cases selector with
  | name key =>
    show (((Value.member? key node.value.members).map _).toList) = List.map _ (Option.toList _)
    cases Value.member? key node.value.members with
    | none => rfl
    | some v => exact congrArg ([·]) (child (.name key, v))
  | index index =>
    show (((resolveIndex node.value.elements.toArray.size index).bind
        (elementAt? node.value.elements.toArray)).map (node.relocated place).child).toList =
      List.map _ (Option.toList _)
    cases (resolveIndex node.value.elements.toArray.size index).bind
        (elementAt? node.value.elements.toArray) with
    | none => rfl
    | some step => exact congrArg ([·]) (child step)
  | wildcard => exact children_relocated follows node
  | slice bounds =>
    show List.map _ _ = List.map _ (List.map _ _)
    rw [List.map_map]
    exact List.map_congr_left fun step _ => child step
  | filter test =>
    rw [Selector.pick, Selector.pick, Noted.value_filter, Noted.value_filter,
      children_relocated follows, List.filter_map]
    rfl

theorem apply_relocated (maxDepth : Nat) (segment : Segment Test) (node : Located L) :
    (segment.apply maxDepth (node.relocated place)).value =
      (segment.apply maxDepth node).value.map (Located.relocated place) := by
  have picks (node : Located L) : segment.picks (node.relocated place) =
      (segment.picks node).map (Located.relocated place) := by
    rw [Segment.picks, Segment.picks, List.map_flatMap]
    exact congrArg segment.selectors.flatMap
      (funext fun selector => pick_relocated follows selector node)
  rw [value_apply, value_apply]
  cases segment.kind with
  | child => exact picks node
  | descendant =>
    show List.flatMap _ _ = List.map _ (List.flatMap _ _)
    rw [walk_relocated follows, List.flatMap_map, List.map_flatMap]
    exact congrArg (walk maxDepth node).flatMap (funext picks)

/-- Which nodes are selected does not depend on how locations are kept, and their locations follow
those of the nodes they are selected from. -/
theorem select_relocated (maxDepth : Nat) (segments : List (Segment Test))
    (nodes : List (Located L)) :
    (select maxDepth segments (nodes.map (Located.relocated place))).value =
      (select maxDepth segments nodes).value.map (Located.relocated place) := by
  induction segments generalizing nodes with
  | nil => rfl
  | cons segment segments ih =>
    rw [select_cons, select_cons, ← ih, List.flatMap_map, List.map_flatMap]
    exact congrArg (fun f => (select maxDepth segments (nodes.flatMap f)).value)
      (funext fun node => apply_relocated follows maxDepth segment node)

end

/-! ## What children inherit -/

theorem mem_children_of_elementAt? {elements : List Value} {index : Nat} {step : PathStep × Value}
    (there : elementAt? elements.toArray index = some step) :
    step ∈ (Value.array elements).children := by
  rw [elementAt?, List.getElem?_toArray, Option.map_eq_some_iff] at there
  obtain ⟨v, found, rfl⟩ := there
  have listed : (v, index) ∈ elements.zipIdx := List.mem_zipIdx_iff_getElem?.mpr found
  exact List.mem_map_of_mem listed

theorem member?_mem {key : String} {members : Members} {v : Value}
    (found : Value.member? key members = some v) : (key, v) ∈ members := by
  induction members with
  | nil => cases found
  | cons m ms ih =>
    rw [Value.member?] at found
    split at found
    · next same =>
      cases found
      rw [← same]
      exact List.mem_cons_self
    · exact List.mem_cons_of_mem m (ih found)

/-- A selector picks children. -/
theorem pick_subset (selector : Selector Test) (node : Located L) :
    (selector.pick node).value ⊆ node.children := by
  obtain ⟨location, v⟩ := node
  have element (index : Nat) (step : PathStep × Value)
      (there : elementAt? v.elements.toArray index = some step) :
      Located.child ⟨location, v⟩ step ∈ (⟨location, v⟩ : Located L).children := by
    refine List.mem_map_of_mem ?_
    cases v with
    | array elements => exact mem_children_of_elementAt? there
    | _ => cases there
  intro child picked
  cases selector with
  | name key =>
    rw [Selector.pick, Noted.value_pure, Option.mem_toList, Option.map_eq_some_iff] at picked
    obtain ⟨w, found, rfl⟩ := picked
    refine List.mem_map_of_mem ?_
    cases v with
    | object members => exact List.mem_map_of_mem (member?_mem found)
    | _ => cases found
  | index index =>
    rw [Selector.pick, Noted.value_pure, Option.mem_toList, Option.map_eq_some_iff] at picked
    obtain ⟨step, found, rfl⟩ := picked
    obtain ⟨place, -, there⟩ := Option.bind_eq_some_iff.mp found
    exact element place step there
  | wildcard => exact picked
  | slice bounds =>
    rw [Selector.pick, Noted.value_pure, List.mem_map] at picked
    obtain ⟨step, listed, rfl⟩ := picked
    obtain ⟨place, -, there⟩ := List.mem_filterMap.mp listed
    exact element place step there
  | filter test =>
    rw [Selector.pick, Noted.value_filter] at picked
    exact (List.mem_filter.mp picked).1

section

variable {P : Located L → Prop} (passes : ∀ node, P node → ∀ child ∈ node.children, P child)

include passes

theorem forall_walk (n : Nat) {node : Located L} (holds : P node) : ∀ below ∈ walk n node, P below
    := by
  induction n generalizing node with
  | zero =>
    intro below member
    rw [walk, List.mem_singleton] at member
    exact member ▸ holds
  | succ n ih =>
    intro below member
    rw [walk, List.mem_cons, List.mem_flatMap] at member
    rcases member with rfl | ⟨child, listed, member⟩
    · exact holds
    · exact ih (passes node holds child listed) below member

theorem forall_apply (maxDepth : Nat) (segment : Segment Test) {node : Located L} (holds : P node) :
    ∀ below ∈ (segment.apply maxDepth node).value, P below := by
  have picks {node : Located L} (holds : P node) : ∀ child ∈ segment.picks node, P child := by
    intro child member
    obtain ⟨selector, -, picked⟩ := List.mem_flatMap.mp member
    exact passes node holds child (pick_subset selector node picked)
  rw [value_apply]
  cases segment.kind with
  | child => exact picks holds
  | descendant =>
    intro below member
    obtain ⟨visited, walked, member⟩ := List.mem_flatMap.mp member
    exact picks (forall_walk passes maxDepth holds visited walked) below member

/-- What passes from every node to its children, and holds of the nodes that selection starts from,
holds of all selected nodes. -/
theorem forall_select (maxDepth : Nat) (segments : List (Segment Test)) {nodes : List (Located L)}
    (start : ∀ node ∈ nodes, P node) : ∀ node ∈ (select maxDepth segments nodes).value, P node := by
  induction segments generalizing nodes with
  | nil => exact start
  | cons segment segments ih =>
    rw [select_cons]
    refine ih fun below member => ?_
    obtain ⟨node, listed, member⟩ := List.mem_flatMap.mp member
    exact forall_apply passes maxDepth segment (start node listed) below member

end

end JsonPath
