import JsonPath.Evaluation
import JsonPath.Proofs.Selection
import Mathlib.Data.List.Basic
import Mathlib.Data.List.Flatten

/-!
# The order of a document

A node below another has an address, which tells at each step down which of the children to take. In
the order of the document a node comes in front of what is below it, and what is below a child in
front of what is below the next: the addresses ascend, compared as words in a dictionary are.

Results:
1. `map_some_walk`: a walk visits what stands at the addresses, one after the other.
2. `mem_addresses`, `addresses_ascend`: these are all that are not too long, and they ascend.
   `walk_inOrder` says it of the nodes.
3. `lt_height_iff_below`: a node is higher than a number if something further down has an address.
4. `walk_of_height_le`, `walk_sublist`: walks to two depths.
5. `descendants_inOrder`: the traversal with a list of pending nodes is the walk down to the limit.
-/

namespace JsonPath

/-- The places in a list ascend. -/
theorem zipIdx_ascend {α : Type} (xs : List α) : xs.zipIdx.Pairwise fun e e' => e.2 < e'.2 := by
  have places : (xs.zipIdx.map Prod.snd).Pairwise (· < ·) := by
    rw [List.zipIdx_map_snd]
    exact List.pairwise_lt_range'
  exact List.pairwise_map.mp places

variable {L : Type} [Location L]

/-! ## Addresses -/

/-- The node at an address below the node, which gives the place of a child at each step down. -/
def Located.below? (node : Located L) : List Nat → Option (Located L)
  | [] => some node
  | place :: address => node.children[place]?.bind fun child => child.below? address

/-- The addresses of the nodes below a value, itself included, that are not more than so many steps
down. -/
def Value.addresses : Nat → Value → List (List Nat)
  | 0, _ => [[]]
  | n + 1, v => [] :: v.children.zipIdx.flatMap fun e => (addresses n e.1.2).map (e.2 :: ·)

/-- An address leads below the child that its first place tells. -/
theorem below?_cons {node : Located L} {place : Nat} {address : List Nat} :
    (node.below? (place :: address)).isSome ↔
      ∃ step, node.value.children[place]? = some step ∧
        ((node.child step).below? address).isSome := by
  rw [Located.below?, Located.children, List.getElem?_map]
  cases node.value.children[place]? with
  | none => simp
  | some step => simp

/-- What a walk visits stands at the addresses, in their order. -/
theorem map_some_walk (n : Nat) (node : Located L) :
    (walk n node).map some = (node.value.addresses n).map node.below? := by
  induction n generalizing node with
  | zero => rfl
  | succ n ih =>
    have values : node.value.children.zipIdx.map Prod.fst = node.value.children :=
      List.zipIdx_map_fst 0 _
    have branch (e : (PathStep × Value) × Nat) (listed : e ∈ node.value.children.zipIdx) :
        (walk n (node.child e.1)).map some =
          ((e.1.2.addresses n).map (e.2 :: ·)).map node.below? := by
      have there : node.children[e.2]? = some (node.child e.1) := by
        rw [Located.children, List.getElem?_map, List.mem_zipIdx_iff_getElem?.mp listed]
        rfl
      have down (address : List Nat) :
          node.below? (e.2 :: address) = (node.child e.1).below? address := by
        rw [Located.below?, there]
        rfl
      rw [ih, List.map_map]
      exact List.map_congr_left fun address _ => (down address).symm
    rw [walk, Value.addresses, List.map_cons, List.map_cons, Located.children, List.flatMap_map,
      List.map_flatMap, List.map_flatMap]
    conv => lhs; rw [← values, List.flatMap_map]
    exact congrArg (some node :: ·) (List.flatMap_congr branch)

/-- The addresses are all those that are not too long and lead to a node. -/
theorem mem_addresses {n : Nat} {node : Located L} {address : List Nat} :
    address ∈ node.value.addresses n ↔ address.length ≤ n ∧ (node.below? address).isSome := by
  induction n generalizing node address with
  | zero =>
    cases address with
    | nil => simp [Value.addresses, Located.below?]
    | cons place address => simp [Value.addresses]
  | succ n ih =>
    cases address with
    | nil => simp [Value.addresses, Located.below?]
    | cons place address =>
      rw [Value.addresses, List.mem_cons, or_iff_right (List.cons_ne_nil place address),
        List.mem_flatMap, below?_cons, List.length_cons, Nat.add_le_add_iff_right]
      constructor
      · rintro ⟨⟨step, place'⟩, listed, member⟩
        obtain ⟨address', member, same⟩ := List.mem_map.mp member
        cases same
        obtain ⟨short, leads⟩ := (@ih (node.child step) address).mp member
        exact ⟨short, step, List.mem_zipIdx_iff_getElem?.mp listed, leads⟩
      · rintro ⟨short, step, there, leads⟩
        have member := (@ih (node.child step) address).mpr ⟨short, leads⟩
        exact ⟨(step, place), List.mem_zipIdx_iff_getElem?.mpr there, List.mem_map_of_mem member⟩

/-- A node comes in front of what is below it, and what is below a child in front of what is below
the next. -/
theorem addresses_ascend (n : Nat) (v : Value) : (v.addresses n).Pairwise (· < ·) := by
  induction n generalizing v with
  | zero => exact List.pairwise_singleton _ _
  | succ n ih =>
    rw [Value.addresses, List.pairwise_cons, List.pairwise_flatMap]
    refine ⟨fun address member => ?_, fun e _ => ?_, ?_⟩
    · obtain ⟨e, -, member⟩ := List.mem_flatMap.mp member
      obtain ⟨address, -, rfl⟩ := List.mem_map.mp member
      exact List.nil_lt_cons e.2 address
    · exact List.pairwise_map.mpr
        ((ih e.1.2).imp fun less => List.cons_lt_cons_iff.mpr (Or.inr ⟨rfl, less⟩))
    · refine (zipIdx_ascend v.children).imp fun earlier => ?_
      intro address member address' member'
      obtain ⟨rest, -, rfl⟩ := List.mem_map.mp member
      obtain ⟨rest', -, rfl⟩ := List.mem_map.mp member'
      exact List.cons_lt_cons_iff.mpr (Or.inl earlier)

/-- The one node stands in front of the other in the order of the document below the node `top`. -/
def Located.InOrder (top first second : Located L) : Prop :=
  ∃ address address' : List Nat, address < address' ∧ top.below? address = some first ∧
    top.below? address' = some second

/-- A walk visits nodes in the order of the document. -/
theorem walk_inOrder (n : Nat) (node : Located L) : (walk n node).Pairwise node.InOrder := by
  have ascend : ((node.value.addresses n).map node.below?).Pairwise fun first? second? =>
      ∃ address address' : List Nat, address < address' ∧ node.below? address = first? ∧
        node.below? address' = second? :=
    List.pairwise_map.mpr ((addresses_ascend n node.value).imp fun less => ⟨_, _, less, rfl, rfl⟩)
  rw [← map_some_walk, List.pairwise_map] at ascend
  exact ascend

/-- A value has as many levels as its height says. -/
theorem le_height_iff_below {n : Nat} {node : Located L} :
    n ≤ node.value.height ↔
      ∃ address : List Nat, address.length = n ∧ (node.below? address).isSome := by
  induction n generalizing node with
  | zero => exact ⟨fun _ => ⟨[], rfl, rfl⟩, fun _ => Nat.zero_le _⟩
  | succ n ih =>
    rw [Nat.succ_le_iff, Value.lt_height]
    constructor
    · rintro ⟨step, listed, high⟩
      obtain ⟨address, long, leads⟩ := (@ih (node.child step)).mp high
      obtain ⟨place, there⟩ := List.getElem?_of_mem listed
      exact ⟨place :: address, congrArg (· + 1) long, below?_cons.mpr ⟨step, there, leads⟩⟩
    · rintro ⟨address, long, leads⟩
      obtain ⟨place, address, rfl⟩ := List.exists_cons_of_length_eq_add_one long
      obtain ⟨step, there, leads⟩ := below?_cons.mp leads
      have high := (@ih (node.child step)).mpr ⟨address, Nat.succ.inj long, leads⟩
      exact ⟨step, List.mem_of_getElem? there, high⟩

theorem lt_height_iff_below {n : Nat} {node : Located L} :
    n < node.value.height ↔
      ∃ address : List Nat, n < address.length ∧ (node.below? address).isSome := by
  constructor
  · intro high
    obtain ⟨address, long, leads⟩ := le_height_iff_below.mp (Nat.succ_le_of_lt high)
    exact ⟨address, Nat.lt_of_succ_le (Nat.le_of_eq long.symm), leads⟩
  · rintro ⟨address, long, leads⟩
    exact Nat.lt_of_lt_of_le long (le_height_iff_below.mpr ⟨address, rfl, leads⟩)

/-! ## Walks that go deeper -/

/-- There is nothing to visit further down than a node is high. -/
theorem walk_of_height_le {m n : Nat} {node : Located L} (low : node.value.height ≤ m)
    (higher : m ≤ n) : walk m node = walk n node := by
  induction m generalizing n node with
  | zero =>
    have none : node.children = [] := by
      have noChild : ¬0 < node.value.height := Nat.not_lt.mpr low
      rw [Value.height_pos, not_not] at noChild
      rw [Located.children, noChild, List.map_nil]
    cases n with
    | zero => rfl
    | succ n =>
      rw [walk, walk, none]
      rfl
  | succ m ih =>
    obtain ⟨n, rfl⟩ : ∃ n', n = n' + 1 := ⟨n - 1, by omega⟩
    rw [walk, walk]
    refine congrArg (node :: ·) (List.flatMap_congr fun child listed => ?_)
    obtain ⟨step, below, rfl⟩ := List.mem_map.mp listed
    have lower : step.2.height < m + 1 := Nat.lt_of_lt_of_le (Value.height_child_lt below) low
    exact ih (Nat.le_of_lt_succ lower) (Nat.le_of_succ_le_succ higher)

/-- A walk that goes deeper visits the same nodes in the same order, and others between them. -/
theorem walk_sublist {m n : Nat} (higher : m ≤ n) (node : Located L) :
    (walk m node).Sublist (walk n node) := by
  induction m generalizing n node with
  | zero =>
    rw [walk]
    cases n with
    | zero => exact List.Sublist.refl _
    | succ n => exact (List.nil_sublist _).cons_cons node
  | succ m ih =>
    obtain ⟨n, rfl⟩ : ∃ n', n = n' + 1 := ⟨n - 1, by omega⟩
    rw [walk, walk]
    have each (child : Located L) := ih (Nat.le_of_succ_le_succ higher) child
    exact (List.Sublist.flatMap_right _ fun child _ => each child).cons_cons node

/-! ## The traversal -/

/-- The traversal with pending nodes is the walk down to the limit: each node that is not deeper is
visited once, at its place in the order of the document and with its own location. The log is warned
if, and only if, there is a node that is deeper. -/
theorem descendants_inOrder (maxDepth : Nat) (node : Located L) :
    let run := descendants maxDepth node
    run.value = walk maxDepth node ∧
    (walk maxDepth node).map some = (node.value.addresses maxDepth).map node.below? ∧
    (node.value.addresses maxDepth).Pairwise (· < ·) ∧
    (∀ address, address ∈ node.value.addresses maxDepth ↔
      address.length ≤ maxDepth ∧ (node.below? address).isSome) ∧
    run.lines = (if maxDepth < node.value.height then
      [⟨.warn, "descendant traversal truncated at depth " ++ decimalText maxDepth⟩] else []) ∧
    (maxDepth < node.value.height ↔
      ∃ address : List Nat, maxDepth < address.length ∧ (node.below? address).isSome) := by
  intro run
  have told : run.lines = (if maxDepth < node.value.height then
      [⟨.warn, "descendant traversal truncated at depth " ++ decimalText maxDepth⟩] else []) := by
    rw [Noted.lines, notes_descendants]
    split <;> rfl
  exact ⟨value_descendants maxDepth node, map_some_walk maxDepth node,
    addresses_ascend maxDepth node.value, fun _ => mem_addresses, told, lt_height_iff_below⟩

end JsonPath
