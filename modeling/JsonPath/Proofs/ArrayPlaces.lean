import JsonPath.Proofs.Selection
import Mathlib.Data.List.Sort

/-!
# The places that slices and indices stand for

A slice goes up from its lower bound or down from its upper one, and stops in front of the other.
The two bounds are those of RFC 9535: a negative number counts from the end, and what lies outside
the array is taken to the nearest end.

Results:
1. `lt_stepsBetween`: as many steps are taken as stay in front of the far bound.
2. `indices_exact`: which places a slice stands for, and in which order.
3. `resolveIndex_eq`, `resolveIndex_lt`: the place that an index stands for.
4. `pick_index`, `pick_slice`: each of these places holds an element, which is picked.
5. `pick_subperm`, `pick_sublist`: no child is picked twice, and children are picked in their order
   unless a slice goes backwards.
-/

namespace JsonPath

/-! ## Slices -/

namespace SliceBounds

/-- The bound of a slice on the side of the start of the array. -/
def lower (length : Nat) (b : SliceBounds) : Int :=
  if 0 < b.step.getD 1 then min (max (resolved length (b.start.getD 0)) 0) length
  else min (max (resolved length (b.stop.getD (-length - 1))) (-1)) (length - 1)

/-- The bound of a slice on the side of the end of the array. -/
def upper (length : Nat) (b : SliceBounds) : Int :=
  if 0 < b.step.getD 1 then min (max (resolved length (b.stop.getD length)) 0) length
  else min (max (resolved length (b.start.getD (length - 1))) (-1)) (length - 1)

/-- What the places of a slice have to be: going up, all that are whole steps above the lower bound
and below the upper one; going down, all that are whole steps below the upper bound and above the
lower one; and none where the step is zero. -/
structure Exact (length : Nat) (b : SliceBounds) (places : List Nat) : Prop where
  inside : ∀ place ∈ places, place < length
  still : b.step.getD 1 = 0 → places = []
  ascending : 0 < b.step.getD 1 → places.Pairwise (· < ·) ∧ ∀ place : Nat, place ∈ places ↔
    ∃ k : Nat, (place : Int) = b.lower length + k * b.step.getD 1 ∧ place < b.upper length
  descending : b.step.getD 1 < 0 → places.Pairwise (· > ·) ∧ ∀ place : Nat, place ∈ places ↔
    ∃ k : Nat, (place : Int) = b.upper length + k * b.step.getD 1 ∧ b.lower length < place

/-- The numbers counted are those that are still in front of the far one. -/
theorem lt_stepsBetween {low high step : Int} (forward : 0 < step) {k : Nat} :
    k < stepsBetween low high step ↔ low + k * step < high := by
  have further : ((k : Int) + 1) * step = k * step + step := by rw [Int.add_mul, Int.one_mul]
  rw [stepsBetween, Int.lt_toNat, Int.lt_iff_add_one_le, Int.le_ediv_iff_mul_le forward, further]
  omega

/-- The same for numbers that go down. -/
theorem lt_stepsBetween_neg {low high step : Int} (backward : step < 0) {k : Nat} :
    k < stepsBetween low high (-step) ↔ low < high + k * step := by
  rw [lt_stepsBetween (by omega), Int.mul_neg]
  omega

variable (length : Nat) {b : SliceBounds}

theorem bounds_ascending (forward : 0 < b.step.getD 1) :
    0 ≤ b.lower length ∧ b.upper length ≤ length := by
  unfold lower upper
  rw [if_pos forward, if_pos forward]
  omega

theorem bounds_descending (backward : b.step.getD 1 < 0) :
    -1 ≤ b.lower length ∧ b.upper length < length := by
  have notForward : ¬0 < b.step.getD 1 := by omega
  unfold lower upper
  rw [if_neg notForward, if_neg notForward]
  omega

theorem limits_ascending (forward : 0 < b.step.getD 1) :
    b.limits length true = (b.lower length, b.upper length) := by
  have starts : clamp 0 length ((b.start.map (resolved length)).getD 0) = b.lower length := by
    rw [lower, if_pos forward]
    cases b.start <;> simp only [clamp, resolved, Option.map, Option.getD] <;> omega
  have stops : clamp 0 length ((b.stop.map (resolved length)).getD length) = b.upper length := by
    rw [upper, if_pos forward]
    cases b.stop <;> simp only [clamp, resolved, Option.map, Option.getD] <;> omega
  rw [limits, if_pos rfl, starts, stops]

theorem limits_descending (backward : b.step.getD 1 < 0) :
    b.limits length false = (b.upper length, b.lower length) := by
  have notForward : ¬0 < b.step.getD 1 := by omega
  have starts : clamp (-1) (length - 1) ((b.start.map (resolved length)).getD (length - 1)) =
      b.upper length := by
    rw [upper, if_neg notForward]
    cases b.start <;> simp only [clamp, resolved, Option.map, Option.getD] <;> omega
  have stops : clamp (-1) (length - 1) ((b.stop.map (resolved length)).getD (-length - 1)) =
      b.lower length := by
    rw [lower, if_neg notForward]
    cases b.stop <;> simp only [clamp, resolved, Option.map, Option.getD] <;> omega
  rw [limits, if_neg Bool.false_ne_true, starts, stops]

theorem indices_ascending (forward : 0 < b.step.getD 1) :
    b.indices length = (progression (b.lower length) (b.step.getD 1)
      (stepsBetween (b.lower length) (b.upper length) (b.step.getD 1))).map Int.toNat := by
  simp only [indices, if_pos forward, limits_ascending length forward]

theorem indices_descending (backward : b.step.getD 1 < 0) :
    b.indices length = (progression (b.upper length) (b.step.getD 1)
      (stepsBetween (b.lower length) (b.upper length) (-b.step.getD 1))).map Int.toNat := by
  have notForward : ¬0 < b.step.getD 1 := by omega
  simp only [indices, if_neg notForward, if_pos backward, limits_descending length backward]

theorem indices_still (zero : b.step.getD 1 = 0) : b.indices length = [] := by
  simp only [indices, zero, Int.lt_irrefl, if_false, List.map_nil]

/-- The places on a way up or down, none of which is in front of the array. -/
theorem mem_places {start step : Int} {count place : Nat}
    (nonneg : ∀ k < count, 0 ≤ start + k * step) :
    place ∈ (progression start step count).map Int.toNat ↔
      ∃ k < count, (place : Int) = start + k * step := by
  rw [progression, List.map_map, List.mem_map]
  refine exists_congr fun k => ?_
  rw [List.mem_range]
  refine and_congr_right fun early => ?_
  have inside := nonneg k early
  show (start + k * step).toNat = place ↔ _
  omega

/-- The places on a way up or down follow one another as the numbers do. -/
theorem places_pairwise {start step : Int} {count : Nat} {R : Nat → Nat → Prop}
    (follow : ∀ i j : Nat, i < j → j < count →
      R (start + i * step).toNat (start + j * step).toNat) :
    ((progression start step count).map Int.toNat).Pairwise R := by
  rw [progression, List.map_map, List.pairwise_map]
  refine List.Pairwise.imp_of_mem (fun {i j} _ later earlier => ?_) List.pairwise_lt_range
  exact follow i j earlier (List.mem_range.mp later)

theorem ascending_exact (forward : 0 < b.step.getD 1) :
    (b.indices length).Pairwise (· < ·) ∧ ∀ place : Nat, place ∈ b.indices length ↔
      ∃ k : Nat, (place : Int) = b.lower length + k * b.step.getD 1 ∧ place < b.upper length := by
  have first := (bounds_ascending length forward).1
  have nonneg (k : Nat) : 0 ≤ b.lower length + k * b.step.getD 1 :=
    Int.add_nonneg first (Int.mul_nonneg (Int.natCast_nonneg k) (Int.le_of_lt forward))
  rw [indices_ascending length forward]
  refine ⟨places_pairwise fun i j earlier _ => ?_, fun place => ?_⟩
  · have steps : (i : Int) * b.step.getD 1 < j * b.step.getD 1 :=
      Int.mul_lt_mul_of_pos_right (Int.ofNat_lt.mpr earlier) forward
    have inside := nonneg i
    omega
  · rw [mem_places fun k _ => nonneg k]
    refine exists_congr fun k => ?_
    rw [lt_stepsBetween forward, and_comm]
    exact and_congr_right fun there => by rw [there]

theorem descending_exact (backward : b.step.getD 1 < 0) :
    (b.indices length).Pairwise (· > ·) ∧ ∀ place : Nat, place ∈ b.indices length ↔
      ∃ k : Nat, (place : Int) = b.upper length + k * b.step.getD 1 ∧ b.lower length < place := by
  have last := (bounds_descending length backward).1
  have reaches (k : Nat) : k < stepsBetween (b.lower length) (b.upper length) (-b.step.getD 1) ↔
      b.lower length < b.upper length + k * b.step.getD 1 := lt_stepsBetween_neg backward
  rw [indices_descending length backward]
  refine ⟨places_pairwise fun i j earlier inFront => ?_, fun place => ?_⟩
  · have steps : (j : Int) * b.step.getD 1 < i * b.step.getD 1 :=
      Int.mul_lt_mul_of_neg_right (Int.ofNat_lt.mpr earlier) backward
    have inside := (reaches j).mp inFront
    show _ < _
    omega
  · rw [mem_places fun k early => by
      have inside := (reaches k).mp early
      omega]
    refine exists_congr fun k => ?_
    rw [reaches, and_comm]
    exact and_congr_right fun there => by rw [there]

/-- A slice stands for the places that its bounds and its step say. -/
theorem indices_exact : Exact length b (b.indices length) where
  inside := by
    intro place listed
    rcases Int.lt_trichotomy (b.step.getD 1) 0 with backward | zero | forward
    · obtain ⟨k, there, -⟩ := ((descending_exact length backward).2 place).mp listed
      have steps : (k : Int) * b.step.getD 1 ≤ 0 :=
        Int.mul_nonpos_of_nonneg_of_nonpos (Int.natCast_nonneg k) (Int.le_of_lt backward)
      have first := (bounds_descending length backward).2
      omega
    · rw [indices_still length zero] at listed
      cases listed
    · obtain ⟨k, -, below⟩ := ((ascending_exact length forward).2 place).mp listed
      have last := (bounds_ascending length forward).2
      omega
  still := indices_still length
  ascending := ascending_exact length
  descending := descending_exact length

example : (⟨some (-1), some 0, some (-2)⟩ : SliceBounds).indices 5 = [4, 2] := by decide

theorem indices_nodup : (b.indices length).Nodup := by
  rcases Int.lt_trichotomy (b.step.getD 1) 0 with backward | zero | forward
  · exact (descending_exact length backward).1.imp fun later => Nat.ne_of_gt later
  · rw [indices_still length zero]
    exact List.nodup_nil
  · exact (ascending_exact length forward).1.imp fun earlier => Nat.ne_of_lt earlier

theorem indices_subperm : (b.indices length).Subperm (List.range length) := by
  apply List.subperm_of_subset (indices_nodup length)
  intro place listed
  exact List.mem_range.mpr ((indices_exact length).inside place listed)

/-- A slice that does not go backwards leaves places out, and that is all. -/
theorem indices_sublist (notBackward : 0 ≤ b.step.getD 1) :
    (b.indices length).Sublist (List.range length) := by
  rcases Int.le_iff_eq_or_lt.mp notBackward with zero | forward
  · rw [indices_still length zero.symm]
    exact List.nil_sublist _
  · exact List.sublist_of_subperm_of_pairwise (indices_subperm length)
      (ascending_exact length forward).1 List.pairwise_lt_range

end SliceBounds

/-! ## Indices -/

/-- An index that is not negative stands for itself, and a negative one counts from the end; there
is nothing further out. -/
theorem resolveIndex_eq (length : Nat) (index : Int) :
    resolveIndex length index =
      if 0 ≤ index ∧ index < length then some index.toNat
      else if -length ≤ index ∧ index < 0 then some (length + index).toNat
      else none := by
  simp only [resolveIndex]
  by_cases negative : index < 0
  · have notInside : ¬(0 ≤ index ∧ index < length) := by omega
    have same : 0 ≤ length + index ∧ length + index < length ↔ -length ≤ index ∧ index < 0 := by
      omega
    rw [if_pos negative, if_neg notInside]
    simp only [same]
  · have notBefore : ¬(-length ≤ index ∧ index < 0) := by omega
    rw [if_neg negative, if_neg notBefore]

theorem resolveIndex_lt {length place : Nat} {index : Int}
    (resolves : resolveIndex length index = some place) : place < length := by
  simp only [resolveIndex, Option.ite_none_right_eq_some, Option.some.injEq] at resolves
  omega

/-! ## What is picked -/

variable {L : Type} [Location L]

/-- The child of a node that is the element at the place. -/
def Located.HasElement (node : Located L) (place : Nat) (child : Located L) : Prop :=
  ∃ v, node.value.elements[place]? = some v ∧ child = node.child (.index place, v)

/-- Elements at places that are all within the array. -/
theorem elements_at (node : Located L) {places : List Nat}
    (inside : ∀ place ∈ places, place < node.value.elements.length) :
    List.Forall₂ node.HasElement places
      ((places.filterMap (elementAt? node.value.elements.toArray)).map node.child) := by
  induction places with
  | nil => exact .nil
  | cons place places ih =>
    rw [List.forall_mem_cons] at inside
    obtain ⟨v, there⟩ : ∃ v, node.value.elements[place]? = some v :=
      ⟨_, List.getElem?_eq_getElem inside.1⟩
    have found : elementAt? node.value.elements.toArray place = some (.index place, v) := by
      rw [elementAt?, List.getElem?_toArray, there]
      rfl
    rw [List.filterMap_cons_some found, List.map_cons]
    exact .cons ⟨_, there, rfl⟩ (ih inside.2)

/-- An index picks the element at its place, if it has one. -/
theorem pick_index (node : Located L) (index : Int) :
    List.Forall₂ node.HasElement (resolveIndex node.value.elements.length index).toList
      (Selector.pick node (.index index : Selector Test)).value := by
  have picked : (Selector.pick node (.index index : Selector Test)).value =
      ((resolveIndex node.value.elements.length index).toList.filterMap
        (elementAt? node.value.elements.toArray)).map node.child := by
    rw [Selector.pick, Noted.value_pure, List.size_toArray]
    cases resolveIndex node.value.elements.length index with
    | none => rfl
    | some place => cases found : elementAt? node.value.elements.toArray place <;> simp [found]
  rw [picked]
  refine elements_at node fun place listed => ?_
  exact resolveIndex_lt (Option.mem_toList.mp listed)

/-- A slice picks the elements at its places. -/
theorem pick_slice (node : Located L) (bounds : SliceBounds) :
    List.Forall₂ node.HasElement (bounds.indices node.value.elements.length)
      (Selector.pick node (.slice bounds : Selector Test)).value :=
  elements_at node (bounds.indices_exact _).inside

/-- The elements at all places of an array are its children. -/
theorem elements_sublist (v : Value) :
    ((List.range v.elements.length).filterMap (elementAt? v.elements.toArray)).Sublist
      v.children := by
  cases v with
  | array elements =>
    have found (place : Nat) (listed : place ∈ List.range elements.length) :
        elementAt? elements.toArray place = some (.index place, elements.getD place .null) := by
      have inside := List.mem_range.mp listed
      rw [elementAt?, List.getElem?_toArray, List.getD_eq_getElem?_getD,
        List.getElem?_eq_getElem inside]
      rfl
    have same : (List.range elements.length).map
        (fun place => (PathStep.index place, elements.getD place .null)) =
        (Value.array elements).children := by
      refine List.ext_getElem (by simp [Value.children]) fun place inside _ => ?_
      rw [List.length_map, List.length_range] at inside
      simp [Value.children, inside]
    show List.Sublist ((List.range elements.length).filterMap (elementAt? elements.toArray)) _
    rw [List.filterMap_congr found, List.filterMap_eq_map', same]
  | _ => exact List.nil_sublist _

/-- Whether the selector is a slice that goes backwards. -/
def Selector.isBackward {φ : Type} : Selector φ → Bool
  | .slice bounds => bounds.step.getD 1 < 0
  | _ => false

/-- Children are picked in their order, unless by a slice that goes backwards. -/
theorem pick_sublist {selector : Selector Test} (forward : selector.isBackward = false)
    (node : Located L) : (selector.pick node).value.Sublist node.children := by
  have single {child? : Option (Located L)} (picked : child?.toList ⊆ node.children) :
      child?.toList.Sublist node.children := by
    cases child? with
    | none => exact List.nil_sublist _
    | some child => exact List.singleton_sublist.mpr (picked List.mem_cons_self)
  have picked := pick_subset selector node
  cases selector with
  | name key => exact single picked
  | index place => exact single picked
  | wildcard => exact List.Sublist.refl _
  | slice bounds =>
    have notNegative : 0 ≤ bounds.step.getD 1 := Int.not_lt.mp (of_decide_eq_false forward)
    have places := bounds.indices_sublist node.value.elements.length notNegative
    exact ((places.filterMap _).trans (elements_sublist node.value)).map node.child
  | filter test =>
    rw [Selector.pick, Noted.value_filter]
    exact List.filter_sublist

/-- No child is picked twice. -/
theorem pick_subperm (selector : Selector Test) (node : Located L) :
    (selector.pick node).value.Subperm node.children := by
  cases selector with
  | slice bounds =>
    obtain ⟨inOrder, permuted, within⟩ := bounds.indices_subperm node.value.elements.length
    refine ⟨(inOrder.filterMap (elementAt? node.value.elements.toArray)).map node.child,
      (permuted.filterMap _).map node.child, ?_⟩
    exact ((within.filterMap _).trans (elements_sublist node.value)).map node.child
  | _ => exact (pick_sublist rfl node).subperm

end JsonPath
