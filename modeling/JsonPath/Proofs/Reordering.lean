import JsonPath.Evaluation.Comparison
import JsonPath.Evaluation.Node
import Mathlib.Data.List.Forall2
import Mathlib.Data.List.Perm.Basic

/-!
# Values up to the order of members

`Value.Reordered` says of two values that they differ only in the order of the members of objects,
at any depth. Where names are unique, neither lookup nor comparison can tell such values apart.

`Rearranged R` relates lists whose items correspond to one another by `R`, in whatever order.

Results:
1. `Value.Twin.children`: children correspond, by the same steps.
2. `Value.Twin.member?`: a name leads to corresponding members.
3. `Value.equals_agree`, `Value.less_agree`: comparison does not see the order.
-/

namespace JsonPath

/-! ## Lists up to order -/

section

variable {α β : Type} {R S : α → β → Prop} {xs : List α} {ys : List β}

theorem forall₂_imp_mem (each : List.Forall₂ R xs ys)
    (implies : ∀ x ∈ xs, ∀ y ∈ ys, R x y → S x y) : List.Forall₂ S xs ys := by
  induction each with
  | nil => exact .nil
  | cons first _ ih =>
    refine .cons (implies _ List.mem_cons_self _ List.mem_cons_self first) (ih ?_)
    intro x listed y listed'
    exact implies x (List.mem_cons_of_mem _ listed) y (List.mem_cons_of_mem _ listed')

theorem forall₂_congr_mem (same : ∀ x ∈ xs, ∀ y ∈ ys, (R x y ↔ S x y)) :
    List.Forall₂ R xs ys ↔ List.Forall₂ S xs ys :=
  ⟨fun each => forall₂_imp_mem each fun x listed y listed' => (same x listed y listed').mp,
    fun each => forall₂_imp_mem each fun x listed y listed' => (same x listed y listed').mpr⟩

/-- If each item has a corresponding one, these can be listed in the order of the items. -/
theorem exists_forall₂ (each : ∀ x ∈ xs, ∃ y ∈ ys, R x y) :
    ∃ zs, List.Forall₂ R xs zs ∧ zs ⊆ ys := by
  induction xs with
  | nil => exact ⟨[], .nil, List.nil_subset ys⟩
  | cons x xs ih =>
    obtain ⟨y, listed, related⟩ := each x List.mem_cons_self
    obtain ⟨zs, others, among⟩ := ih fun x later => each x (List.mem_cons_of_mem _ later)
    exact ⟨y :: zs, .cons related others, List.cons_subset.mpr ⟨listed, among⟩⟩

theorem forall₂_zipIdx (each : List.Forall₂ R xs ys) (start : Nat) :
    List.Forall₂ (fun e e' => e.2 = e'.2 ∧ R e.1 e'.1) (xs.zipIdx start) (ys.zipIdx start) := by
  induction each generalizing start with
  | nil => exact .nil
  | cons first _ ih => exact .cons ⟨rfl, first⟩ (ih (start + 1))

end

/-- The items of the lists correspond to one another, in whatever order. -/
def Rearranged {α β : Type} (R : α → β → Prop) (xs : List α) (ys : List β) : Prop :=
  ∃ zs, List.Forall₂ R xs zs ∧ zs.Perm ys

namespace Rearranged

variable {α β γ δ : Type} {R : α → β → Prop} {S : γ → δ → Prop} {xs : List α} {ys : List β}

theorem of_forall₂ (each : List.Forall₂ R xs ys) : Rearranged R xs ys := ⟨ys, each, .refl ys⟩

theorem nil : Rearranged R [] [] := of_forall₂ .nil

theorem single {x : α} {y : β} (related : R x y) : Rearranged R [x] [y] :=
  of_forall₂ (.cons related .nil)

theorem ofOption {x? : Option α} {y? : Option β} (related : Option.Rel R x? y?) :
    Rearranged R x?.toList y?.toList := by
  cases related with
  | none => exact nil
  | some related => exact single related

theorem length_eq (rearranged : Rearranged R xs ys) : xs.length = ys.length := by
  obtain ⟨zs, each, permuted⟩ := rearranged
  exact each.length_eq.trans permuted.length_eq

theorem append {xs' : List α} {ys' : List β} (first : Rearranged R xs ys)
    (second : Rearranged R xs' ys') : Rearranged R (xs ++ xs') (ys ++ ys') := by
  obtain ⟨zs, each, permuted⟩ := first
  obtain ⟨zs', each', permuted'⟩ := second
  exact ⟨zs ++ zs', List.rel_append each each', permuted.append permuted'⟩

theorem map {f : α → γ} {g : β → δ} (rearranged : Rearranged R xs ys)
    (related : ∀ x y, R x y → S (f x) (g y)) : Rearranged S (xs.map f) (ys.map g) := by
  obtain ⟨zs, each, permuted⟩ := rearranged
  exact ⟨zs.map g, List.rel_map related each, permuted.map g⟩

theorem filter {p : α → Bool} {q : β → Bool} (rearranged : Rearranged R xs ys)
    (same : ∀ x y, R x y → p x = q y) : Rearranged R (xs.filter p) (ys.filter q) := by
  obtain ⟨zs, each, permuted⟩ := rearranged
  refine ⟨zs.filter q, List.rel_filter (fun x y related => ?_) each, permuted.filter q⟩
  show p x = true ↔ q y = true
  rw [same x y related]

theorem flatMap {f : α → List γ} {g : β → List δ} (rearranged : Rearranged R xs ys)
    (related : ∀ x y, R x y → Rearranged S (f x) (g y)) :
    Rearranged S (xs.flatMap f) (ys.flatMap g) := by
  obtain ⟨zs, each, permuted⟩ := rearranged
  have inOrder : Rearranged S (xs.flatMap f) (zs.flatMap g) := by
    clear permuted
    induction each with
    | nil => exact nil
    | cons first _ ih => exact (related _ _ first).append ih
  obtain ⟨ws, each, permuted'⟩ := inOrder
  exact ⟨ws, each, permuted'.trans (permuted.flatMap_right g)⟩

theorem perm {ys : List α} (rearranged : Rearranged Eq xs ys) : xs.Perm ys := by
  obtain ⟨zs, each, permuted⟩ := rearranged
  rw [List.forall₂_eq_eq_eq] at each
  exact each ▸ permuted

/-- Each item on the right has a corresponding one on the left. -/
theorem exists_left (rearranged : Rearranged R xs ys) {y : β} (listed : y ∈ ys) :
    ∃ x ∈ xs, R x y := by
  obtain ⟨zs, each, permuted⟩ := rearranged
  have listed : y ∈ zs := permuted.mem_iff.mpr listed
  clear permuted
  induction each with
  | nil => cases listed
  | cons first _ ih =>
    rcases List.mem_cons.mp listed with rfl | later
    · exact ⟨_, List.mem_cons_self, first⟩
    · obtain ⟨x, member, related⟩ := ih later
      exact ⟨x, List.mem_cons_of_mem _ member, related⟩

theorem flip (rearranged : Rearranged R xs ys) : Rearranged (fun y x => R x y) ys xs := by
  obtain ⟨zs, each, permuted⟩ := rearranged
  exact List.perm_comp_forall₂ permuted.symm each.flip

/-- Each item on the left has a corresponding one on the right. -/
theorem exists_right (rearranged : Rearranged R xs ys) {x : α} (listed : x ∈ xs) :
    ∃ y ∈ ys, R x y := rearranged.flip.exists_left listed

theorem imp_mem {T : α → β → Prop} (rearranged : Rearranged R xs ys)
    (implies : ∀ x ∈ xs, ∀ y ∈ ys, R x y → T x y) : Rearranged T xs ys := by
  obtain ⟨zs, each, permuted⟩ := rearranged
  refine ⟨zs, forall₂_imp_mem each fun x listed z listed' => ?_, permuted⟩
  exact implies x listed z (permuted.mem_iff.mp listed')

theorem congr_mem {T : α → β → Prop} (same : ∀ x ∈ xs, ∀ y ∈ ys, (R x y ↔ T x y)) :
    Rearranged R xs ys ↔ Rearranged T xs ys :=
  ⟨fun related => related.imp_mem fun x listed y listed' => (same x listed y listed').mp,
    fun related => related.imp_mem fun x listed y listed' => (same x listed y listed').mpr⟩

/-- Both lists are empty, or have one item, or have several. -/
theorem shapes (rearranged : Rearranged R xs ys) :
    (xs = [] ∧ ys = []) ∨ (∃ x y, xs = [x] ∧ ys = [y] ∧ R x y) ∨
      ∃ x x' y y' xs' ys', xs = x :: x' :: xs' ∧ ys = y :: y' :: ys' := by
  have sameLength := rearranged.length_eq
  match xs, ys with
  | [], [] => exact .inl ⟨rfl, rfl⟩
  | [x], [y] =>
    obtain ⟨_, listed, related⟩ := rearranged.exists_left List.mem_cons_self
    cases List.mem_singleton.mp listed
    exact .inr (.inl ⟨x, y, rfl, rfl, related⟩)
  | x :: x' :: xs, y :: y' :: ys => exact .inr (.inr ⟨x, x', y, y', xs, ys, rfl, rfl⟩)
  | [], _ :: _ | _ :: _, [] | [_], _ :: _ :: _ | _ :: _ :: _, [_] => simp at sameLength

end Rearranged

/-! ## Optional items -/

section

variable {α β γ δ : Type} {R : α → β → Prop} {S : γ → δ → Prop} {x? : Option α} {y? : Option β}

theorem optionRel_map {f : α → γ} {g : β → δ} (related : Option.Rel R x? y?)
    (each : ∀ x y, R x y → S (f x) (g y)) : Option.Rel S (x?.map f) (y?.map g) := by
  cases related with
  | none => exact .none
  | some related => exact .some (each _ _ related)

theorem optionRel_bind {f : α → Option γ} {g : β → Option δ} (related : Option.Rel R x? y?)
    (each : ∀ x y, R x y → Option.Rel S (f x) (g y)) : Option.Rel S (x?.bind f) (y?.bind g) := by
  cases related with
  | none => exact .none
  | some related => exact each _ _ related

theorem optionRel_eq {x? y? : Option α} : Option.Rel Eq x? y? ↔ x? = y? := by
  constructor
  · intro related
    cases related with
    | none => rfl
    | some same => rw [same]
  · rintro rfl
    cases x? with
    | none => exact .none
    | some x => exact .some rfl

theorem forall₂_getElem? {xs : List α} {ys : List β} (each : List.Forall₂ R xs ys) (place : Nat) :
    Option.Rel R xs[place]? ys[place]? := by
  induction each generalizing place with
  | nil => exact .none
  | cons first _ ih =>
    cases place with
    | zero => exact .some first
    | succ place => exact ih place

end

namespace Value

/-! ## Values -/

mutual

/-- No object in the value has two members of one name. -/
def UniqueNames : Value → Prop
  | .array elements => elementsUnique elements
  | .object members => (members.map Prod.fst).Nodup ∧ membersUnique members
  | _ => True
termination_by structural v => v

/-- No object in the values has two members of one name. -/
def elementsUnique : List Value → Prop
  | [] => True
  | v :: vs => v.UniqueNames ∧ elementsUnique vs
termination_by structural vs => vs

/-- No object in the members' values has two members of one name. -/
def membersUnique : List (String × Value) → Prop
  | [] => True
  | m :: ms => memberUnique m ∧ membersUnique ms
termination_by structural ms => ms

/-- No object in the member's value has two members of one name. -/
def memberUnique : String × Value → Prop
  | (_, v) => v.UniqueNames
termination_by structural m => m

end

mutual

/-- The values differ only in the order of the members of objects. -/
def Reordered : Value → Value → Prop
  | .array vs, .array ws => elementsReordered vs ws
  | .object ms, .object ns => ∃ ps, membersReordered ms ps ∧ ps.Perm ns
  | .null, .null => True
  | .bool a, .bool b => a = b
  | .number a, .number b => a = b
  | .string a, .string b => a = b
  | _, _ => False
termination_by structural v => v

/-- The values differ one by one in the order of the members of objects. -/
def elementsReordered : List Value → List Value → Prop
  | [], [] => True
  | v :: vs, w :: ws => v.Reordered w ∧ elementsReordered vs ws
  | _, _ => False
termination_by structural vs => vs

/-- The members have, one by one, the same names and values that differ in the order of the members
of objects. -/
def membersReordered : List (String × Value) → Members → Prop
  | [], [] => True
  | m :: ms, n :: ns => memberReordered m n ∧ membersReordered ms ns
  | _, _ => False
termination_by structural ms => ms

/-- The members have the same name and values that differ in the order of the members of objects. -/
def memberReordered : String × Value → String × Value → Prop
  | (name, v), n => name = n.1 ∧ v.Reordered n.2
termination_by structural m => m

end

theorem elementsUnique_iff {vs : List Value} :
    elementsUnique vs ↔ ∀ v ∈ vs, v.UniqueNames := by
  induction vs with
  | nil => simp [elementsUnique]
  | cons v vs ih => rw [elementsUnique, ih, List.forall_mem_cons]

theorem membersUnique_iff {ms : Members} : membersUnique ms ↔ ∀ m ∈ ms, m.2.UniqueNames := by
  induction ms with
  | nil => simp [membersUnique]
  | cons m ms ih => rw [membersUnique, ih, List.forall_mem_cons, memberUnique]

theorem elementsReordered_iff {vs ws : List Value} :
    elementsReordered vs ws ↔ List.Forall₂ Reordered vs ws := by
  induction vs generalizing ws with
  | nil => cases ws <;> simp [elementsReordered]
  | cons v vs ih =>
    cases ws with
    | nil => simp [elementsReordered]
    | cons w ws => rw [elementsReordered, ih, List.forall₂_cons]

theorem membersReordered_iff {ms ns : Members} :
    membersReordered ms ns ↔ List.Forall₂ (fun m n => m.1 = n.1 ∧ m.2.Reordered n.2) ms ns := by
  induction ms generalizing ns with
  | nil => cases ns <;> simp [membersReordered]
  | cons m ms ih =>
    cases ns with
    | nil => simp [membersReordered]
    | cons n ns => rw [membersReordered, ih, List.forall₂_cons, memberReordered]

/-- Members that correspond by their names have the same names. -/
theorem names_eq {R : String × Value → String × Value → Prop} {ms ps : Members}
    (each : List.Forall₂ (fun m p => m.1 = p.1 ∧ R m p) ms ps) :
    ms.map Prod.fst = ps.map Prod.fst := by
  rw [← List.forall₂_eq_eq_eq, List.forall₂_map_left_iff, List.forall₂_map_right_iff]
  exact each.imp fun m p same => same.1

/-! ## Twins -/

/-- The names in the first value are unique, and the second one differs from it only in the order of
members. -/
structure Twin (v w : Value) : Prop where
  unique : v.UniqueNames
  reordered : v.Reordered w

namespace Twin

theorem array {vs : List Value} {w : Value} (twin : (Value.array vs).Twin w) :
    ∃ ws, w = .array ws ∧ List.Forall₂ Twin vs ws := by
  obtain ⟨unique, reordered⟩ := twin
  cases w with
  | array ws =>
    rw [Reordered, elementsReordered_iff] at reordered
    rw [UniqueNames, elementsUnique_iff] at unique
    refine ⟨ws, rfl, ?_⟩
    have both := (List.forall₂_and_left vs ws).mpr ⟨unique, reordered⟩
    exact both.imp fun v w twin => ⟨twin.1, twin.2⟩
  | _ => exact reordered.elim

theorem object {ms : Members} {w : Value} (twin : (Value.object ms).Twin w) :
    ∃ ps ns, w = .object ns ∧ List.Forall₂ (fun m p => m.1 = p.1 ∧ m.2.Twin p.2) ms ps ∧
      ps.Perm ns ∧ (ps.map Prod.fst).Nodup := by
  obtain ⟨unique, reordered⟩ := twin
  cases w with
  | object ns =>
    obtain ⟨ps, each, permuted⟩ := reordered
    rw [membersReordered_iff] at each
    rw [UniqueNames, membersUnique_iff] at unique
    refine ⟨ps, ns, rfl, ?_, permuted, ?_⟩
    · have both := (List.forall₂_and_left ms ps).mpr ⟨unique.2, each⟩
      exact both.imp fun m p twin => ⟨twin.2.1, twin.1, twin.2.2⟩
    · rw [← names_eq each]
      exact unique.1
  | _ => exact reordered.elim

/-- A value without children has no twin but itself. -/
theorem scalar {v w : Value} (twin : v.Twin w) (scalar : v.isContainer = false) : w = v := by
  have reordered := twin.reordered
  cases v with
  | array | object => cases scalar
  | null =>
    cases w with
    | null => rfl
    | _ => exact reordered.elim
  | bool =>
    cases w with
    | bool => exact congrArg Value.bool (Eq.symm reordered)
    | _ => exact reordered.elim
  | number =>
    cases w with
    | number => exact congrArg Value.number (Eq.symm reordered)
    | _ => exact reordered.elim
  | string =>
    cases w with
    | string => exact congrArg Value.string (Eq.symm reordered)
    | _ => exact reordered.elim

end Twin

/-! ## Lookup -/

/-- Where names are unique a name leads to its member. -/
theorem member?_eq_some {key : String} {ms : Members} {v : Value}
    (unique : (ms.map Prod.fst).Nodup) : member? key ms = some v ↔ (key, v) ∈ ms := by
  induction ms with
  | nil => simp [member?]
  | cons m ms ih =>
    rw [List.map_cons, List.nodup_cons] at unique
    rw [member?, List.mem_cons]
    split
    · next same =>
      have other : (key, v) ∉ ms := by
        intro listed
        rw [same] at unique
        exact unique.1 (List.mem_map_of_mem listed)
      rw [or_iff_left other, Option.some.injEq]
      constructor
      · rintro rfl
        rw [← same]
      · rintro rfl
        rfl
    · next different =>
      rw [ih unique.2]
      refine (or_iff_right ?_).symm
      rintro rfl
      exact different rfl

/-- Lookup by a unique name does not depend on the order. -/
theorem member?_perm {key : String} {ms ns : Members} (unique : (ms.map Prod.fst).Nodup)
    (permuted : ms.Perm ns) : member? key ms = member? key ns := by
  have unique' : (ns.map Prod.fst).Nodup := (permuted.map Prod.fst).nodup_iff.mp unique
  refine Option.ext fun v => ?_
  rw [member?_eq_some unique, member?_eq_some unique', permuted.mem_iff]

theorem member?_forall₂ {R : Value → Value → Prop} {key : String} {ms ns : Members}
    (each : List.Forall₂ (fun m n => m.1 = n.1 ∧ R m.2 n.2) ms ns) :
    Option.Rel R (member? key ms) (member? key ns) := by
  induction each with
  | nil => exact .none
  | cons first _ ih =>
    rw [member?, member?, first.1]
    split
    · exact .some first.2
    · exact ih

theorem Twin.member? {v w : Value} (twin : v.Twin w) (key : String) :
    Option.Rel Twin (Value.member? key v.members) (Value.member? key w.members) := by
  cases v with
  | object ms =>
    obtain ⟨ps, ns, rfl, each, permuted, unique⟩ := twin.object
    rw [members, members, ← member?_perm unique permuted]
    exact member?_forall₂ each
  | array vs =>
    obtain ⟨ws, rfl, -⟩ := twin.array
    exact .none
  | _ =>
    rw [twin.scalar rfl]
    exact .none

theorem Twin.elements {v w : Value} (twin : v.Twin w) :
    List.Forall₂ Twin v.elements w.elements := by
  cases v with
  | array vs =>
    obtain ⟨ws, rfl, each⟩ := twin.array
    exact each
  | object ms =>
    obtain ⟨ps, ns, rfl, -⟩ := twin.object
    exact .nil
  | _ =>
    rw [twin.scalar rfl]
    exact .nil

/-- The children of twins are twins, and the same steps lead to them. -/
theorem Twin.children {v w : Value} (twin : v.Twin w) :
    Rearranged (fun child child' => child.1 = child'.1 ∧ child.2.Twin child'.2)
      v.children w.children := by
  cases v with
  | object ms =>
    obtain ⟨ps, ns, rfl, each, permuted, -⟩ := twin.object
    refine Rearranged.map ⟨ps, each, permuted⟩ fun m n related => ?_
    exact ⟨congrArg PathStep.name related.1, related.2⟩
  | array vs =>
    obtain ⟨ws, rfl, each⟩ := twin.array
    refine (Rearranged.of_forall₂ (forall₂_zipIdx each 0)).map fun e e' related => ?_
    exact ⟨congrArg PathStep.index related.1, related.2⟩
  | _ =>
    rw [twin.scalar rfl]
    exact .nil

/-! ## Comparison -/

/-- The values are the same, or twins. -/
def Agree (v w : Value) : Prop := w = v ∨ v.Twin w

namespace Agree

theorem refl (v : Value) : v.Agree v := .inl rfl

theorem scalar {v w : Value} (agree : v.Agree w) (scalar : v.isContainer = false) : w = v :=
  agree.elim id fun twin => twin.scalar scalar

theorem array {vs : List Value} {w : Value} (agree : (Value.array vs).Agree w) :
    ∃ ws, w = .array ws ∧ List.Forall₂ Agree vs ws := by
  rcases agree with rfl | twin
  · exact ⟨vs, rfl, List.forall₂_same.mpr fun v _ => refl v⟩
  · obtain ⟨ws, rfl, each⟩ := twin.array
    exact ⟨ws, rfl, each.imp fun _ _ => .inr⟩

theorem object {ms : Members} {w : Value} (agree : (Value.object ms).Agree w) :
    ∃ ps ns, w = .object ns ∧ List.Forall₂ (fun m p => m.1 = p.1 ∧ m.2.Agree p.2) ms ps ∧
      ps.Perm ns ∧ ∀ key, member? key ps = member? key ns := by
  rcases agree with rfl | twin
  · exact ⟨ms, ms, rfl, List.forall₂_same.mpr fun m _ => ⟨rfl, refl m.2⟩, .refl ms, fun _ => rfl⟩
  · obtain ⟨ps, ns, rfl, each, permuted, unique⟩ := twin.object
    exact ⟨ps, ns, rfl, each.imp fun _ _ related => ⟨related.1, .inr related.2⟩, permuted,
      fun key => member?_perm unique permuted⟩

end Agree

theorem equals_scalar {v w w' : Value} (scalar : v.isContainer = false) (agree : w.Agree w') :
    v.equals w = v.equals w' := by
  cases w with
  | array ws =>
    obtain ⟨ws', rfl, -⟩ := agree.array
    cases v <;> first | rfl | cases scalar
  | object ns =>
    obtain ⟨ps, ns', rfl, -⟩ := agree.object
    cases v <;> first | rfl | cases scalar
  | _ => rw [agree.scalar rfl]

theorem membersAmong_eq (ns ms : Members) :
    membersAmong ns ms = ms.all (memberAmong ns) := by
  induction ms with
  | nil => rfl
  | cons m ms ih => rw [membersAmong, ih, List.all_cons]

mutual

/-- Whether values are equal does not depend on the order of members. -/
theorem equals_agree : ∀ (v : Value) {v' w w' : Value}, v.Agree v' → w.Agree w' →
    v.equals w = v'.equals w'
  | .array vs, _, w, _, agree, agree' => by
    obtain ⟨vs', rfl, each⟩ := agree.array
    cases w with
    | array ws =>
      obtain ⟨ws', rfl, each'⟩ := agree'.array
      rw [equals, equals, each.length_eq, each'.length_eq, equalElements_agree vs each each']
    | object =>
      obtain ⟨_, _, rfl, -⟩ := agree'.object
      rfl
    | _ =>
      rw [agree'.scalar rfl]
      rfl
  | .object ms, _, w, _, agree, agree' => by
    obtain ⟨ps, ms', rfl, each, permuted, -⟩ := agree.object
    cases w with
    | object ns =>
      obtain ⟨qs, ns', rfl, each', permuted', found⟩ := agree'.object
      have lookup (key : String) : Option.Rel Agree (member? key ns) (member? key ns') :=
        found key ▸ member?_forall₂ each'
      rw [equals, equals, each.length_eq, each'.length_eq, permuted.length_eq,
        permuted'.length_eq, membersAmong_agree ms each lookup, membersAmong_eq, membersAmong_eq,
        permuted.all_eq]
    | array =>
      obtain ⟨_, rfl, -⟩ := agree'.array
      rfl
    | _ =>
      rw [agree'.scalar rfl]
      rfl
  | .null, _, _, _, agree, agree' | .bool _, _, _, _, agree, agree'
  | .number _, _, _, _, agree, agree' | .string _, _, _, _, agree, agree' => by
    rw [agree.scalar rfl]
    exact equals_scalar rfl agree'
termination_by structural v => v

theorem equalElements_agree : ∀ (vs : List Value) {vs' ws ws' : List Value},
    List.Forall₂ Agree vs vs' → List.Forall₂ Agree ws ws' →
      equalElements vs ws = equalElements vs' ws'
  | [], _, _, _, each, _ => by
    cases each
    rfl
  | v :: vs, _, _, _, each, each' => by
    cases each with
    | cons first others =>
      cases each' with
      | nil => rfl
      | cons first' others' =>
        rw [equalElements, equalElements, equals_agree v first first',
          equalElements_agree vs others others']
termination_by structural vs => vs

theorem membersAmong_agree : ∀ (ms : List (String × Value)) {ps ns ns' : Members},
    List.Forall₂ (fun m p => m.1 = p.1 ∧ m.2.Agree p.2) ms ps →
      (∀ key, Option.Rel Agree (member? key ns) (member? key ns')) →
        membersAmong ns ms = membersAmong ns' ps
  | [], _, _, _, each, _ => by
    cases each
    rfl
  | m :: ms, _, _, _, each, lookup => by
    cases each with
    | cons first others =>
      rw [membersAmong, membersAmong, memberAmong_agree m first lookup,
        membersAmong_agree ms others lookup]
termination_by structural ms => ms

theorem memberAmong_agree : ∀ (m : String × Value) {p : String × Value} {ns ns' : Members},
    m.1 = p.1 ∧ m.2.Agree p.2 →
      (∀ key, Option.Rel Agree (member? key ns) (member? key ns')) →
        memberAmong ns m = memberAmong ns' p
  | (name, v), (_, w), ns, ns', ⟨same, agree⟩, lookup => by
    cases same
    have found := lookup name
    rw [memberAmong, memberAmong]
    cases is : member? name ns with
    | none =>
      rw [is] at found
      cases is' : member? name ns' with
      | none => rfl
      | some _ =>
        rw [is'] at found
        cases found
    | some u =>
      rw [is] at found
      cases is' : member? name ns' with
      | none =>
        rw [is'] at found
        cases found
      | some u' =>
        rw [is'] at found
        cases found with
        | some agree' => exact equals_agree v agree agree'
termination_by structural m => m

end

/-- Only values without children are ordered. -/
theorem less_agree {v v' w w' : Value} (agree : v.Agree v') (agree' : w.Agree w') :
    v.less w = v'.less w' := by
  cases v with
  | array =>
    obtain ⟨_, rfl, -⟩ := agree.array
    rfl
  | object =>
    obtain ⟨_, _, rfl, -⟩ := agree.object
    rfl
  | _ =>
    rw [agree.scalar rfl]
    cases w with
    | array =>
      obtain ⟨_, rfl, -⟩ := agree'.array
      rfl
    | object =>
      obtain ⟨_, _, rfl, -⟩ := agree'.object
      rfl
    | _ => rw [agree'.scalar rfl]

end Value

/-- Operands that comparison does not tell apart. -/
inductive Comparable.Agree : Comparable → Comparable → Prop where
  | nothing : Agree .nothing .nothing
  | value {v w : Value} (agree : v.Agree w) : Agree (.value v) (.value w)
  | ambiguous : Agree .ambiguous .ambiguous

theorem Comparable.Agree.compare (operator : ComparisonOperator) {l l' r r' : Comparable}
    (left : Agree l l') (right : Agree r r') : operator.compare l r = operator.compare l' r' := by
  have equals : l.equals r = l'.equals r' := by
    cases left <;> cases right <;> first | rfl | exact Value.equals_agree _ ‹_› ‹_›
  have less : l.less r = l'.less r' := by
    cases left <;> cases right <;> first | rfl | exact Value.less_agree ‹_› ‹_›
  have greater : r.less l = r'.less l' := by
    cases left <;> cases right <;> first | rfl | exact Value.less_agree ‹_› ‹_›
  cases operator <;> simp only [ComparisonOperator.compare, equals, less, greater]

end JsonPath
