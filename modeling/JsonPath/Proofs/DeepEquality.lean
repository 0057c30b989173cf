import JsonPath.Proofs.NumberOrder
import JsonPath.Proofs.Reordering
import Mathlib.Data.List.Nodup
import Mathlib.Data.List.Perm.Subperm

/-!
# Deep equality

Objects are compared by the number of their members and by looking up the names of the one in the
other. Because names are unique, this says that the members of the two correspond to one another in
some order: if no name of the first object is left over, and there are as many in the second, none
is left over there.

`Value.Same` says what it is for two values to denote the same, without lookup.

Results:
1. `equals_arrays_iff`, `equals_objects_iff`: what the equality of containers comes to.
2. `equals_iff_same`, `equals_symm`, `equals_self`: by induction over the parts of a value.
3. `deep_equality_lawful`: deep equality decides `Same`, is reflexive and symmetric, and is blind to
   the order of members.
-/

namespace JsonPath.Value

/-! ## Values and their parts -/

/-- What holds of a value if it holds of its elements or members holds of every value. -/
theorem parts_induction {motive : Value → Prop} (null : motive .null)
    (bool : ∀ b, motive (.bool b)) (number : ∀ a, motive (.number a))
    (string : ∀ s, motive (.string s))
    (array : ∀ vs, (∀ v ∈ vs, motive v) → motive (.array vs))
    (object : ∀ ms : Members, (∀ m ∈ ms, motive m.2) → motive (.object ms)) : ∀ v, motive v
  | .null => null
  | .bool b => bool b
  | .number a => number a
  | .string s => string s
  | .array vs => array vs fun v _ =>
    parts_induction null bool number string array object v
  | .object ms => object ms fun m _ =>
    parts_induction null bool number string array object m.2
termination_by v => sizeOf v
decreasing_by
  · simp only [Value.array.sizeOf_spec]
    have := List.sizeOf_lt_of_mem ‹v ∈ vs›
    omega
  · simp only [Value.object.sizeOf_spec]
    have := List.sizeOf_lt_of_mem ‹m ∈ ms›
    have : sizeOf m.2 < sizeOf m := by cases m; simp
    omega

/-- Each number in the value, at any depth, is an integer of 64 bits or a binary64 number. -/
inductive WellFormedNumbers : Value → Prop where
  | null : WellFormedNumbers .null
  | bool {b : Bool} : WellFormedNumbers (.bool b)
  | number {a : Number} (wellFormed : a.WellFormed) : WellFormedNumbers (.number a)
  | string {s : String} : WellFormedNumbers (.string s)
  | array {vs : List Value} (each : ∀ v ∈ vs, WellFormedNumbers v) : WellFormedNumbers (.array vs)
  | object {ms : Members} (each : ∀ m ∈ ms, WellFormedNumbers m.2) : WellFormedNumbers (.object ms)

theorem wellFormedNumbers_number {a : Number} :
    (Value.number a).WellFormedNumbers ↔ a.WellFormed := by
  constructor
  · intro numbers
    cases numbers with
    | number wellFormed => exact wellFormed
  · exact .number

mutual

/-- The values denote the same: numbers count as equal, arrays agree place by place, and the members
of objects agree in some order. -/
inductive Same : Value → Value → Prop where
  | null : Same .null .null
  | bool {b : Bool} : Same (.bool b) (.bool b)
  | number {a b : Number} (equal : a.compare b = some .eq) : Same (.number a) (.number b)
  | string {s : String} : Same (.string s) (.string s)
  | array {vs ws : List Value} (each : List.Forall₂ Same vs ws) : Same (.array vs) (.array ws)
  | object {ms ps ns : Members} (each : List.Forall₂ SameMember ms ps) (permuted : ps.Perm ns) :
      Same (.object ms) (.object ns)

/-- The members have one name and values that denote the same. -/
inductive SameMember : String × Value → String × Value → Prop where
  | intro {name : String} {v w : Value} (same : Same v w) : SameMember (name, v) (name, w)

end

theorem sameMember_iff {m n : String × Value} : SameMember m n ↔ m.1 = n.1 ∧ m.2.Same n.2 := by
  constructor
  · rintro ⟨same⟩
    exact ⟨rfl, same⟩
  · obtain ⟨name, v⟩ := m
    rintro ⟨rfl, same⟩
    exact .intro same

theorem same_array_iff {vs ws : List Value} :
    Same (.array vs) (.array ws) ↔ List.Forall₂ Same vs ws := by
  constructor
  · intro same
    cases same with
    | array each => exact each
  · exact .array

theorem same_object_iff {ms ns : Members} :
    Same (.object ms) (.object ns) ↔ Rearranged (fun m n => m.1 = n.1 ∧ m.2.Same n.2) ms ns := by
  have related : Rearranged SameMember ms ns ↔
      Rearranged (fun m n => m.1 = n.1 ∧ m.2.Same n.2) ms ns :=
    Rearranged.congr_mem fun _ _ _ _ => sameMember_iff
  rw [← related]
  constructor
  · intro same
    cases same with
    | object each permuted => exact ⟨_, each, permuted⟩
  · rintro ⟨ps, each, permuted⟩
    exact .object each permuted

/-! ## Containers -/

theorem equals_arrays_iff {vs ws : List Value} :
    (Value.array vs).equals (.array ws) ↔ List.Forall₂ (fun v w => v.equals w) vs ws := by
  rw [equals, Bool.and_eq_true, beq_iff_eq]
  induction vs generalizing ws with
  | nil => cases ws <;> simp [equalElements]
  | cons v vs ih =>
    cases ws with
    | nil => simp
    | cons w ws =>
      rw [equalElements, Bool.and_eq_true, List.forall₂_cons, ← ih, List.length_cons,
        List.length_cons, Nat.add_right_cancel_iff]
      exact and_left_comm

/-- A member has an equal one of its name, where names are unique. -/
theorem memberAmong_iff {ns : Members} (unique : (ns.map Prod.fst).Nodup) (m : String × Value) :
    memberAmong ns m ↔ ∃ n ∈ ns, m.1 = n.1 ∧ m.2.equals n.2 := by
  obtain ⟨name, v⟩ := m
  rw [memberAmong]
  constructor
  · intro among
    split at among
    · next w found => exact ⟨(name, w), (member?_eq_some unique).mp found, rfl, among⟩
    · cases among
  · rintro ⟨⟨name', w⟩, listed, rfl, equal⟩
    rw [(member?_eq_some unique).mpr listed]
    exact equal

/-- Objects are equal if their members are, in some order. -/
theorem equals_objects_iff {ms ns : Members} (unique : (ms.map Prod.fst).Nodup)
    (unique' : (ns.map Prod.fst).Nodup) :
    (Value.object ms).equals (.object ns) ↔
      Rearranged (fun m n => m.1 = n.1 ∧ m.2.equals n.2) ms ns := by
  rw [equals, Bool.and_eq_true, beq_iff_eq, membersAmong_eq, List.all_eq_true]
  constructor
  · rintro ⟨sameLength, among⟩
    obtain ⟨ps, each, subset⟩ :=
      exists_forall₂ fun m listed => (memberAmong_iff unique' m).mp (among m listed)
    refine ⟨ps, each, ?_⟩
    -- The members that were found have as many different names as the first object.
    have different : ps.Nodup := .of_map Prod.fst (names_eq each ▸ unique)
    refine (List.subperm_of_subset different subset).perm_of_length_le ?_
    rw [← sameLength, each.length_eq]
  · intro rearranged
    refine ⟨rearranged.length_eq, fun m listed => ?_⟩
    exact (memberAmong_iff unique' m).mpr (rearranged.exists_right listed)

/-! ## Laws -/

section

variable {v w : Value}

/-- Deep equality decides whether values denote the same. -/
theorem equals_iff_same (unique : v.UniqueNames) (unique' : w.UniqueNames) :
    v.equals w ↔ v.Same w := by
  induction v using parts_induction generalizing w with
  | null =>
    cases w with
    | null => exact ⟨fun _ => .null, fun _ => rfl⟩
    | _ => constructor <;> intro impossible <;> cases impossible
  | bool a =>
    cases w with
    | bool b =>
      rw [equals, beq_iff_eq]
      constructor <;> rintro ⟨⟩
      · exact .bool
      · rfl
    | _ => constructor <;> intro impossible <;> cases impossible
  | number a =>
    cases w with
    | number b =>
      rw [equals, beq_iff_eq]
      constructor
      · exact .number
      · intro same
        cases same with
        | number equal => exact equal
    | _ => constructor <;> intro impossible <;> cases impossible
  | string s =>
    cases w with
    | string t =>
      rw [equals, beq_iff_eq]
      constructor <;> rintro ⟨⟩
      · exact .string
      · rfl
    | _ => constructor <;> intro impossible <;> cases impossible
  | array vs ih =>
    cases w with
    | array ws =>
      rw [UniqueNames, elementsUnique_iff] at unique unique'
      rw [equals_arrays_iff, same_array_iff]
      exact forall₂_congr_mem fun v listed w listed' =>
        ih v listed (unique v listed) (unique' w listed')
    | _ => constructor <;> intro impossible <;> cases impossible
  | object ms ih =>
    cases w with
    | object ns =>
      rw [UniqueNames, membersUnique_iff] at unique unique'
      rw [equals_objects_iff unique.1 unique'.1, same_object_iff]
      exact Rearranged.congr_mem fun m listed n listed' => and_congr_right fun _ =>
        ih m listed (unique.2 m listed) (unique'.2 n listed')
    | _ => constructor <;> intro impossible <;> cases impossible

theorem Same.symm (same : v.Same w) : w.Same v := by
  induction v using parts_induction generalizing w with
  | null =>
    cases same
    exact .null
  | bool b =>
    cases same
    exact .bool
  | number a =>
    cases same with
    | @number _ b equal =>
      refine .number ?_
      rw [Number.compare_swap a b, equal]
      rfl
  | string s =>
    cases same
    exact .string
  | array vs ih =>
    cases w with
    | array ws =>
      rw [same_array_iff] at same ⊢
      exact .flip (forall₂_imp_mem same fun v listed _ _ => ih v listed)
    | _ => cases same
  | object ms ih =>
    cases w with
    | object ns =>
      rw [same_object_iff] at same ⊢
      refine Rearranged.flip (same.imp_mem fun m listed n _ related => ?_)
      exact ⟨related.1.symm, ih m listed related.2⟩
    | _ => cases same

theorem Same.refl (numbers : v.WellFormedNumbers) : v.Same v := by
  induction numbers with
  | null => exact .null
  | bool => exact .bool
  | number wellFormed => exact .number (Number.compare_self wellFormed)
  | string => exact .string
  | array _ ih => exact same_array_iff.mpr (List.forall₂_same.mpr ih)
  | object _ ih =>
    refine same_object_iff.mpr (.of_forall₂ (List.forall₂_same.mpr fun m listed => ?_))
    exact ⟨rfl, ih m listed⟩

/-- The order of the two values does not matter to their equality. -/
theorem equals_symm (unique : v.UniqueNames) (unique' : w.UniqueNames) :
    v.equals w = w.equals v := by
  rw [Bool.eq_iff_iff, equals_iff_same unique unique', equals_iff_same unique' unique]
  exact ⟨.symm, .symm⟩

/-- A value is equal to itself. -/
theorem equals_self (unique : v.UniqueNames) (numbers : v.WellFormedNumbers) : v.equals v :=
  (equals_iff_same unique unique).mpr (.refl numbers)

end

/-! ## Results -/

/-- Deep equality decides whether two values denote the same, where names are unique: it is
reflexive and symmetric, and it does not depend on the order of the members of objects, whichever of
the two values it is in and however deep. -/
theorem deep_equality_lawful {a b : Value} (unique : a.UniqueNames) (unique' : b.UniqueNames)
    (numbers : a.WellFormedNumbers) :
    (a.equals b ↔ a.Same b) ∧ a.equals a = true ∧ a.equals b = b.equals a ∧
      (∀ a', a.Reordered a' → a'.equals b = a.equals b) ∧
      ∀ b', b.Reordered b' → a.equals b' = a.equals b :=
  ⟨equals_iff_same unique unique', equals_self unique numbers, equals_symm unique unique',
    fun _ reordered => (equals_agree a (.inr ⟨unique, reordered⟩) (.refl b)).symm,
    fun _ reordered => (equals_agree a (.refl a) (.inr ⟨unique', reordered⟩)).symm⟩

/-- Members in two orders, and equal numbers in two forms. -/
theorem deep_equality_lawful_nested :
    let one : Value := .number (.double ⟨false, 4503599627370496, -52⟩)
    let two : Value := .number (.double ⟨false, 4503599627370496, -51⟩)
    let a : Value := .object [("x", .array [.number (.integer 1), two]), ("y", .null)]
    let a' : Value := .object [("y", .null), ("x", .array [.number (.integer 1), two])]
    let b : Value := .object [("y", .null), ("x", .array [one, .number (.integer 2)])]
    a.UniqueNames ∧ b.UniqueNames ∧ a.WellFormedNumbers ∧ a.Reordered a' ∧
      a.equals a = true ∧ a.equals b = b.equals a ∧ a'.equals b = a.equals b ∧
      a.equals b = true ∧ a.Same b := by
  intro one two a a' b
  have unique : a.UniqueNames := ⟨by decide, ⟨trivial, trivial, trivial⟩, trivial, trivial⟩
  have unique' : b.UniqueNames := ⟨by decide, trivial, ⟨trivial, trivial, trivial⟩, trivial⟩
  have two_wellFormed : Double.WellFormed ⟨false, 4503599627370496, -51⟩ :=
    ⟨by decide, by decide, by decide, .inr (by decide)⟩
  have elements : ∀ v ∈ [.number (.integer 1), two], v.WellFormedNumbers :=
    List.forall_mem_cons.mpr ⟨.number (.inl (by decide)),
      List.forall_mem_singleton.mpr (.number two_wellFormed)⟩
  have numbers : a.WellFormedNumbers :=
    .object (List.forall_mem_cons.mpr ⟨.array elements, List.forall_mem_singleton.mpr .null⟩)
  have reordered : a.Reordered a' :=
    ⟨[("x", .array [.number (.integer 1), two]), ("y", .null)],
      ⟨⟨rfl, rfl, rfl, trivial⟩, ⟨rfl, trivial⟩, trivial⟩, .swap ..⟩
  have equal : a.equals b = true := by decide +kernel
  obtain ⟨decides, reflexive, symmetric, first, -⟩ := deep_equality_lawful unique unique' numbers
  exact ⟨unique, unique', numbers, reordered, reflexive, symmetric, first a' reordered, equal,
    decides.mp equal⟩

end JsonPath.Value
