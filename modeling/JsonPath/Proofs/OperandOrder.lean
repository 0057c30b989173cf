import JsonPath.Proofs.DeepEquality

/-!
# The order of operands

Only two numbers or two strings are ordered. On these `<` is a strict order, also where a sequence
of numbers mixes the forms, and it excludes equality. The other operators are defined by `<` and
`==`, so they agree with one another as far as these two do.

Results:
1. `less_iff`: which operands are ordered, and how.
2. `less_irrefl`, `less_trans`, `not_equals_of_less`: what a strict order is to satisfy.
3. `less_or_equals`: of two numbers or two strings one is less, or they are equal.
4. `equals_symm`: equality does not see which operand is which.
5. `operators_consistent`: the six operators are those of one order.
-/

namespace JsonPath.Comparable

/-- The operand is one that a document or a query can give: names are unique in each object, and the
numbers are integers of 64 bits or binary64 numbers. -/
def WellFormed : Comparable → Prop
  | .value v => v.UniqueNames ∧ v.WellFormedNumbers
  | .nothing | .ambiguous => True

/-- Both operands are numbers, or both are strings. -/
def Ordered : Comparable → Comparable → Prop
  | .value (.number _), .value (.number _) => True
  | .value (.string _), .value (.string _) => True
  | _, _ => False

variable {a b c : Comparable}

/-- Two numbers are ordered as such, two strings by their characters, and nothing else is. -/
theorem less_iff :
    a.less b ↔
      (∃ m n, a = .value (.number m) ∧ b = .value (.number n) ∧ m.compare n = some .lt) ∨
      ∃ s t, a = .value (.string s) ∧ b = .value (.string t) ∧ s < t := by
  constructor
  · intro less
    unfold Comparable.less at less
    split at less
    · unfold Value.less at less
      split at less
      · exact .inl ⟨_, _, rfl, rfl, beq_iff_eq.mp less⟩
      · exact .inr ⟨_, _, rfl, rfl, of_decide_eq_true less⟩
      · cases less
    · cases less
  · rintro (⟨m, n, rfl, rfl, less⟩ | ⟨s, t, rfl, rfl, less⟩)
    · exact beq_iff_eq.mpr less
    · exact decide_eq_true less

theorem less_irrefl (wellFormed : a.WellFormed) : ¬a.less a := by
  rw [less_iff]
  rintro (⟨m, n, rfl, same, less⟩ | ⟨s, t, rfl, same, less⟩)
  · cases same
    rw [Number.compare_self (Value.wellFormedNumbers_number.mp wellFormed.2)] at less
    cases less
  · cases same
    exact String.lt_irrefl s less

theorem less_trans (ha : a.WellFormed) (hb : b.WellFormed) (hc : c.WellFormed) (first : a.less b)
    (second : b.less c) : a.less c := by
  rw [less_iff] at first second ⊢
  rcases first with ⟨m, n, rfl, rfl, less⟩ | ⟨s, t, rfl, rfl, less⟩
  · rcases second with ⟨n', k, same, rfl, less'⟩ | ⟨_, _, other, -⟩
    · cases same
      have ha := Value.wellFormedNumbers_number.mp ha.2
      have hb := Value.wellFormedNumbers_number.mp hb.2
      have hc := Value.wellFormedNumbers_number.mp hc.2
      exact .inl ⟨m, k, rfl, rfl, Number.compare_trans ha hb hc less less'⟩
    · cases other
  · rcases second with ⟨_, _, other, -⟩ | ⟨t', u, same, rfl, less'⟩
    · cases other
    · cases same
      exact .inr ⟨s, u, rfl, rfl, String.lt_trans less less'⟩

/-- What is less is not equal. -/
theorem not_equals_of_less (less : a.less b) : ¬a.equals b := by
  rw [less_iff] at less
  rcases less with ⟨m, n, rfl, rfl, less⟩ | ⟨s, t, rfl, rfl, less⟩
  · intro equal
    have same : m.compare n = some .eq := beq_iff_eq.mp equal
    rw [less] at same
    cases same
  · intro equal
    have same : s = t := beq_iff_eq.mp equal
    exact String.lt_irrefl s (same ▸ less)

theorem ordered_of_less (less : a.less b) : a.Ordered b := by
  rw [less_iff] at less
  rcases less with ⟨m, n, rfl, rfl, -⟩ | ⟨s, t, rfl, rfl, -⟩ <;> exact trivial

/-- Of operands that are ordered, one is less than the other unless they are equal. -/
theorem less_or_equals (ha : a.WellFormed) (hb : b.WellFormed) (ordered : a.Ordered b) :
    a.less b ∨ a.equals b ∨ b.less a := by
  unfold Ordered at ordered
  split at ordered
  · next m n =>
    obtain ⟨order, found⟩ := Number.exists_compare (Value.wellFormedNumbers_number.mp ha.2)
      (Value.wellFormedNumbers_number.mp hb.2)
    cases order with
    | lt => exact .inl (beq_iff_eq.mpr found)
    | eq => exact .inr (.inl (beq_iff_eq.mpr found))
    | gt =>
      have swapped : n.compare m = some .lt := by
        rw [Number.compare_swap m n, found]
        rfl
      exact .inr (.inr (beq_iff_eq.mpr swapped))
  · next s t =>
    by_cases less : s < t
    · exact .inl (decide_eq_true less)
    · by_cases greater : t < s
      · exact .inr (.inr (decide_eq_true greater))
      · have same := String.le_antisymm (String.not_lt.mp greater) (String.not_lt.mp less)
        exact .inr (.inl (beq_iff_eq.mpr same))
  · cases ordered

theorem equals_symm (ha : a.WellFormed) (hb : b.WellFormed) : a.equals b = b.equals a := by
  cases a with
  | value v =>
    cases b with
    | value w => exact Value.equals_symm ha.1 hb.1
    | nothing => rfl
    | ambiguous => rfl
  | nothing => cases b <;> rfl
  | ambiguous => cases b <;> rfl

/-- `<` is irreflexive and transitive, and of `a < b`, `a == b` and `b < a` at most one holds. Only
numbers and strings are ordered, and of two numbers or two strings exactly one holds. `>` and `>=`
are the converses of `<` and `<=`, `<=` is `<` or `==`, and `!=` is the negation of `==`. This holds
of a missing value and of several nodes too, and of numbers whatever forms they have. -/
theorem operators_consistent (ha : a.WellFormed) (hb : b.WellFormed) (hc : c.WellFormed) :
    let less := ComparisonOperator.less.compare
    let equal := ComparisonOperator.equal.compare
    ¬less a a ∧
    (less a b → less b c → less a c) ∧
    (¬(less a b ∧ equal a b) ∧ ¬(less a b ∧ less b a) ∧ ¬(equal a b ∧ less b a)) ∧
    (less a b → a.Ordered b) ∧
    (a.Ordered b → less a b ∨ equal a b ∨ less b a) ∧
    (ComparisonOperator.greater.compare a b ↔ less b a) ∧
    (ComparisonOperator.lessOrEqual.compare a b ↔ less a b ∨ equal a b) ∧
    (ComparisonOperator.greaterOrEqual.compare a b ↔
      ComparisonOperator.lessOrEqual.compare b a) ∧
    (ComparisonOperator.notEqual.compare a b ↔ ¬equal a b) := by
  intro less equal
  refine ⟨less_irrefl ha, less_trans ha hb hc, ⟨?_, ?_, ?_⟩, ordered_of_less,
    less_or_equals ha hb, Iff.rfl, Bool.or_eq_true_iff, ?_, ?_⟩
  · rintro ⟨below, same⟩
    exact not_equals_of_less below same
  · rintro ⟨below, above⟩
    exact less_irrefl ha (less_trans ha hb ha below above)
  · rintro ⟨same, above⟩
    exact not_equals_of_less above ((equals_symm ha hb).symm.trans same)
  · show (b.less a || a.equals b) = true ↔ (b.less a || b.equals a) = true
    rw [equals_symm ha hb]
  · show (!a.equals b) = true ↔ ¬a.equals b = true
    rw [Bool.not_eq_true', Bool.eq_false_iff]

/-- A signed integer, a binary64 number and an integer beyond the signed ones: the first and the
last are compared exactly, and the other two pairs after rounding. -/
theorem operators_consistent_mixed :
    let a : Comparable := .value (.number (.integer 9007199254740993))
    let b : Comparable := .value (.number (.double ⟨false, 4503599627370497, 1⟩))
    let c : Comparable := .value (.number (.integer 9223372036854775809))
    a.WellFormed ∧ b.WellFormed ∧ c.WellFormed ∧
      ComparisonOperator.less.compare a c ∧
      (ComparisonOperator.greaterOrEqual.compare a b ↔
        ComparisonOperator.lessOrEqual.compare b a) := by
  intro a b c
  have ha : a.WellFormed := ⟨trivial, .number (.inl (by decide))⟩
  have hb : b.WellFormed :=
    ⟨trivial, .number ⟨by decide, by decide, by decide, .inr (by decide)⟩⟩
  have hc : c.WellFormed := ⟨trivial, .number (.inr (by decide))⟩
  have first : ComparisonOperator.less.compare a b := by decide +kernel
  have second : ComparisonOperator.less.compare b c := by decide +kernel
  obtain ⟨-, transitive, -, -, -, -, -, converse, -⟩ := operators_consistent ha hb hc
  exact ⟨ha, hb, hc, transitive first second, converse⟩

end JsonPath.Comparable
