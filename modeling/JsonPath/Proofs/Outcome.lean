import JsonPath.Evaluation
import JsonPath.Proofs.Selection

/-!
# What filters come to

Running a filter takes notes and stops as soon as an outcome is known. The lemmas leave out both:
what a filter comes to follows from what its parts come to.

Results:
1. `filterTests_eq_map`: segments keep their form when their filters are made tests.
2. `value_allHold`, `value_anyHolds`: tests combined.
3. `value_evaluate_filter`: a filter on the root selects the children for which it holds.
-/

namespace JsonPath

/-! ## Filters made tests -/

section

variable (c : EvaluationContext)

theorem selectorTests_eq_map (ss : List (Selector Filter)) :
    selectorTests c ss = ss.map (selectorTest c) := by
  induction ss with
  | nil => rfl
  | cons s ss ih => rw [selectorTests, ih, List.map_cons]

/-- The segment is of the same kind, with its filters made tests. -/
theorem segmentTests_eq (s : Segment Filter) :
    segmentTests c s = ⟨s.kind, s.selectors.map (selectorTest c)⟩ := by
  obtain ⟨kind, selectors⟩ := s
  rw [segmentTests, selectorTests_eq_map]

theorem filterTests_eq_map (ss : List (Segment Filter)) :
    filterTests c ss = ss.map (segmentTests c) := by
  induction ss with
  | nil => rfl
  | cons s ss ih => rw [filterTests, ih, List.map_cons]

end

/-! ## Outcomes -/

/-- Whether an expression holds as a test. -/
def Filter.holds (c : EvaluationContext) (current : Value) (f : Filter) : Bool :=
  (f.evaluate c current).value.toTest

theorem value_allHold (c : EvaluationContext) (fs : List Filter) (current : Value) :
    (allHold c fs current).value = fs.all (Filter.holds c current) := by
  induction fs with
  | nil => rfl
  | cons f fs ih =>
    have first : (placedAs ExpressionType.isTest FilterValue.toTest (f.evaluate c current)).value =
        f.holds c current := rfl
    rw [allHold, Noted.value_bind, first, List.all_cons, ← ih]
    cases f.holds c current <;> rfl

theorem value_anyHolds (c : EvaluationContext) (fs : List Filter) (current : Value) :
    (anyHolds c fs current).value = fs.any (Filter.holds c current) := by
  induction fs with
  | nil => rfl
  | cons f fs ih =>
    have first : (placedAs ExpressionType.isTest FilterValue.toTest (f.evaluate c current)).value =
        f.holds c current := rfl
    rw [anyHolds, Noted.value_bind, first, List.any_cons, ← ih]
    cases f.holds c current <;> rfl

section

variable (c : EvaluationContext) (current : Value)

theorem holds_and (fs : List Filter) :
    (Filter.logical .and fs).holds c current = fs.all (Filter.holds c current) :=
  value_allHold c fs current

theorem holds_or (fs : List Filter) :
    (Filter.logical .or fs).holds c current = fs.any (Filter.holds c current) :=
  value_anyHolds c fs current

theorem holds_not (f : Filter) :
    (Filter.logical .not [f]).holds c current = !f.holds c current := by
  have negated : (Filter.logical .not [f]).holds c current = !(anyHolds c [f] current).value := rfl
  rw [negated, value_anyHolds, List.any_cons, List.any_nil, Bool.or_false]

theorem holds_test (f : Filter) : (Filter.test f).holds c current = f.holds c current := rfl

end

/-- A query that is one filter selects the children of the root for which it holds. -/
theorem value_evaluate_filter (source : String) (f : Filter) (limits : EvaluatorSettings)
    (document : Value) :
    ((⟨source, [⟨.child, [.filter f]⟩]⟩ : Plan).evaluate limits document).value =
      (⟨.root, document⟩ : Node).children.filter
        fun child => f.holds ⟨limits.maxDepth, document⟩ child.value := by
  have picked (node : Node) (test : Test) :
      (select limits.maxDepth [⟨.child, [.filter test]⟩] [node]).value =
        node.children.filter fun child => (test child.value).value := by
    rw [select_cons, List.flatMap_singleton, value_apply, ← Noted.value_filter]
    exact List.append_nil _
  exact picked _ _

end JsonPath
