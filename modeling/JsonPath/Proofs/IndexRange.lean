import JsonPath.Proofs.ExpressionParsing
import JsonPath.Proofs.Findings

/-!
# Indices and bounds in queries

The grammar admits indices and bounds of slices up to 53 bits, wherever in a query they stand, and
analysis takes them over as they are. So arithmetic on those of a plan stays far within 64 bits.

`Expression.Indexed` and `Filter.Indexed` say it of every index and bound in an expression, those in
queries within it included.

Results:
1. `expressionText_indexed`, `segmentsText_indexed`: what the grammar admits.
2. `analyse_indexed`, `segmentsOf_indexed`: what analysis takes over.
3. `compiled_indexed`: the two together.
-/

namespace JsonPath

/-- The number is an index or a bound that a query can hold. -/
def IsIndex (n : Int) : Prop := -Parser.greatestIndex ≤ n ∧ n ≤ Parser.greatestIndex

instance (n : Int) : Decidable (IsIndex n) := inferInstanceAs (Decidable (_ ∧ _))

/-- The bounds that are given are indices. -/
structure SliceBounds.Indexed (bounds : SliceBounds) : Prop where
  start : ∀ n ∈ bounds.start, IsIndex n
  stop : ∀ n ∈ bounds.stop, IsIndex n
  step : ∀ n ∈ bounds.step, IsIndex n

/-- The index or the bounds of a selector are in range; of its filter something else is said. -/
inductive Selector.Indexed {φ : Type} (P : φ → Prop) : Selector φ → Prop where
  | name (key : String) : Indexed P (.name key)
  | index {n : Int} (inRange : IsIndex n) : Indexed P (.index n)
  | wildcard : Indexed P .wildcard
  | slice {bounds : SliceBounds} (inRange : bounds.Indexed) : Indexed P (.slice bounds)
  | filter {f : φ} (holds : P f) : Indexed P (.filter f)

/-- The indices and bounds in an expression as written are in range. -/
inductive Expression.Indexed : Expression → Prop where
  | literal (value : Value) (span : Span) : Indexed (.literal value span)
  | query {tree : Query Expression}
      (each : ∀ s ∈ tree.segments, ∀ selector ∈ s.selectors, selector.Indexed Indexed) :
      Indexed (.query tree)
  | call (name : String) {es : List Expression} (span : Span) (each : ∀ e ∈ es, Indexed e) :
      Indexed (.call name es span)
  | comparison (operator : ComparisonOperator) {left right : Expression} (span : Span)
      (first : Indexed left) (second : Indexed right) :
      Indexed (.comparison operator left right span)
  | not {operand : Expression} (span : Span) (inner : Indexed operand) :
      Indexed (.not operand span)
  | and {es : List Expression} (span : Span) (each : ∀ e ∈ es, Indexed e) : Indexed (.and es span)
  | or {es : List Expression} (span : Span) (each : ∀ e ∈ es, Indexed e) : Indexed (.or es span)
  | paren {inner : Expression} (span : Span) (indexed : Indexed inner) :
      Indexed (.paren inner span)

/-- The indices and bounds in a filter are in range. -/
inductive Filter.Indexed : Filter → Prop where
  | literal (value : Value) : Indexed (.literal value)
  | query (root : QueryRoot) {segments : List (Segment Filter)}
      (each : ∀ s ∈ segments, ∀ selector ∈ s.selectors, selector.Indexed Indexed) :
      Indexed (.query root segments)
  | comparison (operator : ComparisonOperator) {left right : Filter} (first : Indexed left)
      (second : Indexed right) : Indexed (.comparison operator left right)
  | logical (operator : LogicalOperator) {fs : List Filter} (each : ∀ f ∈ fs, Indexed f) :
      Indexed (.logical operator fs)
  | call (name : String) (function : FunctionExtension) {fs : List Filter}
      (each : ∀ f ∈ fs, Indexed f) : Indexed (.call name function fs)
  | test {inner : Filter} (indexed : Indexed inner) : Indexed (.test inner)

/-- The indices and bounds in a plan are in range. -/
def Plan.Indexed (plan : Plan) : Prop :=
  ∀ s ∈ plan.segments, ∀ selector ∈ s.selectors, selector.Indexed Filter.Indexed

/-! ## What the grammar admits -/

namespace Grammar

/-- Whatever a phrase stands for has the property. -/
def Gives {α : Type} (P : α → Prop) (phrase : Phrase α) : Prop :=
  ∀ ⦃place : Position⦄ ⦃cs : List Char⦄ ⦃x : α⦄, phrase place cs x → P x

section

variable {α : Type} {P : α → Prop} {phrase : Phrase α}

theorem Gives.spaced (gives : Gives P phrase) : Gives P (Spaced phrase) := by
  rintro place _ x ⟨blank, text, -, rfl, derived⟩
  exact gives derived

theorem Gives.enclosed {close : Char} (gives : Gives P phrase) :
    Gives P (Enclosed close phrase) := by
  rintro place _ x ⟨inside, blank, -, rfl, derived⟩
  exact gives derived

theorem Gives.separated {separator : List Char} (gives : Gives P phrase) :
    Gives (fun xs => ∀ x ∈ xs, P x) (Separated separator phrase) := by
  intro place cs xs listed
  induction listed with
  | single head => exact List.forall_mem_singleton.mpr (gives head)
  | cons head _ _ _ ih => exact List.forall_mem_cons.mpr ⟨gives head, ih⟩

/-- Wherever there is a next level, its phrases have the property. -/
theorem Gives.within {deeper : Option (Phrase α)}
    (gives : ∀ phrase, deeper = some phrase → Gives P phrase) : Gives P (Within deeper) := by
  rintro place cs x ⟨phrase, is, derived⟩
  exact gives phrase is derived

end

theorem isIndex_of_integerText {cs : List Char} {n : Int} (integer : IntegerText cs n) :
    IsIndex n := by
  obtain ⟨negative, ds, -, -, -, -, bounded⟩ := integer
  unfold IsIndex Parser.greatestIndex
  omega

theorem isIndex_of_boundText {cs : List Char} {bound : Option Int} (spelled : BoundText cs bound) :
    ∀ n ∈ bound, IsIndex n := by
  cases spelled with
  | absent => exact fun n given => nomatch given
  | present spaced integer =>
    rintro n ⟨⟩
    exact isIndex_of_integerText integer

theorem isIndex_of_startText {cs : List Char} {bound : Option Int} (spelled : StartText cs bound) :
    ∀ n ∈ bound, IsIndex n := by
  cases spelled with
  | absent => exact fun n given => nomatch given
  | present integer spaced =>
    rintro n ⟨⟩
    exact isIndex_of_integerText integer

theorem positionText_indexed {P : Expression → Prop} {cs : List Char} {s : Selector Expression}
    (position : PositionText cs s) : s.Indexed P := by
  cases position with
  | index integer => exact .index (isIndex_of_integerText integer)
  | slice started stopped =>
    exact .slice ⟨isIndex_of_startText started, isIndex_of_boundText stopped, nofun⟩
  | stepped started stopped spaced stepped =>
    exact .slice ⟨isIndex_of_startText started, isIndex_of_boundText stopped,
      isIndex_of_boundText stepped⟩

section

variable {phrase : Phrase Expression} (gives : Gives Expression.Indexed phrase)

include gives

theorem selectorText_indexed :
    Gives (Selector.Indexed Expression.Indexed) (SelectorText phrase) := by
  intro place cs s selector
  cases selector with
  | name string => exact .name _
  | wildcard => exact .wildcard
  | position position => exact positionText_indexed position
  | filter predicate => exact .filter (gives.spaced predicate)

theorem bracketText_indexed :
    Gives (fun ss => ∀ s ∈ ss, s.Indexed Expression.Indexed) (BracketText phrase) :=
  (selectorText_indexed gives).separated.spaced.enclosed

theorem segmentText_indexed :
    Gives (fun s => ∀ selector ∈ s.selectors, selector.Indexed Expression.Indexed)
      (SegmentText phrase) := by
  have short {cs : List Char} {s : Selector Expression} (shorthand : ShorthandText cs s) :
      ∀ selector ∈ [s], selector.Indexed Expression.Indexed := by
    rw [List.forall_mem_singleton]
    cases shorthand with
    | wildcard => exact .wildcard
    | name named => exact .name _
  intro place cs s segment
  cases segment with
  | dot shorthand => exact short shorthand
  | dots shorthand => exact short shorthand
  | bracket bracketed => exact bracketText_indexed gives bracketed
  | dotsBracket bracketed => exact bracketText_indexed gives bracketed

theorem segmentsText_indexed :
    Gives (fun ss => ∀ s ∈ ss, ∀ selector ∈ s.selectors, selector.Indexed Expression.Indexed)
      (SegmentsText phrase) := by
  intro place cs ss segments
  induction segments with
  | nil => exact List.forall_mem_nil _
  | cons head _ ih =>
    exact List.forall_mem_cons.mpr ⟨(segmentText_indexed gives).spaced head, ih⟩

theorem argumentsText_indexed :
    Gives (fun es => ∀ e ∈ es, e.Indexed) (ArgumentsText phrase) := by
  intro place cs es arguments
  cases arguments with
  | none => exact List.forall_mem_nil _
  | some listed => exact gives.separated.spaced listed

theorem joinedText_indexed {separator : List Char} {join : List Expression → Span → Expression}
    (joins : ∀ es span, (∀ e ∈ es, e.Indexed) → (join es span).Indexed) :
    Gives Expression.Indexed (JoinedText separator join phrase) := by
  intro place cs e joined
  cases joined with
  | single only => exact gives only
  | several items two => exact joins _ _ (gives.separated items)

end

section

variable {deeperOperand deeper : Option (Phrase Expression)}
  (operands : ∀ phrase, deeperOperand = some phrase → Gives Expression.Indexed phrase)
  (expressions : ∀ phrase, deeper = some phrase → Gives Expression.Indexed phrase)

include expressions

theorem comparableText_indexed : Gives Expression.Indexed (ComparableText deeper) := by
  intro place cs e comparable
  cases comparable with
  | number number => exact .literal _ _
  | string string => exact .literal _ _
  | word listed => exact .literal _ _
  | query query =>
    obtain ⟨rest, segments, -, derived, rfl⟩ := query
    exact .query (segmentsText_indexed (.within expressions) derived)
  | call named arguments =>
    have each : Gives (fun es => ∀ e ∈ es, Expression.Indexed e)
        (Within (deeper.map ArgumentsText)) := by
      refine .within fun _ is => ?_
      obtain ⟨phrase, given, rfl⟩ := Option.map_eq_some_iff.mp is
      exact argumentsText_indexed (expressions phrase given)
    exact .call _ _ (each.enclosed arguments)

include operands

theorem operandText_indexed : Gives Expression.Indexed (OperandText deeperOperand deeper) := by
  intro place cs e operand
  cases operand with
  | comparable comparable => exact comparableText_indexed expressions comparable
  | not operand => exact .not _ ((Gives.within operands).spaced operand)
  | paren expression => exact .paren _ ((Gives.within expressions).spaced.enclosed expression)

theorem expressionText_indexed :
    Gives Expression.Indexed (ExpressionText deeperOperand deeper) := by
  have comparisons : Gives Expression.Indexed
      (ComparisonText (OperandText deeperOperand deeper) (ComparableText deeper)) := by
    intro place cs e comparison
    cases comparison with
    | alone only => exact operandText_indexed operands expressions only
    | compared before spaced behind =>
      have comparables := comparableText_indexed expressions
      exact .comparison _ _ (comparables before) (comparables.spaced behind)
  exact joinedText_indexed (joinedText_indexed comparisons fun _ span each => .and span each)
    fun _ span each => .or span each

end

/-- What operands and expressions of every level stand for has only indices in range. -/
theorem levels_indexed (n : Nat) :
    Gives Expression.Indexed (operandText n) ∧ Gives Expression.Indexed (expressionText n) := by
  induction n with
  | zero => exact ⟨operandText_indexed nofun nofun, expressionText_indexed nofun nofun⟩
  | succ n ih =>
    have operands : ∀ phrase, some (operandText n) = some phrase →
        Gives Expression.Indexed phrase := by
      rintro _ ⟨⟩
      exact ih.1
    have expressions : ∀ phrase, some (expressionText n) = some phrase →
        Gives Expression.Indexed phrase := by
      rintro _ ⟨⟩
      exact ih.2
    exact ⟨operandText_indexed operands expressions, expressionText_indexed operands expressions⟩

theorem filterText_indexed (n : Nat) : Gives Expression.Indexed (filterText n) := by
  cases n with
  | zero => exact .within nofun
  | succ n => exact (levels_indexed n).2

end Grammar

/-! ## What analysis takes over -/

section

variable (c : AnalysisContext)

mutual

/-- The plan of an expression has the indices of the expression. -/
theorem analyse_indexed : ∀ (e : Expression), e.Indexed → ∀ {f : Filter},
    (e.analyse c).value = some f → f.Indexed
  | .literal _ _, _, _, found => by
    cases found
    exact .literal _
  | .query ⟨root, segments, span⟩, .query each, _, found => by
    simp only [Expression.analyse, queryOf, Noted.value_bind, Noted.value_pure,
      Option.map_eq_some_iff] at found
    obtain ⟨plans, present, rfl⟩ := found
    exact .query root (segmentsOf_indexed segments each present)
  | .call name es _, .call _ _ each, _, found => by
    simp only [Expression.analyse, Noted.value_bind, value_argumentsOf, AnalysisContext.call]
      at found
    split at found
    · cases found
    · next function _ =>
      split at found
      · cases found
      · next fs present =>
        cases found
        exact .call name function (plans_indexed es each present)
  | .comparison operator left right _, .comparison _ _ first second, _, found => by
    simp only [Expression.analyse, Noted.value_bind, Noted.value_pure,
      AnalysisContext.asComparable, value_placed, comparisonOf] at found
    split at found
    · next l r leftFound rightFound =>
      cases found
      exact .comparison operator (analyse_indexed left first leftFound)
        (analyse_indexed right second rightFound)
    · cases found
  | .not operand _, .not _ inner, _, found => by
    simp only [Expression.analyse, Noted.value_bind, Noted.value_pure, AnalysisContext.asTest,
      value_placed, logicalOf, Option.map_eq_some_iff, allPresent_cons] at found
    obtain ⟨_, ⟨f, _, operandFound, rest, rfl⟩, rfl⟩ := found
    cases rest
    exact .logical .not (List.forall_mem_singleton.mpr (analyse_indexed operand inner operandFound))
  | .and es _, .and _ each, _, found | .or es _, .or _ each, _, found => by
    simp only [Expression.analyse, Noted.value_bind, Noted.value_pure, value_testsOf, logicalOf,
      Option.map_eq_some_iff] at found
    obtain ⟨fs, present, rfl⟩ := found
    exact .logical _ (plans_indexed es each present)
  | .paren inner _, .paren _ indexed, _, found => by
    simp only [Expression.analyse, Noted.value_bind, Noted.value_pure, AnalysisContext.asTest,
      value_placed, Option.map_eq_some_iff] at found
    obtain ⟨f, innerFound, rfl⟩ := found
    exact .test (analyse_indexed inner indexed innerFound)
termination_by structural e => e

theorem plans_indexed : ∀ (es : List Expression), (∀ e ∈ es, e.Indexed) → ∀ {fs : List Filter},
    allPresent (es.map fun e => (e.analyse c).value) = some fs → ∀ f ∈ fs, f.Indexed
  | [], _, _, present => by
    cases present
    exact List.forall_mem_nil _
  | e :: es, each, _, present => by
    rw [List.forall_mem_cons] at each
    obtain ⟨f, fs, found, others, rfl⟩ := allPresent_cons.mp present
    exact List.forall_mem_cons.mpr
      ⟨analyse_indexed e each.1 found, plans_indexed es each.2 others⟩
termination_by structural es => es

/-- The plans of segments have the indices of the segments. -/
theorem segmentsOf_indexed : ∀ (ss : List (Segment Expression)),
    (∀ s ∈ ss, ∀ selector ∈ s.selectors, selector.Indexed Expression.Indexed) →
    ∀ {plans : List (Segment Filter)}, allPresent (segmentsOf c ss).value = some plans →
      ∀ s ∈ plans, ∀ selector ∈ s.selectors, selector.Indexed Filter.Indexed
  | [], _, _, present => by
    cases present
    exact List.forall_mem_nil _
  | ⟨kind, selectors⟩ :: ss, each, _, present => by
    rw [List.forall_mem_cons] at each
    simp only [segmentsOf, segmentOf, Noted.value_bind, Noted.value_pure, allPresent_cons,
      Option.map_eq_some_iff] at present
    obtain ⟨_, plans, ⟨picks, found, rfl⟩, others, rfl⟩ := present
    exact List.forall_mem_cons.mpr
      ⟨selectorsOf_indexed selectors each.1 found, segmentsOf_indexed ss each.2 others⟩
termination_by structural ss => ss

theorem selectorsOf_indexed : ∀ (ss : List (Selector Expression)),
    (∀ s ∈ ss, s.Indexed Expression.Indexed) → ∀ {plans : List (Selector Filter)},
      allPresent (selectorsOf c ss).value = some plans → ∀ s ∈ plans, s.Indexed Filter.Indexed
  | [], _, _, present => by
    cases present
    exact List.forall_mem_nil _
  | s :: ss, each, _, present => by
    rw [List.forall_mem_cons] at each
    simp only [selectorsOf, Noted.value_bind, Noted.value_pure, allPresent_cons] at present
    obtain ⟨plan, plans, found, others, rfl⟩ := present
    exact List.forall_mem_cons.mpr
      ⟨selectorOf_indexed s each.1 found, selectorsOf_indexed ss each.2 others⟩
termination_by structural ss => ss

theorem selectorOf_indexed : ∀ (s : Selector Expression), s.Indexed Expression.Indexed →
    ∀ {plan : Selector Filter}, (selectorOf c s).value = some plan → plan.Indexed Filter.Indexed
  | .filter predicate, .filter indexed, _, found => by
    simp only [selectorOf, Noted.value_bind, Noted.value_pure, AnalysisContext.asTest,
      value_placed, Option.map_eq_some_iff] at found
    obtain ⟨f, predicateFound, rfl⟩ := found
    exact .filter (analyse_indexed predicate indexed predicateFound)
  | .name key, _, _, found => by
    cases found
    exact .name key
  | .index _, .index inRange, _, found => by
    cases found
    exact .index inRange
  | .wildcard, _, _, found => by
    cases found
    exact .wildcard
  | .slice _, .slice inRange, _, found => by
    cases found
    exact .slice inRange
termination_by structural s => s

end

end

/-- The indices and bounds in a compiled plan are in range. -/
theorem compiled_indexed {settings : CompilerSettings} {repository : Repository} {source : String}
    {plan : Plan} (compiled : (compile settings repository source).value = some plan) :
    plan.Indexed := by
  obtain ⟨tree, parsed, -, present⟩ := compile_some compiled
  obtain ⟨rest, segments, -, derived, rfl⟩ := queryText_of_parse parsed
  exact segmentsOf_indexed ⟨source, repository⟩ segments
    (Grammar.segmentsText_indexed (Grammar.filterText_indexed _) derived) present

end JsonPath
