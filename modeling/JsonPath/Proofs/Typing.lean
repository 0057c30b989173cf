import JsonPath.Evaluation
import JsonPath.Proofs.Compilation
import JsonPath.Proofs.Notes

/-!
# Typed filters

Compilation leaves only filters whose expressions fit their places, and evaluation keeps every
expression to its type, whatever the functions answer. So no expression of a compiled plan ever
stands where its type has no meaning.

`Filter.WellTyped` is the invariant. It says of every expression in test position that its type can
be tested, of both sides of a comparison that they can be compared, and of the arguments of a call
that each converts to the declared type at its position, with none missing and none left over.

Results:
1. `type_evaluate`: an expression comes to a value of its type.
2. `evaluate_sound`: a well-typed filter runs without a misplaced expression, and calls functions
   with arguments of the declared types.
3. `analyse_wellTyped`: a filter about which nothing was reported is well-typed.
4. `compiled_plan_type_safe`: the two together, for every plan that is compiled.
5. `functions_called_as_declared`: what functions are given and what calls come to keep to the
   declarations.
-/

namespace JsonPath

/-! ## The invariant -/

mutual

/-- Every expression in the filter fits its place, and every call is bound to the function that the
repository holds under its name. -/
def Filter.WellTyped (r : Repository) : Filter → Prop
  | .literal _ => True
  | .query _ segments => segmentsWellTyped r segments
  | .comparison _ left right =>
    (left.type.isComparable ∧ left.WellTyped r) ∧ right.type.isComparable ∧ right.WellTyped r
  | .logical _ operands => testsWellTyped r operands
  | .call name function arguments =>
    r.lookup name = some function ∧ argumentsWellTyped r arguments function.argumentTypes
  | .test inner => inner.type.isTest ∧ inner.WellTyped r
termination_by structural f => f

/-- Every operand fits its place as a test. -/
def testsWellTyped (r : Repository) : List Filter → Prop
  | [] => True
  | f :: fs => (f.type.isTest ∧ f.WellTyped r) ∧ testsWellTyped r fs
termination_by structural fs => fs

/-- There are as many arguments as declared types, and each converts to its own. -/
def argumentsWellTyped (r : Repository) : List Filter → List ExpressionType → Prop
  | [], types => types = []
  | f :: fs, types =>
    match types with
    | [] => False
    | t :: ts => ((f.type.coerce t).isSome ∧ f.WellTyped r) ∧ argumentsWellTyped r fs ts
termination_by structural fs => fs

/-- The filters in the segments are well-typed tests. -/
def segmentsWellTyped (r : Repository) : List (Segment Filter) → Prop
  | [] => True
  | s :: ss => segmentWellTyped r s ∧ segmentsWellTyped r ss
termination_by structural ss => ss

/-- The filters in the segment are well-typed tests. -/
def segmentWellTyped (r : Repository) : Segment Filter → Prop
  | ⟨_, selectors⟩ => selectorsWellTyped r selectors
termination_by structural s => s

/-- The filters among the selectors are well-typed tests. -/
def selectorsWellTyped (r : Repository) : List (Selector Filter) → Prop
  | [] => True
  | s :: ss => selectorWellTyped r s ∧ selectorsWellTyped r ss
termination_by structural ss => ss

/-- The filter of the selector, if it has one, is a well-typed test. -/
def selectorWellTyped (r : Repository) : Selector Filter → Prop
  | .filter predicate => predicate.type.isTest ∧ predicate.WellTyped r
  | _ => True
termination_by structural s => s

end

/-! ## Values keep to the types of expressions -/

theorem type_invoke (f : FunctionExtension) (name : String) (arguments : List FilterValue) :
    (f.invoke name arguments).value.type = f.returnType := by
  simp only [FunctionExtension.invoke, Noted.value_bind]
  split
  · assumption
  · exact FilterValue.type_emptyOf f.returnType

/-- An expression comes to a value of its type, even if it is a call of a function that answers in
another form than it declares. -/
theorem type_evaluate (c : EvaluationContext) (f : Filter) (current : Value) :
    (f.evaluate c current).value.type = f.type := by
  cases f with
  | logical operator operands => cases operator <;> rfl
  | call name function arguments =>
    simp only [Filter.evaluate, Noted.value_bind]
    split
    · exact FilterValue.type_emptyOf function.returnType
    · exact type_invoke function name _
  | _ => rfl

theorem type_toArgument {v w : FilterValue} {t : ExpressionType} (taken : v.toArgument t = some w) :
    w.type = t := by
  cases t with
  | value =>
    simp only [FilterValue.toArgument] at taken
    split at taken <;> cases taken <;> rfl
  | logical => cases taken; rfl
  | nodes =>
    simp only [FilterValue.toArgument] at taken
    split at taken <;> cases taken
    rfl

/-! ## Running a well-typed filter -/

/-- What may happen while a well-typed query runs: no expression stands where its type has no
meaning, and a function is called by its name, with arguments of the declared types. -/
def Event.Sound (r : Repository) : Event → Prop
  | .misplaced _ => False
  | .called name function arguments =>
    r.lookup name = some function ∧ arguments.map FilterValue.type = function.argumentTypes
  | _ => True

theorem only_placedAs {p : Event → Prop} {α : Type} {allowed : ExpressionType → Bool}
    {use : FilterValue → α} {v : Noted Event FilterValue} (only : v.Only p)
    (fits : allowed v.value.type) : (placedAs allowed use v).Only p := by
  simp only [placedAs, Noted.only_bind, Noted.only_noteIf, Noted.only_pure, and_true]
  exact ⟨only, fun misplaced => by simp [fits] at misplaced⟩

theorem only_invoke {r : Repository} {f : FunctionExtension} {name : String}
    {arguments : List FilterValue} (bound : r.lookup name = some f)
    (types : arguments.map FilterValue.type = f.argumentTypes) :
    (f.invoke name arguments).Only (Event.Sound r) := by
  simp only [FunctionExtension.invoke, Noted.only_bind, Noted.only_note]
  refine ⟨⟨bound, types⟩, ?_⟩
  split
  · exact Noted.only_pure _
  · simp [Event.Sound]

variable {r : Repository} (c : EvaluationContext)

/-- The arguments that a call is made with have the declared types. -/
theorem types_argumentValues (name : String) {arguments : List Filter}
    {types : List ExpressionType} (typed : argumentsWellTyped r arguments types) (current : Value)
    {values : List FilterValue}
    (reduced : (argumentValues c name arguments types current).value = some values) :
    values.map FilterValue.type = types := by
  induction arguments generalizing types values with
  | nil =>
    cases typed
    cases reduced
    rfl
  | cons f fs ih =>
    cases types with
    | nil => exact typed.elim
    | cons t ts =>
      simp only [argumentValues, Noted.value_bind] at reduced
      split at reduced
      · simp at reduced
      · next v taken =>
        simp only [Noted.value_bind, Noted.value_pure, Option.map_eq_some_iff] at reduced
        obtain ⟨vs, rest, rfl⟩ := reduced
        rw [List.map_cons, ih typed.2 rest]
        exact congrArg (· :: ts) (type_toArgument taken)

-- What a part of a filter comes to is only known by its type, since functions may answer anything.
mutual

/-- A well-typed filter runs without a misplaced expression. -/
theorem evaluate_sound : ∀ (f : Filter), f.WellTyped r → ∀ current,
    (f.evaluate c current).Only (Event.Sound r)
  | .literal _, _, _ => Noted.only_pure _
  | .query root segments, typed, current => by
    simp only [Filter.evaluate, Noted.only_bind, Noted.only_pure, and_true]
    exact only_select trivial (segments_sound segments typed) _
  | .comparison _ left right, typed, current => by
    obtain ⟨⟨leftFits, leftTyped⟩, rightFits, rightTyped⟩ := typed
    simp only [Filter.evaluate, Noted.only_bind, Noted.only_pure, and_true]
    constructor
    · exact only_placedAs (evaluate_sound left leftTyped current)
        (by rwa [type_evaluate])
    · exact only_placedAs (evaluate_sound right rightTyped current)
        (by rwa [type_evaluate])
  | .logical operator operands, typed, current => by
    cases operator <;>
      simp only [Filter.evaluate, Noted.only_bind, Noted.only_pure, and_true]
    · exact anyHolds_sound operands typed current
    · exact allHold_sound operands typed current
    · exact anyHolds_sound operands typed current
  | .call name function arguments, ⟨bound, typed⟩, current => by
    simp only [Filter.evaluate, Noted.only_bind]
    refine ⟨argumentValues_sound name arguments function.argumentTypes typed current, ?_⟩
    -- A call is made only if all of its arguments have been reduced.
    split
    · exact Noted.only_pure _
    · next values reduced =>
      exact only_invoke bound (types_argumentValues c name typed current reduced)
  | .test inner, ⟨fits, typed⟩, current => by
    simp only [Filter.evaluate, Noted.only_bind, Noted.only_pure, and_true]
    exact only_placedAs (evaluate_sound inner typed current) (by rwa [type_evaluate])
termination_by structural f => f

theorem allHold_sound : ∀ (fs : List Filter), testsWellTyped r fs → ∀ current,
    (allHold c fs current).Only (Event.Sound r)
  | [], _, _ => Noted.only_pure _
  | f :: fs, ⟨⟨fits, typed⟩, others⟩, current => by
    simp only [allHold, Noted.only_bind]
    refine ⟨only_placedAs (evaluate_sound f typed current) (by rwa [type_evaluate]), ?_⟩
    split
    · exact allHold_sound fs others current
    · exact Noted.only_pure _
termination_by structural fs => fs

theorem anyHolds_sound : ∀ (fs : List Filter), testsWellTyped r fs → ∀ current,
    (anyHolds c fs current).Only (Event.Sound r)
  | [], _, _ => Noted.only_pure _
  | f :: fs, ⟨⟨fits, typed⟩, others⟩, current => by
    simp only [anyHolds, Noted.only_bind]
    refine ⟨only_placedAs (evaluate_sound f typed current) (by rwa [type_evaluate]), ?_⟩
    split
    · exact Noted.only_pure _
    · exact anyHolds_sound fs others current
termination_by structural fs => fs

theorem argumentValues_sound (name : String) : ∀ (fs : List Filter) (types : List ExpressionType),
    argumentsWellTyped r fs types → ∀ current,
      (argumentValues c name fs types current).Only (Event.Sound r)
  | [], _, _, _ => Noted.only_pure _
  | f :: fs, types, typed, current => by
    cases types with
    | nil => exact typed.elim
    | cons t ts =>
      obtain ⟨⟨fits, first⟩, others⟩ := typed
      simp only [argumentValues, Noted.only_bind]
      refine ⟨only_placedAs (evaluate_sound f first current) (by rwa [type_evaluate]), ?_⟩
      split
      · simp [Event.Sound]
      · simp only [Noted.only_bind, Noted.only_pure, and_true]
        exact argumentValues_sound name fs ts others current
termination_by structural fs => fs

theorem segments_sound : ∀ (ss : List (Segment Filter)), segmentsWellTyped r ss →
    ∀ segment ∈ filterTests c ss, ∀ selector ∈ segment.selectors,
      selector.TestsOnly (Event.Sound r)
  | [], _ => fun _ member => nomatch member
  | s :: ss, ⟨first, others⟩ => by
    intro segment member
    rcases List.mem_cons.mp member with rfl | later
    · exact segment_sound s first
    · exact segments_sound ss others segment later
termination_by structural ss => ss

theorem segment_sound : ∀ (s : Segment Filter), segmentWellTyped r s →
    ∀ selector ∈ (segmentTests c s).selectors, selector.TestsOnly (Event.Sound r)
  | ⟨_, selectors⟩, typed => selectors_sound selectors typed
termination_by structural s => s

theorem selectors_sound : ∀ (ss : List (Selector Filter)), selectorsWellTyped r ss →
    ∀ selector ∈ selectorTests c ss, selector.TestsOnly (Event.Sound r)
  | [], _ => fun _ member => nomatch member
  | s :: ss, ⟨first, others⟩ => by
    intro selector member
    rcases List.mem_cons.mp member with rfl | later
    · exact selector_sound s first
    · exact selectors_sound ss others selector later
termination_by structural ss => ss

theorem selector_sound : ∀ (s : Selector Filter), selectorWellTyped r s →
    (selectorTest c s).TestsOnly (Event.Sound r)
  | .filter predicate, ⟨fits, typed⟩ => by
    intro test is current
    cases is
    exact only_placedAs (evaluate_sound predicate typed current) (by rwa [type_evaluate])
  | .name _, _ | .index _, _ | .wildcard, _ | .slice _, _ => fun _ is => nomatch is
termination_by structural s => s

end

/-! ## What compilation leaves -/

/-- An expression that is kept in its place without a finding fits it. -/
theorem placed_quiet {allowed : ExpressionType → Bool} {misplaced : Diagnostic}
    {plan : Analysis (Option Filter)} {f : Filter}
    (quiet : (AnalysisContext.placed allowed misplaced plan).notes = [])
    (kept : (AnalysisContext.placed allowed misplaced plan).value = some f) :
    plan.notes = [] ∧ plan.value = some f ∧ allowed f.type := by
  simp only [AnalysisContext.placed, Noted.value_bind, Noted.notes_bind] at quiet kept
  cases present : plan.value with
  | none => simp [present] at kept
  | some g =>
    simp only [present, Noted.value_bind, Noted.notes_bind, Noted.value_pure, Noted.notes_pure,
      List.append_eq_nil_iff, Option.some.injEq] at quiet kept
    subst g
    exact ⟨quiet.1, rfl, by simpa [Noted.noteIf] using quiet.2⟩

/-- Arguments about which nothing was found convert to the declared types. -/
theorem argumentsWellTyped_of_fits {r : Repository} (c : AnalysisContext)
    {types : List ExpressionType} {fs : List Filter} {es : List Expression}
    (sameLength : fs.length = es.length) (typed : ∀ f ∈ fs, f.WellTyped r)
    (fits : AnalysisContext.fits types (c.coerced types (fs.zip es))) :
    argumentsWellTyped r fs types := by
  induction fs generalizing types es with
  | nil =>
    cases types with
    | nil => rfl
    | cons t ts => simp [AnalysisContext.fits, AnalysisContext.coerced] at fits
  | cons f fs ih =>
    cases es with
    | nil => simp at sameLength
    | cons e es =>
      cases types with
      | nil => simp [AnalysisContext.fits, AnalysisContext.coerced] at fits
      | cons t ts =>
        simp only [AnalysisContext.fits, List.zip_cons_cons, AnalysisContext.coerced,
          List.length_cons, List.all_cons, Bool.and_eq_true, beq_iff_eq, Nat.add_right_cancel_iff]
          at fits
        refine ⟨⟨fits.2.1, typed f List.mem_cons_self⟩, ?_⟩
        refine ih (Nat.succ.inj sameLength)
          (fun g member => typed g (List.mem_cons_of_mem _ member)) ?_
        simp [AnalysisContext.fits, fits.1, fits.2.2]

/-- A call about which nothing was found is bound, and its arguments fit. -/
theorem call_wellTyped {c : AnalysisContext} {name : String} {es : List Expression}
    {plans : List (Option Filter)} {f : Filter}
    (arguments : ∀ fs, allPresent plans = some fs →
      (∀ f ∈ fs, f.WellTyped c.repository) ∧ fs.length = es.length)
    (quiet : (c.call name es plans).notes = []) (found : (c.call name es plans).value = some f) :
    f.WellTyped c.repository := by
  simp only [AnalysisContext.call] at quiet found
  split at found
  · cases found
  · next function bound =>
    split at found
    · cases found
    · next filters present =>
      cases found
      simp only [bound, present, Noted.notes_bind, Noted.notes_pure, List.append_nil] at quiet
      obtain ⟨typed, sameLength⟩ := arguments filters present
      exact ⟨bound,
        argumentsWellTyped_of_fits c sameLength typed (by simpa [Noted.noteIf] using quiet)⟩

variable (c : AnalysisContext)

mutual

/-- An expression about which nothing was found has a well-typed plan. -/
theorem analyse_wellTyped : ∀ (e : Expression) {f : Filter}, (e.analyse c).notes = [] →
    (e.analyse c).value = some f → f.WellTyped c.repository
  | .literal _ _, _, _, found => by
    cases found
    trivial
  | .query tree, _, quiet, found => query_wellTyped tree quiet found
  | .call name es _, _, quiet, found => by
    simp only [Expression.analyse, Noted.notes_bind, Noted.value_bind, List.append_eq_nil_iff]
      at quiet found
    exact call_wellTyped (fun fs present => arguments_wellTyped es quiet.1 present) quiet.2 found
  | .comparison operator left right _, f, quiet, found => by
    simp only [Expression.analyse, Noted.notes_bind, Noted.value_bind, Noted.notes_pure,
      Noted.value_pure, List.append_eq_nil_iff, and_true] at quiet found
    simp only [comparisonOf] at found
    split at found
    · next l r leftKept rightKept =>
      cases found
      obtain ⟨leftQuiet, leftFound, leftFits⟩ := placed_quiet quiet.1 leftKept
      obtain ⟨rightQuiet, rightFound, rightFits⟩ := placed_quiet quiet.2 rightKept
      exact ⟨⟨leftFits, analyse_wellTyped left leftQuiet leftFound⟩, rightFits,
        analyse_wellTyped right rightQuiet rightFound⟩
    · cases found
  | .not operand _, f, quiet, found => by
    simp only [Expression.analyse, Noted.notes_bind, Noted.value_bind, Noted.notes_pure,
      Noted.value_pure, List.append_nil] at quiet found
    simp only [logicalOf, Option.map_eq_some_iff, allPresent_cons] at found
    obtain ⟨_, ⟨g, _, kept, rest, rfl⟩, rfl⟩ := found
    cases rest
    obtain ⟨innerQuiet, innerFound, fits⟩ := placed_quiet quiet kept
    exact ⟨⟨fits, analyse_wellTyped operand innerQuiet innerFound⟩, trivial⟩
  | .and operands _, _, quiet, found | .or operands _, _, quiet, found => by
    simp only [Expression.analyse, Noted.notes_bind, Noted.value_bind, Noted.notes_pure,
      Noted.value_pure, List.append_nil] at quiet found
    simp only [logicalOf, Option.map_eq_some_iff] at found
    obtain ⟨fs, present, rfl⟩ := found
    exact tests_wellTyped operands quiet present
  | .paren inner _, _, quiet, found => by
    simp only [Expression.analyse, Noted.notes_bind, Noted.value_bind, Noted.notes_pure,
      Noted.value_pure, List.append_nil, Option.map_eq_some_iff] at quiet found
    obtain ⟨g, kept, rfl⟩ := found
    obtain ⟨innerQuiet, innerFound, fits⟩ := placed_quiet quiet kept
    exact ⟨fits, analyse_wellTyped inner innerQuiet innerFound⟩
termination_by structural e => e

theorem arguments_wellTyped : ∀ (es : List Expression) {fs : List Filter},
    (argumentsOf c es).notes = [] → allPresent (argumentsOf c es).value = some fs →
      (∀ f ∈ fs, f.WellTyped c.repository) ∧ fs.length = es.length
  | [], _, _, present => by
    cases present
    simp
  | e :: es, _, quiet, present => by
    simp only [argumentsOf, Noted.notes_bind, Noted.value_bind, Noted.notes_pure,
      Noted.value_pure, List.append_nil, List.append_eq_nil_iff, allPresent_cons] at quiet present
    obtain ⟨g, gs, found, others, rfl⟩ := present
    obtain ⟨typed, sameLength⟩ := arguments_wellTyped es quiet.2 others
    have first := analyse_wellTyped e quiet.1 found
    exact ⟨List.forall_mem_cons.mpr ⟨first, typed⟩, congrArg (· + 1) sameLength⟩
termination_by structural es => es

theorem tests_wellTyped : ∀ (es : List Expression) {fs : List Filter},
    (testsOf c es).notes = [] → allPresent (testsOf c es).value = some fs →
      testsWellTyped c.repository fs
  | [], _, _, present => by
    cases present
    trivial
  | e :: es, _, quiet, present => by
    simp only [testsOf, Noted.notes_bind, Noted.value_bind, Noted.notes_pure,
      Noted.value_pure, List.append_nil, List.append_eq_nil_iff, allPresent_cons] at quiet present
    obtain ⟨g, gs, kept, others, rfl⟩ := present
    obtain ⟨innerQuiet, innerFound, fits⟩ := placed_quiet quiet.1 kept
    exact ⟨⟨fits, analyse_wellTyped e innerQuiet innerFound⟩, tests_wellTyped es quiet.2 others⟩
termination_by structural es => es

theorem query_wellTyped : ∀ (q : Query Expression) {f : Filter}, (queryOf c q).notes = [] →
    (queryOf c q).value = some f → f.WellTyped c.repository
  | ⟨root, segments, _⟩, _, quiet, found => by
    simp only [queryOf, Noted.notes_bind, Noted.value_bind, Noted.notes_pure,
      Noted.value_pure, List.append_nil, Option.map_eq_some_iff] at quiet found
    obtain ⟨ss, present, rfl⟩ := found
    exact segments_wellTyped segments quiet present
termination_by structural q => q

theorem segments_wellTyped : ∀ (ss : List (Segment Expression)) {plans : List (Segment Filter)},
    (segmentsOf c ss).notes = [] → allPresent (segmentsOf c ss).value = some plans →
      segmentsWellTyped c.repository plans
  | [], _, _, present => by
    cases present
    trivial
  | s :: ss, _, quiet, present => by
    simp only [segmentsOf, Noted.notes_bind, Noted.value_bind, Noted.notes_pure,
      Noted.value_pure, List.append_nil, List.append_eq_nil_iff, allPresent_cons] at quiet present
    obtain ⟨g, gs, found, others, rfl⟩ := present
    exact ⟨segment_wellTyped s quiet.1 found, segments_wellTyped ss quiet.2 others⟩
termination_by structural ss => ss

theorem segment_wellTyped : ∀ (s : Segment Expression) {plan : Segment Filter},
    (segmentOf c s).notes = [] → (segmentOf c s).value = some plan →
      segmentWellTyped c.repository plan
  | ⟨kind, selectors⟩, _, quiet, found => by
    simp only [segmentOf, Noted.notes_bind, Noted.value_bind, Noted.notes_pure,
      Noted.value_pure, List.append_nil, Option.map_eq_some_iff] at quiet found
    obtain ⟨ss, present, rfl⟩ := found
    exact selectors_wellTyped selectors quiet present
termination_by structural s => s

theorem selectors_wellTyped : ∀ (ss : List (Selector Expression)) {plans : List (Selector Filter)},
    (selectorsOf c ss).notes = [] → allPresent (selectorsOf c ss).value = some plans →
      selectorsWellTyped c.repository plans
  | [], _, _, present => by
    cases present
    trivial
  | s :: ss, _, quiet, present => by
    simp only [selectorsOf, Noted.notes_bind, Noted.value_bind, Noted.notes_pure,
      Noted.value_pure, List.append_nil, List.append_eq_nil_iff, allPresent_cons] at quiet present
    obtain ⟨g, gs, found, others, rfl⟩ := present
    exact ⟨selector_wellTyped s quiet.1 found, selectors_wellTyped ss quiet.2 others⟩
termination_by structural ss => ss

theorem selector_wellTyped : ∀ (s : Selector Expression) {plan : Selector Filter},
    (selectorOf c s).notes = [] → (selectorOf c s).value = some plan →
      selectorWellTyped c.repository plan
  | .filter predicate, _, quiet, found => by
    simp only [selectorOf, Noted.notes_bind, Noted.value_bind, Noted.notes_pure,
      Noted.value_pure, List.append_nil, Option.map_eq_some_iff] at quiet found
    obtain ⟨g, kept, rfl⟩ := found
    obtain ⟨innerQuiet, innerFound, fits⟩ := placed_quiet quiet kept
    exact ⟨fits, analyse_wellTyped predicate innerQuiet innerFound⟩
  | .name _, _, _, found | .index _, _, _, found | .wildcard, _, _, found
  | .slice _, _, _, found => by
    cases found
    trivial
termination_by structural s => s

end

/-! ## Compiled plans -/

theorem compiled_wellTyped {settings : CompilerSettings} {repository : Repository}
    {source : String} {plan : Plan}
    (compiled : (compile settings repository source).value = some plan) :
    segmentsWellTyped repository plan.segments := by
  obtain ⟨tree, -, quiet, present⟩ := compile_some compiled
  exact segments_wellTyped ⟨source, repository⟩ tree.segments quiet present

theorem run_sound {repository : Repository} {plan : Plan}
    (typed : segmentsWellTyped repository plan.segments) (limits : EvaluatorSettings)
    (document : Value) : (plan.evaluate limits document).Only (Event.Sound repository) := by
  simp only [Plan.evaluate, Noted.only_bind, Noted.only_note, Noted.only_pure, and_true]
  exact ⟨only_select trivial (segments_sound _ plan.segments typed) _, trivial⟩

/-- Every plan that compilation returns runs, on every document and whatever its functions answer,
without an expression that stands where its type has no meaning. Functions are only called by the
names they are registered under, with arguments of the types they declare. -/
theorem compiled_plan_type_safe {σ : Type} {listener : Listener σ} {record : LogLine → σ → σ}
    {settings : CompilerSettings} {repository : Repository} {source : String} {s : σ} {plan : Plan}
    (compiled : (compileFor listener record settings repository source s).1 = some plan)
    (limits : EvaluatorSettings) (document : Value) :
    ∀ event ∈ (plan.evaluate limits document).notes,
      (∀ type, event ≠ .misplaced type) ∧
        ∀ name function arguments, event = .called name function arguments →
          repository.lookup name = some function ∧
            arguments.map FilterValue.type = function.argumentTypes := by
  have sound := run_sound (compiled_wellTyped compiled) limits document
  intro event member
  constructor
  · rintro type rfl
    exact sound _ member
  · rintro name function arguments rfl
    exact sound _ member

/-- A function that declares a list of nodes and answers with the outcome of a test. -/
def misanswering : FunctionExtension where
  argumentTypes := [.value, .logical]
  returnType := .nodes
  evaluate _ := .logical true

/-- A plan with a call in every kind of place of a filter. -/
theorem compiled_plan_type_safe_misanswering : ∃ plan,
    (compileFor Listener.silent (fun _ s => s) {} (Repository.empty.insert "f" misanswering)
      "$[?f(@.a, !(@.b)) && f(f(@.c, $.d), @.e) == 1]" ()).1 = some plan ∧
    ∀ event ∈ (plan.evaluate {} (.array [.null, .object [("a", .null)]])).notes,
      (∀ type, event ≠ .misplaced type) ∧
        ∀ name function arguments, event = .called name function arguments →
          (Repository.empty.insert "f" misanswering).lookup name = some function ∧
            arguments.map FilterValue.type = function.argumentTypes := by
  have compiled : (compileFor Listener.silent (fun _ s => s) {}
      (Repository.empty.insert "f" misanswering)
      "$[?f(@.a, !(@.b)) && f(f(@.c, $.d), @.e) == 1]" ()).1.isSome := by decide +kernel
  obtain ⟨plan, found⟩ := Option.isSome_iff_exists.mp compiled
  exact ⟨plan, found, compiled_plan_type_safe found _ _⟩

/-! ## Calls -/

/-- Values whose types are declared one by one are as many as declared, each of its own type. -/
theorem types_pointwise {values : List FilterValue} {types : List ExpressionType}
    (same : values.map FilterValue.type = types) : values.length = types.length ∧
      ∀ (i : Nat) (declared : ExpressionType), types[i]? = some declared →
        ∃ value, values[i]? = some value ∧ value.type = declared := by
  subst same
  refine ⟨(List.length_map _).symm, fun i declared there => ?_⟩
  rw [List.getElem?_map, Option.map_eq_some_iff] at there
  exact there

/-- Functions are called as declared. Whenever a function is called in the course of running a
compiled plan, it is given as many arguments as it declares, each in the form of the declared type
at its place. And a call comes to a value of the declared return type, also where the function
answers in another form, or is not called since an argument does not reduce to a value. -/
theorem functions_called_as_declared {settings : CompilerSettings} {repository : Repository}
    {source : String} {plan : Plan}
    (compiled : (compile settings repository source).value = some plan)
    (limits : EvaluatorSettings) (document : Value) :
    (∀ name function arguments,
      .called name function arguments ∈ (plan.evaluate limits document).notes →
        repository.lookup name = some function ∧
        arguments.length = function.argumentTypes.length ∧
        ∀ (i : Nat) (declared : ExpressionType), function.argumentTypes[i]? = some declared →
          ∃ argument, arguments[i]? = some argument ∧ argument.type = declared) ∧
    ∀ (c : EvaluationContext) (current : Value) (name : String) (function : FunctionExtension)
      (arguments : List Filter),
      ((Filter.call name function arguments).evaluate c current).value.type =
        function.returnType := by
  have sound := run_sound (compiled_wellTyped compiled) limits document
  constructor
  · intro name function arguments made
    obtain ⟨bound, types⟩ := sound _ made
    exact ⟨bound, types_pointwise types⟩
  · intro c current name function arguments
    exact type_evaluate c (.call name function arguments) current

/-- A run in which a function is called and answers in another form than it declares. At the other
child of the root its argument does not reduce, and it is not called. -/
theorem functions_called_as_declared_misanswering : ∃ plan,
    (compile {} (Repository.empty.insert "f" misanswering) "$[?f(@.*, @.b)]").value = some plan ∧
    ∃ name function arguments,
      .called name function arguments ∈ (plan.evaluate {} (.array
        [.object [("a", .null)], .object [("a", .null), ("b", .null)]])).notes ∧
      arguments.length = function.argumentTypes.length ∧
      ∀ (i : Nat) (declared : ExpressionType), function.argumentTypes[i]? = some declared →
        ∃ argument, arguments[i]? = some argument ∧ argument.type = declared := by
  have called : ((compile {} (Repository.empty.insert "f" misanswering) "$[?f(@.*, @.b)]").value.any
      fun plan => (plan.evaluate {} (.array
        [.object [("a", .null)], .object [("a", .null), ("b", .null)]])).notes.any
          (· matches .called ..)) := by decide +kernel
  obtain ⟨plan, compiled, called⟩ := (Option.any_eq_true _ _).mp called
  obtain ⟨event, made, isCall⟩ := List.any_eq_true.mp called
  cases event with
  | called name function arguments =>
    have declared := (functions_called_as_declared compiled _ _).1 name function arguments made
    exact ⟨plan, compiled, name, function, arguments, made, declared.2⟩
  | _ => cases isCall

end JsonPath
