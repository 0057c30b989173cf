import JsonPath.Proofs.Compilation

/-!
# What analysis finds

Analysis goes through a tree in the order of its text, stops at what has no plan and goes on beside
it. What it reports can be said without that course: a tree has *sites*, at each of which at most
one thing can be wrong, and a site is judged by itself and by the calls below it.

`Expression.sites` lists the sites of a tree, those inside an expression in front of those of the
expression itself. `Site.finding?` is the judgement.

Results:
1. `analyse_isNone`: an expression has no plan exactly if a call in it names no known function.
2. `analyse_notes`: the findings about an expression are those of its sites, in their order.
3. `reported_findings`: the same for whole trees, and for what a listener is told of a text.
-/

namespace JsonPath

/-! ## Sites -/

/-- A part of a tree about which something can be found. -/
inductive Site where
  /-- A call, whose name and arguments may be wrong. -/
  | call (name : String) (arguments : List Expression)
  /-- An expression that stands as a test. -/
  | test (e : Expression)
  /-- An operand of a comparison. -/
  | comparable (e : Expression)

mutual

/-- The sites of an expression, its own place aside. -/
def Expression.sites : Expression → List Site
  | .literal _ _ => []
  | .query tree => querySites tree
  | .call name arguments _ => argumentSites arguments ++ [.call name arguments]
  | .comparison _ left right _ =>
    left.sites ++ [.comparable left] ++ (right.sites ++ [.comparable right])
  | .not operand _ => operand.sites ++ [.test operand]
  | .and operands _ => testSites operands
  | .or operands _ => testSites operands
  | .paren inner _ => inner.sites ++ [.test inner]
termination_by structural e => e

/-- The sites of the arguments of a call. -/
def argumentSites : List Expression → List Site
  | [] => []
  | e :: es => e.sites ++ argumentSites es
termination_by structural es => es

/-- The sites of expressions that stand as tests. -/
def testSites : List Expression → List Site
  | [] => []
  | e :: es => e.sites ++ [.test e] ++ testSites es
termination_by structural es => es

/-- The sites of a query. -/
def querySites : Query Expression → List Site
  | ⟨_, segments, _⟩ => segmentSites segments
termination_by structural q => q

/-- The sites of segments. -/
def segmentSites : List (Segment Expression) → List Site
  | [] => []
  | ⟨_, selectors⟩ :: ss => selectorSites selectors ++ segmentSites ss
termination_by structural ss => ss

/-- The sites of selectors; a filter stands as a test. -/
def selectorSites : List (Selector Expression) → List Site
  | [] => []
  | .filter predicate :: ss => predicate.sites ++ [.test predicate] ++ selectorSites ss
  | _ :: ss => selectorSites ss
termination_by structural ss => ss

end

/-- Whether the site is a call that names no function. -/
def Site.isUnknownCall (r : Repository) : Site → Bool
  | .call name _ => (r.lookup name).isNone
  | _ => false

/-- Whether a call anywhere in the expression names no function. -/
def Expression.hasUnknownCall (r : Repository) (e : Expression) : Bool :=
  e.sites.any (Site.isUnknownCall r)

/-! ## What is found at a site -/

/-- The natural type of an expression. A call has that of its function, if there is one. -/
def Expression.naturalType (r : Repository) : Expression → Option ExpressionType
  | .literal _ _ => some .value
  | .query _ => some .nodes
  | .call name _ _ => (r.lookup name).map (·.returnType)
  | .comparison .. | .not .. | .and .. | .or .. | .paren .. => some .logical

/-- The type of an expression all of whose calls name functions. -/
def Expression.type? (r : Repository) (e : Expression) : Option ExpressionType :=
  if e.hasUnknownCall r then none else e.naturalType r

/-- Each argument with its text and its type: converted to the declared type at its position, if it
can be, and its natural type if there is none declared. -/
def argumentTypes (c : AnalysisContext) (declared : List ExpressionType)
    (arguments : List Expression) : List CoercedArgument :=
  arguments.mapIdx fun position e =>
    ⟨match declared[position]? with
      | some t => (e.naturalType c.repository).bind (·.coerce t)
      | none => e.naturalType c.repository, c.textOf e⟩

/-- What is found at a site. Nothing more is said about an expression in which a call names no
function. -/
def Site.finding? (c : AnalysisContext) : Site → Option Diagnostic
  | .call name arguments =>
    match c.repository.lookup name with
    | none => some (.unknownFunction name)
    | some function =>
      let declared := function.argumentTypes
      let actual := argumentTypes c declared arguments
      if arguments.any (·.hasUnknownCall c.repository) then none
      else if arguments.length = declared.length ∧ ∀ a ∈ actual, a.type ≠ none then none
      else some (.badArguments name declared actual)
  | .test e =>
    if e.type? c.repository = some .value then
      some (match e with
        | .call name _ _ => .functionIsNoTest name
        | _ => .invalidTest (c.textOf e))
    else none
  | .comparable e =>
    if e.type? c.repository = some .logical then
      some (match e with
        | .call name _ _ => .functionIsNotComparable name
        | _ => .invalidTest (c.textOf e))
    else none

/-! ## What has no plan -/

theorem allPresent_isNone {α : Type} (xs : List (Option α)) :
    (allPresent xs).isNone = xs.any Option.isNone := by
  induction xs with
  | nil => rfl
  | cons x? xs ih =>
    rw [List.any_cons, ← ih]
    cases x? <;> cases present : allPresent xs <;> simp [allPresent, present]

theorem value_placed (allowed : ExpressionType → Bool) (misplaced : Diagnostic)
    (plan : Analysis (Option Filter)) :
    (AnalysisContext.placed allowed misplaced plan).value = plan.value := by
  simp only [AnalysisContext.placed, Noted.value_bind]
  cases plan.value <;> rfl

variable (c : AnalysisContext)

theorem value_argumentsOf (es : List Expression) :
    (argumentsOf c es).value = es.map fun e => (e.analyse c).value := by
  induction es with
  | nil => rfl
  | cons e es ih => simp [argumentsOf, ih]

theorem value_testsOf (es : List Expression) :
    (testsOf c es).value = es.map fun e => (e.analyse c).value := by
  induction es with
  | nil => rfl
  | cons e es ih => simp [testsOf, AnalysisContext.asTest, value_placed, ih]

theorem any_argumentSites (r : Repository) (es : List Expression) :
    (argumentSites es).any (Site.isUnknownCall r) = es.any (·.hasUnknownCall r) := by
  induction es with
  | nil => rfl
  | cons e es ih => simp [argumentSites, ih, Expression.hasUnknownCall]

theorem any_testSites (r : Repository) (es : List Expression) :
    (testSites es).any (Site.isUnknownCall r) = es.any (·.hasUnknownCall r) := by
  induction es with
  | nil => rfl
  | cons e es ih => simp [testSites, ih, Expression.hasUnknownCall, Site.isUnknownCall]

theorem isNone_call (name : String) (es : List Expression) (plans : List (Option Filter)) :
    (c.call name es plans).value.isNone =
      ((c.repository.lookup name).isNone || plans.any Option.isNone) := by
  rw [← allPresent_isNone]
  simp only [AnalysisContext.call]
  cases c.repository.lookup name with
  | none => rfl
  | some function => cases allPresent plans <;> rfl

mutual

/-- An expression has no plan exactly if a call in it names no function. -/
theorem analyse_isNone : ∀ (e : Expression),
    (e.analyse c).value.isNone = e.hasUnknownCall c.repository
  | .literal _ _ => rfl
  | .query ⟨root, segments, span⟩ => by
    simp only [Expression.analyse, queryOf, Noted.value_bind, Noted.value_pure, Option.isNone_map,
      allPresent_isNone, segments_isNone segments]
    rfl
  | .call name es _ => by
    simp only [Expression.analyse, Noted.value_bind, isNone_call, value_argumentsOf, List.any_map,
      Function.comp_def, list_isNone es]
    simp only [Expression.hasUnknownCall, Expression.sites, List.any_append, any_argumentSites,
      List.any_cons, List.any_nil, Bool.or_false, Site.isUnknownCall]
    exact Bool.or_comm _ _
  | .comparison operator left right _ => by
    have leftNone := analyse_isNone left
    have rightNone := analyse_isNone right
    simp only [Expression.hasUnknownCall] at leftNone rightNone
    simp only [Expression.analyse, Noted.value_bind, Noted.value_pure,
      AnalysisContext.asComparable, value_placed, Expression.hasUnknownCall, Expression.sites,
      List.any_append, List.any_cons, List.any_nil, Site.isUnknownCall, Bool.or_false,
      ← leftNone, ← rightNone]
    cases (left.analyse c).value <;> cases (right.analyse c).value <;> rfl
  | .not operand _ => by
    have operandNone := analyse_isNone operand
    simp only [Expression.hasUnknownCall] at operandNone
    simp [Expression.analyse, AnalysisContext.asTest, value_placed, logicalOf, allPresent_isNone,
      Expression.hasUnknownCall, Expression.sites, Site.isUnknownCall, operandNone]
  | .and es _ | .or es _ => by
    simp only [Expression.analyse, Noted.value_bind, Noted.value_pure, logicalOf,
      Option.isNone_map, allPresent_isNone, value_testsOf, List.any_map, Function.comp_def,
      list_isNone es, Expression.hasUnknownCall, Expression.sites, any_testSites]
  | .paren inner _ => by
    have innerNone := analyse_isNone inner
    simp only [Expression.hasUnknownCall] at innerNone
    simp [Expression.analyse, AnalysisContext.asTest, value_placed, Expression.hasUnknownCall,
      Expression.sites, Site.isUnknownCall, innerNone]
termination_by structural e => e

theorem list_isNone : ∀ (es : List Expression),
    (es.any fun e => (e.analyse c).value.isNone) = es.any (·.hasUnknownCall c.repository)
  | [] => rfl
  | e :: es => by rw [List.any_cons, List.any_cons, analyse_isNone e, list_isNone es]
termination_by structural es => es

theorem segments_isNone : ∀ (ss : List (Segment Expression)),
    (segmentsOf c ss).value.any Option.isNone =
      (segmentSites ss).any (Site.isUnknownCall c.repository)
  | [] => rfl
  | ⟨kind, selectors⟩ :: ss => by
    simp only [segmentsOf, segmentOf, Noted.value_bind, Noted.value_pure, List.any_cons,
      Option.isNone_map, allPresent_isNone, selectors_isNone selectors, segments_isNone ss,
      segmentSites, List.any_append]
termination_by structural ss => ss

theorem selectors_isNone : ∀ (ss : List (Selector Expression)),
    (selectorsOf c ss).value.any Option.isNone =
      (selectorSites ss).any (Site.isUnknownCall c.repository)
  | [] => rfl
  | .filter predicate :: ss => by
    have predicateNone := analyse_isNone predicate
    simp only [Expression.hasUnknownCall] at predicateNone
    simp [selectorsOf, selectorOf, AnalysisContext.asTest, value_placed, selectors_isNone ss,
      selectorSites, Site.isUnknownCall, predicateNone]
  | .name _ :: ss | .index _ :: ss | .wildcard :: ss | .slice _ :: ss => by
    simp [selectorsOf, selectorOf, selectors_isNone ss, selectorSites]
termination_by structural ss => ss

end

/-! ## What is reported -/

theorem naturalType_of_analyse {e : Expression} {f : Filter}
    (found : (e.analyse c).value = some f) : e.naturalType c.repository = some f.type := by
  cases e with
  | literal value span => cases found; rfl
  | query tree =>
    obtain ⟨root, segments, span⟩ := tree
    simp only [Expression.analyse, queryOf, Noted.value_bind, Noted.value_pure,
      Option.map_eq_some_iff] at found
    obtain ⟨ss, _, rfl⟩ := found
    rfl
  | call name es span =>
    simp only [Expression.analyse, Noted.value_bind, AnalysisContext.call] at found
    split at found
    · cases found
    · next function bound =>
      split at found
      · cases found
      · cases found
        simp [Expression.naturalType, bound, Filter.type]
  | comparison operator left right span =>
    simp only [Expression.analyse, Noted.value_bind, Noted.value_pure, comparisonOf] at found
    split at found <;> cases found
    rfl
  | not operand span | and operands span | or operands span =>
    simp only [Expression.analyse, Noted.value_bind, Noted.value_pure, logicalOf,
      Option.map_eq_some_iff] at found
    obtain ⟨fs, _, rfl⟩ := found
    rfl
  | paren inner span =>
    simp only [Expression.analyse, Noted.value_bind, Noted.value_pure,
      Option.map_eq_some_iff] at found
    obtain ⟨g, _, rfl⟩ := found
    rfl

/-- An expression that has a plan has the type of the plan, and one that has none has no type. -/
theorem type?_eq (e : Expression) :
    e.type? c.repository = (e.analyse c).value.map Filter.type := by
  have isNone := analyse_isNone c e
  simp only [Expression.type?]
  cases found : (e.analyse c).value with
  | none => simp [← isNone, found]
  | some f => simp [← isNone, found, naturalType_of_analyse c found]

theorem notes_asTest (e : Expression) :
    (c.asTest e (e.analyse c)).notes =
      (e.analyse c).notes ++ (Site.finding? c (.test e)).toList := by
  simp only [AnalysisContext.asTest, AnalysisContext.placed, Noted.notes_bind, Site.finding?,
    type?_eq c e]
  congr 1
  cases (e.analyse c).value with
  | none => rfl
  | some f => cases type : f.type <;> cases e <;> simp [Noted.noteIf, type, ExpressionType.isTest,
      AnalysisContext.noTest, Expression.functionName?]

theorem notes_asComparable (e : Expression) :
    (c.asComparable e (e.analyse c)).notes =
      (e.analyse c).notes ++ (Site.finding? c (.comparable e)).toList := by
  simp only [AnalysisContext.asComparable, AnalysisContext.placed, Noted.notes_bind, Site.finding?,
    type?_eq c e]
  congr 1
  cases (e.analyse c).value with
  | none => rfl
  | some f => cases type : f.type <;> cases e <;> simp [Noted.noteIf, type,
      ExpressionType.isComparable, AnalysisContext.notComparable, Expression.functionName?]

/-- The check of arguments sees the types that their expressions have. -/
theorem coerced_eq {es : List Expression} {fs : List Filter} (declared : List ExpressionType)
    (plans : allPresent (es.map fun e => (e.analyse c).value) = some fs) :
    c.coerced declared (fs.zip es) = argumentTypes c declared es ∧ fs.length = es.length := by
  induction es generalizing fs declared with
  | nil =>
    cases plans
    cases declared <;> exact ⟨rfl, rfl⟩
  | cons e es ih =>
    obtain ⟨g, gs, found, others, rfl⟩ := allPresent_cons.mp plans
    have type := naturalType_of_analyse c found
    simp only [argumentTypes, List.mapIdx_cons] at ih ⊢
    cases declared with
    | nil =>
      obtain ⟨rest, sameLength⟩ := ih [] others
      simp [AnalysisContext.coerced, type, rest, sameLength]
    | cons t ts =>
      obtain ⟨rest, sameLength⟩ := ih ts others
      simp [AnalysisContext.coerced, type, rest, sameLength]

theorem fits_iff (declared : List ExpressionType) (es : List Expression) :
    AnalysisContext.fits declared (argumentTypes c declared es) = true ↔
      es.length = declared.length ∧ ∀ a ∈ argumentTypes c declared es, a.type ≠ none := by
  simp [AnalysisContext.fits, argumentTypes, Option.isSome_iff_ne_none]

theorem notes_call (name : String) (es : List Expression) :
    (c.call name es (es.map fun e => (e.analyse c).value)).notes =
      (Site.finding? c (.call name es)).toList := by
  have isNone := allPresent_isNone (es.map fun e => (e.analyse c).value)
  rw [List.any_map, Function.comp_def, list_isNone] at isNone
  simp only [AnalysisContext.call, Site.finding?]
  cases c.repository.lookup name with
  | none => rfl
  | some function =>
    cases plans : allPresent (es.map fun e => (e.analyse c).value) with
    | none =>
      -- An argument without a plan holds an unknown call, which is all that is reported.
      rw [plans, Option.isNone_none] at isNone
      simp only [← isNone, if_true]
      rfl
    | some fs =>
      rw [plans, Option.isNone_some] at isNone
      have types := (coerced_eq c function.argumentTypes plans).1
      have fits := fits_iff c function.argumentTypes es
      simp only [← isNone, types, ← fits, Noted.notes_bind, Noted.notes_pure, List.append_nil]
      cases AnalysisContext.fits function.argumentTypes
        (argumentTypes c function.argumentTypes es) <;> rfl

/-! Each finding is that of a site, so the notes of a tree are read off its sites. -/

mutual

/-- What is reported about an expression, its place aside, is what is found at its sites. -/
theorem analyse_notes : ∀ (e : Expression),
    (e.analyse c).notes = e.sites.filterMap (Site.finding? c)
  | .literal _ _ => rfl
  | .query ⟨root, segments, span⟩ => by
    simp only [Expression.analyse, queryOf, Noted.notes_bind, Noted.notes_pure, List.append_nil,
      segments_notes segments, Expression.sites, querySites]
  | .call name es _ => by
    simp only [Expression.analyse, Noted.notes_bind, value_argumentsOf, notes_call,
      arguments_notes es, Expression.sites, List.filterMap_append, List.filterMap_cons,
      List.filterMap_nil]
    cases Site.finding? c (.call name es) <;> rfl
  | .comparison operator left right _ => by
    simp only [Expression.analyse, Noted.notes_bind, Noted.notes_pure, List.append_nil,
      notes_asComparable, analyse_notes left, analyse_notes right, Expression.sites,
      List.filterMap_append, List.filterMap_cons, List.filterMap_nil]
    cases Site.finding? c (.comparable left) <;> cases Site.finding? c (.comparable right) <;> rfl
  | .not operand _ => by
    simp only [Expression.analyse, Noted.notes_bind, Noted.notes_pure, List.append_nil,
      notes_asTest, analyse_notes operand, Expression.sites, List.filterMap_append,
      List.filterMap_cons, List.filterMap_nil]
    cases Site.finding? c (.test operand) <;> rfl
  | .and es _ | .or es _ => by
    simp only [Expression.analyse, Noted.notes_bind, Noted.notes_pure, List.append_nil,
      tests_notes es, Expression.sites]
  | .paren inner _ => by
    simp only [Expression.analyse, Noted.notes_bind, Noted.notes_pure, List.append_nil,
      notes_asTest, analyse_notes inner, Expression.sites, List.filterMap_append,
      List.filterMap_cons, List.filterMap_nil]
    cases Site.finding? c (.test inner) <;> rfl
termination_by structural e => e

theorem arguments_notes : ∀ (es : List Expression),
    (argumentsOf c es).notes = (argumentSites es).filterMap (Site.finding? c)
  | [] => rfl
  | e :: es => by
    simp only [argumentsOf, Noted.notes_bind, Noted.notes_pure, List.append_nil, analyse_notes e,
      arguments_notes es, argumentSites, List.filterMap_append]
termination_by structural es => es

theorem tests_notes : ∀ (es : List Expression),
    (testsOf c es).notes = (testSites es).filterMap (Site.finding? c)
  | [] => rfl
  | e :: es => by
    simp only [testsOf, Noted.notes_bind, Noted.notes_pure, List.append_nil, notes_asTest,
      analyse_notes e, tests_notes es, testSites, List.filterMap_append, List.filterMap_cons,
      List.filterMap_nil]
    cases Site.finding? c (.test e) <;> rfl
termination_by structural es => es

theorem segments_notes : ∀ (ss : List (Segment Expression)),
    (segmentsOf c ss).notes = (segmentSites ss).filterMap (Site.finding? c)
  | [] => rfl
  | ⟨kind, selectors⟩ :: ss => by
    simp only [segmentsOf, segmentOf, Noted.notes_bind, Noted.notes_pure, List.append_nil,
      selectors_notes selectors, segments_notes ss, segmentSites, List.filterMap_append]
termination_by structural ss => ss

theorem selectors_notes : ∀ (ss : List (Selector Expression)),
    (selectorsOf c ss).notes = (selectorSites ss).filterMap (Site.finding? c)
  | [] => rfl
  | .filter predicate :: ss => by
    simp only [selectorsOf, selectorOf, Noted.notes_bind, Noted.notes_pure, List.append_nil,
      notes_asTest, analyse_notes predicate, selectors_notes ss, selectorSites,
      List.filterMap_append, List.filterMap_cons, List.filterMap_nil]
    cases Site.finding? c (.test predicate) <;> rfl
  | .name _ :: ss | .index _ :: ss | .wildcard :: ss | .slice _ :: ss => by
    simp only [selectorsOf, selectorOf, Noted.notes_bind, Noted.notes_pure, List.append_nil,
      List.nil_append, selectors_notes ss, selectorSites]
termination_by structural ss => ss

end

/-! ## Whole texts -/

/-- A listener that keeps no log is told the findings and nothing else. -/
theorem compileFor_hear {σ : Type} (listener : Listener σ) (settings : CompilerSettings)
    (repository : Repository) (source : String) (s : σ) :
    (compileFor listener (fun _ s => s) settings repository source s).2 =
      listener.hear (findings settings repository source) s := by
  simp only [compileFor, findings, Listener.hear]
  generalize (compile settings repository source).notes = notes
  induction notes generalizing s with
  | nil => rfl
  | cons n ns ih => cases n <;> exact ih _

/-- Where nothing is found everything has a plan. -/
theorem allPresent_of_quiet {ss : List (Segment Expression)}
    (quiet : (segmentSites ss).filterMap (Site.finding? c) = []) :
    (allPresent (segmentsOf c ss).value).isSome := by
  rw [← Option.not_isNone, allPresent_isNone, segments_isNone, Bool.not_eq_true',
    List.any_eq_false]
  intro site member
  have silent := List.filterMap_eq_nil_iff.mp quiet site member
  cases site with
  | call name arguments =>
    intro unknown
    simp [Site.isUnknownCall] at unknown
    simp [Site.finding?, unknown] at silent
  | _ => simp [Site.isUnknownCall]

/-- Analysis reports exactly what is found at the sites of the tree, in their order. Of a text that
is read as the tree a listener is told just that, and it has a plan exactly if that is nothing. -/
theorem reported_findings (tree : Query Expression) :
    (segmentsOf c tree.segments).notes = (querySites tree).filterMap (Site.finding? c) ∧
      ∀ settings : CompilerSettings, parse settings.maxNestingDepth c.source = .ok tree →
        ∀ {σ : Type} (listener : Listener σ) (s : σ),
          let compiled := compileFor listener (fun _ s => s) settings c.repository c.source s
          compiled.2 = listener.hear ((querySites tree).filterMap (Site.finding? c)) s ∧
            (compiled.1.isSome ↔ (querySites tree).filterMap (Site.finding? c) = []) := by
  obtain ⟨root, segments, span⟩ := tree
  have notes := segments_notes c segments
  refine ⟨notes, fun settings parsed σ listener s => ?_⟩
  obtain ⟨reported, plan⟩ := compile_of_parse c.repository parsed
  constructor
  · rw [compileFor_hear, reported, notes, querySites]
  · simp only [compileFor, plan, notes, querySites]
    split
    · next quiet => simpa [allPresent_of_quiet c quiet] using quiet
    · next found => simpa using found

/-- Functions that are unknown, a list of arguments that does not fit and misplaced expressions,
side by side and within each other. -/
def manyFaults : AnalysisContext where
  source := "$[?f(1 == 2) == 1 && g(h(), 'x')][?!length($.a, @)][?'x']"
  repository := Repository.builtins

theorem reported_findings_manyFaults : ∃ tree, parse 9 manyFaults.source = .ok tree ∧
    (querySites tree).filterMap (Site.finding? manyFaults) =
      [.unknownFunction "f", .unknownFunction "h", .unknownFunction "g",
        .badArguments "length" [.value] [⟨some .value, "$.a"⟩, ⟨some .nodes, "@"⟩],
        .functionIsNoTest "length", .invalidTest "'x'"] ∧
    (compileFor Listener.silent (fun _ s => s) ⟨9⟩ Repository.builtins manyFaults.source ()).1 =
      none := by
  have read : (match parse 9 manyFaults.source with
      | .ok tree => some ((querySites tree).filterMap (Site.finding? manyFaults))
      | .error _ => none) =
      some [.unknownFunction "f", .unknownFunction "h", .unknownFunction "g",
        .badArguments "length" [.value] [⟨some .value, "$.a"⟩, ⟨some .nodes, "@"⟩],
        .functionIsNoTest "length", .invalidTest "'x'"] := by decide +kernel
  split at read
  · next tree parsed =>
    have found := Option.some.inj read
    obtain ⟨-, told⟩ := reported_findings manyFaults tree
    have planned := (told ⟨9⟩ parsed Listener.silent ()).2
    refine ⟨tree, parsed, found, Option.not_isSome_iff_eq_none.mp fun plan => ?_⟩
    exact absurd (planned.mp plan) (by simp [found])
  · exact absurd read (by simp)

end JsonPath
