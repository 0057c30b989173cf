import JsonPath.Proofs.ExpressionParsing
import JsonPath.Proofs.Outcome
import JsonPath.Proofs.Relocation
import Mathlib.Data.List.Forall2

/-!
# Filters as formulas

The test of a filter may be written as a formula over shorter tests. `FormulaText` says which texts
are written forms of a formula: `||` binds less than `&&`, `!` stands in front of what is no
comparison, and parentheses may be put around everything. Such a text is a filter, and it selects
the children for which the formula is true, where a test counts as true if the filter that consists
of this test alone selects the child.

Results:
1. `parse_filterQuery`, `padded_of_parse`: the texts that are read as one filter on the root.
2. `formulaText_phrase`: the written form of a formula is a phrase that means the formula.
3. `filter_computes_formula`: what such a filter selects, and what its negation selects.
-/

namespace JsonPath

open Grammar

/-! ## Formulas and their texts -/

/-- A formula over tests, each given by its text. -/
inductive Formula where
  | atom (test : String)
  | not (operand : Formula)
  | and (left right : Formula)
  | or (left right : Formula)

/-- Whether the formula is true if its atoms are as `truth` says. -/
def Formula.Holds (truth : String → Prop) : Formula → Prop
  | .atom test => truth test
  | .not operand => ¬operand.Holds truth
  | .and left right => left.Holds truth ∧ right.Holds truth
  | .or left right => left.Holds truth ∨ right.Holds truth

/-- The query for the children of the root that satisfy a test. -/
def filterQuery (test : String) : String := "$[?" ++ test ++ "]"

/-- The expression that a text is read as, if it is a filter on the root inside which so many levels
are enough. -/
def filterOf? (levels : Nat) (test : String) : Option Expression :=
  match parse (levels + 1) (filterQuery test) with
  | .ok ⟨.document, [⟨.child, [.filter e]⟩], _⟩ => some e
  | _ => none

def Expression.isComparison : Expression → Bool
  | .comparison .. => true
  | _ => false

def Expression.isQueryOrCall : Expression → Bool
  | .query _ | .call .. => true
  | _ => false

/-- A text that compiles as a filter on the root, where so many levels inside the filter are enough,
and is an expression of some kind. -/
structure IsAtom (settings : CompilerSettings) (repository : Repository) (levels : Nat)
    (kind : Expression → Bool) (test : String) : Prop where
  read : (filterOf? levels test).any kind
  compiles : (compile settings repository (filterQuery test)).value.isSome

/-- How tightly a text binds. -/
inductive Binding where
  | operand
  | conjunction
  | disjunction

/-- The written forms of a formula, so many levels inside them being left. -/
inductive FormulaText (settings : CompilerSettings) (repository : Repository) :
    Nat → Binding → String → Formula → Prop where
  | atom {n : Nat} {test : String}
      (single : IsAtom settings repository n Expression.isQueryOrCall test) :
      FormulaText settings repository n .operand test (.atom test)
  | comparison {n : Nat} {test : String}
      (single : IsAtom settings repository n Expression.isComparison test) :
      FormulaText settings repository n .conjunction test (.atom test)
  | not {n : Nat} {text : String} {F : Formula}
      (operand : FormulaText settings repository n .operand text F) :
      FormulaText settings repository (n + 1) .operand ("!" ++ text) (.not F)
  | paren {n : Nat} {text : String} {F : Formula}
      (inner : FormulaText settings repository n .disjunction text F) :
      FormulaText settings repository (n + 1) .operand ("(" ++ text ++ ")") F
  | and {n : Nat} {first second : String} {F G : Formula}
      (left : FormulaText settings repository n .conjunction first F)
      (right : FormulaText settings repository n .conjunction second G) :
      FormulaText settings repository n .conjunction (first ++ "&&" ++ second) (.and F G)
  | or {n : Nat} {first second : String} {F G : Formula}
      (left : FormulaText settings repository n .disjunction first F)
      (right : FormulaText settings repository n .disjunction second G) :
      FormulaText settings repository n .disjunction (first ++ "||" ++ second) (.or F G)
  /-- An operand alone is a conjunction. -/
  | operand {n : Nat} {text : String} {F : Formula}
      (only : FormulaText settings repository n .operand text F) :
      FormulaText settings repository n .conjunction text F
  /-- A conjunction alone is a disjunction. -/
  | conjunction {n : Nat} {text : String} {F : Formula}
      (only : FormulaText settings repository n .conjunction text F) :
      FormulaText settings repository n .disjunction text F
  | spaced {n : Nat} {b : Binding} {before text after : String} {F : Formula}
      (spacedBefore : Blank before.toList) (inner : FormulaText settings repository n b text F)
      (spacedAfter : Blank after.toList) :
      FormulaText settings repository n b (before ++ text ++ after) F

/-! ## Phrases between blank space -/

/-- A phrase with blank space on both sides, or none. -/
def Padded {α : Type} (phrase : Phrase α) : Phrase α := fun place cs x =>
  ∃ before text after, Blank before ∧ Blank after ∧ cs = before ++ (text ++ after) ∧
    phrase (place.afterAll before) text x

theorem Padded.mono {α β : Type} {narrow : Phrase α} {wide : Phrase β} {place : Position}
    {cs : List Char} {x : α} {y : β} (wider : ∀ {place cs}, narrow place cs x → wide place cs y)
    (padded : Padded narrow place cs x) : Padded wide place cs y := by
  obtain ⟨before, text, after, spacedBefore, spacedAfter, rfl, inside⟩ := padded
  exact ⟨before, text, after, spacedBefore, spacedAfter, rfl, wider inside⟩

theorem Padded.spaced {α : Type} {phrase : Phrase α} {place : Position} {blank cs : List Char}
    {x : α} (spaced : Blank blank) (padded : Padded phrase (place.afterAll blank) cs x) :
    Padded phrase place (blank ++ cs) x := by
  obtain ⟨before, text, after, spacedBefore, spacedAfter, rfl, inside⟩ := padded
  rw [← Position.afterAll_append] at inside
  exact ⟨blank ++ before, text, after, spaced.append spacedBefore, spacedAfter,
    (List.append_assoc ..).symm, inside⟩

theorem Padded.trailed {α : Type} {phrase : Phrase α} {place : Position} {cs blank : List Char}
    {x : α} (padded : Padded phrase place cs x) (spaced : Blank blank) :
    Padded phrase place (cs ++ blank) x := by
  obtain ⟨before, text, after, spacedBefore, spacedAfter, rfl, inside⟩ := padded
  exact ⟨before, text, after ++ blank, spacedBefore, spacedAfter.append spaced,
    by simp only [List.append_assoc], inside⟩

/-- A phrase between blank space is what stands in front of a closing bracket. -/
theorem enclosed_iff_padded {α : Type} {close : Char} {phrase : Phrase α} {place : Position}
    {cs : List Char} {x : α} :
    Enclosed close (Spaced phrase) place (cs ++ [close]) x ↔ Padded phrase place cs x := by
  constructor
  · rintro ⟨inside, blank, spaced, is, before, text, spacedBefore, rfl, inner⟩
    rw [← List.append_assoc, List.append_cancel_right_eq] at is
    exact ⟨before, text, blank, spacedBefore, spaced, by rw [is, List.append_assoc], inner⟩
  · rintro ⟨before, text, after, spacedBefore, spacedAfter, rfl, inner⟩
    exact ⟨before ++ text, after, spacedAfter, by simp only [List.append_assoc], before, text,
      spacedBefore, rfl, inner⟩

theorem separated_append {α : Type} {separator : List Char} {item : Phrase α} {place : Position}
    {cs before after ds : List Char} {xs ys : List α} (first : Separated separator item place cs xs)
    (spacedBefore : Blank before) (spacedAfter : Blank after)
    (second : Separated separator item
      (place.afterAll (cs ++ (before ++ (separator ++ after)))) ds ys) :
    Separated separator item place (cs ++ (before ++ (separator ++ (after ++ ds)))) (xs ++ ys) := by
  induction first with
  | single head => exact .cons head spacedBefore spacedAfter second
  | @cons place cs b a rest x xs head spacedB spacedA tail ih =>
    have regrouped : (cs ++ (b ++ (separator ++ (a ++ rest)))) ++ (before ++ (separator ++ after)) =
        (cs ++ (b ++ (separator ++ a))) ++ (rest ++ (before ++ (separator ++ after))) := by
      simp only [List.append_assoc]
    rw [regrouped, Position.afterAll_append] at second
    simp only [List.append_assoc, List.cons_append]
    exact .cons head spacedB spacedA (ih second)

theorem Padded.append {α : Type} {separator : List Char} {item : Phrase α} {place : Position}
    {cs ds : List Char} {xs ys : List α} (first : Padded (Separated separator item) place cs xs)
    (second : Padded (Separated separator item) (place.afterAll (cs ++ separator)) ds ys) :
    Padded (Separated separator item) place (cs ++ (separator ++ ds)) (xs ++ ys) := by
  obtain ⟨before, text, between, spacedBefore, spacedBetween, rfl, items⟩ := first
  obtain ⟨between', text', after, spacedBetween', spacedAfter, rfl, items'⟩ := second
  refine ⟨before, text ++ (between ++ (separator ++ (between' ++ text'))), after, spacedBefore,
    spacedAfter, by simp only [List.append_assoc],
    separated_append items spacedBetween spacedBetween' ?_⟩
  simp only [← Position.afterAll_append, List.append_assoc] at items' ⊢
  exact items'

/-! ## Levels of an expression -/

/-- The expressions one level inside an expression with so many levels left. -/
def deeperText : Nat → Option (Phrase Expression)
  | 0 => none
  | n + 1 => some (expressionText n)

/-- The operands of `&&`. -/
def testText (n : Nat) : Phrase Expression :=
  ComparisonText (operandText n) (ComparableText (deeperText n))

/-- The operands of `||`. -/
def conjunctionText (n : Nat) : Phrase Expression :=
  JoinedText ['&', '&'] .and (testText n)

theorem expressionText_eq (n : Nat) :
    expressionText n = JoinedText ['|', '|'] .or (conjunctionText n) := by
  cases n <;> rfl

theorem testText_of_expressionText {n : Nat} {place : Position} {cs : List Char} {e : Expression}
    (kind : e.isQueryOrCall ∨ e.isComparison) (phrase : expressionText n place cs e) :
    testText n place cs e := by
  rw [expressionText_eq] at phrase
  cases phrase with
  | several => rcases kind with kind | kind <;> cases kind
  | single only =>
    cases only with
    | several => rcases kind with kind | kind <;> cases kind
    | single only => exact only

theorem operandText_of_testText {n : Nat} {place : Position} {cs : List Char} {e : Expression}
    (kind : e.isQueryOrCall) (phrase : testText n place cs e) : operandText n place cs e := by
  cases phrase with
  | alone only => exact only
  | compared => cases kind

theorem operandText_not {n : Nat} {place : Position} {cs : List Char} {e : Expression}
    (operand : Spaced (operandText n) (place.after '!') cs e) :
    operandText (n + 1) place ('!' :: cs) (.not e (spanOf place ('!' :: cs))) := by
  obtain ⟨blank, text, spaced, rfl, inside⟩ := operand
  exact .not ⟨blank, text, spaced, rfl, _, rfl, inside⟩

theorem operandText_paren {n : Nat} {place : Position} {cs : List Char} {e : Expression}
    (inner : Padded (expressionText n) (place.after '(') cs e) :
    operandText (n + 1) place ('(' :: (cs ++ [')']))
      (.paren e (spanOf place ('(' :: (cs ++ [')'])))) := by
  refine .paren (enclosed_iff_padded.mpr (inner.mono fun inside => ?_))
  exact ⟨_, rfl, inside⟩

/-! ## A filter on the root -/

/-- The place behind the opening of a filter on the root. -/
def filterPlace : Position := Position.start.afterAll ['$', '[', '?']

theorem toList_filterQuery (test : String) :
    (filterQuery test).toList = '$' :: '[' :: '?' :: (test.toList ++ [']']) := by
  rw [filterQuery, String.toList_append, String.toList_append]
  rfl

theorem filterOf?_eq_some {n : Nat} {test : String} {e : Expression} :
    filterOf? n test = some e ↔ ∃ span,
      parse (n + 1) (filterQuery test) = .ok ⟨.document, [⟨.child, [.filter e]⟩], span⟩ := by
  unfold filterOf?
  constructor
  · intro read
    split at read
    · next span parsed =>
      cases read
      exact ⟨span, parsed⟩
    · cases read
  · rintro ⟨span, parsed⟩
    rw [parsed]

theorem parse_filterQuery {n : Nat} {test : String} {e : Expression}
    (padded : Padded (expressionText n) filterPlace test.toList e) :
    parse (n + 1) (filterQuery test) =
      .ok ⟨.document, [⟨.child, [.filter e]⟩], spanOf .start (filterQuery test).toList⟩ := by
  obtain ⟨before, text, after, spacedBefore, spacedAfter, is, inside⟩ := padded
  have selector : SelectorText (filterText (n + 1)) (Position.start.afterAll ['$', '['])
      ('?' :: (before ++ text)) (.filter e) := .filter ⟨before, text, spacedBefore, rfl, inside⟩
  have bracketed : BracketText (filterText (n + 1)) (Position.start.afterAll ['$', '['])
      ('?' :: (test.toList ++ [']'])) [.filter e] := by
    refine ⟨'?' :: (before ++ text), after, spacedAfter, ?_, [], _, .nil, rfl, .single selector⟩
    rw [is]
    simp only [List.cons_append, List.append_assoc]
  have segments : SegmentsText (filterText (n + 1)) (Position.start.after '$')
      (('[' :: '?' :: (test.toList ++ [']'])) ++ []) [⟨.child, [.filter e]⟩] :=
    .cons ⟨[], _, .nil, rfl, .bracket bracketed⟩ .nil
  rw [List.append_nil] at segments
  exact parse_of_queryText ⟨_, _, toList_filterQuery test, segments, rfl⟩

/-- Blank space in front of a text that does not begin with it is none. -/
theorem blank_eq_nil {blank cs ds : List Char} {c : Char} (spaced : Blank blank)
    (bare : isQueryBlank c = false) (is : c :: ds = blank ++ cs) : blank = [] := by
  cases blank with
  | nil => rfl
  | cons b bs =>
    cases is
    rw [spaced c List.mem_cons_self] at bare
    cases bare

theorem padded_of_parse {n : Nat} {test : String} {e : Expression} {span : Span}
    (parsed : parse (n + 1) (filterQuery test) =
      .ok ⟨.document, [⟨.child, [.filter e]⟩], span⟩) :
    Padded (expressionText n) filterPlace test.toList e := by
  obtain ⟨rest, segments, is, derived, same⟩ := queryText_of_parse parsed
  rw [toList_filterQuery] at is
  cases is
  cases same
  generalize whole : '[' :: '?' :: (test.toList ++ [']']) = cs at derived
  cases derived with
  | cons head tail =>
    cases tail
    obtain ⟨blank, text, spaced, rfl, segment⟩ := head
    rw [List.append_nil] at whole
    cases blank_eq_nil spaced rfl whole
    cases segment with
    | dot => cases whole
    | bracket bracketed =>
      rw [List.nil_append, List.cons_inj_right] at whole
      obtain ⟨inside, blank, spacedAfter, rfl, before, text, spacedBefore, rfl, items⟩ := bracketed
      rw [List.append_assoc] at whole
      cases blank_eq_nil spacedBefore rfl whole
      cases items with
      | single selector =>
        cases selector with
        | position position => cases position
        | @filter cs _ predicate =>
          obtain ⟨before, text, spacedBefore, rfl, inner⟩ := predicate
          rw [List.nil_append, List.cons_append, List.cons_inj_right, ← List.append_assoc,
            List.append_cancel_right_eq] at whole
          exact ⟨before, text, blank, spacedBefore, spacedAfter,
            by rw [whole, List.append_assoc], inner⟩
      | cons _ _ _ more => cases more

/-! ## Tests without findings -/

theorem Noted.pure_bind_eq {ν α β : Type} (x : α) (f : α → Noted ν β) : (pure x >>= f) = f x := rfl

/-- Whatever text the expression is part of, analysis finds nothing about it as a test and plans it
as the filter. -/
def Planned (repository : Repository) (e : Expression) (f : Filter) : Prop :=
  ∀ source, AnalysisContext.asTest ⟨source, repository⟩ e (e.analyse ⟨source, repository⟩) =
    pure (some f)

theorem allPresent_map_some {α : Type} (xs : List α) : allPresent (xs.map some) = some xs := by
  induction xs with
  | nil => rfl
  | cons x xs ih => exact allPresent_cons.mpr ⟨x, xs, rfl, ih, rfl⟩

section

variable {repository : Repository} {e : Expression} {f : Filter} {es : List Expression}
  {fs : List Filter}

/-- Neither the text nor the spans decide about a plan without findings. -/
theorem asTest_withSpans (g : Span → Span) (source source' : String) :
    AnalysisContext.asTest ⟨source, repository⟩ e (e.analyse ⟨source, repository⟩) = pure (some f) ↔
      AnalysisContext.asTest ⟨source', repository⟩ (e.withSpans g)
        ((e.withSpans g).analyse ⟨source', repository⟩) = pure (some f) := by
  have alike : Noted.Alike
      (AnalysisContext.asTest ⟨source, repository⟩ e (e.analyse ⟨source, repository⟩))
      (AnalysisContext.asTest ⟨source', repository⟩ (e.withSpans g)
        ((e.withSpans g).analyse ⟨source', repository⟩)) := alike_placed (alike_analyse g e)
  exact ⟨alike.eq_pure, alike.symm.eq_pure⟩

theorem planned_of_source {source : String}
    (planned : AnalysisContext.asTest ⟨source, repository⟩ e (e.analyse ⟨source, repository⟩) =
      pure (some f)) : Planned repository e f := by
  intro source'
  exact (asTest_withSpans id source' source).mpr ((asTest_withSpans id source source).mp planned)

theorem planned_withSpans (g : Span → Span) :
    Planned repository (e.withSpans g) f ↔ Planned repository e f := by
  constructor
  · intro planned source
    exact (asTest_withSpans g source source).mpr (planned source)
  · intro planned source
    exact (asTest_withSpans g source source).mp (planned source)

/-- An expression that is planned as what can be tested is planned as a test. -/
theorem asTest_pure (c : AnalysisContext) {plan : Analysis (Option Filter)}
    (planned : plan = pure (some f)) (tested : f.type.isTest) :
    c.asTest e plan = pure (some f) := by
  rw [AnalysisContext.asTest, AnalysisContext.placed, planned, Noted.pure_bind_eq]
  dsimp only
  rw [tested]
  rfl

theorem testsOf_planned (planned : List.Forall₂ (Planned repository) es fs) (source : String) :
    testsOf ⟨source, repository⟩ es = pure (fs.map some) := by
  induction planned with
  | nil => rfl
  | cons first _ ih =>
    rw [testsOf, first source, ih]
    rfl

theorem planned_logical {operator : LogicalOperator} {e : Expression}
    (combined : ∀ c, e.analyse c = do return logicalOf operator (← testsOf c es))
    (all : List.Forall₂ (Planned repository) es fs) :
    Planned repository e (.logical operator fs) := by
  intro source
  refine asTest_pure _ ?_ rfl
  rw [combined, testsOf_planned all, Noted.pure_bind_eq, logicalOf, allPresent_map_some]
  rfl

theorem planned_not (planned : Planned repository e f) (span : Span) :
    Planned repository (.not e span) (.logical .not [f]) := by
  intro source
  refine asTest_pure _ ?_ rfl
  rw [Expression.analyse, planned source]
  rfl

theorem planned_paren (planned : Planned repository e f) (span : Span) :
    Planned repository (.paren e span) (.test f) := by
  intro source
  refine asTest_pure _ ?_ rfl
  rw [Expression.analyse, planned source]
  rfl

/-- A planned test is the plan of the filter on the root that consists of it. -/
theorem compile_of_planned {settings : CompilerSettings} {test : String} {span : Span}
    (parsed : parse settings.maxNestingDepth (filterQuery test) =
      .ok ⟨.document, [⟨.child, [.filter e]⟩], span⟩) (planned : Planned repository e f) :
    (compile settings repository (filterQuery test)).value =
      some ⟨filterQuery test, [⟨.child, [.filter f]⟩]⟩ := by
  have analysed : segmentsOf ⟨filterQuery test, repository⟩ [⟨.child, [.filter e]⟩] =
      pure [some ⟨.child, [.filter f]⟩] := by
    rw [segmentsOf, segmentOf, selectorsOf, selectorOf, planned]
    rfl
  rw [(compile_of_parse repository parsed).2, analysed]
  rfl

/-- A filter on the root that has a plan consists of a planned test. -/
theorem planned_of_compile {settings : CompilerSettings} {test : String} {span : Span}
    (parsed : parse settings.maxNestingDepth (filterQuery test) =
      .ok ⟨.document, [⟨.child, [.filter e]⟩], span⟩)
    (compiles : (compile settings repository (filterQuery test)).value.isSome) :
    ∃ f, Planned repository e f := by
  obtain ⟨plan, compiled⟩ := Option.isSome_iff_exists.mp compiles
  obtain ⟨tree, parsed', quiet, present⟩ := compile_some compiled
  rw [parsed] at parsed'
  cases parsed'
  generalize is : AnalysisContext.asTest ⟨filterQuery test, repository⟩ e
    (e.analyse ⟨filterQuery test, repository⟩) = analysis
  obtain ⟨value, notes⟩ := analysis
  simp only [segmentsOf, segmentOf, selectorsOf, selectorOf, is, Noted.notes_bind, Noted.notes_pure,
    List.append_nil] at quiet
  rw [segmentsOf, segmentOf, selectorsOf, selectorOf, is] at present
  -- If the test had no plan, neither would the filter.
  cases value with
  | none => cases present
  | some f =>
    subst quiet
    exact ⟨f, planned_of_source is⟩

end

/-! ## What an expression means -/

theorem all_alone (f : Filter) (p : Filter → Bool) : [f].all p = p f := Bool.and_true _

theorem any_alone (f : Filter) (p : Filter → Bool) : [f].any p = p f := Bool.or_false _

section

variable (settings : CompilerSettings) (repository : Repository)

/-- The filter that consists of the test holds for a value. -/
def Passes (c : EvaluationContext) (current : Value) (test : String) : Prop :=
  ∃ f, (compile settings repository (filterQuery test)).value =
      some ⟨filterQuery test, [⟨.child, [.filter f]⟩]⟩ ∧ f.holds c current

/-- The expression is planned as a test that holds where the formula is true. -/
def Means (e : Expression) (F : Formula) : Prop :=
  ∃ f, Planned repository e f ∧
    ∀ c current, f.holds c current ↔ F.Holds (Passes settings repository c current)

/-- The expressions are planned as tests that hold, all or some of them, where the formula is
true. -/
def MeansTogether (fold : List Filter → (Filter → Bool) → Bool) (es : List Expression)
    (F : Formula) : Prop :=
  ∃ fs, List.Forall₂ (Planned repository) es fs ∧ ∀ c current,
    fold fs (Filter.holds c current) ↔ F.Holds (Passes settings repository c current)

end

theorem padded_elsewhere {m n : Nat} (room : m ≤ n) {place : Position} {cs : List Char}
    {e : Expression} (padded : Padded (expressionText m) place cs e) (place' : Position) :
    ∃ g, Padded (expressionText n) place' cs (e.withSpans g) := by
  obtain ⟨before, text, after, spacedBefore, spacedAfter, rfl, inside⟩ := padded
  obtain ⟨g, inside⟩ := expression_elsewhere room inside (place'.afterAll before)
  exact ⟨g, before, text, after, spacedBefore, spacedAfter, rfl, inside⟩

/-- A test for which fewer levels are enough is read under a higher limit too. -/
theorem parse_filterQuery_within {n limit : Nat} {test : String} {e : Expression}
    (padded : Padded (expressionText n) filterPlace test.toList e) (room : n < limit) :
    ∃ g span, parse limit (filterQuery test) =
      .ok ⟨.document, [⟨.child, [.filter (e.withSpans g)]⟩], span⟩ := by
  cases limit with
  | zero => omega
  | succ m =>
    obtain ⟨g, padded⟩ := padded_elsewhere (Nat.le_of_lt_succ room) padded filterPlace
    exact ⟨g, _, parse_filterQuery padded⟩

section

variable {settings : CompilerSettings} {repository : Repository}

theorem means_withSpans {e : Expression} {F : Formula} (means : Means settings repository e F)
    (g : Span → Span) : Means settings repository (e.withSpans g) F := by
  obtain ⟨f, planned, holds⟩ := means
  exact ⟨f, (planned_withSpans g).mpr planned, holds⟩

/-- An atom is the filter that consists of it. -/
theorem atom_planned {n : Nat} {kind : Expression → Bool} {test : String}
    (atom : IsAtom settings repository n kind test) (room : n < settings.maxNestingDepth) :
    ∃ e f, kind e ∧ Padded (expressionText n) filterPlace test.toList e ∧ Planned repository e f ∧
      (compile settings repository (filterQuery test)).value =
        some ⟨filterQuery test, [⟨.child, [.filter f]⟩]⟩ := by
  obtain ⟨e, read, kind⟩ := (Option.any_eq_true _ _).mp atom.read
  obtain ⟨span, parsed⟩ := filterOf?_eq_some.mp read
  have padded := padded_of_parse parsed
  -- Under the limit of the settings the text is read as the same expression.
  obtain ⟨g, span, parsed⟩ := parse_filterQuery_within padded room
  obtain ⟨f, planned⟩ := planned_of_compile parsed atom.compiles
  exact ⟨e, f, kind, padded, (planned_withSpans g).mp planned, compile_of_planned parsed planned⟩

theorem passes_iff {test : String} {f : Filter}
    (compiled : (compile settings repository (filterQuery test)).value =
      some ⟨filterQuery test, [⟨.child, [.filter f]⟩]⟩) (c : EvaluationContext) (current : Value) :
    Passes settings repository c current test ↔ f.holds c current := by
  constructor
  · rintro ⟨f', compiled', holds⟩
    rw [compiled] at compiled'
    cases compiled'
    exact holds
  · intro holds
    exact ⟨f, compiled, holds⟩

/-- An atom is read as an expression that means it. -/
theorem means_atom {n : Nat} {kind : Expression → Bool} {test : String}
    (atom : IsAtom settings repository n kind test) (room : n < settings.maxNestingDepth) :
    ∃ e, kind e ∧ Padded (expressionText n) filterPlace test.toList e ∧
      Means settings repository e (.atom test) := by
  obtain ⟨e, f, kind, padded, planned, compiled⟩ := atom_planned atom room
  exact ⟨e, kind, padded, f, planned, fun c current => (passes_iff compiled c current).symm⟩

theorem means_not {e : Expression} {F : Formula} (means : Means settings repository e F)
    (span : Span) : Means settings repository (.not e span) (.not F) := by
  obtain ⟨f, planned, holds⟩ := means
  refine ⟨_, planned_not planned span, fun c current => ?_⟩
  rw [holds_not, Formula.Holds, ← holds, Bool.not_eq_true', Bool.not_eq_true]

theorem means_paren {e : Expression} {F : Formula} (means : Means settings repository e F)
    (span : Span) : Means settings repository (.paren e span) F := by
  obtain ⟨f, planned, holds⟩ := means
  refine ⟨_, planned_paren planned span, fun c current => ?_⟩
  rw [holds_test]
  exact holds c current

theorem means_and {es : List Expression} {F : Formula}
    (means : MeansTogether settings repository List.all es F) (span : Span) :
    Means settings repository (.and es span) F := by
  obtain ⟨fs, planned, holds⟩ := means
  refine ⟨_, planned_logical (fun c => rfl) planned, fun c current => ?_⟩
  rw [holds_and]
  exact holds c current

theorem means_or {es : List Expression} {F : Formula}
    (means : MeansTogether settings repository List.any es F) (span : Span) :
    Means settings repository (.or es span) F := by
  obtain ⟨fs, planned, holds⟩ := means
  refine ⟨_, planned_logical (fun c => rfl) planned, fun c current => ?_⟩
  rw [holds_or]
  exact holds c current

theorem meansTogether_single {fold : List Filter → (Filter → Bool) → Bool}
    (alone : ∀ f p, fold [f] p = p f) {e : Expression} {F : Formula} :
    MeansTogether settings repository fold [e] F ↔ Means settings repository e F := by
  constructor
  · rintro ⟨fs, all, holds⟩
    cases all with
    | @cons _ f _ _ planned none =>
      cases none
      exact ⟨f, planned, fun c current => by rw [← holds, alone]⟩
  · rintro ⟨f, planned, holds⟩
    exact ⟨[f], .cons planned .nil, fun c current => by rw [alone, holds]⟩

theorem meansTogether_append {fold : List Filter → (Filter → Bool) → Bool}
    {connective : Formula → Formula → Formula}
    (joins : ∀ fs gs p F G truth, (fold fs p ↔ F.Holds truth) → (fold gs p ↔ G.Holds truth) →
      (fold (fs ++ gs) p ↔ (connective F G).Holds truth))
    {es es' : List Expression} {F G : Formula}
    (first : MeansTogether settings repository fold es F)
    (second : MeansTogether settings repository fold es' G) :
    MeansTogether settings repository fold (es ++ es') (connective F G) := by
  obtain ⟨fs, planned, holds⟩ := first
  obtain ⟨gs, planned', holds'⟩ := second
  exact ⟨fs ++ gs, List.rel_append planned planned',
    fun c current => joins _ _ _ _ _ _ (holds c current) (holds' c current)⟩

/-- Phrases that stand together are joined to one, which means what they mean together. -/
theorem means_joined {separator : List Char} {join : List Expression → Span → Expression}
    {item : Phrase Expression} {fold : List Filter → (Filter → Bool) → Bool} {F : Formula}
    (alone : ∀ f p, fold [f] p = p f)
    (joined : ∀ es span, MeansTogether settings repository fold es F →
      Means settings repository (join es span) F)
    {place : Position} {cs : List Char} {es : List Expression}
    (padded : Padded (Separated separator item) place cs es)
    (means : MeansTogether settings repository fold es F) :
    ∃ e, Padded (JoinedText separator join item) place cs e ∧ Means settings repository e F := by
  obtain ⟨before, text, after, spacedBefore, spacedAfter, rfl, items⟩ := padded
  match es with
  | [] => nomatch items
  | [e] =>
    cases items with
    | single only =>
      exact ⟨e, ⟨before, _, after, spacedBefore, spacedAfter, rfl, .single only⟩,
        (meansTogether_single alone).mp means⟩
    | cons _ _ _ more => nomatch more
  | e :: e' :: es =>
    have two : 2 ≤ (e :: e' :: es).length := by simp
    exact ⟨_, ⟨before, text, after, spacedBefore, spacedAfter, rfl, .several items two⟩,
      joined _ _ means⟩

end

/-! ## The written form of a formula -/

/-- A text is a phrase that binds as tightly and means the formula. -/
def FormulaPhrase (settings : CompilerSettings) (repository : Repository) (n : Nat)
    (place : Position) (cs : List Char) (F : Formula) : Binding → Prop
  | .operand =>
    ∃ e, Padded (operandText n) place cs e ∧ Means settings repository e F
  | .conjunction =>
    ∃ es, Padded (Separated ['&', '&'] (testText n)) place cs es ∧
      MeansTogether settings repository List.all es F
  | .disjunction =>
    ∃ es, Padded (Separated ['|', '|'] (conjunctionText n)) place cs es ∧
      MeansTogether settings repository List.any es F

section

variable {settings : CompilerSettings} {repository : Repository} {n : Nat} {place : Position}
  {cs : List Char} {F : Formula}

theorem FormulaPhrase.alone
    (phrase : FormulaPhrase settings repository n place cs F .operand) :
    FormulaPhrase settings repository n place cs F .conjunction := by
  obtain ⟨e, padded, means⟩ := phrase
  exact ⟨[e], padded.mono fun operand => .single (.alone operand),
    (meansTogether_single all_alone).mpr means⟩

theorem FormulaPhrase.only
    (phrase : FormulaPhrase settings repository n place cs F .conjunction) :
    FormulaPhrase settings repository n place cs F .disjunction := by
  obtain ⟨es, padded, means⟩ := phrase
  obtain ⟨e, joined, means⟩ := means_joined all_alone
    (fun es span means => means_and means span) padded means
  exact ⟨[e], joined.mono .single, (meansTogether_single any_alone).mpr means⟩

/-- A written form of a formula is an expression that means it. -/
theorem FormulaPhrase.expression
    (phrase : FormulaPhrase settings repository n place cs F .disjunction) :
    ∃ e, Padded (expressionText n) place cs e ∧ Means settings repository e F := by
  obtain ⟨es, padded, means⟩ := phrase
  rw [expressionText_eq]
  exact means_joined any_alone (fun es span means => means_or means span) padded means

end

/-- Blank space around a written form makes no difference. -/
theorem FormulaPhrase.spaced {settings : CompilerSettings} {repository : Repository} {n : Nat}
    {place : Position} {before cs after : List Char} {F : Formula} {b : Binding}
    (spacedBefore : Blank before) (spacedAfter : Blank after)
    (phrase : FormulaPhrase settings repository n (place.afterAll before) cs F b) :
    FormulaPhrase settings repository n place (before ++ (cs ++ after)) F b := by
  cases b with
  | operand | conjunction | disjunction =>
    obtain ⟨parts, padded, means⟩ := phrase
    exact ⟨parts, (padded.trailed spacedAfter).spaced spacedBefore, means⟩

theorem isQueryOrCall_withSpans (g : Span → Span) (e : Expression) :
    (e.withSpans g).isQueryOrCall = e.isQueryOrCall := by
  cases e <;> rfl

theorem isComparison_withSpans (g : Span → Span) (e : Expression) :
    (e.withSpans g).isComparison = e.isComparison := by
  cases e <;> rfl

/-- The text of a formula, written anywhere with enough levels left, is a phrase that means the
formula. -/
theorem formulaText_phrase {settings : CompilerSettings} {repository : Repository} {n : Nat}
    {b : Binding} {text : String} {F : Formula}
    (written : FormulaText settings repository n b text F) (room : n < settings.maxNestingDepth)
    (place : Position) : FormulaPhrase settings repository n place text.toList F b := by
  induction written generalizing place with
  | atom single =>
    obtain ⟨e, kind, padded, means⟩ := means_atom single room
    obtain ⟨g, padded⟩ := padded_elsewhere (Nat.le_refl _) padded place
    rw [← isQueryOrCall_withSpans g] at kind
    refine ⟨e.withSpans g, padded.mono fun phrase => ?_, means_withSpans means g⟩
    exact operandText_of_testText kind (testText_of_expressionText (.inl kind) phrase)
  | comparison single =>
    obtain ⟨e, kind, padded, means⟩ := means_atom single room
    obtain ⟨g, padded⟩ := padded_elsewhere (Nat.le_refl _) padded place
    rw [← isComparison_withSpans g] at kind
    refine ⟨[e.withSpans g], padded.mono fun phrase => ?_,
      (meansTogether_single all_alone).mpr (means_withSpans means g)⟩
    exact .single (testText_of_expressionText (.inr kind) phrase)
  | not _ ih =>
    obtain ⟨e, padded, means⟩ := ih (by omega) (place.after '!')
    obtain ⟨before, inside, after, spacedBefore, spacedAfter, is, operand⟩ := padded
    rw [String.toList_append, is]
    exact ⟨_, ⟨[], '!' :: (before ++ inside), after, .nil, spacedAfter,
      congrArg ('!' :: ·) (List.append_assoc before inside after).symm,
      operandText_not ⟨before, inside, spacedBefore, rfl, operand⟩⟩, means_not means _⟩
  | @paren n text F _ ih =>
    obtain ⟨e, padded, means⟩ := (ih (by omega) (place.after '(')).expression
    rw [String.toList_append, String.toList_append]
    exact ⟨_, ⟨[], '(' :: (text.toList ++ [')']), [], .nil, .nil, (List.append_nil _).symm,
      operandText_paren padded⟩, means_paren means _⟩
  | @and n first second F G _ _ ihLeft ihRight =>
    obtain ⟨es, padded, means⟩ := ihLeft room place
    obtain ⟨es', padded', means'⟩ := ihRight room (place.afterAll (first.toList ++ ['&', '&']))
    rw [String.toList_append, String.toList_append, List.append_assoc]
    refine ⟨es ++ es', padded.append padded', meansTogether_append ?_ means means'⟩
    intro fs gs p F G truth left right
    rw [List.all_append, Bool.and_eq_true, left, right, Formula.Holds]
  | @or n first second F G _ _ ihLeft ihRight =>
    obtain ⟨es, padded, means⟩ := ihLeft room place
    obtain ⟨es', padded', means'⟩ := ihRight room (place.afterAll (first.toList ++ ['|', '|']))
    rw [String.toList_append, String.toList_append, List.append_assoc]
    refine ⟨es ++ es', padded.append padded', meansTogether_append ?_ means means'⟩
    intro fs gs p F G truth left right
    rw [List.any_append, Bool.or_eq_true, left, right, Formula.Holds]
  | operand _ ih => exact (ih room place).alone
  | conjunction _ ih => exact (ih room place).only
  | @spaced n b before text after F spacedBefore _ spacedAfter ih =>
    rw [String.toList_append, String.toList_append, List.append_assoc]
    exact (ih room (place.afterAll before.toList)).spaced spacedBefore spacedAfter

/-! ## What the filter selects -/

/-- The filter on the root that consists of the test selects the node. -/
def Selected (settings : CompilerSettings) (repository : Repository) (limits : EvaluatorSettings)
    (document : Value) (node : Node) (test : String) : Prop :=
  ∃ plan, (compile settings repository (filterQuery test)).value = some plan ∧
    node ∈ (plan.evaluate limits document).value

section

variable {settings : CompilerSettings} {repository : Repository} {n : Nat} {text : String}
  {F : Formula}

theorem selected_iff {test : String} {f : Filter}
    (compiled : (compile settings repository (filterQuery test)).value =
      some ⟨filterQuery test, [⟨.child, [.filter f]⟩]⟩) (limits : EvaluatorSettings)
    (document : Value) {child : Node} (below : child ∈ (⟨.root, document⟩ : Node).children) :
    Selected settings repository limits document child test ↔
      f.holds ⟨limits.maxDepth, document⟩ child.value := by
  constructor
  · rintro ⟨plan, compiled', listed⟩
    rw [compiled] at compiled'
    cases compiled'
    rw [value_evaluate_filter] at listed
    exact (List.mem_filter.mp listed).2
  · intro holds
    refine ⟨_, compiled, ?_⟩
    rw [value_evaluate_filter]
    exact List.mem_filter.mpr ⟨below, holds⟩

/-- For a child of the root an atom is as true as the filter that consists of it tells. -/
theorem holds_selected {b : Binding} (written : FormulaText settings repository n b text F)
    (room : n < settings.maxNestingDepth) (limits : EvaluatorSettings) (document : Value)
    {child : Node} (below : child ∈ (⟨.root, document⟩ : Node).children) :
    F.Holds (Passes settings repository ⟨limits.maxDepth, document⟩ child.value) ↔
      F.Holds (Selected settings repository limits document child) := by
  induction written with
  | atom single | comparison single =>
    obtain ⟨_, f, -, -, -, compiled⟩ := atom_planned single room
    exact (passes_iff compiled _ _).trans (selected_iff compiled limits document below).symm
  | not _ ih => exact not_congr (ih (by omega))
  | paren _ ih => exact ih (by omega)
  | and _ _ ihLeft ihRight => exact and_congr (ihLeft room) (ihRight room)
  | or _ _ ihLeft ihRight => exact or_congr (ihLeft room) (ihRight room)
  | operand _ ih | conjunction _ ih | spaced _ _ _ ih => exact ih room

/-- The written form of a formula has a plan, which holds where the formula is true. -/
theorem compile_formula (written : FormulaText settings repository n .disjunction text F)
    (room : n < settings.maxNestingDepth) :
    ∃ f, (compile settings repository (filterQuery text)).value =
        some ⟨filterQuery text, [⟨.child, [.filter f]⟩]⟩ ∧
      ∀ (limits : EvaluatorSettings) (document : Value),
        ∀ child ∈ (⟨.root, document⟩ : Node).children,
          f.holds ⟨limits.maxDepth, document⟩ child.value ↔
            F.Holds (Selected settings repository limits document child) := by
  obtain ⟨e, padded, f, planned, holds⟩ :=
    (formulaText_phrase written room filterPlace).expression
  obtain ⟨g, span, parsed⟩ := parse_filterQuery_within padded room
  refine ⟨f, compile_of_planned parsed ((planned_withSpans g).mpr planned), ?_⟩
  intro limits document child below
  exact (holds _ _).trans (holds_selected written room limits document below)

/-- Filters compute their Boolean formula. Where enough levels are left, the text of a formula is a
filter, and for every child of the root it tells whether the formula is true of the child if each of
its atoms is as true as the filter that consists of it tells. Together with its negation it goes
through the children without loss and without overlap. -/
theorem filter_computes_formula (written : FormulaText settings repository n .disjunction text F)
    (room : n < settings.maxNestingDepth) :
    ∃ plan, (compile settings repository (filterQuery text)).value = some plan ∧
      (∀ (limits : EvaluatorSettings) (document : Value),
        (plan.evaluate limits document).value.Sublist (⟨.root, document⟩ : Node).children ∧
        ∀ child ∈ (⟨.root, document⟩ : Node).children,
          child ∈ (plan.evaluate limits document).value ↔
            F.Holds (Selected settings repository limits document child)) ∧
      (n + 2 < settings.maxNestingDepth →
        ∃ negated, (compile settings repository (filterQuery ("!(" ++ text ++ ")"))).value =
            some negated ∧
          ∀ (limits : EvaluatorSettings) (document : Value),
            ((plan.evaluate limits document).value ++
              (negated.evaluate limits document).value).Perm
                (⟨.root, document⟩ : Node).children ∧
            ∀ child ∈ (plan.evaluate limits document).value,
              child ∉ (negated.evaluate limits document).value) := by
  obtain ⟨f, compiled, holds⟩ := compile_formula written room
  refine ⟨_, compiled, fun limits document => ⟨?_, fun child below => ?_⟩, fun deeper => ?_⟩
  · rw [value_evaluate_filter]
    exact List.filter_sublist
  · rw [value_evaluate_filter, List.mem_filter, ← holds limits document child below]
    exact and_iff_right below
  · have negation : "!" ++ ("(" ++ text ++ ")") = "!(" ++ text ++ ")" := by
      rw [← String.append_assoc, ← String.append_assoc]
      rfl
    have writtenNot : FormulaText settings repository (n + 2) .disjunction
        ("!(" ++ text ++ ")") (.not F) := negation ▸ .conjunction (.operand (.not (.paren written)))
    obtain ⟨f', compiled', holds'⟩ := compile_formula writtenNot deeper
    refine ⟨_, compiled', fun limits document => ?_⟩
    have opposite : ∀ child ∈ (⟨.root, document⟩ : Node).children,
        f'.holds ⟨limits.maxDepth, document⟩ child.value =
          !f.holds ⟨limits.maxDepth, document⟩ child.value := by
      intro child below
      rw [Bool.eq_iff_iff, holds' limits document child below, Formula.Holds,
        ← holds limits document child below, Bool.not_eq_true', Bool.not_eq_true]
    rw [value_evaluate_filter, value_evaluate_filter, List.filter_congr opposite]
    refine ⟨List.filter_append_perm _ _, fun child listed listed' => ?_⟩
    have holds := (List.mem_filter.mp listed).2
    rw [List.mem_filter, holds] at listed'
    exact Bool.false_ne_true listed'.2

end

/-- A formula with each of the connectives, whose text binds in three ways. -/
theorem filter_computes_formula_mixed :
    let text := "@.a==1||!(@.b&&@.c>2)&&!match(@.d,'x')"
    let F := Formula.or (.atom "@.a==1")
      (.and (.not (.and (.atom "@.b") (.atom "@.c>2"))) (.not (.atom "match(@.d,'x')")))
    FormulaText {} .builtins 2 .disjunction text F ∧
    ∃ plan, (compile {} .builtins (filterQuery text)).value = some plan ∧
      ∀ (limits : EvaluatorSettings) (document : Value),
        ∀ child ∈ (⟨.root, document⟩ : Node).children,
          child ∈ (plan.evaluate limits document).value ↔
            F.Holds (Selected {} .builtins limits document child) := by
  intro text F
  have isTextOf : "@.a==1" ++ "||" ++ (("!" ++ ("(" ++ ("@.b" ++ "&&" ++ "@.c>2") ++ ")")) ++
      "&&" ++ ("!" ++ "match(@.d,'x')")) = text := by decide +kernel
  have both : FormulaText {} .builtins 0 .conjunction ("@.b" ++ "&&" ++ "@.c>2") _ :=
    .and (.operand (.atom ⟨by decide +kernel, by decide +kernel⟩))
      (.comparison ⟨by decide +kernel, by decide +kernel⟩)
  have negated : FormulaText {} .builtins 2 .conjunction
      ("!" ++ ("(" ++ ("@.b" ++ "&&" ++ "@.c>2") ++ ")")) _ :=
    .operand (.not (.paren (.conjunction both)))
  have called : FormulaText {} .builtins 2 .conjunction ("!" ++ "match(@.d,'x')") _ :=
    .operand (.not (.atom ⟨by decide +kernel, by decide +kernel⟩))
  have written : FormulaText {} .builtins 2 .disjunction text F := isTextOf ▸
    .or (.conjunction (.comparison ⟨by decide +kernel, by decide +kernel⟩))
      (.conjunction (.and negated called))
  obtain ⟨plan, compiled, selects, -⟩ := filter_computes_formula written (by decide)
  exact ⟨written, plan, compiled, fun limits document => (selects limits document).2⟩

end JsonPath
