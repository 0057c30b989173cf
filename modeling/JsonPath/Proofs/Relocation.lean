import JsonPath.Proofs.Compilation
import JsonPath.Proofs.Grammar
import JsonPath.Proofs.Tiling

/-!
# Phrases at other places

The tree of a phrase holds the spans of its parts, and a phrase may stand only where enough levels
are left. Moved to another place, with no fewer levels left, it is a phrase again, and its tree
differs only in the spans. For analysis spans matter only in the wording of what it finds.

`Carries old new change φ ψ` says of two kinds of phrases that whatever text belongs to the first at
a place belongs to the second at a place as far from the first one as `new` is from `old`.

Results:
1. `carries_levels`, `carries_segments`: the phrases of the grammar are carried to other places.
2. `expression_elsewhere`, `segments_elsewhere`: whatever the place is.
3. `alike_analyse`, `alike_segmentsOf`: analysis treats trees that differ in their spans alike.
-/

namespace JsonPath

/-! ## Trees with other spans -/

mutual

/-- The expression with the span of each part changed. -/
def Expression.withSpans (f : Span → Span) : Expression → Expression
  | .literal value span => .literal value (f span)
  | .query tree => .query (queryWithSpans f tree)
  | .call name arguments span => .call name (expressionsWithSpans f arguments) (f span)
  | .comparison operator left right span =>
    .comparison operator (left.withSpans f) (right.withSpans f) (f span)
  | .not operand span => .not (operand.withSpans f) (f span)
  | .and operands span => .and (expressionsWithSpans f operands) (f span)
  | .or operands span => .or (expressionsWithSpans f operands) (f span)
  | .paren inner span => .paren (inner.withSpans f) (f span)
termination_by structural e => e

/-- The expressions with the span of each part changed. -/
def expressionsWithSpans (f : Span → Span) : List Expression → List Expression
  | [] => []
  | e :: es => e.withSpans f :: expressionsWithSpans f es
termination_by structural es => es

/-- The query with the span of each part changed. -/
def queryWithSpans (f : Span → Span) : Query Expression → Query Expression
  | ⟨root, segments, span⟩ => ⟨root, segmentsWithSpans f segments, f span⟩
termination_by structural q => q

/-- The segments with the span of each part changed. -/
def segmentsWithSpans (f : Span → Span) : List (Segment Expression) → List (Segment Expression)
  | [] => []
  | s :: ss => segmentWithSpans f s :: segmentsWithSpans f ss
termination_by structural ss => ss

/-- The segment with the span of each part changed. -/
def segmentWithSpans (f : Span → Span) : Segment Expression → Segment Expression
  | ⟨kind, selectors⟩ => ⟨kind, selectorsWithSpans f selectors⟩
termination_by structural s => s

/-- The selectors with the span of each part changed. -/
def selectorsWithSpans (f : Span → Span) : List (Selector Expression) → List (Selector Expression)
  | [] => []
  | s :: ss => selectorWithSpans f s :: selectorsWithSpans f ss
termination_by structural ss => ss

/-- The selector with the span of each part changed. -/
def selectorWithSpans (f : Span → Span) : Selector Expression → Selector Expression
  | .filter predicate => .filter (predicate.withSpans f)
  | .name name => .name name
  | .index index => .index index
  | .wildcard => .wildcard
  | .slice bounds => .slice bounds
termination_by structural s => s

end

section

variable (f : Span → Span)

theorem expressionsWithSpans_eq (es : List Expression) :
    expressionsWithSpans f es = es.map (Expression.withSpans f) := by
  induction es with
  | nil => rfl
  | cons e es ih => rw [expressionsWithSpans, ih, List.map_cons]

theorem selectorsWithSpans_eq (ss : List (Selector Expression)) :
    selectorsWithSpans f ss = ss.map (selectorWithSpans f) := by
  induction ss with
  | nil => rfl
  | cons s ss ih => rw [selectorsWithSpans, ih, List.map_cons]

end

/-! ## Carrying phrases -/

/-- The span in a text where what was at the offset `old` is at the offset `new`. -/
def Span.moved (old new : Nat) (s : Span) : Span :=
  ⟨s.start + new - old, s.stop + new - old⟩

namespace Grammar

/-- The second place is as far from the first one as `new` is from `old`. -/
def Moved (old new : Nat) (place place' : Position) : Prop :=
  place'.offset + old = place.offset + new

/-- What the first phrase is of a text, the second is of it at a moved place, but for a change to
what the text stands for. -/
def Carries {α : Type} (old new : Nat) (change : α → α) (φ ψ : Phrase α) : Prop :=
  ∀ ⦃place place' : Position⦄ ⦃cs : List Char⦄ ⦃x : α⦄,
    Moved old new place place' → φ place cs x → ψ place' cs (change x)

variable {old new : Nat}

theorem Moved.afterAll {place place' : Position} (moved : Moved old new place place')
    (cs : List Char) : Moved old new (place.afterAll cs) (place'.afterAll cs) := by
  unfold Moved at *
  rw [offset_afterAll, offset_afterAll]
  omega

theorem spanOf_moved {place place' : Position} (moved : Moved old new place place')
    (cs : List Char) : spanOf place' cs = (spanOf place cs).moved old new := by
  unfold Moved at moved
  simp only [spanOf, Span.moved, offset_afterAll, Span.mk.injEq]
  omega

namespace Carries

variable {α : Type} {change : α → α} {φ ψ : Phrase α}

theorem spaced (carries : Carries old new change φ ψ) :
    Carries old new change (Spaced φ) (Spaced ψ) := by
  rintro place place' _ x moved ⟨blank, text, spaced, rfl, phrase⟩
  exact ⟨blank, text, spaced, rfl, carries (moved.afterAll blank) phrase⟩

theorem separated {separator : List Char} (carries : Carries old new change φ ψ) :
    Carries old new (List.map change) (Separated separator φ) (Separated separator ψ) := by
  intro place place' cs xs moved items
  induction items generalizing place' with
  | single head => exact .single (carries moved head)
  | cons head spacedBefore spacedAfter _ ih =>
    exact .cons (carries moved head) spacedBefore spacedAfter (ih (moved.afterAll _))

theorem enclosed {close : Char} (carries : Carries old new change φ ψ) :
    Carries old new change (Enclosed close φ) (Enclosed close ψ) := by
  rintro place place' _ x moved ⟨inside, blank, spaced, rfl, phrase⟩
  exact ⟨inside, blank, spaced, rfl, carries moved phrase⟩

end Carries

variable {α : Type} {change : α → α}

/-- If there is a next level for the first phrase, there is one for the second. -/
def Deeper (old new : Nat) (change : α → α) (deeper deeper' : Option (Phrase α)) : Prop :=
  ∀ φ, deeper = some φ → ∃ ψ, deeper' = some ψ ∧ Carries old new change φ ψ

theorem Deeper.none {deeper' : Option (Phrase α)} : Deeper old new change none deeper' := nofun

theorem Deeper.some {φ ψ : Phrase α} (carries : Carries old new change φ ψ) :
    Deeper old new change (some φ) (some ψ) := by
  rintro _ ⟨⟩
  exact ⟨ψ, rfl, carries⟩

theorem Deeper.within {deeper deeper' : Option (Phrase α)}
    (next : Deeper old new change deeper deeper') :
    Carries old new change (Within deeper) (Within deeper') := by
  rintro place place' cs x moved ⟨φ, is, phrase⟩
  obtain ⟨ψ, is', carries⟩ := next φ is
  exact ⟨ψ, is', carries moved phrase⟩

/-- Expressions of the first kind are carried to the second with the spans moved. -/
abbrev CarriesExpression (old new : Nat) (φ ψ : Phrase Expression) : Prop :=
  Carries old new (Expression.withSpans (Span.moved old new)) φ ψ

abbrev DeeperExpression (old new : Nat) (deeper deeper' : Option (Phrase Expression)) : Prop :=
  Deeper old new (Expression.withSpans (Span.moved old new)) deeper deeper'

section

variable {φ ψ : Phrase Expression}

theorem carries_selector (carries : CarriesExpression old new φ ψ) :
    Carries old new (selectorWithSpans (Span.moved old new)) (SelectorText φ) (SelectorText ψ) := by
  intro place place' cs s moved selector
  cases selector with
  | name string => exact .name string
  | wildcard => exact .wildcard
  | position position =>
    -- A selector without a filter holds no spans.
    cases position with
    | index integer => exact .position (.index integer)
    | slice started stopped => exact .position (.slice started stopped)
    | stepped started stopped spaced stepped =>
      exact .position (.stepped started stopped spaced stepped)
  | filter predicate => exact .filter (carries.spaced (moved.afterAll ['?']) predicate)

theorem carries_bracket (carries : CarriesExpression old new φ ψ) :
    Carries old new (selectorsWithSpans (Span.moved old new)) (BracketText φ) (BracketText ψ) := by
  intro place place' cs ss moved bracketed
  rw [selectorsWithSpans_eq]
  exact (carries_selector carries).separated.spaced.enclosed moved bracketed

theorem carries_segment (carries : CarriesExpression old new φ ψ) :
    Carries old new (segmentWithSpans (Span.moved old new)) (SegmentText φ) (SegmentText ψ) := by
  intro place place' cs s moved segment
  cases segment with
  | dot short =>
    cases short with
    | wildcard => exact .dot .wildcard
    | name named => exact .dot (.name named)
  | dots short =>
    cases short with
    | wildcard => exact .dots .wildcard
    | name named => exact .dots (.name named)
  | bracket bracketed => exact .bracket (carries_bracket carries (moved.afterAll _) bracketed)
  | dotsBracket bracketed =>
    exact .dotsBracket (carries_bracket carries (moved.afterAll _) bracketed)

theorem carries_segments (carries : CarriesExpression old new φ ψ) :
    Carries old new (segmentsWithSpans (Span.moved old new)) (SegmentsText φ) (SegmentsText ψ) := by
  intro place place' cs ss moved segments
  induction segments generalizing place' with
  | nil => exact .nil
  | cons head _ ih =>
    exact .cons ((carries_segment carries).spaced moved head) (ih (moved.afterAll _))

theorem carries_query (carries : CarriesExpression old new φ ψ) (root : QueryRoot) :
    Carries old new (queryWithSpans (Span.moved old new)) (QueryText φ root)
      (QueryText ψ root) := by
  rintro place place' _ _ moved ⟨rest, segments, rfl, derived, rfl⟩
  refine ⟨rest, _, rfl, carries_segments carries (moved.afterAll [rootChar root]) derived, ?_⟩
  rw [spanOf_moved moved]
  rfl

theorem carries_arguments (carries : CarriesExpression old new φ ψ) :
    Carries old new (expressionsWithSpans (Span.moved old new)) (ArgumentsText φ)
      (ArgumentsText ψ) := by
  intro place place' cs es moved arguments
  rw [expressionsWithSpans_eq]
  cases arguments with
  | none => exact .none
  | some listed => exact .some (carries.separated.spaced moved listed)

variable {deeper deeper' : Option (Phrase Expression)}

theorem deeper_arguments (next : DeeperExpression old new deeper deeper') :
    Deeper old new (expressionsWithSpans (Span.moved old new))
      (deeper.map ArgumentsText) (deeper'.map ArgumentsText) := by
  intro _ listed
  obtain ⟨φ, is, rfl⟩ := Option.map_eq_some_iff.mp listed
  obtain ⟨ψ, rfl, carries⟩ := next φ is
  exact ⟨ArgumentsText ψ, rfl, carries_arguments carries⟩

theorem carries_comparable (next : DeeperExpression old new deeper deeper') :
    CarriesExpression old new (ComparableText deeper) (ComparableText deeper') := by
  intro place place' cs e moved comparable
  cases comparable with
  | number number =>
    rw [Expression.withSpans, ← spanOf_moved moved]
    exact .number number
  | string string =>
    rw [Expression.withSpans, ← spanOf_moved moved]
    exact .string string
  | word listed =>
    rw [Expression.withSpans, ← spanOf_moved moved]
    exact .word listed
  | query query => exact .query (carries_query next.within _ moved query)
  | call named arguments =>
    rw [Expression.withSpans, ← spanOf_moved moved]
    exact .call named ((deeper_arguments next).within.enclosed (moved.afterAll _) arguments)

variable {deeperOperand deeperOperand' : Option (Phrase Expression)}

theorem carries_operand (nextOperand : DeeperExpression old new deeperOperand deeperOperand')
    (next : DeeperExpression old new deeper deeper') :
    CarriesExpression old new (OperandText deeperOperand deeper)
      (OperandText deeperOperand' deeper') := by
  intro place place' cs e moved operand
  cases operand with
  | comparable comparable => exact .comparable (carries_comparable next moved comparable)
  | not operand =>
    rw [Expression.withSpans, ← spanOf_moved moved]
    exact .not (nextOperand.within.spaced (moved.afterAll ['!']) operand)
  | paren expression =>
    rw [Expression.withSpans, ← spanOf_moved moved]
    exact .paren (next.within.spaced.enclosed (moved.afterAll ['(']) expression)

theorem carries_comparison {comparable comparable' : Phrase Expression}
    (operands : CarriesExpression old new φ ψ)
    (comparables : CarriesExpression old new comparable comparable') :
    CarriesExpression old new (ComparisonText φ comparable) (ComparisonText ψ comparable') := by
  intro place place' cs e moved comparison
  cases comparison with
  | alone only => exact .alone (operands moved only)
  | compared before spaced behind =>
    rw [Expression.withSpans, ← spanOf_moved moved]
    exact .compared (comparables moved before) spaced (comparables.spaced (moved.afterAll _) behind)

theorem carries_joined {separator : List Char} {join : List Expression → Span → Expression}
    (joins : ∀ f es span,
      (join es span).withSpans f = join (es.map (Expression.withSpans f)) (f span))
    (items : CarriesExpression old new φ ψ) :
    CarriesExpression old new (JoinedText separator join φ) (JoinedText separator join ψ) := by
  intro place place' cs e moved joined
  cases joined with
  | single only => exact .single (items moved only)
  | several listed two =>
    rw [joins, ← spanOf_moved moved]
    exact .several (items.separated moved listed) (by rwa [List.length_map])

theorem carries_conjunction (nextOperand : DeeperExpression old new deeperOperand deeperOperand')
    (next : DeeperExpression old new deeper deeper') :
    CarriesExpression old new
      (JoinedText ['&', '&'] .and
        (ComparisonText (OperandText deeperOperand deeper) (ComparableText deeper)))
      (JoinedText ['&', '&'] .and
        (ComparisonText (OperandText deeperOperand' deeper') (ComparableText deeper'))) :=
  carries_joined (fun f es span => by rw [Expression.withSpans, expressionsWithSpans_eq])
    (carries_comparison (carries_operand nextOperand next) (carries_comparable next))

theorem carries_expression (nextOperand : DeeperExpression old new deeperOperand deeperOperand')
    (next : DeeperExpression old new deeper deeper') :
    CarriesExpression old new (ExpressionText deeperOperand deeper)
      (ExpressionText deeperOperand' deeper') :=
  carries_joined (fun f es span => by rw [Expression.withSpans, expressionsWithSpans_eq])
    (carries_conjunction nextOperand next)

end

/-- Operands and expressions are carried to where no fewer levels are left. -/
theorem carries_levels {m n : Nat} (room : m ≤ n) :
    CarriesExpression old new (operandText m) (operandText n) ∧
      CarriesExpression old new (expressionText m) (expressionText n) := by
  induction m generalizing n with
  | zero =>
    cases n with
    | zero => exact ⟨carries_operand .none .none, carries_expression .none .none⟩
    | succ n => exact ⟨carries_operand .none .none, carries_expression .none .none⟩
  | succ m ih =>
    cases n with
    | zero => omega
    | succ n =>
      obtain ⟨operands, expressions⟩ := ih (Nat.le_of_succ_le_succ room)
      exact ⟨carries_operand (.some operands) (.some expressions),
        carries_expression (.some operands) (.some expressions)⟩

theorem carries_filter {m n : Nat} (room : m ≤ n) :
    CarriesExpression old new (filterText m) (filterText n) := by
  cases m with
  | zero =>
    rintro _ _ _ _ - ⟨_, none, -⟩
    cases none
  | succ m =>
    cases n with
    | zero => omega
    | succ n => exact (carries_levels (Nat.le_of_succ_le_succ room)).2

/-! ## Phrases elsewhere -/

/-- What is an expression at one place is one at every place where no fewer levels are left, but for
its spans. -/
theorem expression_elsewhere {m n : Nat} (room : m ≤ n) {place : Position} {cs : List Char}
    {e : Expression} (phrase : expressionText m place cs e) (place' : Position) :
    ∃ f, expressionText n place' cs (e.withSpans f) :=
  ⟨Span.moved place.offset place'.offset, (carries_levels room).2 (Nat.add_comm _ _) phrase⟩

/-- Segments are segments at every place, but for their spans. -/
theorem segments_elsewhere {limit : Nat} {place : Position} {cs : List Char}
    {ss : List (Segment Expression)} (phrase : SegmentsText (filterText limit) place cs ss)
    (place' : Position) : ∃ f, SegmentsText (filterText limit) place' cs (segmentsWithSpans f ss) :=
  ⟨Span.moved place.offset place'.offset,
    carries_segments (carries_filter (Nat.le_refl limit)) (Nat.add_comm _ _) phrase⟩

end Grammar

/-! ## Analysis -/

/-- The same value with as many notes. -/
def Noted.Alike {ν α : Type} (m m' : Noted ν α) : Prop :=
  m.value = m'.value ∧ m.notes.length = m'.notes.length

namespace Noted.Alike

variable {ν α β : Type} {m m' m'' : Noted ν α}

theorem refl (m : Noted ν α) : Alike m m := ⟨rfl, rfl⟩

theorem symm (alike : Alike m m') : Alike m' m := ⟨alike.1.symm, alike.2.symm⟩

theorem trans (first : Alike m m') (second : Alike m' m'') : Alike m m'' :=
  ⟨first.1.trans second.1, first.2.trans second.2⟩

theorem bind {f g : α → Noted ν β} (alike : Alike m m') (then_ : ∀ x, Alike (f x) (g x)) :
    Alike (m >>= f) (m' >>= g) := by
  obtain ⟨value, notes⟩ := alike
  refine ⟨?_, ?_⟩
  · rw [value_bind, value_bind, value]
    exact (then_ _).1
  · rw [notes_bind, notes_bind, List.length_append, List.length_append, value, notes,
      (then_ _).2]

theorem noteIf (condition : Bool) (n n' : ν) :
    Alike (Noted.noteIf condition n) (Noted.noteIf condition n') := by
  cases condition <;> exact ⟨rfl, rfl⟩

/-- Notes are missing on both sides or on neither. -/
theorem quiet (alike : Alike m m') (none : m.notes = []) : m'.notes = [] := by
  rw [← List.length_eq_zero_iff, ← alike.2, none]
  rfl

/-- What has no notes on one side is the same on the other. -/
theorem eq_pure {x : α} (alike : Alike m m') (is : m = pure x) : m' = pure x := by
  subst is
  exact congr (congrArg Noted.mk alike.1.symm) (alike.quiet rfl)

end Noted.Alike

open Noted (Alike)

theorem alike_placed {allowed : ExpressionType → Bool} {first second : Diagnostic}
    {plan plan' : Analysis (Option Filter)} (alike : Alike plan plan') :
    Alike (AnalysisContext.placed allowed first plan)
      (AnalysisContext.placed allowed second plan') := by
  refine alike.bind fun f? => ?_
  cases f? with
  | none => exact .refl _
  | some f => exact (Alike.noteIf _ _ _).bind fun _ => .refl _

section

variable (f : Span → Span) (c c' : AnalysisContext)

theorem types_coerced (types : List ExpressionType) (fs : List Filter) (es : List Expression) :
    (c.coerced types (fs.zip es)).map CoercedArgument.type =
      (c'.coerced types (fs.zip (es.map (Expression.withSpans f)))).map CoercedArgument.type := by
  induction fs generalizing es types with
  | nil => cases types <;> rfl
  | cons g fs ih =>
    cases es with
    | nil => cases types <;> rfl
    | cons e es =>
      cases types with
      | nil => exact congrArg (some g.type :: ·) (ih [] es)
      | cons t ts => exact congrArg (g.type.coerce t :: ·) (ih ts es)

theorem fits_of_types (types : List ExpressionType) (actual : List CoercedArgument) :
    AnalysisContext.fits types actual =
      ((actual.map CoercedArgument.type).length == types.length &&
        (actual.map CoercedArgument.type).all Option.isSome) := by
  rw [AnalysisContext.fits, List.length_map, List.all_map]
  rfl

theorem alike_call {repository : Repository} (source source' : String) (name : String)
    (es : List Expression) (plans : List (Option Filter)) :
    Alike (AnalysisContext.call ⟨source, repository⟩ name es plans)
      (AnalysisContext.call ⟨source', repository⟩ name (es.map (Expression.withSpans f))
        plans) := by
  simp only [AnalysisContext.call]
  cases repository.lookup name with
  | none => exact .refl _
  | some function =>
    cases allPresent plans with
    | none => exact .refl _
    | some filters =>
      -- The finding words the arguments, but whether they fit is a matter of their types.
      dsimp only
      rw [fits_of_types, fits_of_types, types_coerced f ⟨source, repository⟩ ⟨source', repository⟩
        function.argumentTypes filters es]
      exact (Alike.noteIf _ _ _).bind fun _ => .refl _

end

section

variable (f : Span → Span) {repository : Repository} {source source' : String}

mutual

/-- Analysis treats expressions that differ in their spans alike, whatever the texts are. -/
theorem alike_analyse : ∀ (e : Expression),
    Alike (e.analyse ⟨source, repository⟩) ((e.withSpans f).analyse ⟨source', repository⟩)
  | .literal _ _ => .refl _
  | .query tree => alike_queryOf tree
  | .call name es _ => by
    refine (alike_argumentsOf es).bind fun plans => ?_
    rw [expressionsWithSpans_eq]
    exact alike_call f source source' name es plans
  | .comparison operator left right _ =>
    (alike_placed (alike_analyse left)).bind fun _ =>
      (alike_placed (alike_analyse right)).bind fun _ => .refl _
  | .not operand _ => (alike_placed (alike_analyse operand)).bind fun _ => .refl _
  | .and operands _ | .or operands _ => (alike_testsOf operands).bind fun _ => .refl _
  | .paren inner _ => (alike_placed (alike_analyse inner)).bind fun _ => .refl _
termination_by structural e => e

theorem alike_argumentsOf : ∀ (es : List Expression),
    Alike (argumentsOf ⟨source, repository⟩ es)
      (argumentsOf ⟨source', repository⟩ (expressionsWithSpans f es))
  | [] => .refl _
  | e :: es => (alike_analyse e).bind fun _ => (alike_argumentsOf es).bind fun _ => .refl _
termination_by structural es => es

theorem alike_testsOf : ∀ (es : List Expression),
    Alike (testsOf ⟨source, repository⟩ es)
      (testsOf ⟨source', repository⟩ (expressionsWithSpans f es))
  | [] => .refl _
  | e :: es =>
    (alike_placed (alike_analyse e)).bind fun _ => (alike_testsOf es).bind fun _ => .refl _
termination_by structural es => es

theorem alike_queryOf : ∀ (q : Query Expression),
    Alike (queryOf ⟨source, repository⟩ q)
      (queryOf ⟨source', repository⟩ (queryWithSpans f q))
  | ⟨_, segments, _⟩ => (alike_segmentsOf segments).bind fun _ => .refl _
termination_by structural q => q

/-- Analysis treats segments that differ in their spans alike, whatever the texts are. -/
theorem alike_segmentsOf : ∀ (ss : List (Segment Expression)),
    Alike (segmentsOf ⟨source, repository⟩ ss)
      (segmentsOf ⟨source', repository⟩ (segmentsWithSpans f ss))
  | [] => .refl _
  | s :: ss => (alike_segmentOf s).bind fun _ => (alike_segmentsOf ss).bind fun _ => .refl _
termination_by structural ss => ss

theorem alike_segmentOf : ∀ (s : Segment Expression),
    Alike (segmentOf ⟨source, repository⟩ s)
      (segmentOf ⟨source', repository⟩ (segmentWithSpans f s))
  | ⟨_, selectors⟩ => (alike_selectorsOf selectors).bind fun _ => .refl _
termination_by structural s => s

theorem alike_selectorsOf : ∀ (ss : List (Selector Expression)),
    Alike (selectorsOf ⟨source, repository⟩ ss)
      (selectorsOf ⟨source', repository⟩ (selectorsWithSpans f ss))
  | [] => .refl _
  | s :: ss => (alike_selectorOf s).bind fun _ => (alike_selectorsOf ss).bind fun _ => .refl _
termination_by structural ss => ss

theorem alike_selectorOf : ∀ (s : Selector Expression),
    Alike (selectorOf ⟨source, repository⟩ s)
      (selectorOf ⟨source', repository⟩ (selectorWithSpans f s))
  | .filter predicate => (alike_placed (alike_analyse predicate)).bind fun _ => .refl _
  | .name _ | .index _ | .wildcard | .slice _ => .refl _
termination_by structural s => s

end

/-- Analysis of one tree within two texts. -/
theorem alike_segmentsOf_source (ss : List (Segment Expression)) :
    Alike (segmentsOf ⟨source, repository⟩ ss) (segmentsOf ⟨source', repository⟩ ss) := by
  have there : Alike (segmentsOf ⟨source, repository⟩ ss)
      (segmentsOf ⟨source, repository⟩ (segmentsWithSpans id ss)) := alike_segmentsOf id ss
  have back : Alike (segmentsOf ⟨source', repository⟩ ss)
      (segmentsOf ⟨source, repository⟩ (segmentsWithSpans id ss)) := alike_segmentsOf id ss
  exact there.trans back.symm

end

end JsonPath
