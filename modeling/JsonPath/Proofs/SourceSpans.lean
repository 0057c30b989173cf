import JsonPath.Proofs.Formula
import JsonPath.Proofs.SourcePlaces

/-!
# Spans of expressions

Every expression of a tree knows the span of its text. The spans of the expressions directly below
another one lie in its span, one behind the other, and the text that a span cuts out is a phrase of
its own: read as a filter on the root it gives the expression again, at another place.

`Arranged` says of a list of phrases that they stand in a text one behind the other; what stands
between them is left open.

Results:
1. `query_arranges`, `expression_arranges`: the texts of the children in the text of their parent.
2. `occurs_somewhere`: the text of any expression in that of another one.
3. `parse_text`: the text of an expression, read as a filter on the root.
4. `spans_faithful`: the spans of a whole tree.
-/

namespace JsonPath

open Grammar

/-! ## Parts of a tree -/

/-- The expression of a filter; other selectors have none. -/
def Selector.predicates : Selector Expression → List Expression
  | .filter predicate => [predicate]
  | _ => []

/-- The expressions of the filters of a query itself, in the order of the text. -/
def Query.predicates (q : Query Expression) : List Expression :=
  q.segments.flatMap fun s => s.selectors.flatMap Selector.predicates

/-- The expressions directly below an expression, in the order of the text. -/
def Expression.children : Expression → List Expression
  | .literal .. => []
  | .query tree => tree.predicates
  | .call _ arguments _ => arguments
  | .comparison _ left right _ => [left, right]
  | .not operand _ => [operand]
  | .and operands _ | .or operands _ => operands
  | .paren inner _ => [inner]

/-- An expression occurs in another one, as that itself or anywhere below it. -/
inductive Expression.Occurs (e : Expression) : Expression → Prop where
  | here : Occurs e e
  | inside {child whole : Expression} (member : child ∈ whole.children) (occurs : Occurs e child) :
      Occurs e whole

/-- An expression occurs in the filters of a query, at any depth. -/
def Expression.OccursIn (e : Expression) (q : Query Expression) : Prop :=
  ∃ predicate ∈ q.predicates, e.Occurs predicate

/-- The spans of the parts lie in the span, one behind the other. -/
structure Span.Encloses (s : Span) (parts : List Expression) : Prop where
  within : ∀ part ∈ parts, s.start ≤ part.span.start ∧ part.span.stop ≤ s.stop
  ordered : parts.Pairwise fun before behind => before.span.stop ≤ behind.span.start

/-- The span so many bytes farther on. -/
def Span.shifted (distance : Nat) (s : Span) : Span :=
  ⟨s.start + distance, s.stop + distance⟩

/-! ## Phrases inside a text -/

/-- Phrases that stand in a text one behind the other. -/
inductive Arranged {α : Type} (phrase : Phrase α) : Phrase (List α) where
  | nil {place : Position} {cs : List Char} : Arranged phrase place cs []
  | cons {place : Position} {before text rest : List Char} {x : α} {xs : List α}
      (head : phrase (place.afterAll before) text x)
      (tail : Arranged phrase (place.afterAll (before ++ text)) rest xs) :
      Arranged phrase place (before ++ (text ++ rest)) (x :: xs)

/-- A phrase that stands anywhere in a text. -/
def Somewhere {α : Type} (phrase : Phrase α) : Phrase α := fun place cs x =>
  ∃ before text after, cs = before ++ (text ++ after) ∧ phrase (place.afterAll before) text x

section

variable {α β : Type} {phrase : Phrase α} {place : Position} {cs ds : List Char} {x : α}
  {xs ys : List α}

theorem Somewhere.trans (outer : Somewhere (Somewhere phrase) place cs x) :
    Somewhere phrase place cs x := by
  obtain ⟨before, _, after, rfl, before', text, after', rfl, derived⟩ := outer
  rw [← Position.afterAll_append] at derived
  exact ⟨before ++ before', text, after' ++ after, by simp only [List.append_assoc], derived⟩

namespace Arranged

theorem mono {wide : Phrase α} (wider : ∀ {place cs x}, phrase place cs x → wide place cs x)
    (arranged : Arranged phrase place cs xs) : Arranged wide place cs xs := by
  induction arranged with
  | nil => exact .nil
  | cons head _ ih => exact .cons (wider head) ih

theorem behind (arranged : Arranged phrase (place.afterAll cs) ds xs) :
    Arranged phrase place (cs ++ ds) xs := by
  cases arranged with
  | nil => exact .nil
  | cons head tail =>
    rw [← Position.afterAll_append] at head tail
    rw [← List.append_assoc]
    exact .cons head (by rwa [List.append_assoc])

theorem behind_char {c : Char} (arranged : Arranged phrase (place.after c) ds xs) :
    Arranged phrase place (c :: ds) xs := by
  have behindOne : Arranged phrase place ([c] ++ ds) xs := behind arranged
  exact behindOne

theorem append (first : Arranged phrase place cs xs)
    (second : Arranged phrase (place.afterAll cs) ds ys) :
    Arranged phrase place (cs ++ ds) (xs ++ ys) := by
  induction first with
  | nil => exact second.behind
  | cons head _ ih =>
    simp only [List.append_assoc, List.cons_append]
    refine .cons head (ih ?_)
    simpa only [Position.afterAll_append] using second

theorem before (arranged : Arranged phrase place cs xs) (ds : List Char) :
    Arranged phrase place (cs ++ ds) xs := by
  have nothing : Arranged phrase (place.afterAll cs) ds [] := .nil
  simpa using arranged.append nothing

theorem alone (derived : phrase place cs x) : Arranged phrase place cs [x] := by
  have only : Arranged phrase place ([] ++ (cs ++ [])) [x] := .cons derived .nil
  simpa using only

/-- Each of the phrases stands somewhere in the text. -/
theorem somewhere (arranged : Arranged phrase place cs xs) (member : x ∈ xs) :
    Somewhere phrase place cs x := by
  induction arranged with
  | nil => cases member
  | @cons place before text rest y ys head _ ih =>
    rcases List.mem_cons.mp member with rfl | later
    · exact ⟨before, text, rest, rfl, head⟩
    · refine Somewhere.trans ⟨before ++ text, rest, [], ?_, ih later⟩
      simp only [List.append_assoc, List.append_nil]

end Arranged

/-- What `f` gives for a text of the item is arranged in that text. -/
def Arranges (phrase : Phrase α) (item : Phrase β) (f : β → List α) : Prop :=
  ∀ ⦃place : Position⦄ ⦃cs : List Char⦄ ⦃y : β⦄, item place cs y → Arranged phrase place cs (f y)

namespace Arranges

variable {item : Phrase β} {f : β → List α}

theorem mono {narrow : Phrase α}
    (wider : ∀ {place cs x}, narrow place cs x → phrase place cs x)
    (arranges : Arranges narrow item f) : Arranges phrase item f :=
  fun _ _ _ derived => (arranges derived).mono wider

theorem alone : Arranges phrase phrase fun x => [x] := fun _ _ _ derived => .alone derived

theorem spaced (arranges : Arranges phrase item f) : Arranges phrase (Spaced item) f := by
  rintro place _ y ⟨blank, text, -, rfl, derived⟩
  exact (arranges derived).behind

theorem enclosed {close : Char} (arranges : Arranges phrase item f) :
    Arranges phrase (Enclosed close item) f := by
  rintro place _ y ⟨inside, blank, -, rfl, derived⟩
  exact (arranges derived).before _

theorem separated {separator : List Char} (arranges : Arranges phrase item f) :
    Arranges phrase (Separated separator item) (List.flatMap f) := by
  intro place cs ys derived
  induction derived with
  | single head => simpa using arranges head
  | @cons place cs before after rest y ys head _ _ tail ih =>
    rw [Position.afterAll_append] at ih
    have gap : before ++ (separator ++ (after ++ rest)) =
        before ++ (separator ++ after) ++ rest := by
      simp only [List.append_assoc]
    rw [List.flatMap_cons, gap]
    exact (arranges head).append ih.behind

end Arranges

end

/-! ## Children inside their parent -/

section

variable {φ : Phrase Expression}

theorem selector_arranges : Arranges φ (SelectorText φ) Selector.predicates := by
  intro place cs s derived
  cases derived with
  | filter predicate => exact (Arranges.alone.spaced predicate).behind_char
  | position position => cases position <;> exact .nil
  | _ => exact .nil

theorem bracket_arranges : Arranges φ (BracketText φ) (List.flatMap Selector.predicates) :=
  selector_arranges.separated.spaced.enclosed

theorem segment_arranges :
    Arranges φ (SegmentText φ) fun s => s.selectors.flatMap Selector.predicates := by
  intro place cs s derived
  cases derived with
  | dot short | dots short => cases short <;> exact .nil
  | bracket bracketed => exact (bracket_arranges bracketed).behind
  | dotsBracket bracketed => exact (bracket_arranges bracketed).behind

theorem segments_arranges : Arranges φ (SegmentsText φ)
    (List.flatMap fun s => s.selectors.flatMap Selector.predicates) := by
  intro place cs ss derived
  induction derived with
  | nil => exact .nil
  | cons head _ ih => exact (segment_arranges.spaced head).append ih

/-- The filters of a query stand in its text one behind the other. -/
theorem query_arranges (root : QueryRoot) : Arranges φ (QueryText φ root) Query.predicates := by
  rintro place _ _ ⟨rest, segments, rfl, derived, rfl⟩
  exact (segments_arranges derived).behind_char

theorem arguments_arranges : Arranges φ (ArgumentsText φ) id := by
  intro place cs es derived
  cases derived with
  | none => exact .nil
  | some listed => simpa using Arranges.alone.separated.spaced listed

theorem comparable_arranges (deeper : Option (Phrase Expression)) :
    Arranges (Within deeper) (ComparableText deeper) Expression.children := by
  intro place cs e derived
  cases derived with
  | query query => exact query_arranges _ query
  | @call name cs es named arguments =>
    have listed : Arranges (Within deeper) (Within (deeper.map ArgumentsText)) id := by
      rintro place cs es ⟨_, is, derived⟩
      obtain ⟨phrase, rfl, rfl⟩ := Option.map_eq_some_iff.mp is
      exact (arguments_arranges derived).mono fun inside => ⟨phrase, rfl, inside⟩
    rw [List.append_cons]
    exact (listed.enclosed arguments).behind
  | _ => exact .nil

variable {deeperOperand deeper : Option (Phrase Expression)}

theorem operand_arranges (negated : ∀ {place cs e}, Within deeperOperand place cs e → φ place cs e)
    (inner : ∀ {place cs e}, Within deeper place cs e → φ place cs e) :
    Arranges φ (OperandText deeperOperand deeper) Expression.children := by
  intro place cs e derived
  cases derived with
  | comparable comparable => exact (comparable_arranges deeper).mono inner comparable
  | not operand => exact ((Arranges.alone.spaced operand).mono negated).behind_char
  | paren expression => exact ((Arranges.alone.spaced.enclosed expression).mono inner).behind_char

theorem comparison_arranges {operand comparable : Phrase Expression}
    (below : Arranges φ operand Expression.children)
    (sides : ∀ {place cs e}, comparable place cs e → φ place cs e) :
    Arranges φ (ComparisonText operand comparable) Expression.children := by
  intro place cs e derived
  cases derived with
  | alone only => exact below only
  | @compared first blank second left right operator before spaced behind =>
    have second := (Arranges.alone.spaced behind).mono sides
    rw [Position.afterAll_append] at second
    rw [← List.append_assoc blank]
    exact (Arranged.alone (sides before)).append second.behind

theorem joined_arranges {separator : List Char} {join : List Expression → Span → Expression}
    {item : Phrase Expression} (joins : ∀ es span, (join es span).children = es)
    (below : Arranges φ item Expression.children)
    (items : ∀ {place cs e}, item place cs e → φ place cs e) :
    Arranges φ (JoinedText separator join item) Expression.children := by
  intro place cs e derived
  cases derived with
  | single only => exact below only
  | several listed two =>
    rw [joins]
    simpa using (Arranges.alone.separated listed).mono items

end

/-! ## Levels -/

/-- The expressions inside which fewer levels are left than that. -/
def expressionBelow (limit : Nat) : Phrase Expression := fun place cs e =>
  ∃ n < limit, expressionText n place cs e

section

variable {n limit : Nat} {place : Position} {cs : List Char} {e : Expression}

theorem expressionBelow_mono {higher : Nat} (room : limit ≤ higher)
    (phrase : expressionBelow limit place cs e) : expressionBelow higher place cs e := by
  obtain ⟨n, less, phrase⟩ := phrase
  exact ⟨n, less.trans_le room, phrase⟩

theorem expressionBelow_conjunction (phrase : conjunctionText n place cs e) :
    expressionBelow (n + 1) place cs e :=
  ⟨n, Nat.lt_succ_self n, by rw [expressionText_eq]; exact .single phrase⟩

theorem expressionBelow_test (phrase : testText n place cs e) :
    expressionBelow (n + 1) place cs e :=
  expressionBelow_conjunction (.single phrase)

theorem expressionBelow_operand (phrase : operandText n place cs e) :
    expressionBelow (n + 1) place cs e :=
  expressionBelow_test (.alone phrase)

theorem expressionBelow_comparable (phrase : ComparableText (deeperText n) place cs e) :
    expressionBelow (n + 1) place cs e := by
  refine expressionBelow_operand ?_
  cases n <;> exact .comparable phrase

theorem expressionBelow_deeper (phrase : Within (deeperText n) place cs e) :
    expressionBelow (n + 1) place cs e := by
  obtain ⟨_, is, phrase⟩ := phrase
  cases n with
  | zero => cases is
  | succ n =>
    cases is
    exact ⟨n, by omega, phrase⟩

theorem operandText_arranges (n : Nat) :
    Arranges (expressionBelow (n + 1)) (operandText n) Expression.children := by
  cases n with
  | zero => exact operand_arranges (fun ⟨_, is, _⟩ => nomatch is) fun ⟨_, is, _⟩ => nomatch is
  | succ n =>
    refine operand_arranges ?_ (expressionBelow_deeper (n := n + 1))
    rintro place cs e ⟨_, ⟨⟩, phrase⟩
    exact expressionBelow_mono (Nat.le_succ _) (expressionBelow_operand phrase)

/-- The children of an expression stand in its text one behind the other. -/
theorem expression_arranges (limit : Nat) :
    Arranges (expressionBelow limit) (expressionBelow limit) Expression.children := by
  rintro place cs e ⟨n, less, phrase⟩
  have tests : Arranges (expressionBelow (n + 1)) (testText n) Expression.children :=
    comparison_arranges (operandText_arranges n) expressionBelow_comparable
  have conjunctions : Arranges (expressionBelow (n + 1)) (conjunctionText n) Expression.children :=
    joined_arranges (fun _ _ => rfl) tests expressionBelow_test
  rw [expressionText_eq] at phrase
  have here := joined_arranges (fun _ _ => rfl) conjunctions expressionBelow_conjunction phrase
  exact here.mono (expressionBelow_mono less)

/-- Whatever occurs in an expression stands somewhere in its text. -/
theorem occurs_somewhere {whole : Expression} (occurs : e.Occurs whole)
    (phrase : expressionBelow limit place cs whole) :
    Somewhere (expressionBelow limit) place cs e := by
  induction occurs generalizing place cs with
  | here => exact ⟨[], cs, [], by simp, phrase⟩
  | inside member _ ih =>
    obtain ⟨before, text, after, rfl, child⟩ :=
      (expression_arranges limit phrase).somewhere member
    exact Somewhere.trans ⟨before, text, after, rfl, ih child⟩

theorem expressionBelow_proper (limit : Nat) : Proper (expressionBelow limit) where
  spanned := fun ⟨n, _, phrase⟩ => (levels_understand n n).2.proper.spanned phrase
  opens := fun ⟨n, _, phrase⟩ => (levels_understand n n).2.proper.opens phrase

/-- The spans of expressions that are arranged in a text lie in the span of the text. -/
theorem encloses_of_arranged {es : List Expression}
    (arranged : Arranged (expressionBelow limit) place cs es) : (spanOf place cs).Encloses es := by
  induction arranged with
  | nil => exact ⟨nofun, .nil⟩
  | @cons place before text rest e es head _ ih =>
    have span := (expressionBelow_proper limit).spanned head
    obtain ⟨within, ordered⟩ := ih
    simp only [spanOf, offset_afterAll, byteLength_append, ← Nat.add_assoc] at span within ⊢
    refine ⟨fun part member => ?_, .cons (fun part member => ?_) ordered⟩
    · rcases List.mem_cons.mp member with rfl | later
      · rw [span]
        constructor <;> dsimp only <;> omega
      · obtain ⟨begins, ends⟩ := within part later
        exact ⟨by dsimp only at begins ⊢; omega, ends⟩
    · rw [span]
      exact (within part member).1

end

/-! ## Texts as filters -/

section

variable {m n : Nat} {place : Position} {cs : List Char} {e e' : Expression}

/-- Behind the same blank space a text is read as one expression only. -/
theorem filter_unique {blank : List Char} (spaced : Blank blank)
    (first : expressionText n (filterPlace.afterAll blank) cs e)
    (second : expressionText n (filterPlace.afterAll blank) cs e') : e = e' := by
  have padded {e : Expression} (phrase : expressionText n (filterPlace.afterAll blank) cs e) :
      Padded (expressionText n) filterPlace (String.ofList (blank ++ cs)).toList e :=
    ⟨blank, cs, [], spaced, .nil, by simp, phrase⟩
  have same := (parse_filterQuery (padded first)).symm.trans (parse_filterQuery (padded second))
  cases same
  rfl

/-- An expression moved to a place farther on. -/
theorem expression_shifted (room : m ≤ n) (phrase : expressionText m place cs e) {place' : Position}
    {distance : Nat} (moved : place'.offset = place.offset + distance) :
    expressionText n place' cs (e.withSpans (Span.shifted distance)) := by
  have carried : CarriesExpression 0 distance (expressionText m) (expressionText n) :=
    (carries_levels room).2
  exact carried moved phrase

theorem byteLength_spaces (n : Nat) : byteLength (List.replicate n ' ') = n := by
  induction n with
  | zero => rfl
  | succ n ih => rw [List.replicate_succ, byteLength, ih, Nat.add_comm]; rfl

/-- The text of an expression is read as a filter on the root. Its expression is the same one, each
of the two being shifted by where the other begins. -/
theorem parse_text {limit : Nat} (phrase : expressionBelow limit place cs e) :
    ∃ predicate span, parse limit (filterQuery (String.ofList cs)) =
        .ok ⟨.document, [⟨.child, [.filter predicate]⟩], span⟩ ∧
      e.withSpans (Span.shifted predicate.span.start) =
        predicate.withSpans (Span.shifted e.span.start) := by
  obtain ⟨n, less, phrase⟩ := phrase
  cases limit with
  | zero => cases less
  | succ k =>
    have room : n ≤ k := Nat.le_of_lt_succ less
    obtain ⟨g, alone⟩ := expression_elsewhere room phrase filterPlace
    have padded : Padded (expressionText k) filterPlace (String.ofList cs).toList (e.withSpans g) :=
      ⟨[], cs, [], .nil, .nil, by simp, alone⟩
    refine ⟨_, _, parse_filterQuery padded, ?_⟩
    rw [(levels_understand n n).2.proper.spanned phrase,
      (levels_understand k k).2.proper.spanned alone]
    -- With as many blanks as there are bytes in front of the phrase, both come to the same place.
    have spaces : Blank (List.replicate place.offset ' ') := fun c member => by
      rw [List.eq_of_mem_replicate member]
      rfl
    refine filter_unique spaces (expression_shifted room phrase ?_)
      (expression_shifted (Nat.le_refl k) alone ?_)
    · rw [offset_afterAll, byteLength_spaces]
      exact Nat.add_comm ..
    · rw [offset_afterAll, byteLength_spaces]
      rfl

end

/-! ## Whole texts -/

/-- The span of an expression is that of its text, and the expressions below it lie in it. -/
structure Expression.Spanned (limit : Nat) (source : String) (e : Expression) : Prop where
  encloses : e.span.Encloses e.children
  nonempty : e.span.text source ≠ ""
  covers : e.span.Covers source.toList (e.span.text source).toList
  again : ∃ predicate span, parse limit (filterQuery (e.span.text source)) =
      .ok ⟨.document, [⟨.child, [.filter predicate]⟩], span⟩ ∧
    e.withSpans (Span.shifted predicate.span.start) =
      predicate.withSpans (Span.shifted e.span.start)

theorem spanned_of_somewhere {limit : Nat} {source : String} {e : Expression}
    (stands : Somewhere (expressionBelow limit) .start source.toList e) :
    e.Spanned limit source := by
  obtain ⟨before, text, after, whole, phrase⟩ := stands
  have span := (expressionBelow_proper limit).spanned phrase
  have covers : e.span.Covers source.toList text := by
    refine ⟨before, after, whole, ?_⟩
    rw [span, spanOf, ← Position.afterAll_append, offset_afterAll, offset_afterAll]
    simp [Position.start]
  have is : e.span.text source = String.ofList text := by rw [Span.text, covers.slice_eq]
  refine ⟨?_, ?_, ?_, ?_⟩
  · rw [span]
    exact encloses_of_arranged (expression_arranges limit phrase)
  · obtain ⟨c, tail, rfl, -⟩ := (expressionBelow_proper limit).opens phrase
    rw [is]
    intro empty
    simpa using congrArg String.toList empty
  · rwa [is, String.toList_ofList]
  · rw [is]
    exact parse_text phrase

/-- Spans are faithful. The span of a query is that of the whole text. The expressions of its
filters lie in it one behind the other, and so do the expressions below any expression at any depth
in the span of that one. What the span of an expression cuts out is not empty, and alone in a filter
it is read as that expression again, at another place. -/
theorem spans_faithful {limit : Nat} {source : String} {tree : Query Expression}
    (parsed : parse limit source = .ok tree) :
    tree.span = ⟨0, source.utf8ByteSize⟩ ∧ tree.span.Encloses tree.predicates ∧
      ∀ e : Expression, e.OccursIn tree → e.Spanned limit source := by
  have derived := queryText_of_parse parsed
  have span : tree.span = spanOf .start source.toList := by
    obtain ⟨rest, segments, -, -, rfl⟩ := derived
    rfl
  have arranged : Arranged (expressionBelow limit) .start source.toList tree.predicates := by
    refine (query_arranges .document derived).mono fun {place cs e} phrase => ?_
    cases limit with
    | zero =>
      obtain ⟨_, is, -⟩ := phrase
      cases is
    | succ n => exact ⟨n, Nat.lt_succ_self n, phrase⟩
  refine ⟨?_, span ▸ encloses_of_arranged arranged, ?_⟩
  · rw [span, spanOf, offset_afterAll, byteLength_toList]
    simp [Position.start]
  · rintro e ⟨predicate, member, occurs⟩
    obtain ⟨before, text, after, whole, phrase⟩ := arranged.somewhere member
    exact spanned_of_somewhere
      (Somewhere.trans ⟨before, text, after, whole, occurs_somewhere occurs phrase⟩)

/-- Operators, a call, parentheses and a filter inside a filter, behind a character of two bytes. -/
theorem spans_faithful_nested :
    let source := "$..é[?match(@.a, 'x.*') && !(@[?@.b == 1 || @.c])]"
    ∃ tree, parse 4 source = .ok tree ∧
      tree.span = ⟨0, source.utf8ByteSize⟩ ∧ tree.span.Encloses tree.predicates ∧
        ∀ e : Expression, e.OccursIn tree → e.Spanned 4 source := by
  intro source
  have accepted : (parse 4 source).isOk = true := by decide +kernel
  cases parsed : parse 4 source with
  | error e =>
    rw [parsed] at accepted
    cases accepted
  | ok tree => exact ⟨tree, rfl, spans_faithful parsed⟩

example :
    let source := "$[?match(@.a, 'x.*') && !(@.b)]"
    (match parse 128 source with
      | .ok tree => (tree.predicates.flatMap Expression.children).map (·.span.text source)
      | .error _ => []) = ["match(@.a, 'x.*')", "!(@.b)"] := by decide +kernel

end JsonPath
