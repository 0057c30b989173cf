import JsonPath.Proofs.Recognition

/-!
# The nesting limit

A tree can be read under a limit exactly if its own nesting is within that limit, and under each
such limit it is the same tree. What is nested deeper is refused, and for no other reason.

`Limits` compares a parser with the one for another limit. Wherever the first succeeds, the second
does the same as long as the result fits the other limit, and refuses to go deeper otherwise.

Results:
1. `Limits.bind`, `limits_nested`: one parser after another, and one level deeper.
2. `limits_comparable`, `limits_operand`, `limits_expression`, `limits_levels`: expressions.
3. `nesting_limit_exact`: whole texts.
-/

namespace JsonPath

/-! ## The nesting of a tree -/

mutual

/-- The largest number of filters, negations, parentheses and calls around a part of the expression,
the expression itself included. -/
def Expression.nesting : Expression → Nat
  | .literal .. => 0
  | .query tree => queryNesting tree
  | .call _ arguments _ => expressionsNesting arguments + 1
  | .comparison _ left right _ => max left.nesting right.nesting
  | .not operand _ => operand.nesting + 1
  | .and operands _ | .or operands _ => expressionsNesting operands
  | .paren inner _ => inner.nesting + 1
termination_by structural e => e

/-- The largest nesting among expressions. -/
def expressionsNesting : List Expression → Nat
  | [] => 0
  | e :: es => max e.nesting (expressionsNesting es)
termination_by structural es => es

/-- The nesting of a query: that of its filters, which count themselves. -/
def queryNesting : Query Expression → Nat
  | ⟨_, segments, _⟩ => segmentsNesting segments
termination_by structural q => q

/-- The largest nesting among segments. -/
def segmentsNesting : List (Segment Expression) → Nat
  | [] => 0
  | s :: ss => max (segmentNesting s) (segmentsNesting ss)
termination_by structural ss => ss

/-- The nesting of a segment. -/
def segmentNesting : Segment Expression → Nat
  | ⟨_, selectors⟩ => selectorsNesting selectors
termination_by structural s => s

/-- The largest nesting among selectors. -/
def selectorsNesting : List (Selector Expression) → Nat
  | [] => 0
  | s :: ss => max (selectorNesting s) (selectorsNesting ss)
termination_by structural ss => ss

/-- The nesting of a selector. -/
def selectorNesting : Selector Expression → Nat
  | .filter predicate => predicate.nesting + 1
  | _ => 0
termination_by structural s => s

end

section

variable {n : Nat}

theorem expressionsNesting_le {es : List Expression} :
    expressionsNesting es ≤ n ↔ ∀ e ∈ es, e.nesting ≤ n := by
  induction es with
  | nil => simp [expressionsNesting]
  | cons e es ih => rw [expressionsNesting, Nat.max_le, ih, List.forall_mem_cons]

theorem segmentsNesting_le {ss : List (Segment Expression)} :
    segmentsNesting ss ≤ n ↔ ∀ s ∈ ss, segmentNesting s ≤ n := by
  induction ss with
  | nil => simp [segmentsNesting]
  | cons s ss ih => rw [segmentsNesting, Nat.max_le, ih, List.forall_mem_cons]

theorem selectorsNesting_le {ss : List (Selector Expression)} :
    selectorsNesting ss ≤ n ↔ ∀ s ∈ ss, selectorNesting s ≤ n := by
  induction ss with
  | nil => simp [selectorsNesting]
  | cons s ss ih => rw [selectorsNesting, Nat.max_le, ih, List.forall_mem_cons]

end

namespace Parser

/-! ## Parsers side by side -/

/-- The outcome is the error that something is nested deeper than the limit. -/
def Refused {α : Type} (limit : Nat) (outcome : Except SyntaxError α) : Prop :=
  ∃ e, outcome = .error e ∧ e.fault = .tooDeep limit

/-- Where the first parser succeeds, the second one does the same if the result fits, and refuses to
go deeper if not. -/
def Limits {α : Type} (limit : Nat) (fits : α → Prop) (p p' : Parser α) : Prop :=
  ∀ ⦃c : Cursor⦄ ⦃x : α⦄ ⦃c' : Cursor⦄, p c = .ok (x, c') →
    (fits x → p' c = .ok (x, c')) ∧ (¬fits x → Refused limit (p' c))

/-- Whatever the parser comes to is so. -/
def Yields {α : Type} (post : α → Prop) (p : Parser α) : Prop :=
  ∀ ⦃c : Cursor⦄ ⦃x : α⦄ ⦃c' : Cursor⦄, p c = .ok (x, c') → post x

section

variable {α β : Type} {limit : Nat} {fits : α → Prop} {fits' : β → Prop} {post : α → Prop}
  {p p' : Parser α} {f f' : α → Parser β}

namespace Yields

theorem pure {x : α} (holds : post x) : Yields post (Pure.pure x) := by
  intro c y c' ran
  cases ran
  exact holds

theorem fail {fault : SyntaxFault} : Yields post (Parser.fail fault) :=
  fun _ _ _ ran => absurd ran fail_ne_ok

theorem expected {expectation : Expectation} : Yields post (Parser.expected expectation) :=
  fun _ _ _ ran => absurd ran expected_ne_ok

theorem behind {post : β → Prop} (next : ∀ x, Yields post (f x)) : Yields post (p >>= f) := by
  intro c y c' ran
  obtain ⟨x, c₁, -, rest⟩ := bind_eq_ok.mp ran
  exact next x rest

theorem check {condition : Prop} [Decidable condition] {failing : Parser Unit}
    {next : Unit → Parser α} (passed : Yields post (next ())) :
    Yields post (if condition then failing >>= next else next ()) := by
  split
  · exact .behind fun _ => passed
  · exact passed

end Yields

theorem Refused.bind {c : Cursor} (refused : Refused limit (p c)) :
    Refused limit ((p >>= f) c) := by
  obtain ⟨e, failed, deep⟩ := refused
  refine ⟨e, ?_, deep⟩
  show (p c >>= fun r => f r.1 r.2) = _
  rw [failed]
  rfl

namespace Limits

/-- A parser that does not depend on the limit. -/
theorem same (all : Yields fits p) : Limits limit fits p p :=
  fun _ _ _ ran => ⟨fun _ => ran, fun unfit => absurd (all ran) unfit⟩

/-- One parser after another. What does not fit after the first one does not fit in the end. -/
theorem bind (first : Limits limit fits p p')
    (next : ∀ x, fits x → Limits limit fits' (f x) (f' x))
    (kept : ∀ x, Yields (fun y => fits' y → fits x) (f x)) :
    Limits limit fits' (p >>= f) (p' >>= f') := by
  intro c y c' ran
  obtain ⟨x, c₁, began, rest⟩ := bind_eq_ok.mp ran
  obtain ⟨same, refused⟩ := first began
  by_cases fitting : fits x
  · rw [bind_of_ok (same fitting)]
    exact next x fitting rest
  · exact ⟨fun fits => absurd (kept x rest fits) fitting, fun _ => (refused fitting).bind⟩

/-- What follows makes no difference to whether the result fits. -/
theorem andThen (first : Limits limit fits p p')
    (kept : ∀ x, Yields (fun y => fits' y ↔ fits x) (f x)) :
    Limits limit fits' (p >>= f) (p' >>= f) :=
  first.bind (fun x fitting => same fun _ _ _ ran => (kept x ran).mpr fitting)
    fun x _ _ _ ran => (kept x ran).mp

/-- What comes in front does not depend on the limit. -/
theorem after (next : ∀ x, Limits limit fits' (f x) (f' x)) :
    Limits limit fits' (p >>= f) (p >>= f') := by
  intro c y c' ran
  obtain ⟨x, c₁, began, rest⟩ := bind_eq_ok.mp ran
  rw [bind_of_ok began]
  exact next x rest

/-- A check does not depend on the limit. -/
theorem check {condition : Prop} [Decidable condition] {failing : Parser Unit}
    {next next' : Unit → Parser α} (passed : Limits limit fits (next ()) (next' ())) :
    Limits limit fits (if condition then failing >>= next else next ())
      (if condition then failing >>= next' else next' ()) := by
  split
  · exact .after fun _ => passed
  · exact passed

theorem mono {narrow : α → Prop} (limits : Limits limit narrow p p')
    (same : ∀ x, fits x ↔ narrow x) : Limits limit fits p p' := by
  intro c x c' ran
  rw [same x]
  exact limits ran

end Limits

/-! ## Lists -/

theorem limits_manyUpTo {item item' : Parser (Option α)}
    (each : Limits limit (fun x? => ∀ x ∈ x?, fits x) item item') (n : Nat) :
    Limits limit (fun xs => ∀ x ∈ xs, fits x) (manyUpTo item n) (manyUpTo item' n) := by
  induction n with
  | zero => exact .same (.pure nofun)
  | succ n ih =>
    refine each.bind (fun x? fitting => ?_) fun x? => ?_
    · cases x? with
      | none => exact .same (.pure nofun)
      | some x =>
        refine ih.andThen fun xs => .pure ?_
        simp [fitting x rfl]
    · cases x? with
      | none => exact fun _ _ _ _ _ => nofun
      | some x =>
        refine .behind fun xs => .pure fun fitting y is => ?_
        cases is
        exact fitting x List.mem_cons_self

theorem limits_many {item item' : Parser (Option α)}
    (each : Limits limit (fun x? => ∀ x ∈ x?, fits x) item item') :
    Limits limit (fun xs => ∀ x ∈ xs, fits x) (many item) (many item') :=
  .after fun c => limits_manyUpTo each c.ahead.length

theorem limits_separatedUpTo (s : Symbol) {item item' : Parser α}
    (each : Limits limit fits item item') (n : Nat) :
    Limits limit (fun xs => ∀ x ∈ xs, fits x) (separatedUpTo s item n)
      (separatedUpTo s item' n) := by
  induction n with
  | zero => exact each.andThen fun x => .pure List.forall_mem_singleton
  | succ n ih =>
    refine each.bind (fun x fitting => .after fun c => ?_) fun x => .behind fun c => ?_
    · split
      · refine .after fun _ => ih.andThen fun xs => .pure ?_
        simp [fitting]
      · exact .same (.pure (List.forall_mem_singleton.mpr fitting))
    · split
      · exact .behind fun _ => .behind fun xs => .pure fun fitting => fitting x List.mem_cons_self
      · exact .pure fun fitting => fitting x List.mem_cons_self

theorem limits_separated (s : Symbol) {item item' : Parser α}
    (each : Limits limit fits item item') :
    Limits limit (fun xs => ∀ x ∈ xs, fits x) (separated s item) (separated s item') :=
  .after fun c => limits_separatedUpTo s each c.ahead.length

end

/-! ## Segments and selectors -/

section

variable {limit n : Nat} {filter filter' : Parser Expression}

theorem yields_indexOrSlice : Yields (fun s => selectorNesting s ≤ n) indexOrSlice := by
  refine .behind fun start => .behind fun c => ?_
  split
  · refine .behind fun _ => .behind fun stop => .behind fun c => ?_
    split
    · exact .behind fun _ => .behind fun _ => .pure (Nat.zero_le n)
    · exact .pure (Nat.zero_le n)
  · cases start with
    | some i => exact .pure (Nat.zero_le n)
    | none => exact .expected

theorem limits_selector (inside : Limits limit (fun e => e.nesting < n) filter filter') :
    Limits limit (fun s => selectorNesting s ≤ n) (selector filter) (selector filter') := by
  refine .after fun c => ?_
  split
  · exact .same (.behind fun _ => .pure (Nat.zero_le n))
  · exact .same (.behind fun _ => .pure (Nat.zero_le n))
  · exact .after fun _ => inside.andThen fun e => .pure Iff.rfl
  · exact .same yields_indexOrSlice
  · exact .same yields_indexOrSlice
  · exact .same .expected

theorem limits_bracketed (inside : Limits limit (fun e => e.nesting < n) filter filter') :
    Limits limit (fun ss => selectorsNesting ss ≤ n) (bracketed filter) (bracketed filter') := by
  refine (limits_separated .comma (limits_selector inside)).andThen fun ss => ?_
  exact .behind fun _ => .pure selectorsNesting_le

theorem yields_shorthand (marker : Lexeme) (kind : SegmentKind) :
    Yields (fun s => segmentNesting s ≤ n) (shorthand marker kind) := by
  refine .behind fun c => ?_
  split
  · split
    · exact .behind fun _ => .pure (Nat.zero_le n)
    · exact .behind fun _ => .pure (Nat.zero_le n)
    · exact .expected
  · exact .fail

theorem limits_segment? (inside : Limits limit (fun e => e.nesting < n) filter filter') :
    Limits limit (fun s? => ∀ s ∈ s?, segmentNesting s ≤ n) (segment? filter)
      (segment? filter') := by
  have short (marker : Lexeme) (kind : SegmentKind) :
      Limits limit (fun s? => ∀ s ∈ s?, segmentNesting s ≤ n)
        (do return some (← shorthand marker kind)) (do return some (← shorthand marker kind)) :=
    (Limits.same (yields_shorthand (n := n) marker kind)).andThen fun s => .pure (by simp)
  have bracket (kind : SegmentKind) :
      Limits limit (fun s? => ∀ s ∈ s?, segmentNesting s ≤ n)
        (do return some ⟨kind, ← bracketed filter⟩) (do return some ⟨kind, ← bracketed filter'⟩) :=
    (limits_bracketed inside).andThen fun ss => .pure (by simp [segmentNesting])
  refine .after fun c => ?_
  split
  · exact .same (.pure nofun)
  · next marker ls ahead =>
    split
    · exact .after fun _ => short marker .child
    · refine .after fun _ => .after fun c => ?_
      split
      · exact .after fun _ => bracket .descendant
      · exact short marker .descendant
    · exact .after fun _ => bracket .child
    · exact .same (.pure nofun)

theorem limits_query (inside : Limits limit (fun e => e.nesting < n) filter filter')
    (root : QueryRoot) (start : Nat) :
    Limits limit (fun q => queryNesting q ≤ n) (query filter root start)
      (query filter' root start) := by
  refine (limits_many (limits_segment? inside)).andThen fun ss => ?_
  exact .behind fun c => .pure segmentsNesting_le

end

/-! ## Expressions -/

/-- The parsers one level deeper, the second of which is left so many levels. -/
inductive Inner {α : Type} (limit : Nat) (nesting : α → Nat) :
    Nat → Option (Parser α) → Option (Parser α) → Prop where
  | refusing {n : Nat} {inner' : Option (Parser α)} : Inner limit nesting n none inner'
  | refused {p : Parser α} : Inner limit nesting 0 (some p) none
  | deeper {n : Nat} {p p' : Parser α} (limits : Limits limit (fun x => nesting x ≤ n) p p') :
      Inner limit nesting (n + 1) (some p) (some p')

section

variable {limit n : Nat}

/-- What stands one level deeper fits if one level more is left for it. -/
theorem limits_nested {α : Type} {nesting : α → Nat} {inner inner' : Option (Parser α)}
    (level : Inner limit nesting n inner inner') (first : Nat) :
    Limits limit (fun x => nesting x < n) (nested first inner) (nested limit inner') := by
  cases level with
  | refusing => exact fun _ _ _ ran => absurd ran fail_ne_ok
  | refused => exact fun _ _ _ _ => ⟨nofun, fun _ => ⟨_, rfl, rfl⟩⟩
  | deeper limits => exact limits.mono fun _ => Nat.lt_succ_iff

variable {inner inner' innerOperand innerOperand' : Option (Parser Expression)}

theorem inner_arguments (level : Inner limit Expression.nesting n inner inner') :
    Inner limit expressionsNesting n (inner.map arguments) (inner'.map arguments) := by
  cases level with
  | refusing => exact .refusing
  | refused => exact .refused
  | deeper limits =>
    refine .deeper (.after fun c => ?_)
    split
    · exact .same (.pure (Nat.zero_le _))
    · exact (limits_separated .comma limits).mono fun _ => expressionsNesting_le

theorem limits_call (level : Inner limit Expression.nesting n inner inner') (first : Nat)
    (marker : Lexeme) (name : String) :
    Limits limit (fun e => e.nesting ≤ n) (call first inner marker name)
      (call limit inner' marker name) := by
  refine .after fun _ => .check (.after fun c => .check (.after fun _ => ?_))
  refine (limits_nested (inner_arguments level) first).andThen fun es => ?_
  exact .behind fun _ => .behind fun c => .pure Iff.rfl

theorem limits_comparable (level : Inner limit Expression.nesting n inner inner') (first : Nat) :
    Limits limit (fun e => e.nesting ≤ n) (comparable first inner) (comparable limit inner') := by
  have literal (value : Value) (span : Span) :
      Yields (fun e : Expression => e.nesting ≤ n) (Pure.pure (.literal value span)) :=
    .pure (Nat.zero_le n)
  unfold comparable
  refine .after fun c => ?_
  split
  · exact .same .expected
  · next l rest ahead =>
    split
    · split
      · exact .same (.behind fun _ => literal _ _)
      · exact .same .fail
    · exact .same (.behind fun _ => literal _ _)
    · exact .after fun _ => (limits_query (limits_nested level first) .document _).andThen
        fun q => .pure Iff.rfl
    · exact .after fun _ => (limits_query (limits_nested level first) .current _).andThen
        fun q => .pure Iff.rfl
    · split
      · exact limits_call level first _ _
      · split
        · exact .same (.behind fun _ => literal _ _)
        · exact .same .expected
    · exact .same .expected

theorem limits_operand (negated : Inner limit Expression.nesting n innerOperand innerOperand')
    (level : Inner limit Expression.nesting n inner inner') (first : Nat) :
    Limits limit (fun e => e.nesting ≤ n) (operand first innerOperand inner)
      (operand limit innerOperand' inner') := by
  unfold operand
  refine .after fun c => ?_
  split
  · exact .same .expected
  · split
    · exact .after fun _ => (limits_nested negated first).andThen fun e => .pure Iff.rfl
    · refine .after fun _ => (limits_nested level first).andThen fun e => ?_
      exact .behind fun _ => .behind fun c => .pure Iff.rfl
    · exact limits_comparable level first

theorem limits_comparison {operand operand' comparable comparable' : Parser Expression}
    (operands : Limits limit (fun e => e.nesting ≤ n) operand operand')
    (comparables : Limits limit (fun e => e.nesting ≤ n) comparable comparable') :
    Limits limit (fun e => e.nesting ≤ n) (comparison operand comparable)
      (comparison operand' comparable') := by
  unfold comparison
  refine operands.bind (fun left fitting => .after fun c => ?_) fun left => .behind fun c => ?_
  · split
    · exact .same (.pure fitting)
    · refine .check (.after fun _ => comparables.andThen fun right => .behind fun c => ?_)
      refine .check (.pure ?_)
      rw [Expression.nesting, Nat.max_le]
      exact and_iff_right fitting
  · split
    · exact .pure id
    · refine .check (.behind fun _ => .behind fun right => .behind fun c => .check (.pure ?_))
      rw [Expression.nesting, Nat.max_le]
      exact And.left

theorem limits_joined (s : Symbol) {join : List Expression → Span → Expression}
    (joins : ∀ es span, (join es span).nesting = expressionsNesting es)
    {item item' : Parser Expression} (each : Limits limit (fun e => e.nesting ≤ n) item item') :
    Limits limit (fun e => e.nesting ≤ n) (do return joined join (← separated s item))
      (do return joined join (← separated s item')) := by
  have nesting (es : List Expression) : (joined join es).nesting = expressionsNesting es := by
    obtain _ | ⟨e, _ | ⟨e', es⟩⟩ := es
    · exact joins [] _
    · exact (Nat.max_zero _).symm
    · exact joins (e :: e' :: es) _
  refine (limits_separated s each).andThen fun es => .pure ?_
  rw [nesting, expressionsNesting_le]

theorem limits_expression (negated : Inner limit Expression.nesting n innerOperand innerOperand')
    (level : Inner limit Expression.nesting n inner inner') (first : Nat) :
    Limits limit (fun e => e.nesting ≤ n)
      (disjunction (conjunction (comparison (operand first innerOperand inner)
        (comparable first inner))))
      (disjunction (conjunction (comparison (operand limit innerOperand' inner')
        (comparable limit inner')))) := by
  refine limits_joined .either (fun _ _ => rfl) (limits_joined .both (fun _ _ => rfl) ?_)
  exact limits_comparison (limits_operand negated level first) (limits_comparable level first)

/-- Level by level: so many levels are enough for whatever is nested no deeper. -/
theorem limits_levels (first limit m n : Nat) :
    Limits limit (fun e => e.nesting ≤ n) (operandAt first m) (operandAt limit n) ∧
      Limits limit (fun e => e.nesting ≤ n) (expressionAt first m) (expressionAt limit n) := by
  induction m generalizing n with
  | zero =>
    cases n with
    | zero => exact ⟨limits_operand .refusing .refusing first,
        limits_expression .refusing .refusing first⟩
    | succ n => exact ⟨limits_operand .refusing .refusing first,
        limits_expression .refusing .refusing first⟩
  | succ m ih =>
    cases n with
    | zero => exact ⟨limits_operand .refused .refused first,
        limits_expression .refused .refused first⟩
    | succ n =>
      obtain ⟨operands, expressions⟩ := ih n
      exact ⟨limits_operand (.deeper operands) (.deeper expressions) first,
        limits_expression (.deeper operands) (.deeper expressions) first⟩

theorem limits_filter (first limit : Nat) :
    Limits limit (fun e => e.nesting < limit) (filter first) (filter limit) := by
  cases first with
  | zero => exact fun _ _ _ ran => absurd ran fail_ne_ok
  | succ m =>
    cases limit with
    | zero => exact fun _ _ _ _ => ⟨nofun, fun _ => ⟨_, rfl, rfl⟩⟩
    | succ n => exact (limits_levels (m + 1) (n + 1) m n).2.mono fun _ => Nat.lt_succ_iff

theorem limits_wholeQuery (first limit : Nat) :
    Limits limit (fun q => queryNesting q ≤ limit) (wholeQuery first) (wholeQuery limit) := by
  refine .after fun c => .check (.after fun _ => ?_)
  refine (limits_query (limits_filter first limit) .document 0).andThen fun q => ?_
  exact .behind fun c => .check (.check (.pure Iff.rfl))

end

end Parser

/-! ## Whole texts -/

open JsonPath.Parser (limits_wholeQuery)

/-- The nesting limit is exact, and without effect otherwise. A text that is read as a tree under
one limit is read as the same tree under any limit that is no less than the nesting of the tree.
Under any other limit it is refused since it is nested deeper than that. -/
theorem nesting_limit_exact {first : Nat} {source : String} {tree : Query Expression}
    (parsed : parse first source = .ok tree) (limit : Nat) :
    (queryNesting tree ≤ limit → parse limit source = .ok tree) ∧
      (limit < queryNesting tree →
        ∃ e, parse limit source = .error e ∧ e.fault = .tooDeep limit) := by
  unfold parse at parsed ⊢
  cases read : Lexemes.read source with
  | error e =>
    rw [read] at parsed
    cases parsed
  | ok lexemes =>
    rw [read] at parsed
    have ran : (Parser.wholeQuery first ⟨0, lexemes.lexemes, lexemes.finish⟩).map Prod.fst =
        .ok tree := parsed
    obtain ⟨⟨_, c⟩, began, rfl⟩ := map_eq_ok.mp ran
    obtain ⟨same, refused⟩ := limits_wholeQuery first limit began
    constructor
    · intro fitting
      show (Parser.wholeQuery limit ⟨0, lexemes.lexemes, lexemes.finish⟩).map Prod.fst = _
      rw [same fitting]
      rfl
    · intro less
      obtain ⟨e, failed, deep⟩ := refused (Nat.not_le.mpr less)
      refine ⟨e, ?_, deep⟩
      show (Parser.wholeQuery limit ⟨0, lexemes.lexemes, lexemes.finish⟩).map Prod.fst = _
      rw [failed]
      rfl

/-- A call without arguments inside a filter, parentheses, a negation and a filter again, beside a
shallow one. -/
theorem nesting_limit_exact_nested :
    let source := "$[?!(@[?f()]) && g(@.a)]"
    ∃ tree, parse 128 source = .ok tree ∧ queryNesting tree = 5 ∧
      parse 5 source = .ok tree ∧ ∃ e, parse 4 source = .error e ∧ e.fault = .tooDeep 4 := by
  intro source
  have nesting : (match parse 128 source with
      | .ok tree => decide (queryNesting tree = 5)
      | .error _ => false) = true := by decide +kernel
  cases parsed : parse 128 source with
  | error e => simp [parsed] at nesting
  | ok tree =>
    rw [parsed] at nesting
    have five : queryNesting tree = 5 := of_decide_eq_true nesting
    have enough := (nesting_limit_exact parsed 5).1 (Nat.le_of_eq five)
    have tooLittle := (nesting_limit_exact parsed 4).2 (by rw [five]; decide)
    exact ⟨tree, rfl, five, enough, tooLittle⟩

end JsonPath
