import JsonPath.Proofs.SegmentParsing

/-!
# Parsing expressions and whole texts

The parsers of expressions recognise the phrases of their level. One lemma for each parser rests on
the parsers one level deeper, and induction on the number of levels puts them together.

Results:
1. `comparable_understands`, `operand_understands`, `comparison_understands`,
   `joined_understands`: one level.
2. `levels_understand`: every level.
3. `parse_iff_derivation`: a text is read as a tree exactly if the grammar derives it.
-/

namespace JsonPath

open Grammar JsonPath.Parser

/-! ## Texts of expressions -/

/-- A text that begins neither with blank space nor with what could end an argument list or lengthen
an operator. -/
def Opens (cs : List Char) : Prop :=
  ∃ c tail, cs = c :: tail ∧ isQueryBlank c = false ∧ c ≠ ')' ∧ c ≠ '='

/-- The spans of a phrase are those of its texts, and its texts can be told from what is around
them. -/
structure Proper (phrase : Phrase Expression) : Prop where
  spanned {place : Position} {cs : List Char} {e : Expression} :
    phrase place cs e → e.span = spanOf place cs
  opens {place : Position} {cs : List Char} {e : Expression} : phrase place cs e → Opens cs

theorem opens_append {cs rest : List Char} (opens : Opens cs) : Opens (cs ++ rest) := by
  obtain ⟨c, tail, rfl, opens⟩ := opens
  exact ⟨c, tail ++ rest, rfl, opens⟩

theorem opens_of_isNameFirst {c : Char} {cs : List Char} (first : isNameFirst c) :
    Opens (c :: cs) := by
  refine ⟨c, cs, rfl, not_blank_of_isNameFirst first, ?_, ?_⟩
  all_goals
    rintro rfl
    exact absurd first (by decide)

theorem isNameFirst_of_isLower {c : Char} (lower : c.isLower) : isNameFirst c := by
  unfold isNameFirst Char.isAlpha
  simp [lower]

theorem isFunctionName_isName {cs : List Char} (named : IsFunctionName cs) : IsName cs := by
  obtain ⟨first, rest, rfl, lower, others⟩ := named
  refine ⟨first, rest, rfl, ?_, fun c member => ?_⟩
  · exact isNameFirst_of_isLower lower
  · rcases others c member with lower | digit | rfl
    · simp [isNameChar, isNameFirst_of_isLower lower]
    · simp [isNameChar, digit]
    · rfl

theorem opens_of_isName {cs : List Char} (named : IsName cs) : Opens cs := by
  obtain ⟨first, rest, rfl, isFirst, -⟩ := named
  exact opens_of_isNameFirst isFirst

theorem comparableText_proper (deeper : Option (Phrase Expression)) :
    Proper (ComparableText deeper) where
  spanned derived := by
    cases derived with
    | query query =>
      obtain ⟨rest, segments, -, -, rfl⟩ := query
      rfl
    | _ => rfl
  opens derived := by
    cases derived with
    | number number =>
      obtain ⟨n, spelled, -⟩ := numberText_iff.mp number
      obtain ⟨c, rest, rfl, rfl | digit⟩ := spelled.head
      · exact ⟨_, rest, rfl, by decide⟩
      · refine ⟨c, rest, rfl, not_blank_of_isDigit digit, ?_, ?_⟩
        all_goals
          rintro rfl
          exact absurd digit (by decide)
    | string string =>
      obtain ⟨quote, inside, quoted, -, rfl⟩ := string
      exact ⟨quote, _, rfl, by rcases quoted with rfl | rfl <;> decide⟩
    | word listed =>
      simp only [wordLiterals, List.mem_cons, Prod.mk.injEq, List.not_mem_nil, or_false] at listed
      rcases listed with ⟨rfl, -⟩ | ⟨rfl, -⟩ | ⟨rfl, -⟩ <;> exact ⟨_, _, rfl, by decide⟩
    | @query root _ _ query =>
      obtain ⟨rest, segments, rfl, -, -⟩ := query
      exact ⟨_, rest, rfl, by cases root <;> decide⟩
    | call named _ => exact opens_append (opens_of_isName (isFunctionName_isName named))

theorem operandText_proper (deeperOperand deeper : Option (Phrase Expression)) :
    Proper (OperandText deeperOperand deeper) where
  spanned derived := by
    cases derived with
    | comparable comparable => exact (comparableText_proper deeper).spanned comparable
    | _ => rfl
  opens derived := by
    cases derived with
    | comparable comparable => exact (comparableText_proper deeper).opens comparable
    | _ => exact ⟨_, _, rfl, by decide⟩

theorem comparisonText_proper {operand comparable : Phrase Expression} (operands : Proper operand)
    (comparables : Proper comparable) : Proper (ComparisonText operand comparable) where
  spanned derived := by
    cases derived with
    | alone only => exact operands.spanned only
    | compared => rfl
  opens derived := by
    cases derived with
    | alone only => exact operands.opens only
    | compared before _ _ => exact opens_append (comparables.opens before)

theorem separated_opens {separator : List Char} {item : Phrase Expression} (items : Proper item)
    {place : Position} {cs : List Char} {es : List Expression}
    (derived : Separated separator item place cs es) : Opens cs := by
  cases derived with
  | single head => exact items.opens head
  | cons head _ _ _ => exact opens_append (items.opens head)

theorem joinedText_proper {separator : List Char} {join : List Expression → Span → Expression}
    {item : Phrase Expression} (items : Proper item) (spans : ∀ es s, (join es s).span = s) :
    Proper (JoinedText separator join item) where
  spanned derived := by
    cases derived with
    | single only => exact items.spanned only
    | several _ _ => exact spans _ _
  opens derived := by
    cases derived with
    | single only => exact items.opens only
    | several listed _ => exact separated_opens items listed

/-- A phrase behind blank space ends where its text does. -/
theorem spaced_stop {phrase : Phrase Expression} (proper : Proper phrase) {place : Position}
    {cs : List Char} {e : Expression} (derived : Spaced phrase place cs e) :
    e.span.stop = (place.afterAll cs).offset := by
  obtain ⟨blank, text, -, rfl, derived⟩ := derived
  rw [proper.spanned derived, Position.afterAll_append]
  rfl

/-- The joined spans of two phrases cover all from the one to the other. -/
theorem compared_span {phrase : Phrase Expression} (proper : Proper phrase) {place : Position}
    {first between second : List Char} {left right : Expression} (before : phrase place first left)
    (behind : Spaced phrase (place.afterAll (first ++ between)) second right) :
    left.span.join right.span = spanOf place (first ++ (between ++ second)) := by
  obtain ⟨blank, text, -, rfl, behind⟩ := behind
  simp only [proper.spanned before, proper.spanned behind, Span.join, spanOf,
    Position.afterAll_append, offset_afterAll]
  congr 1 <;> omega

/-- An operator that only `=` would lengthen stays apart from a phrase. -/
theorem spaced_apart {phrase : Phrase Expression} (proper : Proper phrase) (s : Symbol)
    (absorbs : ∀ c, c ≠ '=' → s.absorbs c = false) {place : Position} {cs : List Char}
    {e : Expression} (derived : Spaced phrase place cs e) (rest : List Char) :
    Apart (.symbol s) (cs ++ rest) := by
  obtain ⟨blank, text, spaced, rfl, derived⟩ := derived
  obtain ⟨c, tail, rfl, bare, -, noEqual⟩ := proper.opens derived
  have follows : Follows [c] (blank ++ c :: (tail ++ rest)) := .spaced spaced (.cons bare (by simp))
  rw [List.append_assoc]
  refine follows.apart ?_
  rw [List.any_cons, List.any_nil, Bool.or_false]
  exact absorbs c noEqual

/-- The spans of a list, joined, are the span of its text. -/
theorem joined_spans {separator : List Char} {item : Phrase Expression} (items : Proper item)
    {place : Position} {cs : List Char} {es : List Expression}
    (derived : Separated separator item place cs es) {span : Span}
    (begun : span.start ≤ place.offset) (before : span.stop ≤ place.offset) :
    es.foldl (fun span e => span.join e.span) span =
      ⟨span.start, (place.afterAll cs).offset⟩ := by
  induction derived generalizing span with
  | @single place cs e head =>
    simp only [List.foldl_cons, List.foldl_nil, items.spanned head, Span.join, spanOf,
      offset_afterAll]
    congr 1 <;> omega
  | @cons place cs gap gap' rest e es head _ _ tail ih =>
    -- The item begins behind the spans so far, so joining only moves the end.
    have joined : span.join e.span = ⟨span.start, (place.afterAll cs).offset⟩ := by
      simp only [items.spanned head, Span.join, spanOf, offset_afterAll]
      congr 1 <;> omega
    rw [List.foldl_cons, joined, ih]
    · simp only [Position.afterAll_append]
    all_goals
      simp only [Position.afterAll_append, offset_afterAll]
      omega

/-! ## Calls -/

/-- A parser recognises a phrase, with blank space in front of it, whose texts are well set off. -/
structure Understands (p : Parser Expression) (phrase : Phrase Expression) (ends : List Char) :
    Prop where
  recognises : Recognises p (Spaced phrase) (Follows ends)
  proper : Proper phrase

theorem nested_understands {inner : Option (Parser Expression)}
    {deeper : Option (Phrase Expression)} {ends : List Char} (limit : Nat)
    (understood : Option.Rel (Understands · · ends) inner deeper) :
    Recognises (nested limit inner) (Spaced (Within deeper)) (Follows ends) := by
  rw [← spaced_within]
  refine nested_recognises limit ?_
  cases understood with
  | none => exact .none
  | some understood => exact .some understood.recognises

theorem within_proper {inner : Option (Parser Expression)} {deeper : Option (Phrase Expression)}
    {ends : List Char} (understood : Option.Rel (Understands · · ends) inner deeper) :
    Proper (Within deeper) := by
  cases understood with
  | none => exact ⟨fun ⟨_, same, _⟩ => (nomatch same), fun ⟨_, same, _⟩ => (nomatch same)⟩
  | some understood =>
    refine ⟨fun ⟨_, same, derived⟩ => ?_, fun ⟨_, same, derived⟩ => ?_⟩
    · cases same
      exact understood.proper.spanned derived
    · cases same
      exact understood.proper.opens derived

theorem sees_of_nextChar {place : Position} {rest : List Char} {left : List Lexeme}
    (next : nextChar rest = some ')') (tiling : Tiling place rest left) (reached : Nat)
    (finish : Position) : Cursor.sees ⟨reached, left, finish⟩ .closeParen = true := by
  cases left with
  | nil =>
    have none : nextChar (rest ++ []) = nextChar [] := nextChar_append tiling.blank []
    rw [List.append_nil, next] at none
    cases none
  | cons l left =>
    have follows : Follows [')'] rest := by
      intro c first
      rw [next] at first
      cases first
      simp
    obtain ⟨s, c, tail, is, chars, listed⟩ := follows.symbol tiling (by decide)
    cases List.mem_singleton.mp listed
    have close : s = .closeParen := by
      cases s with
      | closeParen => rfl
      | comparison operator => cases operator <;> cases chars
      | _ => cases chars
    exact Cursor.sees_eq_true.mpr ⟨l, left, rfl, close ▸ is⟩

/-- A text that opens is not read as a closing parenthesis. -/
theorem not_sees_of_opens {place : Position} {blank cs : List Char} {ls : List Lexeme}
    (spaced : Blank blank) (opens : Opens cs) (tiling : Tiling place (blank ++ cs) ls)
    (reached : Nat) (finish : Position) :
    Cursor.sees ⟨reached, ls, finish⟩ .closeParen = false := by
  obtain ⟨c, tail, rfl, bare, noClose, -⟩ := opens
  have follows : Follows [c] (blank ++ c :: tail) := .spaced spaced (.cons bare (by simp))
  refine follows.not_sees tiling fun listed => ?_
  cases List.mem_singleton.mp listed
  exact noClose rfl

theorem arguments_recognises {expression : Parser Expression} {phrase : Phrase Expression}
    (understood : Understands expression phrase afterExpression) :
    Recognises (arguments expression) (ArgumentsText phrase) (fun rest => nextChar rest = some ')')
    := by
  have list : Recognises (separated .comma expression) (Spaced (Separated [','] phrase))
      (Follows [')']) :=
    separated_recognises (understood.recognises.narrow fun _ follows => follows.mono (by decide))
      rfl (by decide) fun _ => rfl
  refine ⟨fun {place cs ls finish x c} tiling ran => ?_,
    fun {place text rest left x} derived next tiling finish => ?_⟩
  · unfold arguments at ran
    rw [get_bind] at ran
    split at ran
    · cases ran
      exact ⟨[], cs, ls, rfl, .none, tiling, rfl⟩
    · obtain ⟨text, rest, left, rfl, derived, tail, rfl⟩ := list.sound tiling ran
      exact ⟨text, rest, left, rfl, .some derived, tail, rfl⟩
  · cases derived with
    | none =>
      refine ⟨[], tiling, ?_⟩
      rw [arguments, get_bind, List.nil_append, cursorAt, sees_of_nextChar next tiling]
      rfl
    | some listed =>
      have follows : Follows [')'] rest := by
        intro c first
        rw [next] at first
        cases first
        simp
      obtain ⟨ls, tiled, ran⟩ := list.complete listed follows tiling finish
      refine ⟨ls, tiled, ?_⟩
      obtain ⟨blank, text, spaced, rfl, items⟩ := listed
      rw [List.append_assoc] at tiled
      have opens : Opens (text ++ rest) :=
        opens_append (separated_opens understood.proper items)
      rw [arguments, get_bind, cursorAt, not_sees_of_opens spaced opens tiled,
        if_neg Bool.false_ne_true]
      exact ran

theorem isFunctionName_iff {cs : List Char} :
    isFunctionName (String.ofList cs) = true ↔ IsFunctionName cs := by
  unfold isFunctionName
  rw [String.toList_ofList]
  cases cs with
  | nil => simp [IsFunctionName]
  | cons c cs =>
    simp only [Bool.and_eq_true, List.all_eq_true, Bool.or_eq_true, beq_iff_eq, or_assoc]
    constructor
    · rintro ⟨lower, others⟩
      exact ⟨c, cs, rfl, lower, others⟩
    · rintro ⟨first, rest, same, lower, others⟩
      cases same
      exact ⟨lower, others⟩

section

variable {inner : Option (Parser Expression)} {deeper : Option (Phrase Expression)}

theorem nested_arguments (limit : Nat)
    (understood : Option.Rel (Understands · · afterExpression) inner deeper) :
    Recognises (nested limit (inner.map arguments)) (Within (deeper.map ArgumentsText))
      (fun rest => nextChar rest = some ')') := by
  refine nested_recognises limit ?_
  cases understood with
  | none => exact .none
  | some understood => exact .some (arguments_recognises understood)

/-- A call is read if its name may be called and touches the parenthesis, and its arguments are
read up to the closing one. -/
theorem call_eq_ok {limit : Nat} {marker paren : Lexeme} {name : String} {reached : Nat}
    {ls : List Lexeme} {finish : Position} {r : Expression × Cursor} :
    call limit inner marker name ⟨reached, marker :: paren :: ls, finish⟩ = .ok r ↔
      isFunctionName name = true ∧ marker.touches paren.start = true ∧
        ∃ es c c', nested limit (inner.map arguments) ⟨paren.stop.offset, ls, finish⟩ =
            .ok (es, c) ∧ take .closeParen .commaOrParen c = .ok ((), c') ∧
          r = (.call name es ⟨marker.start.offset, c'.reached⟩, c') := by
  unfold call
  rw [advance_bind]
  cases isFunctionName name with
  | false =>
    constructor
    · intro ran
      cases ran
    · rintro ⟨⟨⟩, -⟩
  | true =>
    simp only [Bool.not_true, Bool.false_eq_true, if_false]
    rw [get_bind]
    by_cases touching : marker.touches paren.start = true
    · rw [if_neg (by simpa [Cursor.place] using touching), advance_bind]
      simp only [bind_eq_ok, touching, true_and]
      constructor
      · rintro ⟨es, c, found, ⟨⟩, c', closed, _, _, ⟨⟩, ⟨⟩⟩
        exact ⟨es, c, c', found, closed, rfl⟩
      · rintro ⟨es, c, c', found, closed, rfl⟩
        exact ⟨es, c, found, (), c', closed, c', c', rfl, rfl⟩
    · rw [if_pos (by simpa [Cursor.place] using touching)]
      constructor
      · intro ran
        exact absurd ran fail_bind_ne_ok
      · rintro ⟨-, other, -⟩
        exact absurd other touching

/-! ## Comparables -/

section

variable {limit : Nat} {l : Lexeme} (reached : Nat) (ls : List Lexeme) (finish : Position)

theorem comparable_number {n : Numeral} (is : l.token = .number n) :
    comparable limit inner ⟨reached, l :: ls, finish⟩ =
      match literalOf n with
      | .ok v => .ok (.literal (.number v) l.span, cursorAt l.stop ls finish)
      | .error fault => fail fault ⟨reached, l :: ls, finish⟩ := by
  simp only [comparable, get_bind, is]
  cases literalOf n <;> rfl

theorem comparable_string {value : String} (is : l.token = .string value) :
    comparable limit inner ⟨reached, l :: ls, finish⟩ =
      .ok (.literal (.string value) l.span, cursorAt l.stop ls finish) := by
  simp only [comparable, get_bind, is]
  rfl

theorem comparable_name {name : String} (is : l.token = .name name) :
    comparable limit inner ⟨reached, l :: ls, finish⟩ =
      if (cursorAt l.stop ls finish).sees .openParen then
        call limit inner l name ⟨reached, l :: ls, finish⟩
      else
        match wordLiteral? name with
        | some value => .ok (.literal value l.span, cursorAt l.stop ls finish)
        | none => expected .comparable ⟨reached, l :: ls, finish⟩ := by
  have same : (ls.head?.map Lexeme.token == some (.symbol .openParen)) =
      (cursorAt l.stop ls finish).sees .openParen := by
    cases ls <;> rfl
  simp only [comparable, get_bind, is, same]
  split
  · rfl
  · cases wordLiteral? name <;> rfl

/-- The symbol of a root. -/
def rootSymbol : QueryRoot → Symbol
  | .document => .dollar
  | .current => .at

theorem chars_rootSymbol (root : QueryRoot) : (rootSymbol root).chars = [rootChar root] := by
  cases root <;> rfl

theorem comparable_root {root : QueryRoot} (is : l.token = .symbol (rootSymbol root)) :
    comparable limit inner ⟨reached, l :: ls, finish⟩ =
      (query (nested limit inner) root l.start.offset >>= fun tree => pure (.query tree) :
        Parser Expression) (cursorAt l.stop ls finish) := by
  cases root <;>
    simp only [comparable, get_bind, is, rootSymbol] <;>
    rfl

end

theorem wordLiteral?_eq_some {cs : List Char} {value : Value} :
    wordLiteral? (String.ofList cs) = some value ↔ (cs, value) ∈ wordLiterals := by
  have same (word : String) : String.ofList cs = word ↔ cs = word.toList := by
    rw [← String.toList_inj, String.toList_ofList]
  have words : "true".toList = ['t', 'r', 'u', 'e'] ∧ "false".toList = ['f', 'a', 'l', 's', 'e'] ∧
      "null".toList = ['n', 'u', 'l', 'l'] := by decide
  obtain ⟨yes, no, null⟩ := words
  simp only [wordLiteral?, same, yes, no, null, wordLiterals, List.mem_cons, Prod.mk.injEq,
    List.not_mem_nil, or_false]
  split
  · next is => simp [is, eq_comm]
  · split
    · next is => simp [is, eq_comm]
    · split
      · next is => simp [is, eq_comm]
      · simp_all

/-- The span of a query is that of its text. -/
theorem queryText_root {filter : Phrase Expression} {root : QueryRoot} {place : Position}
    {rest : List Char} {segments : List (Segment Expression)}
    (derived : SegmentsText filter (place.after (rootChar root)) rest segments) :
    QueryText filter root place (rootChar root :: rest)
      ⟨root, segments, ⟨place.offset, ((place.after (rootChar root)).afterAll rest).offset⟩⟩ :=
  ⟨rest, segments, rfl, derived, rfl⟩

theorem comparable_sound
    (understood : Option.Rel (Understands · · afterExpression) inner deeper) {limit : Nat}
    {place : Position} {cs : List Char} {ls : List Lexeme} {finish : Position} {x : Expression}
    {c : Cursor} (tiling : Tiling place cs ls)
    (ran : comparable limit inner (cursorAt place ls finish) = .ok (x, c)) :
    Taken (Spaced (ComparableText deeper)) place cs finish x c := by
  cases ls with
  | nil => cases ran
  | cons l left =>
    have root (root : QueryRoot) (is : l.token = .symbol (rootSymbol root)) :
        Taken (Spaced (ComparableText deeper)) place cs finish x c := by
      obtain ⟨blank, rest, spaced, rfl, rfl, tail⟩ := tiling.symbol is
      rw [cursorAt, comparable_root _ _ _ is, stop_lexemeAt, start_lexemeAt] at ran
      obtain ⟨tree, c', found, ended⟩ := bind_eq_ok.mp ran
      cases ended
      refine .behind spaced
        ((query_recognises (nested_understands limit understood) _ _).sound tail found) ?_
      rintro text ⟨segments, derived, rfl⟩ -
      rw [chars_rootSymbol] at derived ⊢
      exact .query (queryText_root derived)
    obtain ⟨blank, token, text, rest, spaced, spelled, rfl, rfl, tail⟩ := tiling.inverse
    cases spelled with
    | @number _ n spelled =>
      rw [cursorAt, comparable_number _ _ _ rfl] at ran
      split at ran
      · next v read =>
        cases ran
        rw [span_lexemeAt]
        exact tail.taken spaced (.number (numberText_iff.mpr ⟨n, spelled, read⟩)) finish
      · exact absurd ran fail_ne_ok
    | string spelled =>
      rw [cursorAt, comparable_string _ _ _ rfl] at ran
      cases ran
      rw [span_lexemeAt]
      exact tail.taken spaced (.string spelled) finish
    | name named =>
      rw [cursorAt, comparable_name _ _ _ rfl] at ran
      split at ran
      · next parenthesis =>
        obtain ⟨paren, left, rfl, is⟩ := Cursor.sees_eq_true.mp parenthesis
        obtain ⟨between, rest, -, rfl, rfl, next⟩ := tail.symbol is
        obtain ⟨named, touching, es, c', c'', found, closed, ended⟩ := call_eq_ok.mp ran
        rw [start_lexemeAt, ← stop_lexemeAt place blank (.name (String.ofList text))] at touching
        cases touches_iff.mp touching
        rw [stop_lexemeAt] at found
        have taken := enclosed_sound rfl (nested_arguments limit understood) next found closed
        cases ended
        -- The name touches the parenthesis: the two together stand in front of the arguments.
        rw [← Position.afterAll_append, List.append_assoc] at taken
        have whole : Taken (Spaced (ComparableText deeper)) place
            (blank ++ ((text ++ ['(']) ++ rest)) finish
            (.call (String.ofList text) es ⟨(place.afterAll blank).offset, c.reached⟩) c := by
          refine .behind spaced taken fun inside enclosed stops => ?_
          rw [stops, List.append_assoc]
          exact .call (isFunctionName_iff.mp named) enclosed
        rw [List.append_assoc] at whole
        exact whole
      · split at ran
        · next value word =>
          cases ran
          rw [span_lexemeAt]
          exact tail.taken spaced (.word (wordLiteral?_eq_some.mp word)) finish
        · exact absurd ran expected_ne_ok
    | @symbol s =>
      cases s with
      | dollar => exact root .document rfl
      | «at» => exact root .current rfl
      | _ => cases ran

theorem comparable_complete
    (understood : Option.Rel (Understands · · afterExpression) inner deeper) {place : Position}
    {text rest : List Char} {left : List Lexeme} {x : Expression}
    (derived : Spaced (ComparableText deeper) place text x) (follows : Follows afterComparable rest)
    (tiling : Tiling (place.afterAll text) rest left) (limit : Nat) (finish : Position) :
    ∃ ls, Tiling place (text ++ rest) (ls ++ left) ∧
      comparable limit inner (cursorAt place (ls ++ left) finish) =
        .ok (x, cursorAt (place.afterAll text) left finish) := by
  obtain ⟨blank, text, spaced, rfl, derived⟩ := derived
  rw [List.append_assoc]
  cases derived with
  | number number =>
    obtain ⟨n, spelled, read⟩ := numberText_iff.mp number
    have outside := number_outside n (by decide : afterComparable ⊆ marks) (by decide)
    refine ⟨[lexemeAt place blank (.number n) text],
      .lexeme spaced (.number spelled) (follows.apart outside) tiling, ?_⟩
    rw [cursorAt, List.singleton_append, comparable_number _ _ _ rfl, read, span_lexemeAt,
      stop_lexemeAt]
  | @string _ value string =>
    refine ⟨[lexemeAt place blank (.string value) text],
      .lexeme spaced (.string string) (fun _ _ => rfl) tiling, ?_⟩
    rw [cursorAt, List.singleton_append, comparable_string _ _ _ rfl, span_lexemeAt, stop_lexemeAt]
  | @word _ value listed =>
    have named : IsName text := by
      simp only [wordLiterals, List.mem_cons, Prod.mk.injEq, List.not_mem_nil, or_false] at listed
      rcases listed with ⟨rfl, -⟩ | ⟨rfl, -⟩ | ⟨rfl, -⟩ <;>
        exact ⟨_, _, rfl, by decide, List.all_eq_true.mp (by decide)⟩
    have unseen (place : Position) : (cursorAt place left finish).sees .openParen = false :=
      follows.not_sees tiling (by decide)
    refine ⟨[lexemeAt place blank (.name (String.ofList text)) text],
      .lexeme spaced (.name named) (follows.apart (name_outside _ (by decide))) tiling, ?_⟩
    rw [cursorAt, List.singleton_append, comparable_name _ _ _ rfl, unseen,
      if_neg Bool.false_ne_true, wordLiteral?_eq_some.mpr listed, span_lexemeAt, stop_lexemeAt]
  | @query root _ tree query =>
    obtain ⟨rest', segments, rfl, derived, rfl⟩ := query
    have place_eq : place.afterAll (blank ++ rootChar root :: rest') =
        (place.afterAll (blank ++ (rootSymbol root).chars)).afterAll rest' := by
      simp [chars_rootSymbol, Position.afterAll_append]
    have behind : (place.afterAll blank).after (rootChar root) =
        place.afterAll (blank ++ (rootSymbol root).chars) := by
      simp [chars_rootSymbol, Position.afterAll_append]
    rw [place_eq] at tiling ⊢
    rw [behind] at derived
    obtain ⟨ls, tiled, ran⟩ := (query_recognises (nested_understands limit understood) root
      (place.afterAll blank).offset).complete ⟨segments, derived, rfl⟩ follows tiling finish
    have root_free : ∀ c, (rootSymbol root).absorbs c = false := by
      cases root <;> exact fun _ => rfl
    have tiled := Tiling.mark (rootSymbol root) spaced (fun c _ => root_free c) tiled
    rw [chars_rootSymbol] at tiled
    refine ⟨lexemeAt place blank (.symbol (rootSymbol root)) [rootChar root] :: ls, tiled, ?_⟩
    rw [cursorAt, List.cons_append, comparable_root _ _ _ rfl, stop_lexemeAt, start_lexemeAt,
      ← chars_rootSymbol, bind_of_ok ran, pure_run, spanOf, ← Position.afterAll_append place blank,
      place_eq]
  | @call name cs es named arguments =>
    have place_eq : place.afterAll (blank ++ (name ++ '(' :: cs)) =
        ((place.afterAll (blank ++ name)).afterAll ([] ++ ['('])).afterAll cs := by
      simp [Position.afterAll_append]
    have behind : (place.afterAll blank).afterAll (name ++ ['(']) =
        (place.afterAll (blank ++ name)).afterAll ([] ++ ['(']) := by
      simp [Position.afterAll_append]
    rw [place_eq] at tiling ⊢
    rw [behind] at arguments
    obtain ⟨ls, c, tiled, found, closed⟩ := enclosed_complete (s := .closeParen) rfl
      (fun _ => rfl) (nested_arguments limit understood)
      (fun blank rest spaced => (nextChar_append spaced _).trans (nextChar_cons (by decide) rest))
      .commaOrParen arguments tiling finish
    have opened : Tiling (place.afterAll (blank ++ name))
        ([] ++ (Symbol.openParen.chars ++ (cs ++ rest)))
        (lexemeAt (place.afterAll (blank ++ name)) [] (.symbol .openParen) ['('] :: (ls ++ left)) :=
      .mark .openParen .nil (fun _ _ => rfl) tiled
    have apart : Apart (.name (String.ofList name))
        ([] ++ (Symbol.openParen.chars ++ (cs ++ rest))) := by
      intro c first
      cases first
      rfl
    refine ⟨lexemeAt place blank (.name (String.ofList name)) name ::
      lexemeAt (place.afterAll (blank ++ name)) [] (.symbol .openParen) ['('] :: ls, ?_, ?_⟩
    · simpa [Symbol.chars] using
        Tiling.lexeme spaced (.name (isFunctionName_isName named)) apart opened
    · rw [cursorAt, List.cons_append, List.cons_append, comparable_name _ _ _ rfl,
        if_pos (by rfl)]
      refine call_eq_ok.mpr ⟨isFunctionName_iff.mpr named, ?_, es, c, _, ?_, closed, ?_⟩
      · rw [start_lexemeAt, ← stop_lexemeAt place blank (.name (String.ofList name))]
        exact touches_iff.mpr rfl
      · rw [stop_lexemeAt]
        exact found
      · rw [start_lexemeAt, spanOf, ← Position.afterAll_append place blank, place_eq]
        rfl

theorem comparable_understands
    (understood : Option.Rel (Understands · · afterExpression) inner deeper) (limit : Nat) :
    Understands (comparable limit inner) (ComparableText deeper) afterComparable where
  recognises.sound tiling ran := comparable_sound understood tiling ran
  recognises.complete derived follows tiling finish :=
    comparable_complete understood derived follows tiling limit finish
  proper := comparableText_proper deeper

/-! ## Operands -/

variable {innerOperand : Option (Parser Expression)} {deeperOperand : Option (Phrase Expression)}

section

variable {limit : Nat} {l : Lexeme} (reached : Nat) (ls : List Lexeme) (finish : Position)

theorem operand_bang (is : l.token = .symbol .bang) :
    operand limit innerOperand inner ⟨reached, l :: ls, finish⟩ =
      (nested limit innerOperand >>= fun e => pure (.not e ⟨l.start.offset, e.span.stop⟩) :
        Parser Expression) (cursorAt l.stop ls finish) := by
  simp only [operand, get_bind, is]
  rfl

theorem operand_paren (is : l.token = .symbol .openParen) :
    operand limit innerOperand inner ⟨reached, l :: ls, finish⟩ =
      (do
        let e ← nested limit inner
        take .closeParen .closeParen
        return .paren e ⟨l.start.offset, (← get).reached⟩ : Parser Expression)
        (cursorAt l.stop ls finish) := by
  simp only [operand, get_bind, is]
  rfl

end

/-- Where a comparable is read, an operand is read as that. -/
theorem operand_of_comparable {limit : Nat} {c : Cursor} {r : Expression × Cursor}
    (ran : comparable limit inner c = .ok r) : operand limit innerOperand inner c = .ok r := by
  obtain ⟨reached, ls, finish⟩ := c
  cases ls with
  | nil => cases ran
  | cons l ls =>
    obtain ⟨token, text, start⟩ := l
    cases token with
    | symbol s =>
      cases s with
      | bang | openParen => cases ran
      | _ => exact ran
    | _ => exact ran

theorem operand_sound
    (operands : Option.Rel (Understands · · afterComparable) innerOperand deeperOperand)
    (understood : Option.Rel (Understands · · afterExpression) inner deeper) {limit : Nat}
    {place : Position} {cs : List Char} {ls : List Lexeme} {finish : Position} {x : Expression}
    {c : Cursor} (tiling : Tiling place cs ls)
    (ran : operand limit innerOperand inner (cursorAt place ls finish) = .ok (x, c)) :
    Taken (Spaced (OperandText deeperOperand deeper)) place cs finish x c := by
  cases ls with
  | nil => cases ran
  | cons l left =>
    have other (ran : comparable limit inner (cursorAt place (l :: left) finish) = .ok (x, c)) :
        Taken (Spaced (OperandText deeperOperand deeper)) place cs finish x c :=
      (comparable_sound understood tiling ran).mono
        fun _ ⟨blank, text, spaced, whole, derived⟩ =>
          ⟨blank, text, spaced, whole, .comparable derived⟩
    obtain ⟨blank, token, text, rest, spaced, spelled, rfl, rfl, tail⟩ := tiling.inverse
    cases spelled with
    | @symbol s =>
      cases s with
      | bang =>
        rw [cursorAt, operand_bang _ _ _ rfl, stop_lexemeAt, start_lexemeAt] at ran
        obtain ⟨e, c', found, ended⟩ := bind_eq_ok.mp ran
        cases ended
        refine .behind spaced ((nested_understands limit operands).sound tail found)
          fun text derived _ => ?_
        rw [spaced_stop (within_proper operands) derived, ← Position.afterAll_append]
        exact .not derived
      | openParen =>
        rw [cursorAt, operand_paren _ _ _ rfl, stop_lexemeAt, start_lexemeAt] at ran
        obtain ⟨e, c', found, ran⟩ := bind_eq_ok.mp ran
        obtain ⟨⟨⟩, c', closed, ended⟩ := bind_eq_ok.mp ran
        have taken := enclosed_sound rfl (nested_understands limit understood) tail found closed
        cases ended
        refine .behind spaced taken fun text enclosed stops => ?_
        rw [stops]
        exact .paren enclosed
      | _ => exact other ran
    | _ => exact other ran

theorem operand_complete
    (operands : Option.Rel (Understands · · afterComparable) innerOperand deeperOperand)
    (understood : Option.Rel (Understands · · afterExpression) inner deeper) {place : Position}
    {text rest : List Char} {left : List Lexeme} {x : Expression}
    (derived : Spaced (OperandText deeperOperand deeper) place text x)
    (follows : Follows afterComparable rest) (tiling : Tiling (place.afterAll text) rest left)
    (limit : Nat) (finish : Position) :
    ∃ ls, Tiling place (text ++ rest) (ls ++ left) ∧
      operand limit innerOperand inner (cursorAt place (ls ++ left) finish) =
        .ok (x, cursorAt (place.afterAll text) left finish) := by
  obtain ⟨blank, text, spaced, rfl, derived⟩ := derived
  cases derived with
  | comparable derived =>
    obtain ⟨ls, tiled, ran⟩ := comparable_complete understood ⟨blank, text, spaced, rfl, derived⟩
      follows tiling limit finish
    exact ⟨ls, tiled, operand_of_comparable ran⟩
  | @not cs e derived =>
    have place_eq : place.afterAll (blank ++ '!' :: cs) =
        (place.afterAll (blank ++ ['!'])).afterAll cs := by
      simp [Position.afterAll_append]
    have derived : Spaced (Within deeperOperand) (place.afterAll (blank ++ ['!'])) cs e := by
      rw [Position.afterAll_append]
      exact derived
    rw [place_eq] at tiling ⊢
    obtain ⟨ls, tiled, ran⟩ :=
      (nested_understands limit operands).complete derived follows tiling finish
    have stop := spaced_stop (within_proper operands) derived
    -- An operand does not begin with the `=` that would make an operator of the negation.
    have apart : Apart (.symbol .bang) (cs ++ rest) :=
      spaced_apart (within_proper operands) .bang (fun _ other => decide_eq_false other) derived
        rest
    refine ⟨lexemeAt place blank (.symbol .bang) ['!'] :: ls, ?_, ?_⟩
    · rw [List.append_assoc]
      exact .mark .bang spaced apart tiled
    · rw [cursorAt, List.cons_append, operand_bang _ _ _ rfl, stop_lexemeAt, start_lexemeAt,
        bind_of_ok ran, pure_run, stop, spanOf, ← Position.afterAll_append place blank, place_eq]
  | @paren cs e enclosed =>
    have place_eq : place.afterAll (blank ++ '(' :: cs) =
        (place.afterAll (blank ++ ['('])).afterAll cs := by
      simp [Position.afterAll_append]
    have enclosed : Enclosed ')' (Spaced (Within deeper)) (place.afterAll (blank ++ ['('])) cs e
        := by
      rw [Position.afterAll_append]
      exact enclosed
    rw [place_eq] at tiling ⊢
    obtain ⟨ls, c, tiled, found, closed⟩ := enclosed_complete (s := .closeParen) rfl
      (fun _ => rfl) (nested_understands limit understood)
      (fun _ _ spaced => .spaced spaced (.cons rfl (by decide))) .closeParen enclosed tiling finish
    refine ⟨lexemeAt place blank (.symbol .openParen) ['('] :: ls, ?_, ?_⟩
    · rw [List.append_assoc]
      exact .mark .openParen spaced (fun _ _ => rfl) tiled
    · rw [cursorAt, List.cons_append, operand_paren _ _ _ rfl, stop_lexemeAt, start_lexemeAt,
        bind_of_ok found, bind_of_ok closed, get_bind, pure_run, spanOf,
        ← Position.afterAll_append place blank, place_eq]
      rfl

theorem operand_understands
    (operands : Option.Rel (Understands · · afterComparable) innerOperand deeperOperand)
    (understood : Option.Rel (Understands · · afterExpression) inner deeper) (limit : Nat) :
    Understands (operand limit innerOperand inner) (OperandText deeperOperand deeper)
      afterComparable where
  recognises.sound tiling ran := operand_sound operands understood tiling ran
  recognises.complete derived follows tiling finish :=
    operand_complete operands understood derived follows tiling limit finish
  proper := operandText_proper deeperOperand deeper

/-! ## Comparisons -/

theorem comparison?_eq_some {c : Cursor} {operator : ComparisonOperator} :
    c.comparison? = some operator ↔
      ∃ l ls, c.ahead = l :: ls ∧ l.token = .symbol (.comparison operator) := by
  unfold Cursor.comparison?
  split
  · next other _ _ _ ahead => simp [ahead]
  · next none =>
    refine ⟨nofun, ?_⟩
    rintro ⟨⟨token, text, start⟩, ls, ahead, is⟩
    cases is
    exact absurd ahead (none operator text start ls)

theorem comparison?_none {place : Position} {rest : List Char} {left : List Lexeme}
    (follows : Follows afterComparison rest) (tiling : Tiling place rest left) (reached : Nat)
    (finish : Position) : Cursor.comparison? ⟨reached, left, finish⟩ = none := by
  rw [Option.eq_none_iff_forall_ne_some]
  intro operator found
  obtain ⟨l, left, rfl, is⟩ := comparison?_eq_some.mp found
  obtain ⟨s, c, tail, is', chars, listed⟩ := follows.symbol tiling (by decide)
  cases Token.symbol.inj (is.symm.trans is')
  cases operator <;> cases chars <;> exact absurd listed (by decide)

/-- The comparables are the operands that may be compared. -/
theorem comparableText_iff {place : Position} {cs : List Char} {e : Expression} :
    ComparableText deeper place cs e ↔
      OperandText deeperOperand deeper place cs e ∧ e.isComparable = true := by
  constructor
  · intro derived
    refine ⟨.comparable derived, ?_⟩
    cases derived <;> rfl
  · rintro ⟨derived, comparable⟩
    cases derived with
    | comparable derived => exact derived
    | _ => cases comparable

section

variable {operand comparable : Parser Expression}
  {operandPhrase comparablePhrase : Phrase Expression}

theorem comparison_eq_ok {c : Cursor} {r : Expression × Cursor} :
    comparison operand comparable c = .ok r ↔
      ∃ left c', operand c = .ok (left, c') ∧
        (c'.comparison? = none ∧ r = (left, c') ∨
          ∃ operator l ls right c'', c'.ahead = l :: ls ∧
            l.token = .symbol (.comparison operator) ∧ left.isComparable = true ∧
            comparable ⟨l.stop.offset, ls, c'.finish⟩ = .ok (right, c'') ∧
            c''.comparison? = none ∧
            r = (.comparison operator left right (left.span.join right.span), c'')) := by
  unfold comparison
  rw [bind_eq_ok]
  refine exists_congr fun left => exists_congr fun c' => and_congr_right fun _ => ?_
  rw [get_bind]
  cases found : c'.comparison? with
  | none =>
    simp only [true_and]
    constructor
    · intro ended
      cases ended
      exact .inl rfl
    · rintro (rfl | ⟨operator, l, ls, -, -, ahead, is, -⟩)
      · rfl
      · rw [comparison?_eq_some.mpr ⟨l, ls, ahead, is⟩] at found
        cases found
  | some operator =>
    obtain ⟨l, ls, ahead, is⟩ := comparison?_eq_some.mp found
    obtain ⟨reached, ahead, finish⟩ := c'
    subst ahead
    simp only [reduceCtorEq, false_and, false_or]
    by_cases allowed : left.isComparable = true
    · rw [if_neg (by simpa using allowed), advance_bind, bind_eq_ok]
      constructor
      · rintro ⟨right, c'', ran, ended⟩
        rw [get_bind] at ended
        split at ended
        · exact absurd ended fail_bind_ne_ok
        · next single =>
          cases ended
          exact ⟨operator, l, ls, right, c'', rfl, is, allowed, ran, by simpa using single, rfl⟩
      · rintro ⟨operator', l', ls', right, c'', ahead, is', -, ran, single, rfl⟩
        cases ahead
        cases Symbol.comparison.inj (Token.symbol.inj (is.symm.trans is'))
        refine ⟨right, c'', ran, ?_⟩
        rw [get_bind, single]
        rfl
    · rw [if_pos (by simpa using allowed)]
      refine ⟨fun ended => absurd ended fail_bind_ne_ok, ?_⟩
      rintro ⟨_, _, _, _, _, -, -, comparable, -⟩
      exact absurd comparable allowed

theorem head_operator (operator : ComparisonOperator) :
    ∃ c tail, operator.text.toList = c :: tail ∧ isQueryBlank c = false ∧ c ∈ afterComparable := by
  cases operator <;> exact ⟨_, _, rfl, by decide⟩

theorem comparison_sound (operands : Understands operand operandPhrase afterComparable)
    (comparables : Understands comparable comparablePhrase afterComparable)
    (same : ∀ {place cs e},
      comparablePhrase place cs e ↔ operandPhrase place cs e ∧ e.isComparable = true)
    {place : Position} {cs : List Char} {ls : List Lexeme} {finish : Position} {x : Expression}
    {c : Cursor} (tiling : Tiling place cs ls)
    (ran : comparison operand comparable (cursorAt place ls finish) = .ok (x, c)) :
    Taken (Spaced (ComparisonText operandPhrase comparablePhrase)) place cs finish x c := by
  obtain ⟨e, c', first, more⟩ := comparison_eq_ok.mp ran
  obtain ⟨_, rest, left, rfl, ⟨blank, text, spaced, rfl, derived⟩, tail, rfl⟩ :=
    operands.recognises.sound tiling first
  rcases more with ⟨-, ended⟩ | ⟨operator, l, ls, e', c', ahead, is, allowed, second, -, ended⟩
  · cases ended
    exact ⟨_, rest, left, rfl, ⟨blank, text, spaced, rfl, .alone derived⟩, tail, rfl⟩
  · cases ahead
    obtain ⟨gap, rest, gapSpaced, rfl, rfl, next⟩ := tail.symbol is
    rw [stop_lexemeAt] at second
    have taken := comparables.recognises.sound next second
    cases ended
    have chars_eq : (Symbol.comparison operator).chars = operator.text.toList := by
      rw [← Symbol.toList_text, Symbol.text]
    rw [chars_eq, ← Position.afterAll_append, List.append_assoc] at taken
    have whole : Taken (Spaced (ComparisonText operandPhrase comparablePhrase)) place
        (blank ++ ((text ++ (gap ++ operator.text.toList)) ++ rest)) finish
        (.comparison operator e e' (e.span.join e'.span)) c := by
      refine .behind spaced taken fun text' behind _ => ?_
      have before := same.mpr ⟨derived, allowed⟩
      have joined := compared_span comparables.proper before behind
      simp only [List.append_assoc] at joined ⊢
      rw [joined]
      exact .compared before gapSpaced behind
    simpa only [List.append_assoc, chars_eq] using whole

theorem comparison_complete (operands : Understands operand operandPhrase afterComparable)
    (comparables : Understands comparable comparablePhrase afterComparable)
    (same : ∀ {place cs e},
      comparablePhrase place cs e ↔ operandPhrase place cs e ∧ e.isComparable = true)
    {place : Position} {text rest : List Char} {left : List Lexeme} {x : Expression}
    (derived : Spaced (ComparisonText operandPhrase comparablePhrase) place text x)
    (follows : Follows afterComparison rest) (tiling : Tiling (place.afterAll text) rest left)
    (finish : Position) :
    ∃ ls, Tiling place (text ++ rest) (ls ++ left) ∧
      comparison operand comparable (cursorAt place (ls ++ left) finish) =
        .ok (x, cursorAt (place.afterAll text) left finish) := by
  have wide : Follows afterComparable rest := follows.mono (by decide)
  obtain ⟨blank, text, spaced, rfl, derived⟩ := derived
  cases derived with
  | alone only =>
    obtain ⟨ls, tiled, ran⟩ := operands.recognises.complete ⟨blank, text, spaced, rfl, only⟩ wide
      tiling finish
    exact ⟨ls, tiled, comparison_eq_ok.mpr
      ⟨x, _, ran, .inl ⟨comparison?_none follows tiling _ _, rfl⟩⟩⟩
  | @compared first gap second e e' operator before gapSpaced derived =>
    have place_eq : place.afterAll (blank ++ (first ++ (gap ++ (operator.text.toList ++ second)))) =
        ((place.afterAll (blank ++ first)).afterAll
          (gap ++ (Symbol.comparison operator).chars)).afterAll second := by
      simp only [Position.afterAll_append, ← Symbol.toList_text, Symbol.text]
    have behind : Spaced comparablePhrase ((place.afterAll (blank ++ first)).afterAll
        (gap ++ (Symbol.comparison operator).chars)) second e' := by
      simpa only [Position.afterAll_append, ← Symbol.toList_text, Symbol.text] using derived
    rw [place_eq] at tiling ⊢
    obtain ⟨ls, tiled, ran⟩ := comparables.recognises.complete behind wide tiling finish
    -- Only `<` and `>` can grow, and an operand does not begin with what they would grow by.
    have longer : ∀ c, c ≠ '=' → (Symbol.comparison operator).absorbs c = false := by
      intro c other
      cases operator with
      | less | greater => exact decide_eq_false other
      | _ => rfl
    have marked := Tiling.mark (.comparison operator) gapSpaced
      (spaced_apart comparables.proper _ longer behind rest) tiled
    have stays : Follows afterComparable
        (gap ++ ((Symbol.comparison operator).chars ++ (second ++ rest))) := by
      obtain ⟨c, tail, chars, bare, listed⟩ := head_operator operator
      rw [← Symbol.toList_text, Symbol.text, chars]
      exact .spaced gapSpaced (.cons bare listed)
    obtain ⟨ls', tiled', ran'⟩ := operands.recognises.complete
      ⟨blank, first, spaced, rfl, (same.mp before).1⟩ stays marked finish
    have joined := compared_span comparables.proper before derived
    rw [List.append_assoc] at joined
    refine ⟨ls' ++ lexemeAt (place.afterAll (blank ++ first)) gap
      (.symbol (.comparison operator)) (Symbol.comparison operator).chars :: ls, ?_, ?_⟩
    · simpa [← Symbol.toList_text, Symbol.text] using tiled'
    · rw [List.append_assoc, List.cons_append, ← joined]
      refine comparison_eq_ok.mpr ⟨e, _, ran', .inr
        ⟨operator, _, _, e', _, rfl, rfl, (same.mp before).2, ?_, ?_, rfl⟩⟩
      · rw [stop_lexemeAt]
        exact ran
      · exact comparison?_none follows tiling _ _

theorem comparison_understands (operands : Understands operand operandPhrase afterComparable)
    (comparables : Understands comparable comparablePhrase afterComparable)
    (same : ∀ {place cs e},
      comparablePhrase place cs e ↔ operandPhrase place cs e ∧ e.isComparable = true) :
    Understands (comparison operand comparable) (ComparisonText operandPhrase comparablePhrase)
      afterComparison where
  recognises.sound := comparison_sound operands comparables same
  recognises.complete := comparison_complete operands comparables same
  proper := comparisonText_proper operands.proper comparables.proper

end

end

/-! ## Conjunctions and disjunctions -/

theorem joinedText_iff {s : Symbol} {join : List Expression → Span → Expression}
    {phrase : Phrase Expression} (proper : Proper phrase) {place : Position} {cs : List Char}
    {e : Expression} :
    JoinedText s.chars join phrase place cs e ↔
      ∃ es, Separated s.chars phrase place cs es ∧ e = joined join es := by
  have several {x y : Expression} {es : List Expression}
      (items : Separated s.chars phrase place cs (x :: y :: es)) :
      joined join (x :: y :: es) = join (x :: y :: es) (spanOf place cs) := by
    have spans : (x :: y :: es).foldl (fun span e => span.join e.span)
        ⟨place.offset, place.offset⟩ = spanOf place cs :=
      joined_spans proper items (Nat.le_refl _) (Nat.le_refl _)
    have first : Span.join ⟨place.offset, place.offset⟩ x.span = x.span := by
      cases items with
      | cons head _ _ _ =>
        simp only [proper.spanned head, spanOf, Span.join, offset_afterAll]
        congr 1 <;> omega
    rw [List.foldl_cons, first] at spans
    rw [joined, spans]
    exact List.cons_ne_nil y es
  constructor
  · intro derived
    cases derived with
    | single only => exact ⟨[e], .single only, rfl⟩
    | @several es items two =>
      obtain _ | ⟨x, _ | ⟨y, es⟩⟩ := es
      · cases two
      · simp at two
      · exact ⟨_, items, (several items).symm⟩
  · rintro ⟨es, items, rfl⟩
    obtain _ | ⟨x, _ | ⟨y, es⟩⟩ := es
    · cases items
    · cases items with
      | single only => exact .single only
      | cons _ _ _ tail => cases tail
    · rw [several items]
      exact .several items (by simp)

theorem joined_understands {item : Parser Expression} {phrase : Phrase Expression} {s : Symbol}
    {c : Char} {ends : List Char} {join : List Expression → Span → Expression}
    (understood : Understands item phrase (c :: ends)) (begins : s.chars.head? = some c)
    (other : c ∉ ends) (free : ∀ d, s.absorbs d = false)
    (spans : ∀ es span, (join es span).span = span) :
    Understands (do return joined join (← separated s item)) (JoinedText s.chars join phrase)
      ends where
  recognises := by
    have list := separated_recognises understood.recognises begins other free
    refine ⟨fun tiling ran => ?_, ?_⟩
    · obtain ⟨es, c, found, ended⟩ := bind_eq_ok.mp ran
      obtain ⟨_, rest, left, rfl, ⟨blank, text, spaced, rfl, derived⟩, tail, rfl⟩ :=
        list.sound tiling found
      cases ended
      exact ⟨_, rest, left, rfl, ⟨blank, text, spaced, rfl,
        (joinedText_iff understood.proper).mpr ⟨es, derived, rfl⟩⟩, tail, rfl⟩
    · rintro place _ rest left e ⟨blank, text, spaced, rfl, derived⟩ follows tiling finish
      obtain ⟨es, items, rfl⟩ := (joinedText_iff understood.proper).mp derived
      obtain ⟨ls, tiled, ran⟩ :=
        list.complete ⟨blank, text, spaced, rfl, items⟩ follows tiling finish
      refine ⟨ls, tiled, ?_⟩
      rw [bind_of_ok ran, pure_run]
  proper := joinedText_proper understood.proper spans

/-! ## Levels -/

/-- The parsers of a level understand its phrases. -/
theorem expression_understands {innerOperand inner : Option (Parser Expression)}
    {deeperOperand deeper : Option (Phrase Expression)}
    (operands : Option.Rel (Understands · · afterComparable) innerOperand deeperOperand)
    (understood : Option.Rel (Understands · · afterExpression) inner deeper) (limit : Nat) :
    Understands (disjunction (conjunction (comparison (operand limit innerOperand inner)
      (comparable limit inner)))) (ExpressionText deeperOperand deeper) afterExpression := by
  have conjunctions : Understands (conjunction (comparison (operand limit innerOperand inner)
      (comparable limit inner))) (JoinedText Symbol.both.chars .and (ComparisonText
        (OperandText deeperOperand deeper) (ComparableText deeper))) afterConjunction := by
    refine joined_understands ?_ rfl (by decide) (fun _ => rfl) fun _ _ => rfl
    exact comparison_understands (operand_understands operands understood limit)
      (comparable_understands understood limit) comparableText_iff
  exact joined_understands (s := .either) conjunctions rfl (by decide) (fun _ => rfl) fun _ _ => rfl

theorem levels_understand (limit n : Nat) :
    Understands (operandAt limit n) (operandText n) afterComparable ∧
      Understands (expressionAt limit n) (expressionText n) afterExpression := by
  induction n with
  | zero => exact ⟨operand_understands .none .none limit, expression_understands .none .none limit⟩
  | succ n ih =>
    obtain ⟨operands, expressions⟩ := ih
    exact ⟨operand_understands (.some operands) (.some expressions) limit,
      expression_understands (.some operands) (.some expressions) limit⟩

theorem filter_recognises (limit : Nat) :
    Recognises (filter limit) (Spaced (filterText limit)) (Follows afterExpression) := by
  cases limit with
  | zero =>
    refine ⟨fun _ ran => absurd ran fail_ne_ok, ?_⟩
    rintro place _ rest left e ⟨blank, text, -, -, phrase, same, -⟩
    cases same
  | succ n => exact (levels_understand (n + 1) n).2.recognises

/-! ## Whole texts -/

theorem wholeQuery_eq_ok {limit : Nat} {c : Cursor} {r : Query Expression × Cursor} :
    wholeQuery limit c = .ok r ↔
      c.place.offset = 0 ∧ ∃ c₁ tree c₂, take .dollar .dollar c = .ok ((), c₁) ∧
        query (filter limit) .document 0 c₁ = .ok (tree, c₂) ∧ c₂.ahead = [] ∧
          c₂.finish.offset = tree.span.stop ∧ r = (tree, c₂) := by
  unfold wholeQuery
  rw [get_bind]
  by_cases leading : c.place.offset = 0
  · rw [if_neg (by simpa using leading)]
    simp only [leading, true_and, bind_eq_ok]
    constructor
    · rintro ⟨⟨⟩, c₁, took, tree, c₂, found, _, _, ⟨⟩, ended⟩
      split at ended
      · exact absurd ended expected_bind_ne_ok
      · next none =>
        split at ended
        · exact absurd ended fail_bind_ne_ok
        · next stops =>
          cases ended
          exact ⟨c₁, tree, c₂, took, found, by simpa using none, by simpa using stops, rfl⟩
    · rintro ⟨c₁, tree, c₂, took, found, none, stops, rfl⟩
      refine ⟨(), c₁, took, tree, c₂, found, c₂, c₂, rfl, ?_⟩
      rw [if_neg (by simp [none]), if_neg (by simp [stops])]
      rfl
  · rw [if_pos leading]
    exact ⟨fun ran => absurd ran fail_bind_ne_ok, fun ⟨same, _⟩ => absurd same leading⟩

theorem parse_eq_ok {limit : Nat} {source : String} {tree : Query Expression} :
    parse limit source = .ok tree ↔
      ∃ ls c, Tiling .start source.toList ls ∧
        wholeQuery limit (cursorAt .start ls (Position.start.afterAll source.toList)) =
          .ok (tree, c) := by
  have run (lexemes : Lexemes) : lexemes.parse limit = .ok tree ↔
      ∃ c, wholeQuery limit (cursorAt .start lexemes.lexemes lexemes.finish) = .ok (tree, c) := by
    show (wholeQuery limit (cursorAt .start lexemes.lexemes lexemes.finish)).map Prod.fst = _ ↔ _
    rw [map_eq_ok]
    constructor
    · rintro ⟨⟨_, c⟩, ran, rfl⟩
      exact ⟨c, ran⟩
    · rintro ⟨c, ran⟩
      exact ⟨_, ran, rfl⟩
  constructor
  · intro parsed
    cases read : Lexemes.read source with
    | error e =>
      rw [parse, read] at parsed
      cases parsed
    | ok lexemes =>
      rw [parse, read] at parsed
      obtain ⟨tiling, finish⟩ := read_eq_ok.mp read
      obtain ⟨c, ran⟩ := (run lexemes).mp parsed
      exact ⟨_, c, tiling, finish ▸ ran⟩
  · rintro ⟨ls, c, tiling, ran⟩
    have read : Lexemes.read source = .ok ⟨ls, Position.start.afterAll source.toList⟩ :=
      read_eq_ok.mpr ⟨tiling, rfl⟩
    rw [parse, read]
    exact (run _).mpr ⟨c, ran⟩

/-- What is read of the lexemes of a whole text is derived from the text. -/
theorem wholeQuery_sound {limit : Nat} {cs : List Char} {ls : List Lexeme} {finish : Position}
    {tree : Query Expression} {c : Cursor} (tiling : Tiling .start cs ls)
    (placed : finish = Position.start.afterAll cs)
    (ran : wholeQuery limit (cursorAt .start ls finish) = .ok (tree, c)) :
    QueryText (filterText limit) .document .start cs tree := by
  obtain ⟨leading, c₁, tree, c₂, took, found, none, stops, same⟩ := wholeQuery_eq_ok.mp ran
  cases same
  unfold take at took
  rw [get_bind] at took
  split at took
  · next seen =>
    obtain ⟨l, left, rfl, is⟩ := Cursor.sees_eq_true.mp seen
    obtain ⟨blank, rest, -, rfl, rfl, tail⟩ := tiling.symbol is
    -- The first lexeme is at the start of the text, and the query ends where the text does.
    have unspaced : blank = [] := offset_afterAll_eq.mp leading
    subst unspaced
    cases took
    obtain ⟨text, rest, left, rfl, ⟨segments, derived, rfl⟩, last, rfl⟩ :=
      (query_recognises (filter_recognises limit) .document 0).sound tail found
    cases none
    have nothing : rest = [] := by
      have behind : (((Position.start.after '$').afterAll text).afterAll rest).offset =
          ((Position.start.after '$').afterAll text).offset := by
        rw [← Position.afterAll_append]
        rw [placed] at stops
        exact stops
      exact offset_afterAll_eq.mp behind
    subst nothing
    refine ⟨text, segments, by rw [List.append_nil]; rfl, derived, ?_⟩
    rw [List.append_nil]
    rfl
  · exact absurd took expected_ne_ok

/-- A derivable text is tiled by lexemes of which its tree is read. -/
theorem wholeQuery_complete {limit : Nat} {cs : List Char} {tree : Query Expression}
    (derived : QueryText (filterText limit) .document .start cs tree) :
    ∃ ls c, Tiling .start cs ls ∧
      wholeQuery limit (cursorAt .start ls (Position.start.afterAll cs)) = .ok (tree, c) := by
  obtain ⟨rest, segments, rfl, derived, rfl⟩ := derived
  have ended : Tiling ((Position.start.afterAll ([] ++ ['$'])).afterAll rest) [] [] := .nil .nil
  obtain ⟨ls, tiled, ran⟩ := (query_recognises (filter_recognises limit) .document 0).complete
    ⟨segments, derived, rfl⟩ .nil ended (Position.start.afterAll ('$' :: rest))
  rw [List.append_nil] at tiled ran
  have marked := Tiling.mark .dollar .nil (fun _ _ => rfl) tiled
  rw [List.append_nil] at marked
  have took (finish : Position) : take .dollar .dollar
      (cursorAt .start (lexemeAt .start [] (.symbol .dollar) ['$'] :: ls) finish) =
        .ok ((), cursorAt (Position.start.after '$') ls finish) := rfl
  exact ⟨_, _, marked, wholeQuery_eq_ok.mpr ⟨rfl, _, _, _, took _, ran, rfl, rfl, rfl⟩⟩

theorem queryText_of_parse {limit : Nat} {source : String} {tree : Query Expression}
    (parsed : parse limit source = .ok tree) :
    QueryText (filterText limit) .document .start source.toList tree := by
  obtain ⟨ls, c, tiling, ran⟩ := parse_eq_ok.mp parsed
  exact wholeQuery_sound tiling rfl ran

theorem parse_of_queryText {limit : Nat} {source : String} {tree : Query Expression}
    (derived : QueryText (filterText limit) .document .start source.toList tree) :
    parse limit source = .ok tree :=
  parse_eq_ok.mpr (wholeQuery_complete derived)

/-- A text is read as a tree exactly if the grammar derives the tree from it. -/
theorem parse_iff_derivation (limit : Nat) (source : String) (tree : Query Expression) :
    parse limit source = .ok tree ↔ Grammar.Derivation limit source tree := by
  rw [parse_eq_ok, Grammar.Derivation]
  constructor
  · rintro ⟨ls, c, tiling, ran⟩
    exact wholeQuery_sound tiling rfl ran
  · exact wholeQuery_complete

end JsonPath
