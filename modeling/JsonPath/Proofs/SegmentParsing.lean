import JsonPath.Proofs.Recognition

/-!
# Parsing selectors and segments

The parsers of selectors, segments and queries recognise the phrases of those names, if the parser
of filters recognises the phrase that filters are given by.

Results:
1. `indexOrSlice_recognises`, `selector_recognises`, `bracketed_recognises`: between brackets.
2. `segments_recognises`, `query_recognises`: segments, and a query behind its root.
-/

namespace JsonPath

open Grammar JsonPath.Parser

/-! ## What follows phrases -/

def afterExpression : List Char := [',', ']', ')']

def afterConjunction : List Char := '|' :: afterExpression

def afterComparison : List Char := '&' :: afterConjunction

def afterComparable : List Char := ['=', '!', '<', '>'] ++ afterComparison

def afterSegment : List Char := ['.', '['] ++ afterComparable

/-- The characters that a phrase may have behind it, blank space aside. -/
def marks : List Char := ':' :: afterSegment

theorem not_marks {c : Char} (listed : c ∈ marks) :
    c.isDigit = false ∧ c ≠ '-' ∧ c ≠ '\'' ∧ c ≠ '"' ∧ isNameFirst c = false := by
  have all : marks.all beginsNoWord := by decide
  exact beginsNoWord_iff.mp (List.all_eq_true.mp all c listed)

theorem name_outside (name : String) {ends : List Char} (listed : ends ⊆ marks) :
    ends.any (Token.absorbs (.name name)) = false := by
  refine List.any_eq_false.mpr fun c member => ?_
  obtain ⟨noDigit, -, -, -, noName⟩ := not_marks (listed member)
  simp [Token.absorbs, isNameChar, noDigit, noName]

theorem number_outside (n : Numeral) {ends : List Char} (listed : ends ⊆ marks)
    (noPoint : '.' ∉ ends) : ends.any (Token.absorbs (.number n)) = false := by
  refine List.any_eq_false.mpr fun c member => ?_
  obtain ⟨noDigit, -, -, -, noName⟩ := not_marks (listed member)
  have other : c ≠ '.' := by
    rintro rfl
    exact noPoint member
  simp [Token.absorbs, isNameChar, noDigit, noName, other]

/-- The first lexeme of what follows a phrase is a symbol. -/
theorem Follows.symbol {ends rest : List Char} {place : Position} {l : Lexeme} {ls : List Lexeme}
    (follows : Follows ends rest) (tiling : Tiling place rest (l :: ls))
    (listed : ends ⊆ marks) :
    ∃ s c tail, l.token = .symbol s ∧ s.chars = c :: tail ∧ c ∈ ends := by
  obtain ⟨c, tail, text, first⟩ := follows.first tiling
  obtain ⟨noDigit, noMinus, noSingle, noDouble, noName⟩ := not_marks (listed first)
  obtain ⟨blank, token, word, rest, -, spelled, -, rfl, -⟩ := tiling.inverse
  rw [text_lexemeAt] at text
  cases spelled with
  | number spelled =>
    obtain ⟨d, rest, rfl, minus | digit⟩ := spelled.head
    · cases text
      exact absurd minus noMinus
    · cases text
      rw [digit] at noDigit
      cases noDigit
  | string spelled =>
    obtain ⟨quote, inside, quoted, -, rfl⟩ := spelled
    cases text
    rcases quoted with rfl | rfl
    · exact absurd rfl noSingle
    · exact absurd rfl noDouble
  | name named =>
    obtain ⟨d, rest, rfl, isFirst, -⟩ := named
    cases text
    rw [isFirst] at noName
    cases noName
  | @symbol s => exact ⟨s, c, tail, rfl, text, first⟩

/-! ## Indices and slices -/

theorem index?_number (numeral : Numeral) (text : List Char) (start : Position) (reached : Nat)
    (ls : List Lexeme) (finish : Position) :
    index? ⟨reached, ⟨.number numeral, text, start⟩ :: ls, finish⟩ =
      match indexOf numeral with
      | .ok n => .ok (some n, ⟨(start.afterAll text).offset, ls, finish⟩)
      | .error fault => fail fault ⟨reached, ⟨.number numeral, text, start⟩ :: ls, finish⟩ := by
  unfold index?
  rw [get_bind]
  cases read : indexOf numeral with
  | ok n =>
    simp only [read]
    rfl
  | error fault => simp only [read]

theorem index?_recognises :
    Recognises index? (fun _ => BoundText) (Follows [':', ',', ']']) where
  sound {place cs ls finish x c} tiling ran := by
    cases ls with
    | nil =>
      cases ran
      exact ⟨[], cs, [], rfl, .absent, tiling, rfl⟩
    | cons l left =>
      obtain ⟨blank, token, text, rest, spaced, spelled, rfl, rfl, tail⟩ := tiling.inverse
      cases spelled with
      | @number _ numeral spelled =>
        rw [cursorAt, lexemeAt, index?_number] at ran
        split at ran
        · next n read =>
          cases ran
          refine ⟨blank ++ text, rest, left, by simp,
            .present spaced (integerText_iff.mpr ⟨numeral, spelled, read⟩), tail, ?_⟩
          rw [cursorAt, Position.afterAll_append]
        · exact absurd ran fail_ne_ok
      | _ =>
        cases ran
        exact ⟨[], _, _, rfl, .absent, tiling, rfl⟩
  complete {place text rest left x} derived follows tiling finish := by
    cases derived with
    | absent =>
      refine ⟨[], tiling, ?_⟩
      cases left with
      | nil => rfl
      | cons l left =>
        obtain ⟨s, c, tail, is, -⟩ := follows.symbol tiling (by decide)
        obtain ⟨token, text, start⟩ := l
        cases is
        rfl
    | @present blank cs n spaced integer =>
      obtain ⟨numeral, spelled, read⟩ := integerText_iff.mp integer
      have outside := number_outside numeral (by decide : [':', ',', ']'] ⊆ marks) (by decide)
      refine ⟨[lexemeAt place blank (.number numeral) cs], ?_, ?_⟩
      · rw [List.append_assoc]
        exact .lexeme spaced (.number spelled) (follows.apart outside) tiling
      · rw [cursorAt, lexemeAt, List.singleton_append, index?_number, read, cursorAt,
          Position.afterAll_append]

/-- A bound in front of blank space is blank space in front of a first bound. -/
theorem startText_iff {cs : List Char} {n : Option Int} :
    (∃ text blank, BoundText text n ∧ Blank blank ∧ cs = text ++ blank) ↔
      ∃ blank text, Blank blank ∧ StartText text n ∧ cs = blank ++ text := by
  constructor
  · rintro ⟨text, blank, bound, spaced, rfl⟩
    cases bound with
    | absent => exact ⟨blank, [], spaced, .absent, by simp⟩
    | present before integer =>
      exact ⟨_, _, before, .present integer spaced, List.append_assoc ..⟩
  · rintro ⟨blank, text, spaced, started, rfl⟩
    cases started with
    | absent => exact ⟨[], blank, .absent, spaced, by simp⟩
    | present integer behind =>
      exact ⟨_, _, .present spaced integer, behind, (List.append_assoc ..).symm⟩

/-- A bound and the colon behind it are taken in front of anything. -/
theorem bound_colon {place : Position} {bound between rest : List Char} {n : Option Int}
    {ls : List Lexeme} (bounded : BoundText bound n) (spaced : Blank between)
    (tiling : Tiling (place.afterAll (bound ++ (between ++ [':']))) rest ls) (finish : Position) :
    ∃ ls', Tiling place (bound ++ (between ++ ':' :: rest)) (ls' ++ ls) ∧
      ∀ {α : Type} (more other : Option Int → Parser α),
        (do
          let n ← index?
          if (← get).sees .colon then
            advance
            more n
          else other n : Parser α) (cursorAt place (ls' ++ ls) finish) =
          more n (cursorAt (place.afterAll (bound ++ (between ++ [':']))) ls finish) := by
  rw [Position.afterAll_append] at tiling
  have colon : Tiling (place.afterAll bound) (between ++ (Symbol.colon.chars ++ rest))
      (lexemeAt (place.afterAll bound) between (.symbol .colon) [':'] :: ls) :=
    .mark .colon spaced (fun _ _ => rfl) tiling
  have stays : Follows [':', ',', ']'] (between ++ (Symbol.colon.chars ++ rest)) :=
    .spaced spaced (.cons rfl (by simp))
  obtain ⟨ls', tiled, ran⟩ := index?_recognises.complete bounded stays colon finish
  refine ⟨ls' ++ [lexemeAt (place.afterAll bound) between (.symbol .colon) [':']], ?_, ?_⟩
  · simpa [Symbol.chars] using tiled
  · intro α more other
    rw [List.append_assoc, List.singleton_append, bind_of_ok ran, get_bind,
      if_pos (by simp [Cursor.sees, cursorAt]), cursorAt, advance_bind, stop_lexemeAt,
      ← Position.afterAll_append, cursorAt]

theorem indexOrSlice_recognises :
    Recognises indexOrSlice (Spaced fun _ => PositionText) (Follows [',', ']']) where
  sound {place cs ls finish x c} tiling ran := by
    obtain ⟨start, c', first, ran⟩ := bind_eq_ok.mp ran
    obtain ⟨bound, rest, left, rfl, started, tiling₁, rfl⟩ := index?_recognises.sound tiling first
    rw [get_bind] at ran
    split at ran
    · next seen =>
      obtain ⟨l, left, rfl, is⟩ := Cursor.sees_eq_true.mp seen
      obtain ⟨between, rest, spaced, rfl, rfl, tiling₂⟩ := tiling₁.symbol is
      obtain ⟨blank, begun, spaced, started, same⟩ := startText_iff.mp ⟨_, _, started, spaced, rfl⟩
      rw [cursorAt, advance_bind, stop_lexemeAt] at ran
      obtain ⟨stop, c', second, ran⟩ := bind_eq_ok.mp ran
      obtain ⟨last, rest, left, rfl, stopped, tiling₃, rfl⟩ :=
        index?_recognises.sound tiling₂ second
      rw [get_bind] at ran
      split at ran
      · next seen =>
        obtain ⟨l, left, rfl, is⟩ := Cursor.sees_eq_true.mp seen
        obtain ⟨before, rest, spacedBefore, rfl, rfl, tiling₄⟩ := tiling₃.symbol is
        rw [cursorAt, advance_bind, stop_lexemeAt] at ran
        obtain ⟨step, c', third, ran⟩ := bind_eq_ok.mp ran
        obtain ⟨width, rest, left, rfl, stepped, tiling₅, rfl⟩ :=
          index?_recognises.sound tiling₄ third
        cases ran
        have whole : bound ++ (between ++ ':' :: (last ++ (before ++ ':' :: width))) =
            blank ++ (begun ++ ':' :: (last ++ (before ++ ':' :: width))) := by
          rw [← List.append_assoc, same, List.append_assoc]
        refine ⟨bound ++ (between ++ ':' :: (last ++ (before ++ ':' :: width))), rest, left,
          by simp [Symbol.chars],
          ⟨blank, _, spaced, whole, .stepped started stopped spacedBefore stepped⟩, ?_, ?_⟩
        · simpa [Position.afterAll_append, Symbol.chars] using tiling₅
        · simp [cursorAt, Position.afterAll_append, Symbol.chars]
      · cases ran
        have whole : bound ++ (between ++ ':' :: last) = blank ++ (begun ++ ':' :: last) := by
          rw [← List.append_assoc, same, List.append_assoc]
        refine ⟨bound ++ (between ++ ':' :: last), rest, left, by simp [Symbol.chars],
          ⟨blank, _, spaced, whole, .slice started stopped⟩, ?_, ?_⟩
        · simpa [Position.afterAll_append, Symbol.chars] using tiling₃
        · simp [cursorAt, Position.afterAll_append, Symbol.chars]
    · split at ran
      · cases ran
        cases started with
        | present spaced integer =>
          exact ⟨_, rest, left, rfl, ⟨_, _, spaced, rfl, .index integer⟩, tiling₁, rfl⟩
      · exact absurd ran expected_ne_ok
  complete {place text rest left x} derived follows tiling finish := by
    have behind : Follows [':', ',', ']'] rest := follows.mono (List.subset_cons_self ..)
    have unseen : ∀ place, (cursorAt place left finish).sees .colon = false :=
      fun place => follows.not_sees tiling (by decide)
    obtain ⟨blank, text, spaced, rfl, derived⟩ := derived
    cases derived with
    | index integer =>
      obtain ⟨ls, tiled, ran⟩ :=
        index?_recognises.complete (.present spaced integer) behind tiling finish
      refine ⟨ls, tiled, ?_⟩
      rw [indexOrSlice, bind_of_ok ran, get_bind, unseen]
      rfl
    | @slice first second start stop started stopped =>
      obtain ⟨bound, between, bounded, spaced, same⟩ :=
        startText_iff.mpr ⟨blank, first, spaced, started, rfl⟩
      have whole : blank ++ (first ++ ':' :: second) = bound ++ (between ++ [':']) ++ second := by
        rw [← List.append_assoc, same]
        simp
      rw [whole, Position.afterAll_append] at tiling ⊢
      obtain ⟨ls, tiled, ran⟩ := index?_recognises.complete stopped behind tiling finish
      obtain ⟨ls', tiled', ran'⟩ := bound_colon bounded spaced tiled finish
      refine ⟨ls' ++ ls, by simpa using tiled', ?_⟩
      rw [indexOrSlice, List.append_assoc, ran', bind_of_ok ran, get_bind, unseen]
      rfl
    | @stepped first second blank' third start stop step started stopped spaced' stepped =>
      -- The text is cut behind each colon: up to there the parser goes on whatever follows.
      obtain ⟨bound, between, bounded, spaced, same⟩ :=
        startText_iff.mpr ⟨blank, first, spaced, started, rfl⟩
      have whole : blank ++ (first ++ ':' :: (second ++ (blank' ++ ':' :: third))) =
          bound ++ (between ++ [':']) ++ (second ++ (blank' ++ [':']) ++ third) := by
        rw [← List.append_assoc, same]
        simp
      rw [whole, Position.afterAll_append _ _ (_ ++ third), Position.afterAll_append _ _ third]
        at tiling ⊢
      obtain ⟨ls, tiled, ran⟩ := index?_recognises.complete stepped behind tiling finish
      obtain ⟨ls₂, tiled₂, ran₂⟩ := bound_colon stopped spaced' tiled finish
      obtain ⟨ls₁, tiled₁, ran₁⟩ := bound_colon bounded spaced tiled₂ finish
      refine ⟨ls₁ ++ (ls₂ ++ ls), by simpa using tiled₁, ?_⟩
      rw [indexOrSlice, List.append_assoc, List.append_assoc, ran₁, ran₂, bind_of_ok ran]
      rfl

/-! ## Selectors -/

/-- Where an index or a slice is read, a selector is read as that. -/
theorem selector_of_indexOrSlice {filter : Parser Expression} {c : Cursor}
    {r : Selector Expression × Cursor} (ran : indexOrSlice c = .ok r) :
    selector filter c = .ok r := by
  obtain ⟨reached, ls, finish⟩ := c
  cases ls with
  | nil => cases ran
  | cons l ls =>
    obtain ⟨token, text, start⟩ := l
    cases token with
    | number numeral => exact ran
    | symbol s =>
      cases s with
      | colon => exact ran
      | _ => cases ran
    | _ => cases ran

section

variable {filter : Parser Expression} {phrase : Phrase Expression}

theorem selector_question (place : Position) (blank : List Char) (reached : Nat) (ls : List Lexeme)
    (finish : Position) :
    selector filter ⟨reached, lexemeAt place blank (.symbol .question) ['?'] :: ls, finish⟩ =
      (filter >>= fun e => pure (Selector.filter e) : Parser (Selector Expression))
        (cursorAt (place.afterAll (blank ++ ['?'])) ls finish) := by
  rw [cursorAt, ← stop_lexemeAt place blank (.symbol .question)]
  rfl

theorem selector_recognises
    (recognised : Recognises filter (Spaced phrase) (Follows afterExpression)) :
    Recognises (selector filter) (Spaced (SelectorText phrase)) (Follows [',', ']']) where
  sound {place cs ls finish x c} tiling ran := by
    cases ls with
    | nil => cases ran
    | cons l left =>
      have position (ran : indexOrSlice (cursorAt place (l :: left) finish) = .ok (x, c)) :
          Taken (Spaced (SelectorText phrase)) place cs finish x c :=
        (indexOrSlice_recognises.sound tiling ran).mono
          fun _ ⟨blank, text, spaced, whole, derived⟩ =>
            ⟨blank, text, spaced, whole, .position derived⟩
      obtain ⟨blank, token, text, rest, spaced, spelled, rfl, rfl, tail⟩ := tiling.inverse
      cases spelled with
      | number => exact position ran
      | string spelled =>
        cases ran
        exact tail.taken spaced (.name spelled) finish
      | name => cases ran
      | @symbol s =>
        cases s with
        | star =>
          cases ran
          exact tail.taken spaced SelectorText.wildcard finish
        | question =>
          obtain ⟨e, c', found, ended⟩ :=
            bind_eq_ok.mp ((selector_question place blank _ left finish).symm.trans ran)
          cases ended
          exact .behind spaced (recognised.sound tail found) fun _ predicate _ => .filter predicate
        | colon => exact position ran
        | _ => cases ran
  complete {place text rest left x} derived follows tiling finish := by
    obtain ⟨blank, text, spaced, rfl, derived⟩ := derived
    cases derived with
    | @name _ value string =>
      refine ⟨[lexemeAt place blank (.string value) text], ?_, ?_⟩
      · rw [List.append_assoc]
        exact .lexeme spaced (.string string) (fun _ _ => rfl) tiling
      · rw [selector, get_bind, cursorAt, cursorAt, ← stop_lexemeAt place blank (.string value)]
        rfl
    | wildcard =>
      refine ⟨[lexemeAt place blank (.symbol .star) ['*']], ?_, ?_⟩
      · rw [List.append_assoc]
        exact .mark .star spaced (fun _ _ => rfl) tiling
      · rw [selector, get_bind, cursorAt, cursorAt, ← stop_lexemeAt place blank (.symbol .star)]
        rfl
    | position position =>
      obtain ⟨ls, tiled, ran⟩ :=
        indexOrSlice_recognises.complete ⟨blank, text, spaced, rfl, position⟩ follows tiling finish
      exact ⟨ls, tiled, selector_of_indexOrSlice ran⟩
    | @filter cs e predicate =>
      have whole : blank ++ '?' :: cs = blank ++ ['?'] ++ cs := by simp
      rw [whole, Position.afterAll_append] at tiling ⊢
      have derived : Spaced phrase (place.afterAll (blank ++ ['?'])) cs e := by
        rwa [Position.afterAll_append]
      obtain ⟨ls, tiled, ran⟩ :=
        recognised.complete derived (follows.mono (by decide)) tiling finish
      refine ⟨lexemeAt place blank (.symbol .question) ['?'] :: ls, ?_, ?_⟩
      · rw [List.append_assoc, List.append_assoc]
        exact .mark .question spaced (fun _ _ => rfl) tiled
      · rw [cursorAt, List.cons_append, selector_question, bind_of_ok ran, pure_run]

theorem bracketed_recognises
    (recognised : Recognises filter (Spaced phrase) (Follows afterExpression)) :
    Recognises (bracketed filter) (BracketText phrase) (fun _ => True) := by
  have list : Recognises (separated .comma (selector filter))
      (Spaced (Separated [','] (SelectorText phrase))) (Follows [']']) :=
    separated_recognises (selector_recognises recognised) rfl (by decide) fun _ => rfl
  refine ⟨fun tiling ran => ?_, fun derived _ tiling finish => ?_⟩
  · obtain ⟨selectors, c, found, ran⟩ := bind_eq_ok.mp ran
    obtain ⟨_, c', closed, ended⟩ := bind_eq_ok.mp ran
    cases ended
    exact enclosed_sound rfl list tiling found closed
  · obtain ⟨ls, c, tiled, found, closed⟩ := enclosed_complete (s := .closeBracket) rfl
      (fun _ => rfl) list (fun _ _ spaced => .spaced spaced (.cons rfl (by simp)))
      .commaOrBracket derived tiling finish
    refine ⟨ls, tiled, ?_⟩
    rw [bracketed, bind_of_ok found, bind_of_ok closed, pure_run]

/-! ## Segments -/

theorem shorthand_sound {marker : Lexeme} {kind : SegmentKind} {cs : List Char} {ls : List Lexeme}
    {finish : Position} {x : Segment Expression} {c : Cursor} (tiling : Tiling marker.stop cs ls)
    (ran : shorthand marker kind (cursorAt marker.stop ls finish) = .ok (x, c)) :
    Taken (fun _ text x => ∃ s, ShorthandText text s ∧ x = ⟨kind, [s]⟩) marker.stop cs finish x c
    := by
  unfold shorthand at ran
  rw [get_bind] at ran
  split at ran
  · next touching =>
    cases ls with
    | nil => cases ran
    | cons l left =>
      obtain ⟨blank, token, text, rest, -, spelled, rfl, rfl, tail⟩ := tiling.inverse
      cases touches_iff.mp touching
      cases spelled with
      | name named =>
        cases ran
        exact ⟨text, rest, left, rfl, ⟨_, .name named, rfl⟩, tail, rfl⟩
      | @symbol s =>
        cases s with
        | star =>
          cases ran
          exact ⟨['*'], rest, left, rfl, ⟨_, .wildcard, rfl⟩, tail, rfl⟩
        | _ => cases ran
      | _ => cases ran
  · exact absurd ran fail_ne_ok

theorem shorthand_complete {marker : Lexeme} {text rest : List Char} {left : List Lexeme}
    {s : Selector Expression} (derived : ShorthandText text s) (follows : Follows afterSegment rest)
    (tiling : Tiling (marker.stop.afterAll text) rest left) (kind : SegmentKind)
    (finish : Position) :
    ∃ token, Tiling marker.stop (text ++ rest) (lexemeAt marker.stop [] token text :: left) ∧
      token ≠ .symbol .openBracket ∧
      shorthand marker kind (cursorAt marker.stop (lexemeAt marker.stop [] token text :: left)
        finish) = .ok (⟨kind, [s]⟩, cursorAt (marker.stop.afterAll text) left finish) := by
  have touching (token : Token) : marker.touches
      (cursorAt marker.stop (lexemeAt marker.stop [] token text :: left) finish).place = true :=
    (touches_iff.mpr rfl : marker.touches (marker.stop.afterAll []) = true)
  cases derived with
  | wildcard =>
    have tiled : Tiling marker.stop ([] ++ (Symbol.star.chars ++ rest))
        (lexemeAt marker.stop [] (.symbol .star) ['*'] :: left) :=
      .mark .star .nil (fun _ _ => rfl) tiling
    refine ⟨.symbol .star, tiled, nofun, ?_⟩
    rw [shorthand, get_bind, if_pos (touching (.symbol .star))]
    rfl
  | name named =>
    have outside := name_outside (String.ofList text) (by decide : afterSegment ⊆ marks)
    have tiled : Tiling marker.stop ([] ++ (text ++ rest))
        (lexemeAt marker.stop [] (.name (String.ofList text)) text :: left) :=
      .lexeme .nil (.name named) (follows.apart outside) tiling
    refine ⟨.name (String.ofList text), tiled, nofun, ?_⟩
    rw [shorthand, get_bind, if_pos (touching (.name (String.ofList text)))]
    rfl

section

variable {marker : Lexeme} (reached : Nat) (ls : List Lexeme) (finish : Position)

theorem segment?_dot (is : marker.token = .symbol .dot) :
    segment? filter ⟨reached, marker :: ls, finish⟩ =
      (shorthand marker .child >>= fun s => pure (some s) : Parser (Option (Segment Expression)))
        (cursorAt marker.stop ls finish) := by
  simp only [segment?, get_bind, is]
  rfl

theorem segment?_bracket (is : marker.token = .symbol .openBracket) :
    segment? filter ⟨reached, marker :: ls, finish⟩ =
      (bracketed filter >>= fun ss => pure (some ⟨.child, ss⟩) :
        Parser (Option (Segment Expression))) (cursorAt marker.stop ls finish) := by
  simp only [segment?, get_bind, is]
  rfl

theorem segment?_dots (is : marker.token = .symbol .dots) :
    segment? filter ⟨reached, marker :: ls, finish⟩ =
      (if (cursorAt marker.stop ls finish).sees .openBracket &&
          marker.touches (cursorAt marker.stop ls finish).place then
        advance >>= fun _ => bracketed filter >>= fun ss => pure (some ⟨.descendant, ss⟩)
      else shorthand marker .descendant >>= fun s => pure (some s) :
        Parser (Option (Segment Expression))) (cursorAt marker.stop ls finish) := by
  simp only [segment?, get_bind, is]
  rfl

end

/-- A segment is taken, or nothing is. -/
theorem segment?_sound
    (recognised : Recognises filter (Spaced phrase) (Follows afterExpression)) {place : Position}
    {cs : List Char} {ls : List Lexeme} {finish : Position} {x? : Option (Segment Expression)}
    {c : Cursor} (tiling : Tiling place cs ls)
    (ran : segment? filter (cursorAt place ls finish) = .ok (x?, c)) :
    x? = none ∧ c = cursorAt place ls finish ∨
      ∃ x, x? = some x ∧ Taken (Spaced (SegmentText phrase)) place cs finish x c := by
  cases ls with
  | nil =>
    cases ran
    exact .inl ⟨rfl, rfl⟩
  | cons l left =>
    obtain ⟨blank, token, text, rest, spaced, spelled, rfl, rfl, tail⟩ := tiling.inverse
    cases spelled with
    | @symbol s =>
      cases s with
      | dot =>
        obtain ⟨x, c', found, ended⟩ :=
          bind_eq_ok.mp ((segment?_dot _ left finish rfl).symm.trans ran)
        have stop := stop_lexemeAt place blank (.symbol .dot) Symbol.dot.chars
        have taken := shorthand_sound (stop ▸ tail) found
        cases ended
        rw [stop] at taken
        refine .inr ⟨x, rfl, .behind spaced taken ?_⟩
        rintro _ ⟨s, short, rfl⟩ _
        exact .dot short
      | dots =>
        have ran := (segment?_dots _ left finish rfl).symm.trans ran
        have stop := stop_lexemeAt place blank (.symbol .dots) Symbol.dots.chars
        split at ran
        · next bracket =>
          obtain ⟨seen, touching⟩ := Bool.and_eq_true_iff.mp bracket
          obtain ⟨l, left, rfl, is⟩ := Cursor.sees_eq_true.mp seen
          obtain ⟨between, rest, -, rfl, rfl, next⟩ := tail.symbol is
          -- The bracket touches the dots, so there is no blank space between them.
          rw [← stop] at touching
          cases touches_iff.mp touching
          rw [cursorAt, advance_bind, stop_lexemeAt] at ran
          obtain ⟨selectors, c', found, ended⟩ := bind_eq_ok.mp ran
          have taken := (bracketed_recognises recognised).sound next found
          cases ended
          rw [← Position.afterAll_append, List.append_assoc] at taken
          have whole : Taken (Spaced (SegmentText phrase)) place
              (blank ++ (['.', '.', '['] ++ rest)) finish ⟨.descendant, selectors⟩ c :=
            .behind spaced taken fun _ bracketed _ => .dotsBracket bracketed
          exact .inr ⟨_, rfl, whole⟩
        · obtain ⟨x, c', found, ended⟩ := bind_eq_ok.mp ran
          have taken := shorthand_sound (stop ▸ tail) found
          cases ended
          rw [stop] at taken
          refine .inr ⟨x, rfl, .behind spaced taken ?_⟩
          rintro _ ⟨s, short, rfl⟩ _
          exact .dots short
      | openBracket =>
        obtain ⟨selectors, c', found, ended⟩ :=
          bind_eq_ok.mp ((segment?_bracket _ left finish rfl).symm.trans ran)
        rw [stop_lexemeAt] at found
        have taken := (bracketed_recognises recognised).sound tail found
        cases ended
        exact .inr ⟨_, rfl, .behind spaced taken fun _ bracketed _ => .bracket bracketed⟩
      | _ =>
        cases ran
        exact .inl ⟨rfl, rfl⟩
    | _ =>
      cases ran
      exact .inl ⟨rfl, rfl⟩

/-- A shorthand does not begin with a point. -/
theorem shorthand_apart {cs rest : List Char} {s : Selector Expression}
    (short : ShorthandText cs s) : Apart (.symbol .dot) (cs ++ rest) := by
  intro c first
  cases short with
  | wildcard =>
    cases first
    rfl
  | name named =>
    obtain ⟨d, tail, rfl, isFirst, -⟩ := named
    cases first
    refine decide_eq_false fun point => ?_
    subst point
    exact absurd isFirst (by decide)

theorem segment?_complete
    (recognised : Recognises filter (Spaced phrase) (Follows afterExpression)) {place : Position}
    {text rest : List Char} {left : List Lexeme} {x : Segment Expression}
    (derived : Spaced (SegmentText phrase) place text x) (follows : Follows afterSegment rest)
    (tiling : Tiling (place.afterAll text) rest left) (finish : Position) :
    ∃ l ls, Tiling place (text ++ rest) (l :: (ls ++ left)) ∧
      segment? filter (cursorAt place (l :: (ls ++ left)) finish) =
        .ok (some x, cursorAt (place.afterAll text) left finish) := by
  obtain ⟨blank, text, spaced, rfl, derived⟩ := derived
  rw [List.append_assoc]
  cases derived with
  | @dot cs s short =>
    have place_eq : place.afterAll (blank ++ '.' :: cs) =
        (lexemeAt place blank (.symbol .dot) ['.']).stop.afterAll cs := by
      simp [Position.afterAll_append]
    rw [place_eq] at tiling ⊢
    obtain ⟨token, tiled, -, ran⟩ := shorthand_complete short follows tiling .child finish
    rw [stop_lexemeAt] at tiled
    refine ⟨lexemeAt place blank (.symbol .dot) ['.'], [_],
      .mark .dot spaced (shorthand_apart short) tiled, ?_⟩
    rw [cursorAt, segment?_dot _ _ _ rfl, stop_lexemeAt, List.singleton_append]
    rw [stop_lexemeAt] at ran
    rw [bind_of_ok ran, pure_run]
  | @dots cs s short =>
    have place_eq : place.afterAll (blank ++ '.' :: '.' :: cs) =
        (lexemeAt place blank (.symbol .dots) ['.', '.']).stop.afterAll cs := by
      simp [Position.afterAll_append]
    rw [place_eq] at tiling ⊢
    obtain ⟨token, tiled, other, ran⟩ := shorthand_complete short follows tiling .descendant finish
    rw [stop_lexemeAt] at tiled
    refine ⟨lexemeAt place blank (.symbol .dots) ['.', '.'], [_],
      .mark .dots spaced (fun _ _ => rfl) tiled, ?_⟩
    rw [cursorAt, segment?_dots _ _ _ rfl, stop_lexemeAt, List.singleton_append]
    rw [stop_lexemeAt] at ran
    have unseen (p q : Position) (t : List Char) : (cursorAt p
        (lexemeAt q [] token t :: left) finish).sees .openBracket = false := by
      simpa [Cursor.sees, cursorAt] using other
    rw [unseen, Bool.false_and, if_neg Bool.false_ne_true, bind_of_ok ran, pure_run]
  | @bracket cs selectors bracketed =>
    have place_eq : place.afterAll (blank ++ '[' :: cs) =
        (place.afterAll (blank ++ ['['])).afterAll cs := by
      simp [Position.afterAll_append]
    rw [place_eq] at tiling ⊢
    rw [← Position.afterAll_append] at bracketed
    obtain ⟨ls, tiled, ran⟩ :=
      (bracketed_recognises recognised).complete bracketed trivial tiling finish
    refine ⟨lexemeAt place blank (.symbol .openBracket) ['['], ls,
      .mark .openBracket spaced (fun _ _ => rfl) tiled, ?_⟩
    rw [cursorAt, segment?_bracket _ _ _ rfl, stop_lexemeAt, bind_of_ok ran, pure_run]
  | @dotsBracket cs selectors bracketed =>
    have place_eq : place.afterAll (blank ++ '.' :: '.' :: '[' :: cs) =
        ((place.afterAll (blank ++ ['.', '.'])).afterAll ([] ++ ['['])).afterAll cs := by
      simp [Position.afterAll_append]
    have bracketed : BracketText phrase
        ((place.afterAll (blank ++ ['.', '.'])).afterAll ([] ++ ['['])) cs selectors := by
      rw [Position.afterAll_append place blank]
      exact bracketed
    rw [place_eq] at tiling ⊢
    obtain ⟨ls, tiled, ran⟩ :=
      (bracketed_recognises recognised).complete bracketed trivial tiling finish
    have opened : Tiling (place.afterAll (blank ++ ['.', '.']))
        ([] ++ (Symbol.openBracket.chars ++ (cs ++ rest)))
        (lexemeAt (place.afterAll (blank ++ ['.', '.'])) [] (.symbol .openBracket) ['['] ::
          (ls ++ left)) := .mark .openBracket .nil (fun _ _ => rfl) tiled
    refine ⟨lexemeAt place blank (.symbol .dots) ['.', '.'], lexemeAt _ [] _ _ :: ls,
      .mark .dots spaced (fun _ _ => rfl) opened, ?_⟩
    have touching : (lexemeAt place blank (.symbol .dots) ['.', '.']).touches
        (place.afterAll (blank ++ ['.', '.'])) = true := by
      rw [← stop_lexemeAt place blank (.symbol .dots)]
      exact (touches_iff.mpr rfl : Lexeme.touches _ (Position.afterAll _ []) = true)
    rw [cursorAt, segment?_dots _ _ _ rfl, stop_lexemeAt,
      if_pos (by simpa [cursorAt, Cursor.sees, Cursor.place] using touching), cursorAt,
      List.cons_append, advance_bind, stop_lexemeAt]
    rw [cursorAt] at ran
    rw [bind_of_ok ran, pure_run]

theorem segment?_none {place : Position} {rest : List Char} {left : List Lexeme}
    (follows : Follows afterComparable rest) (tiling : Tiling place rest left) (reached : Nat)
    (finish : Position) :
    segment? filter ⟨reached, left, finish⟩ = .ok (none, ⟨reached, left, finish⟩) := by
  cases left with
  | nil => rfl
  | cons l left =>
    obtain ⟨s, c, tail, is, chars, listed⟩ := follows.symbol tiling (by decide)
    obtain ⟨token, text, start⟩ := l
    cases is
    cases s with
    | dot | dots | openBracket =>
      cases chars
      exact absurd listed (by decide)
    | _ => rfl

/-- What comes after a segment is another one or what comes after all of them. -/
theorem segments_follow {place : Position} {text rest : List Char} {ss : List (Segment Expression)}
    (derived : SegmentsText phrase place text ss) (follows : Follows afterComparable rest) :
    Follows afterSegment (text ++ rest) := by
  cases derived with
  | nil => exact follows.mono (List.subset_append_right ..)
  | cons head _ =>
    obtain ⟨blank, text, spaced, rfl, derived⟩ := head
    rw [List.append_assoc, List.append_assoc]
    refine .spaced spaced ?_
    cases derived <;> exact .cons rfl (by decide)

theorem manySegments_sound
    (recognised : Recognises filter (Spaced phrase) (Follows afterExpression)) (n : Nat)
    {place : Position} {cs : List Char} {ls : List Lexeme} {finish : Position}
    {ss : List (Segment Expression)} {c : Cursor} (tiling : Tiling place cs ls)
    (ran : manyUpTo (segment? filter) n (cursorAt place ls finish) = .ok (ss, c)) :
    Taken (SegmentsText phrase) place cs finish ss c := by
  induction n generalizing place cs ls ss with
  | zero =>
    cases ran
    exact ⟨[], cs, ls, rfl, .nil, tiling, rfl⟩
  | succ n ih =>
    obtain ⟨x?, c', first, ran⟩ := bind_eq_ok.mp ran
    obtain ⟨rfl, rfl⟩ | ⟨x, rfl, text, rest, left, rfl, derived, tail, rfl⟩ :=
      segment?_sound recognised tiling first
    · cases ran
      exact ⟨[], cs, ls, rfl, .nil, tiling, rfl⟩
    · obtain ⟨others, c', found, ended⟩ := bind_eq_ok.mp ran
      cases ended
      obtain ⟨more, rest, left, rfl, others, last, rfl⟩ := ih tail found
      rw [← Position.afterAll_append] at last ⊢
      exact ⟨text ++ more, rest, left, (List.append_assoc ..).symm, .cons derived others, last, rfl⟩

theorem manySegments_complete
    (recognised : Recognises filter (Spaced phrase) (Follows afterExpression)) {place : Position}
    {text : List Char} {ss : List (Segment Expression)}
    (derived : SegmentsText phrase place text ss) {rest : List Char} {left : List Lexeme}
    (follows : Follows afterComparable rest) (tiling : Tiling (place.afterAll text) rest left)
    (finish : Position) :
    ∃ ls, Tiling place (text ++ rest) (ls ++ left) ∧ ∀ n, ls.length ≤ n →
      manyUpTo (segment? filter) n (cursorAt place (ls ++ left) finish) =
        .ok (ss, cursorAt (place.afterAll text) left finish) := by
  induction derived with
  | @nil place =>
    -- What follows the segments begins none, even where there is fuel for another one.
    refine ⟨[], tiling, fun n _ => ?_⟩
    cases n with
    | zero => rfl
    | succ n =>
      rw [manyUpTo, List.nil_append, cursorAt, bind_of_ok (segment?_none follows tiling _ _)]
      rfl
  | @cons place text more s ss head tail ih =>
    rw [Position.afterAll_append] at tiling ⊢
    obtain ⟨ls, tiled, ran⟩ := ih tiling
    obtain ⟨l, first, tiled', ran'⟩ :=
      segment?_complete recognised head (segments_follow tail follows) tiled finish
    refine ⟨l :: (first ++ ls), by simpa using tiled', fun n enough => ?_⟩
    rw [List.length_cons, List.length_append] at enough
    cases n with
    | zero => omega
    | succ n =>
      rw [manyUpTo, List.cons_append, List.append_assoc, bind_of_ok ran']
      dsimp only
      rw [bind_of_ok (ran n (by omega)), pure_run]

theorem segments_recognises
    (recognised : Recognises filter (Spaced phrase) (Follows afterExpression)) :
    Recognises (many (segment? filter)) (SegmentsText phrase) (Follows afterComparable) where
  sound tiling ran := manySegments_sound recognised _ tiling ran
  complete derived follows tiling finish := by
    obtain ⟨ls, tiled, ran⟩ := manySegments_complete recognised derived follows tiling finish
    refine ⟨ls, tiled, ?_⟩
    rw [many, get_bind]
    exact ran _ (by simp [cursorAt])

/-- A query is its segments, once its root has been taken. -/
theorem query_recognises
    (recognised : Recognises filter (Spaced phrase) (Follows afterExpression)) (root : QueryRoot)
    (start : Nat) :
    Recognises (query filter root start)
      (fun place cs tree => ∃ segments, SegmentsText phrase place cs segments ∧
        tree = ⟨root, segments, ⟨start, (place.afterAll cs).offset⟩⟩)
      (Follows afterComparable) where
  sound tiling ran := by
    obtain ⟨segments, c, found, ended⟩ := bind_eq_ok.mp ran
    obtain ⟨text, rest, left, rfl, derived, tail, rfl⟩ :=
      (segments_recognises recognised).sound tiling found
    cases ended
    exact ⟨text, rest, left, rfl, ⟨segments, derived, rfl⟩, tail, rfl⟩
  complete := by
    rintro place text rest left tree ⟨segments, derived, rfl⟩ follows tiling finish
    obtain ⟨ls, tiled, ran⟩ :=
      (segments_recognises recognised).complete derived follows tiling finish
    refine ⟨ls, tiled, ?_⟩
    rw [query, bind_of_ok ran]
    rfl

end

end JsonPath
