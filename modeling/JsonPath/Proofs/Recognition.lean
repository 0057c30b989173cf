import JsonPath.Query.Parser
import JsonPath.Proofs.Tiling

/-!
# Parsers that recognise a phrase

A parser runs on lexemes and a phrase is made of characters; the tiling of the text connects the
two. `Recognises` holds of a parser and a phrase if the parser takes nothing else (`sound`), and
takes every text of the phrase that stands in front of something that may follow it (`complete`).

Results:
1. `take_recognises`: a symbol.
2. `separated_recognises`, `enclosed_sound`, `enclosed_complete`: lists and brackets.
3. `nested_recognises`: the next level, if there is one.
4. `integerText_iff`, `numberText_iff`: which numerals are indices and literals.
-/

namespace JsonPath

open Grammar

/-! ## Running a parser -/

namespace Parser

variable {α β : Type}

theorem bind_eq_ok {p : Parser α} {f : α → Parser β} {c : Cursor} {r : β × Cursor} :
    (p >>= f) c = .ok r ↔ ∃ x c', p c = .ok (x, c') ∧ f x c' = .ok r := by
  show (p c >>= fun r => f r.1 r.2) = _ ↔ _
  cases p c with
  | error e => simp [Bind.bind, Except.bind]
  | ok ran =>
    constructor
    · intro rest
      exact ⟨ran.1, ran.2, rfl, rest⟩
    · rintro ⟨x, c', same, rest⟩
      cases same
      exact rest

theorem bind_of_ok {p : Parser α} {c c' : Cursor} {x : α} (ran : p c = .ok (x, c'))
    (f : α → Parser β) : (p >>= f) c = f x c' := by
  show (p c >>= fun r => f r.1 r.2) = _
  rw [ran]
  rfl

theorem get_bind (f : Cursor → Parser α) (c : Cursor) : (get >>= f) c = f c c := rfl

theorem pure_run (x : α) (c : Cursor) : (pure x : Parser α) c = .ok (x, c) := rfl

theorem advance_run (reached : Nat) (l : Lexeme) (ls : List Lexeme) (finish : Position) :
    advance ⟨reached, l :: ls, finish⟩ = .ok ((), ⟨l.stop.offset, ls, finish⟩) := rfl

theorem advance_bind (reached : Nat) (l : Lexeme) (ls : List Lexeme) (finish : Position)
    (f : Unit → Parser α) :
    (advance >>= f) ⟨reached, l :: ls, finish⟩ = f () ⟨l.stop.offset, ls, finish⟩ := rfl

theorem fail_ne_ok {fault : SyntaxFault} {c : Cursor} {r : α × Cursor} :
    (fail fault : Parser α) c ≠ .ok r := nofun

theorem fail_bind_ne_ok {fault : SyntaxFault} {f : α → Parser β} {c : Cursor} {r : β × Cursor} :
    ((fail fault : Parser α) >>= f) c ≠ .ok r := nofun

theorem expected_ne_ok {expectation : Expectation} {c : Cursor} {r : α × Cursor} :
    (expected expectation : Parser α) c ≠ .ok r := nofun

theorem expected_bind_ne_ok {expectation : Expectation} {f : α → Parser β} {c : Cursor}
    {r : β × Cursor} : ((expected expectation : Parser α) >>= f) c ≠ .ok r := nofun

end Parser

open JsonPath.Parser

/-- The cursor at a place where the last lexeme ended. -/
def cursorAt (place : Position) (ls : List Lexeme) (finish : Position) : Cursor :=
  ⟨place.offset, ls, finish⟩

/-- A text begins with a phrase, and the cursor stands behind the phrase. -/
abbrev Taken {α : Type} (phrase : Phrase α) (place : Position) (cs : List Char) (finish : Position)
    (x : α) (c : Cursor) : Prop :=
  ∃ text rest left, cs = text ++ rest ∧ phrase place text x ∧
    Tiling (place.afterAll text) rest left ∧ c = cursorAt (place.afterAll text) left finish

/-- A parser takes the texts of a phrase, those that have in front of them what may follow, and no
others. -/
structure Recognises {α : Type} (p : Parser α) (phrase : Phrase α) (follow : List Char → Prop) :
    Prop where
  sound {place : Position} {cs : List Char} {ls : List Lexeme} {finish : Position} {x : α}
    {c : Cursor} (tiling : Tiling place cs ls) (ran : p (cursorAt place ls finish) = .ok (x, c)) :
    Taken phrase place cs finish x c
  complete {place : Position} {text rest : List Char} {left : List Lexeme} {x : α}
    (derived : phrase place text x) (follows : follow rest)
    (tiling : Tiling (place.afterAll text) rest left) (finish : Position) :
    ∃ ls, Tiling place (text ++ rest) (ls ++ left) ∧
      p (cursorAt place (ls ++ left) finish) =
        .ok (x, cursorAt (place.afterAll text) left finish)

theorem Taken.mono {α : Type} {narrow wide : Phrase α} {place finish : Position} {cs : List Char}
    {x : α} {c : Cursor} (taken : Taken narrow place cs finish x c)
    (more : ∀ text, narrow place text x → wide place text x) : Taken wide place cs finish x c := by
  obtain ⟨text, rest, left, whole, derived, behind⟩ := taken
  exact ⟨text, rest, left, whole, more text derived, behind⟩

/-- A phrase that is taken behind a token makes a phrase together with it. -/
theorem Taken.behind {α β : Type} {inner : Phrase α} {outer : Phrase β} {place finish : Position}
    {blank chars cs : List Char} {x : α} {y : β} {c : Cursor} (spaced : Blank blank)
    (taken : Taken inner (place.afterAll (blank ++ chars)) cs finish x c)
    (derived : ∀ text, inner ((place.afterAll blank).afterAll chars) text x →
      c.reached = ((place.afterAll blank).afterAll (chars ++ text)).offset →
        outer (place.afterAll blank) (chars ++ text) y) :
    Taken (Spaced outer) place (blank ++ (chars ++ cs)) finish y c := by
  obtain ⟨text, rest, left, rfl, named, tail, rfl⟩ := taken
  have place_eq : (place.afterAll (blank ++ chars)).afterAll text =
      (place.afterAll blank).afterAll (chars ++ text) := by
    simp only [Position.afterAll_append]
  rw [Position.afterAll_append] at named
  have whole := derived text named (congrArg Position.offset place_eq)
  rw [place_eq, ← Position.afterAll_append] at tail
  refine ⟨blank ++ (chars ++ text), rest, left, by simp only [List.append_assoc],
    ⟨blank, _, spaced, rfl, whole⟩, tail, ?_⟩
  rw [place_eq, ← Position.afterAll_append]

/-- A token that is a phrase of its own is taken. -/
theorem Tiling.taken {α : Type} {phrase : Phrase α} {place : Position} {blank text rest : List Char}
    {left : List Lexeme} {token : Token} {x : α}
    (tail : Tiling (place.afterAll (blank ++ text)) rest left) (spaced : Blank blank)
    (derived : phrase (place.afterAll blank) text x) (finish : Position) :
    Taken (Spaced phrase) place (blank ++ (text ++ rest)) finish x
      (cursorAt (lexemeAt place blank token text).stop left finish) := by
  rw [stop_lexemeAt]
  exact ⟨blank ++ text, rest, left, (List.append_assoc ..).symm,
    ⟨blank, text, spaced, rfl, derived⟩, tail, rfl⟩

theorem Recognises.narrow {α : Type} {p : Parser α} {phrase : Phrase α}
    {wide narrow : List Char → Prop} (recognised : Recognises p phrase wide)
    (fewer : ∀ rest, narrow rest → wide rest) : Recognises p phrase narrow where
  sound := recognised.sound
  complete derived follows := recognised.complete derived (fewer _ follows)

/-! ## Symbols -/

theorem Cursor.sees_eq_true {c : Cursor} {s : Symbol} :
    c.sees s = true ↔ ∃ l ls, c.ahead = l :: ls ∧ l.token = .symbol s := by
  unfold Cursor.sees
  split
  · next nothing => simp [nothing]
  · next l ls some => simp [some]

/-- The symbol that is the first lexeme of a tiling, taken off. -/
theorem Tiling.symbol {place : Position} {cs : List Char} {l : Lexeme} {ls : List Lexeme}
    {s : Symbol} (tiling : Tiling place cs (l :: ls)) (is : l.token = .symbol s) :
    ∃ blank rest, Blank blank ∧ cs = blank ++ (s.chars ++ rest) ∧
      l = lexemeAt place blank (.symbol s) s.chars ∧
        Tiling (place.afterAll (blank ++ s.chars)) rest ls := by
  obtain ⟨blank, token, text, rest, spaced, spelled, rfl, rfl, tail⟩ := tiling.inverse
  cases is
  cases spelled
  exact ⟨blank, rest, spaced, rfl, rfl, tail⟩

/-- A symbol that cannot follow is not seen. -/
theorem Follows.not_sees {ends rest : List Char} {place : Position} {ls : List Lexeme} {s : Symbol}
    {reached : Nat} {finish : Position} (follows : Follows ends rest)
    (tiling : Tiling place rest ls)
    (outside : s.chars.head? ∉ ends.map some) :
    Cursor.sees ⟨reached, ls, finish⟩ s = false := by
  rw [Bool.eq_false_iff]
  intro seen
  obtain ⟨l, left, rfl, is⟩ := Cursor.sees_eq_true.mp seen
  obtain ⟨c, tail, text, listed⟩ := follows.first tiling
  obtain ⟨blank, behind, -, -, rfl, -⟩ := tiling.symbol is
  rw [text_lexemeAt] at text
  exact outside (List.mem_map.mpr ⟨c, listed, by rw [text]; rfl⟩)

/-- The text of a symbol. -/
def SymbolText (s : Symbol) : Phrase Unit := fun _ cs _ => cs = s.chars

theorem take_recognises (s : Symbol) (expectation : Expectation) :
    Recognises (take s expectation) (Spaced (SymbolText s)) (Apart (.symbol s)) where
  sound {place cs ls finish x c} tiling ran := by
    unfold take at ran
    rw [get_bind] at ran
    split at ran
    · next seen =>
      obtain ⟨l, left, rfl, is⟩ := Cursor.sees_eq_true.mp seen
      obtain ⟨blank, rest, spaced, rfl, rfl, tail⟩ := tiling.symbol is
      cases ran
      exact tail.taken spaced rfl finish
    · exact absurd ran expected_ne_ok
  complete {place text rest left x} derived follows tiling finish := by
    obtain ⟨blank, _, spaced, rfl, rfl⟩ := derived
    refine ⟨[lexemeAt place blank (.symbol s) s.chars], ?_, ?_⟩
    · rw [List.append_assoc]
      exact .mark s spaced follows tiling
    · simp [take, get_bind, Cursor.sees, cursorAt, advance_run]

/-! ## Lists and brackets -/

section

variable {α : Type} {item : Parser α} {phrase : Phrase α} {s : Symbol}

theorem separatedUpTo_sound {follow : List Char → Prop} (n : Nat)
    (recognised : Recognises item (Spaced phrase) follow) {place : Position} {cs : List Char}
    {ls : List Lexeme} {finish : Position} {xs : List α} {c : Cursor} (tiling : Tiling place cs ls)
    (ran : separatedUpTo s item n (cursorAt place ls finish) = .ok (xs, c)) :
    Taken (Spaced (Separated s.chars phrase)) place cs finish xs c := by
  induction n generalizing place cs ls xs with
  | zero =>
    obtain ⟨x, c', first, ended⟩ := bind_eq_ok.mp ran
    cases ended
    obtain ⟨text, rest, left, rfl, ⟨blank, _, spaced, rfl, derived⟩, tail, rfl⟩ :=
      recognised.sound tiling first
    exact ⟨_, rest, left, rfl, ⟨blank, _, spaced, rfl, .single derived⟩, tail, rfl⟩
  | succ n ih =>
    obtain ⟨x, c', first, more⟩ := bind_eq_ok.mp ran
    obtain ⟨text, rest, left, rfl, ⟨blank, text, spaced, rfl, derived⟩, tail, rfl⟩ :=
      recognised.sound tiling first
    rw [get_bind] at more
    split at more
    · next seen =>
      obtain ⟨l, left, rfl, is⟩ := Cursor.sees_eq_true.mp seen
      obtain ⟨before, behind, spacedBefore, rfl, rfl, next⟩ := tail.symbol is
      rw [cursorAt, advance_bind, stop_lexemeAt, ← Position.afterAll_append] at more
      rw [← Position.afterAll_append] at next
      obtain ⟨others, c'', found, ended⟩ := bind_eq_ok.mp more
      cases ended
      obtain ⟨_, rest, left, rfl, ⟨after, list, spacedAfter, rfl, listed⟩, last, rfl⟩ :=
        ih next found
      refine ⟨blank ++ (text ++ (before ++ (s.chars ++ (after ++ list)))), rest, left, by simp,
        ⟨blank, _, spaced, rfl, .cons derived spacedBefore spacedAfter ?_⟩, ?_, ?_⟩
      · simpa only [Position.afterAll_append] using listed
      · simpa only [Position.afterAll_append] using last
      · simp only [cursorAt, Position.afterAll_append]
    · cases more
      exact ⟨_, rest, left, rfl, ⟨blank, text, spaced, rfl, .single derived⟩, tail, rfl⟩

/-- A list of so many items is read by a parser that may take as many separators. -/
theorem separatedUpTo_complete {ends : List Char} {c : Char}
    (recognised : Recognises item (Spaced phrase) (Follows (c :: ends)))
    (begins : s.chars.head? = some c) (other : c ∉ ends) (free : ∀ d, s.absorbs d = false)
    {place : Position} {cs : List Char} {xs : List α}
    (derived : Separated s.chars phrase place cs xs)
    {start : Position} {blank rest : List Char} {left : List Lexeme} (spaced : Blank blank)
    (begun : place = start.afterAll blank) (follows : Follows ends rest)
    (tiling : Tiling (place.afterAll cs) rest left) (finish : Position) :
    ∃ ls, Tiling start (blank ++ (cs ++ rest)) (ls ++ left) ∧ ∀ n, ls.length ≤ n →
      separatedUpTo s item n (cursorAt start (ls ++ left) finish) =
        .ok (xs, cursorAt (place.afterAll cs) left finish) := by
  have bare : isQueryBlank c = false := by
    obtain ⟨d, tail, chars, bare⟩ := s.head_chars
    rw [chars] at begins
    cases begins
    exact bare
  -- The induction is on the list. Each item takes up one lexeme for its separator at least, so the
  -- number of lexemes is fuel enough.
  induction derived generalizing start blank with
  | @single place cs x head =>
    subst begun
    rw [← Position.afterAll_append] at tiling ⊢
    obtain ⟨ls, tiled, ran⟩ := recognised.complete ⟨blank, cs, spaced, rfl, head⟩
      (follows.mono (List.subset_cons_self c ends)) tiling finish
    rw [List.append_assoc] at tiled
    refine ⟨ls, tiled, fun n _ => ?_⟩
    cases n with
    | zero =>
      rw [separatedUpTo, bind_of_ok ran]
      rfl
    | succ n =>
      have unseen : (cursorAt (start.afterAll (blank ++ cs)) left finish).sees s = false :=
        follows.not_sees tiling fun member => by
          obtain ⟨d, listed, same⟩ := List.mem_map.mp member
          cases begins.symm.trans same.symm
          exact other listed
      rw [separatedUpTo, bind_of_ok ran, get_bind, unseen]
      rfl
  | @cons place cs before after behind x xs head spacedBefore spacedAfter tail ih =>
    subst begun
    have behindSeparator : (start.afterAll blank).afterAll (cs ++ (before ++ (s.chars ++ after))) =
        ((start.afterAll (blank ++ cs)).afterAll (before ++ s.chars)).afterAll after := by
      simp only [Position.afterAll_append]
    obtain ⟨ls, tiled, ran⟩ := ih spacedAfter behindSeparator
      (by simpa only [Position.afterAll_append] using tiling)
    -- In front of the item's own text the separator is what follows it.
    have separator := Tiling.mark s spacedBefore (fun d _ => free d) tiled
    have stays : Follows (c :: ends) (before ++ (s.chars ++ (after ++ (behind ++ rest)))) := by
      refine .spaced spacedBefore ?_
      obtain ⟨tail, chars⟩ := List.head?_eq_some_iff.mp begins
      rw [chars]
      exact .cons bare List.mem_cons_self
    obtain ⟨ls', tiled', ran'⟩ := recognised.complete ⟨blank, cs, spaced, rfl, head⟩ stays
      separator finish
    refine ⟨ls' ++ lexemeAt (start.afterAll (blank ++ cs)) before (.symbol s) s.chars :: ls, ?_,
      fun n enough => ?_⟩
    · simpa only [List.append_assoc, List.cons_append] using tiled'
    · rw [List.append_assoc, List.cons_append]
      rw [List.length_append, List.length_cons] at enough
      cases n with
      | zero => omega
      | succ n =>
        have more := ran n (by omega)
        have seen : (cursorAt (start.afterAll (blank ++ cs))
            (lexemeAt (start.afterAll (blank ++ cs)) before (.symbol s) s.chars :: (ls ++ left))
            finish).sees s = true := by
          simp [Cursor.sees, cursorAt]
        rw [separatedUpTo, bind_of_ok ran', get_bind, seen, if_pos rfl, cursorAt, advance_bind,
          stop_lexemeAt]
        rw [cursorAt] at more
        rw [bind_of_ok more, pure_run]
        simp only [Position.afterAll_append]

/-- A list, with a separator that stands apart from everything and that cannot follow the list. -/
theorem separated_recognises {ends : List Char} {c : Char}
    (recognised : Recognises item (Spaced phrase) (Follows (c :: ends)))
    (begins : s.chars.head? = some c) (other : c ∉ ends) (free : ∀ d, s.absorbs d = false) :
    Recognises (separated s item) (Spaced (Separated s.chars phrase)) (Follows ends) where
  sound tiling ran := separatedUpTo_sound _ recognised tiling ran
  complete {place text rest left x} derived follows tiling finish := by
    obtain ⟨blank, text, spaced, rfl, listed⟩ := derived
    rw [Position.afterAll_append] at tiling
    obtain ⟨ls, tiled, ran⟩ := separatedUpTo_complete recognised begins other free listed spaced rfl
      follows tiling finish
    refine ⟨ls, by rwa [List.append_assoc], ?_⟩
    rw [separated, get_bind, Position.afterAll_append]
    exact ran _ (by simp [cursorAt])

/-- A parser and then a closing symbol take a phrase up to that symbol. -/
theorem enclosed_sound {close : Char} {follow : List Char → Prop} (chars : s.chars = [close])
    (recognised : Recognises item phrase follow) {expectation : Expectation} {place : Position}
    {cs : List Char} {ls : List Lexeme} {finish : Position} {x : α} {c c' : Cursor}
    (tiling : Tiling place cs ls) (ran : item (cursorAt place ls finish) = .ok (x, c))
    (closed : take s expectation c = .ok ((), c')) :
    Taken (Enclosed close phrase) place cs finish x c' := by
  obtain ⟨inside, rest, left, rfl, derived, tail, rfl⟩ := recognised.sound tiling ran
  obtain ⟨_, rest, left, rfl, ⟨blank, _, spaced, rfl, rfl⟩, tail, rfl⟩ :=
    (take_recognises s expectation).sound tail closed
  rw [chars, ← Position.afterAll_append] at tail ⊢
  exact ⟨_, rest, left, (List.append_assoc ..).symm, ⟨inside, blank, spaced, rfl, derived⟩, tail,
    rfl⟩

theorem enclosed_complete {close : Char} {follow : List Char → Prop} (chars : s.chars = [close])
    (free : ∀ c, s.absorbs c = false) (recognised : Recognises item phrase follow)
    (closes : ∀ blank rest, Blank blank → follow (blank ++ close :: rest))
    (expectation : Expectation) {place : Position} {text rest : List Char} {left : List Lexeme}
    {x : α} (derived : Enclosed close phrase place text x)
    (tiling : Tiling (place.afterAll text) rest left) (finish : Position) :
    ∃ ls c, Tiling place (text ++ rest) (ls ++ left) ∧
      item (cursorAt place (ls ++ left) finish) = .ok (x, c) ∧
      take s expectation c = .ok ((), cursorAt (place.afterAll text) left finish) := by
  obtain ⟨inside, blank, spaced, rfl, derived⟩ := derived
  rw [Position.afterAll_append, ← chars] at tiling
  obtain ⟨ls, tiled, took⟩ := (take_recognises s expectation).complete
    ⟨blank, _, spaced, rfl, rfl⟩ (fun c _ => free c) tiling finish
  rw [chars, List.append_assoc, List.singleton_append] at tiled
  obtain ⟨ls', tiled', ran⟩ := recognised.complete derived (closes blank rest spaced) tiled finish
  refine ⟨ls' ++ ls, _, ?_, by rwa [List.append_assoc], ?_⟩
  · simpa only [List.append_assoc, List.singleton_append] using tiled'
  · rwa [Position.afterAll_append, ← chars]

end

/-! ## The next level -/

/-- The parsers one level deeper, if there are any, recognise the phrases there. -/
theorem nested_recognises {α : Type} {inner : Option (Parser α)} {deeper : Option (Phrase α)}
    {follow : List Char → Prop} (limit : Nat)
    (recognised : Option.Rel (Recognises · · follow) inner deeper) :
    Recognises (nested limit inner) (Within deeper) follow := by
  cases recognised with
  | none =>
    exact ⟨fun _ ran => absurd ran fail_ne_ok, fun ⟨_, same, _⟩ => nomatch same⟩
  | @some p phrase recognised =>
    refine ⟨fun tiling ran => ?_, fun ⟨_, same, derived⟩ follows => ?_⟩
    · obtain ⟨text, rest, left, whole, derived, tail⟩ := recognised.sound tiling ran
      exact ⟨text, rest, left, whole, ⟨phrase, rfl, derived⟩, tail⟩
    · cases same
      exact recognised.complete derived follows

theorem Grammar.spaced_within {α : Type} {deeper : Option (Phrase α)} :
    Within (deeper.map Spaced) = Spaced (Within deeper) := by
  funext place cs x
  refine propext ⟨?_, ?_⟩
  · rintro ⟨_, same, derived⟩
    obtain ⟨phrase, rfl, rfl⟩ := Option.map_eq_some_iff.mp same
    obtain ⟨blank, text, spaced, rfl, derived⟩ := derived
    exact ⟨blank, text, spaced, rfl, phrase, rfl, derived⟩
  · rintro ⟨blank, text, spaced, rfl, phrase, rfl, derived⟩
    exact ⟨_, rfl, blank, text, spaced, rfl, derived⟩

/-! ## Numbers -/

theorem whole_iff {n : Numeral} (digits : Digits n.whole) :
    Whole n.whole ↔ n.hasLeadingZero = false := by
  unfold Whole Numeral.hasLeadingZero
  obtain ⟨d, rest, whole, -⟩ := digits.head_isDigit
  rw [whole] at digits ⊢
  cases rest with
  | nil => simp_all
  | cons e rest => by_cases zero : d = '0' <;> simp_all

theorem plain_text {text : List Char} {n : Numeral} (spelled : NumeralText text n)
    (plain : n.isPlain) : text = signText n.negative ++ n.whole := by
  obtain ⟨fraction, exponent, -, spelledFraction, spelledExponent, rfl⟩ := spelled
  obtain ⟨negative, whole, fraction?, exponent?⟩ := n
  simp only [Numeral.isPlain, Bool.and_eq_true, Option.isNone_iff_eq_none] at plain
  obtain ⟨rfl, rfl⟩ := plain
  cases spelledFraction
  cases spelledExponent
  simp

/-- Indices are the numerals that have one as their value. -/
theorem integerText_iff {cs : List Char} {i : Int} :
    IntegerText cs i ↔ ∃ n, NumeralText cs n ∧ indexOf n = .ok i := by
  constructor
  · rintro ⟨negative, ds, whole, noMinusZero, rfl, value, bounded⟩
    refine ⟨⟨negative, ds, none, none⟩, ⟨[], [], whole.1, .absent, .absent, by simp⟩, ?_⟩
    have leading := (whole_iff (n := ⟨negative, ds, none, none⟩) whole.1).mp whole
    have minusZero : (negative && ds == ['0']) = false := by
      cases negative with
      | true => simpa using noMinusZero rfl
      | false => rfl
    have range : -greatestIndex ≤ i ∧ i ≤ greatestIndex := by
      simp only [greatestIndex]
      omega
    simp only [indexOf, Numeral.isPlain, leading, minusZero, Numeral.wholeValue, ← value, range]
    rfl
  · rintro ⟨n, spelled, read⟩
    unfold indexOf at read
    split at read
    · cases read
    · next plain =>
      split at read
      · cases read
      · next leading =>
        split at read
        · cases read
        · next minusZero =>
          split at read
          · next range =>
            cases read
            have digits : Digits n.whole := by
              obtain ⟨_, _, digits, -⟩ := spelled
              exact digits
            refine ⟨n.negative, n.whole, (whole_iff digits).mpr (Bool.eq_false_iff.mpr leading),
              fun negative zero => minusZero (by simp [negative, zero]),
              plain_text spelled (by simpa using plain), rfl, ?_⟩
            simp only [greatestIndex] at range
            omega
          · cases read

/-- Number literals are the numerals that have a number as their value. -/
theorem numberText_iff {cs : List Char} {number : Number} :
    NumberText cs number ↔ ∃ n, NumeralText cs n ∧ literalOf n = .ok number := by
  have digits : ∀ {n}, NumeralText cs n → Digits n.whole := fun ⟨_, _, digits, _⟩ => digits
  constructor
  · rintro (@⟨n, spelled, whole, plain, fits⟩ | @⟨n, x, spelled, whole, other, finite⟩)
    · refine ⟨n, spelled, ?_⟩
      simp [literalOf, (whole_iff (digits spelled)).mp whole, plain, fits]
    · refine ⟨n, spelled, ?_⟩
      rw [← Bool.and_eq_true] at other
      simp [literalOf, (whole_iff (digits spelled)).mp whole, other, finite]
  · rintro ⟨n, spelled, read⟩
    unfold literalOf at read
    split at read
    · cases read
    · next leading =>
      have whole := (whole_iff (digits spelled)).mpr (Bool.eq_false_iff.mpr leading)
      split at read
      · next plain =>
        cases read
        rw [Bool.and_eq_true] at plain
        exact .integer spelled whole plain.1 plain.2
      · next other =>
        rw [Bool.and_eq_true] at other
        split at read
        · next x finite =>
          cases read
          exact .double spelled whole other finite
        · cases read

end JsonPath
