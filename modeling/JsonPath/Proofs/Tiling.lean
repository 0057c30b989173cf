import JsonPath.Proofs.Scanning

/-!
# Lexemes tile a text

The lexemes of a text lie in it one behind the other, with blank space and nothing else between
them. A `Tiling` says so; reading a text gives the one list of lexemes that tiles it.

Results:
1. `read_eq_ok`: reading succeeds exactly with a tiling.
2. `Tiling.inverse` and `Tiling.lexeme`: the first lexeme of a tiling, taken off and put in front.
3. `Follows.first`: the first lexeme of what may follow a phrase.
-/

namespace JsonPath

open Grammar

/-- The lexemes of a text that begins at a place. Each is what the scanner finds there. -/
inductive Tiling : Position → List Char → List Lexeme → Prop where
  | nil {place : Position} {blank : List Char} (spaced : Blank blank) : Tiling place blank []
  | cons {place : Position} {blank text rest : List Char} {token : Token} {ls : List Lexeme}
      (spaced : Blank blank) (spelled : Spells token text)
      (scanned : ∀ c cs, c :: cs = text ++ rest → scanToken c cs = .ok (token, rest))
      (tail : Tiling (place.afterAll (blank ++ text)) rest ls) :
      Tiling place (blank ++ (text ++ rest)) (⟨token, text, place.afterAll blank⟩ :: ls)

/-! ## Blank space -/

theorem Grammar.Blank.nil : Blank [] := nofun

theorem Grammar.Blank.append {before after : List Char} (first : Blank before)
    (second : Blank after) : Blank (before ++ after) := by
  intro c member
  rcases List.mem_append.mp member with member | member
  · exact first c member
  · exact second c member

theorem blank_takeWhile (cs : List Char) : Blank (cs.takeWhile isQueryBlank) :=
  fun _ member => mem_takeWhile member

theorem not_blank_of_isNameFirst {c : Char} (first : isNameFirst c) : isQueryBlank c = false := by
  rw [Bool.eq_false_iff]
  intro blank
  simp only [isQueryBlank, Bool.or_eq_true, decide_eq_true_eq] at blank
  rcases blank with ((rfl | rfl) | rfl) | rfl <;> exact absurd first (by decide)

theorem not_blank_of_isDigit {c : Char} (digit : c.isDigit) : isQueryBlank c = false := by
  rw [Bool.eq_false_iff]
  intro blank
  simp only [isQueryBlank, Bool.or_eq_true, decide_eq_true_eq] at blank
  rcases blank with ((rfl | rfl) | rfl) | rfl <;> exact absurd digit (by decide)

theorem Grammar.NumeralText.head {cs : List Char} {n : Numeral} (spelled : NumeralText cs n) :
    ∃ c rest, cs = c :: rest ∧ (c = '-' ∨ c.isDigit) := by
  obtain ⟨fraction, exponent, digits, -, -, rfl⟩ := spelled
  obtain ⟨d, tail, whole, isDigit⟩ := digits.head_isDigit
  cases n.negative with
  | true => exact ⟨'-', _, rfl, .inl rfl⟩
  | false => exact ⟨d, _, by rw [whole]; rfl, .inr isDigit⟩

theorem Symbol.head_chars (s : Symbol) :
    ∃ c rest, s.chars = c :: rest ∧ isQueryBlank c = false := by
  cases s with
  | comparison operator => cases operator <;> exact ⟨_, _, rfl, by decide⟩
  | _ => exact ⟨_, _, rfl, by decide⟩

/-- A token begins with a character that is not blank. -/
theorem Spells.head {token : Token} {text : List Char} (spelled : Spells token text) :
    ∃ c rest, text = c :: rest ∧ isQueryBlank c = false := by
  cases spelled with
  | number spelled =>
    obtain ⟨c, rest, rfl, rfl | digit⟩ := spelled.head
    · exact ⟨_, rest, rfl, by decide⟩
    · exact ⟨c, rest, rfl, not_blank_of_isDigit digit⟩
  | string spelled =>
    obtain ⟨quote, inside, quoted, -, rfl⟩ := spelled
    exact ⟨quote, _, rfl, by rcases quoted with rfl | rfl <;> decide⟩
  | name named =>
    obtain ⟨first, rest, rfl, isFirst, -⟩ := named
    exact ⟨first, rest, rfl, not_blank_of_isNameFirst isFirst⟩
  | symbol => exact Symbol.head_chars _

/-- Blank space ends at the first token behind it. -/
theorem blank_ends {blank text : List Char} {token : Token} (spaced : Blank blank)
    (spelled : Spells token text) (rest : List Char) :
    (blank ++ (text ++ rest)).takeWhile isQueryBlank = blank ∧
      (blank ++ (text ++ rest)).dropWhile isQueryBlank = text ++ rest := by
  obtain ⟨c, tail, rfl, other⟩ := spelled.head
  refine run_ends spaced fun d first => ?_
  cases first
  exact other

/-! ## Reading -/

theorem readPart_append (text rest : List Char) : readPart (text ++ rest) rest = text := by
  simp [readPart]

/-- What is read of a text tiles it. -/
theorem readFrom_sound {n : Nat} {place : Position} {cs : List Char} {lexemes : Lexemes}
    (enough : cs.length < n) (read : Lexemes.readFrom n place cs = .ok lexemes) :
    Tiling place cs lexemes.lexemes ∧ lexemes.finish = place.afterAll cs := by
  induction n generalizing place cs lexemes with
  | zero => omega
  | succ n ih =>
    have whole : cs.takeWhile isQueryBlank ++ cs.dropWhile isQueryBlank = cs :=
      List.takeWhile_append_dropWhile
    have spaced := blank_takeWhile cs
    simp only [Lexemes.readFrom] at read
    generalize cs.takeWhile isQueryBlank = blank at read whole spaced
    split at read
    · next nothing =>
      cases read
      rw [nothing, List.append_nil] at whole
      exact whole ▸ ⟨.nil spaced, rfl⟩
    · next c tail behind =>
      split at read
      · cases read
      · next token rest scanned =>
        obtain ⟨text, spelled, same⟩ := scanToken_sound scanned
        obtain ⟨others, found, rfl⟩ := map_eq_ok.mp read
        rw [behind, same] at whole
        rw [same, readPart_append] at found ⊢
        -- A token is never empty, so what is left is shorter and the fuel lasts.
        have shorter : rest.length < n := by
          obtain ⟨d, more, rfl, -⟩ := spelled.head
          have := congrArg List.length whole
          simp only [List.length_append, List.length_cons] at this
          omega
        obtain ⟨tiling, finish⟩ := ih shorter found
        simp only [Lexeme.stop, ← Position.afterAll_append] at tiling finish
        have found : ∀ d ds, d :: ds = text ++ rest → scanToken d ds = .ok (token, rest) := by
          intro d ds other
          cases other.trans same.symm
          exact scanned
        rw [← whole]
        exact ⟨.cons spaced spelled found tiling, by rw [finish, List.append_assoc]⟩

/-- A text is read as what tiles it. -/
theorem readFrom_complete {n : Nat} {place : Position} {cs : List Char} {ls : List Lexeme}
    (enough : cs.length < n) (tiling : Tiling place cs ls) :
    Lexemes.readFrom n place cs = .ok ⟨ls, place.afterAll cs⟩ := by
  induction tiling generalizing n with
  | @nil place blank spaced =>
    obtain ⟨taken, dropped⟩ := @run_ends isQueryBlank blank [] spaced nofun
    rw [List.append_nil] at taken dropped
    cases n with
    | zero => omega
    | succ n => simp only [Lexemes.readFrom, dropped, taken]
  | @cons place blank text rest token ls spaced spelled scanned tail ih =>
    obtain ⟨taken, dropped⟩ := blank_ends spaced spelled rest
    obtain ⟨c, more, first, -⟩ := spelled.head
    cases n with
    | zero => omega
    | succ n =>
      have shorter : rest.length < n := by
        rw [first] at enough
        simp only [List.length_append, List.length_cons] at enough
        omega
      have found := ih shorter
      have stop : (place.afterAll blank).afterAll text = place.afterAll (blank ++ text) :=
        (Position.afterAll_append ..).symm
      have begins : text ++ rest = c :: (more ++ rest) := by rw [first, List.cons_append]
      simp only [Lexemes.readFrom, dropped, taken]
      rw [begins]
      simp only [scanned c _ begins.symm]
      rw [← begins, readPart_append]
      simp only [Lexeme.stop, stop, found, Except.map]
      simp only [Position.afterAll_append]

/-- Reading succeeds exactly with the lexemes that tile the text. -/
theorem read_eq_ok {source : String} {lexemes : Lexemes} :
    Lexemes.read source = .ok lexemes ↔
      Tiling .start source.toList lexemes.lexemes ∧
        lexemes.finish = Position.start.afterAll source.toList := by
  constructor
  · exact readFrom_sound (Nat.lt_succ_self _)
  · rintro ⟨tiling, finish⟩
    rw [Lexemes.read, readFrom_complete (Nat.lt_succ_self _) tiling, ← finish]

/-! ## The first lexeme -/

theorem Tiling.blank {place : Position} {cs : List Char} (tiling : Tiling place cs []) :
    Blank cs := by
  cases tiling with
  | nil spaced => exact spaced

/-- The lexeme that a token is behind blank space. -/
def lexemeAt (place : Position) (blank : List Char) (token : Token) (text : List Char) : Lexeme :=
  ⟨token, text, place.afterAll blank⟩

section

variable (place : Position) (blank : List Char) (token : Token) (text : List Char)

@[simp] theorem token_lexemeAt : (lexemeAt place blank token text).token = token := rfl

@[simp] theorem text_lexemeAt : (lexemeAt place blank token text).text = text := rfl

@[simp] theorem start_lexemeAt :
    (lexemeAt place blank token text).start = place.afterAll blank := rfl

@[simp] theorem stop_lexemeAt :
    (lexemeAt place blank token text).stop = place.afterAll (blank ++ text) :=
  (Position.afterAll_append ..).symm

@[simp] theorem span_lexemeAt :
    (lexemeAt place blank token text).span = spanOf (place.afterAll blank) text := by
  simp [Lexeme.span, spanOf, Position.afterAll_append]

end

/-- The first lexeme of a tiling, taken off. -/
theorem Tiling.inverse {place : Position} {cs : List Char} {l : Lexeme} {ls : List Lexeme}
    (tiling : Tiling place cs (l :: ls)) :
    ∃ blank token text rest, Blank blank ∧ Spells token text ∧
      cs = blank ++ (text ++ rest) ∧ l = lexemeAt place blank token text ∧
        Tiling (place.afterAll (blank ++ text)) rest ls := by
  cases tiling with
  | cons spaced spelled scanned tail => exact ⟨_, _, _, _, spaced, spelled, rfl, rfl, tail⟩

/-- A token put in front of a tiling that it stays apart from. -/
theorem Tiling.lexeme {place : Position} {blank text rest : List Char} {token : Token}
    {ls : List Lexeme} (spaced : Blank blank) (spelled : Spells token text)
    (apart : Apart token rest) (tail : Tiling (place.afterAll (blank ++ text)) rest ls) :
    Tiling place (blank ++ (text ++ rest)) (lexemeAt place blank token text :: ls) :=
  .cons spaced spelled (fun _ _ whole => scanToken_complete spelled apart whole) tail

/-- A symbol put in front of a tiling. -/
theorem Tiling.mark (s : Symbol) {place : Position} {blank rest : List Char} {ls : List Lexeme}
    (spaced : Blank blank) (apart : Apart (.symbol s) rest)
    (tail : Tiling (place.afterAll (blank ++ s.chars)) rest ls) :
    Tiling place (blank ++ (s.chars ++ rest))
      (lexemeAt place blank (.symbol s) s.chars :: ls) :=
  .lexeme spaced .symbol apart tail

/-! ## Touching -/

theorem offset_afterAll (place : Position) (cs : List Char) :
    (place.afterAll cs).offset = place.offset + byteLength cs := by
  induction cs generalizing place with
  | nil => rfl
  | cons c cs ih =>
    have after : (place.after c).offset = place.offset + c.utf8Size := by
      unfold Position.after
      split <;> rfl
    rw [Position.afterAll_cons, ih, after]
    simp [byteLength, Nat.add_assoc]

/-- Nothing but the empty text takes up no room. -/
theorem offset_afterAll_eq {place : Position} {cs : List Char} :
    (place.afterAll cs).offset = place.offset ↔ cs = [] := by
  cases cs with
  | nil => simp
  | cons c cs =>
    have room := c.utf8Size_pos
    rw [offset_afterAll]
    simp [byteLength]
    omega

/-- A lexeme touches the next one if there is no blank space between them. -/
theorem touches_iff {l : Lexeme} {blank : List Char} :
    l.touches (l.stop.afterAll blank) = true ↔ blank = [] := by
  rw [Lexeme.touches, beq_iff_eq, eq_comm, offset_afterAll_eq]

/-! ## What follows a phrase -/

/-- The first character of a text that is not blank. -/
def nextChar (cs : List Char) : Option Char := (cs.dropWhile isQueryBlank).head?

/-- A text, blank space aside, is empty or begins with one of the characters. -/
def Follows (ends rest : List Char) : Prop := ∀ c, nextChar rest = some c → c ∈ ends

theorem nextChar_append {blank : List Char} (spaced : Blank blank) (rest : List Char) :
    nextChar (blank ++ rest) = nextChar rest := by
  induction blank with
  | nil => rfl
  | cons c blank ih =>
    have isBlank := spaced c List.mem_cons_self
    rw [← ih fun d member => spaced d (List.mem_cons_of_mem c member)]
    simp [nextChar, isBlank]

theorem nextChar_cons {c : Char} (bare : isQueryBlank c = false) (rest : List Char) :
    nextChar (c :: rest) = some c := by
  simp [nextChar, bare]

namespace Follows

theorem nil {ends : List Char} : Follows ends [] := nofun

theorem cons {ends rest : List Char} {c : Char} (bare : isQueryBlank c = false)
    (listed : c ∈ ends) : Follows ends (c :: rest) := by
  intro d first
  rw [nextChar_cons bare] at first
  cases first
  exact listed

theorem spaced {ends blank rest : List Char} (spaced : Blank blank) (follows : Follows ends rest) :
    Follows ends (blank ++ rest) := by
  intro c first
  rw [nextChar_append spaced] at first
  exact follows c first

theorem mono {ends more rest : List Char} (follows : Follows ends rest) (fewer : ends ⊆ more) :
    Follows more rest :=
  fun c first => fewer (follows c first)

/-- The first lexeme of what follows begins with one of the characters. -/
theorem first {ends rest : List Char} {place : Position} {l : Lexeme} {ls : List Lexeme}
    (follows : Follows ends rest) (tiling : Tiling place rest (l :: ls)) :
    ∃ c tail, l.text = c :: tail ∧ c ∈ ends := by
  obtain ⟨blank, token, text, behind, isBlank, spelled, rfl, rfl, -⟩ := tiling.inverse
  obtain ⟨c, tail, rfl, bare⟩ := spelled.head
  refine ⟨c, tail, rfl, follows c ?_⟩
  rw [nextChar_append isBlank, List.cons_append, nextChar_cons bare]

end Follows

theorem Token.not_absorbs_blank {token : Token} {c : Char} (blank : isQueryBlank c) :
    token.absorbs c = false := by
  simp only [isQueryBlank, Bool.or_eq_true, decide_eq_true_eq] at blank
  cases token with
  | symbol s =>
    cases s with
    | comparison operator =>
      cases operator <;> rcases blank with ((rfl | rfl) | rfl) | rfl <;> rfl
    | _ => rcases blank with ((rfl | rfl) | rfl) | rfl <;> rfl
  | string value => rfl
  | _ => rcases blank with ((rfl | rfl) | rfl) | rfl <;> rfl

/-- A token stays apart from what follows if it absorbs none of the characters. -/
theorem Follows.apart {ends rest : List Char} {token : Token} (follows : Follows ends rest)
    (outside : ends.any token.absorbs = false) : Apart token rest := by
  intro c first
  obtain ⟨tail, rfl⟩ := List.head?_eq_some_iff.mp first
  cases bare : isQueryBlank c with
  | true => exact token.not_absorbs_blank bare
  | false =>
    have listed := follows c (nextChar_cons bare tail)
    exact Bool.eq_false_iff.mpr (List.any_eq_false.mp outside c listed)

end JsonPath
