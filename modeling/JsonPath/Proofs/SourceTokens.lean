import JsonPath.Proofs.SourcePlaces

/-!
# Tokens in their source

The lexemes that are read of a text stand in it: each has its text at its place, one comes behind
the other, and what is left over is blank.

Results:
1. `Lexeme.StandsIn.read_alone`: what the text of a lexeme is read as by itself.
2. `tokens_tile_source`: ranges, lines and columns of the lexemes, and the ranges between them.
-/

namespace JsonPath

open Grammar

/-! ## A lexeme and its text -/

/-- The text of the lexeme spells its token and stands in the source where the lexeme begins. -/
def Lexeme.StandsIn (l : Lexeme) (source : List Char) : Prop :=
  Spells l.token l.text ∧ ∃ before after, source = before ++ (l.text ++ after) ∧
    l.start = Position.start.afterAll before

namespace Lexeme.StandsIn

variable {l : Lexeme} {source : List Char}

theorem text_ne_nil (stands : l.StandsIn source) : l.text ≠ [] := by
  obtain ⟨c, rest, text, -⟩ := stands.1.head
  rw [text]
  exact List.cons_ne_nil c rest

theorem covers (stands : l.StandsIn source) : l.span.Covers source l.text := by
  obtain ⟨-, before, after, whole, start⟩ := stands
  refine ⟨before, after, whole, ?_⟩
  rw [Lexeme.span, Lexeme.stop, start, ← Position.afterAll_append, (counts_afterAll _).offset,
    (counts_afterAll _).offset]

theorem start_lt_stop (stands : l.StandsIn source) : l.span.start < l.span.stop := by
  obtain ⟨c, rest, text, -⟩ := stands.1.head
  have room := c.utf8Size_pos
  rw [Lexeme.span, Lexeme.stop, offset_afterAll, text, byteLength]
  show l.start.offset < l.start.offset + _
  omega

/-- By itself, the text of a lexeme is read as its token. -/
theorem read_alone (stands : l.StandsIn source) :
    Lexemes.read (String.ofList l.text) =
      .ok ⟨[⟨l.token, l.text, .start⟩], Position.start.afterAll l.text⟩ := by
  rw [read_eq_ok, String.toList_ofList]
  have alone : Tiling .start ([] ++ (l.text ++ [])) [lexemeAt .start [] l.token l.text] :=
    .lexeme .nil stands.1 nofun (.nil .nil)
  rw [List.nil_append, List.append_nil] at alone
  exact ⟨alone, rfl⟩

end Lexeme.StandsIn

/-- The lexemes of a part of a text stand in the text. -/
theorem Tiling.standsIn {place : Position} {cs : List Char} {ls : List Lexeme}
    (tiling : Tiling place cs ls) (front : List Char)
    (begins : place = Position.start.afterAll front) :
    ∀ l ∈ ls, l.StandsIn (front ++ cs) := by
  induction tiling generalizing front with
  | nil => nofun
  | @cons place blank text rest token ls spaced spelled _ _ ih =>
    have start : place.afterAll blank = Position.start.afterAll (front ++ blank) := by
      rw [begins, Position.afterAll_append]
    -- For the other lexemes, what is in front has grown by what the first one takes.
    have behind : place.afterAll (blank ++ text) =
        Position.start.afterAll (front ++ (blank ++ text)) := by
      rw [begins, ← Position.afterAll_append]
    have others := ih _ behind
    rw [List.append_assoc, List.append_assoc] at others
    rw [List.forall_mem_cons]
    exact ⟨⟨spelled, front ++ blank, rest, by simp only [List.append_assoc], start⟩, others⟩

/-- What was read of a text stands in it. -/
theorem standsIn_of_read {source : String} {lexemes : Lexemes}
    (read : Lexemes.read source = .ok lexemes) :
    ∀ l ∈ lexemes.lexemes, l.StandsIn source.toList :=
  (read_eq_ok.mp read).1.standsIn [] rfl

/-! ## What is between lexemes -/

/-- The ranges in front of, between and behind lexemes, where the text in front of them is taken up
to byte `reached`. -/
def gapsFrom (reached : Nat) : List Lexeme → Position → List Span
  | [], finish => [⟨reached, finish.offset⟩]
  | l :: ls, finish => ⟨reached, l.span.start⟩ :: gapsFrom l.span.stop ls finish

/-- The ranges of a text that belong to no lexeme. -/
def Lexemes.gaps (lexemes : Lexemes) : List Span := gapsFrom 0 lexemes.lexemes lexemes.finish

theorem Tiling.gaps_blank {place : Position} {cs : List Char} {ls : List Lexeme}
    (tiling : Tiling place cs ls) (front : List Char)
    (begins : place = Position.start.afterAll front) :
    ∀ gap ∈ gapsFrom place.offset ls (place.afterAll cs), ∃ blank, Blank blank ∧
      gap.Covers (front ++ cs) blank := by
  induction tiling generalizing front with
  | @nil place blank spaced =>
    have covers : Span.Covers ⟨place.offset, (place.afterAll blank).offset⟩ (front ++ blank)
        blank := by
      refine ⟨front, [], by rw [List.append_nil], ?_⟩
      rw [begins, ← Position.afterAll_append, (counts_afterAll _).offset,
        (counts_afterAll _).offset]
    rw [gapsFrom, List.forall_mem_singleton]
    exact ⟨blank, spaced, covers⟩
  | @cons place blank text rest token ls spaced spelled _ _ ih =>
    have covers : Span.Covers ⟨place.offset, (place.afterAll blank).offset⟩
        (front ++ (blank ++ (text ++ rest))) blank := by
      refine ⟨front, text ++ rest, rfl, ?_⟩
      rw [begins, ← Position.afterAll_append, (counts_afterAll _).offset,
        (counts_afterAll _).offset]
    have behind : place.afterAll (blank ++ text) =
        Position.start.afterAll (front ++ (blank ++ text)) := by
      rw [begins, ← Position.afterAll_append]
    have others := ih _ behind
    rw [List.append_assoc, List.append_assoc, ← Position.afterAll_append, List.append_assoc]
      at others
    rw [gapsFrom, List.forall_mem_cons, Lexeme.span, Lexeme.stop, ← Position.afterAll_append]
    exact ⟨⟨blank, spaced, covers⟩, others⟩

/-- No lexeme of a tiling begins in front of its place. -/
theorem Tiling.start_le {place : Position} {cs : List Char} {ls : List Lexeme}
    (tiling : Tiling place cs ls) : ∀ l ∈ ls, place.offset ≤ l.span.start := by
  induction tiling with
  | nil => nofun
  | @cons place blank text rest token ls spaced spelled _ _ ih =>
    rw [List.forall_mem_cons]
    refine ⟨?_, fun l member => ?_⟩
    · rw [Lexeme.span, offset_afterAll]
      exact Nat.le_add_right ..
    · have later := ih l member
      rw [offset_afterAll] at later
      exact Nat.le_trans (Nat.le_add_right ..) later

theorem Tiling.ordered {place : Position} {cs : List Char} {ls : List Lexeme}
    (tiling : Tiling place cs ls) : ls.Pairwise fun l m => l.span.stop ≤ m.span.start := by
  induction tiling with
  | nil => exact .nil
  | @cons place blank text rest token ls spaced spelled _ tail ih =>
    refine .cons (fun m member => ?_) ih
    rw [Lexeme.span, Lexeme.stop, ← Position.afterAll_append]
    exact tail.start_le m member

/-! ## Tiles -/

/-- Lexemes tile a text: they lie in it one behind the other with nothing but blank space left
over, their places are those that a reader counts, and each is read again from its text alone. -/
structure Lexemes.Tile (lexemes : Lexemes) (source : String) : Prop where
  ordered : lexemes.lexemes.Pairwise fun l m => l.span.stop ≤ m.span.start
  nonempty : ∀ l ∈ lexemes.lexemes, l.span.start < l.span.stop
  covers : ∀ l ∈ lexemes.lexemes, l.span.Covers source.toList l.text
  counted : ∀ l ∈ lexemes.lexemes, ∃ before, before <+: source.toList ∧ Counts l.start before
  gaps_blank : ∀ gap ∈ lexemes.gaps, ∃ blank, gap.Covers source.toList blank ∧
    ∀ c ∈ blank, c ∈ [' ', '\t', '\n', '\r']
  finish : Counts lexemes.finish source.toList ∧ lexemes.finish.offset = source.utf8ByteSize
  alone : ∀ l ∈ lexemes.lexemes, Lexemes.read (l.span.text source) =
    .ok ⟨[⟨l.token, l.text, .start⟩], Position.start.afterAll l.text⟩

theorem blank_iff {cs : List Char} : Blank cs ↔ ∀ c ∈ cs, c ∈ [' ', '\t', '\n', '\r'] := by
  simp [Blank, isQueryBlank, or_assoc]

/-- The lexemes that are read of a text tile it. -/
theorem tokens_tile_source {source : String} {lexemes : Lexemes}
    (read : Lexemes.read source = .ok lexemes) : lexemes.Tile source := by
  obtain ⟨tiling, finish⟩ := read_eq_ok.mp read
  have stands := standsIn_of_read read
  have end_counts : Counts lexemes.finish source.toList := finish ▸ counts_afterAll source.toList
  refine ⟨tiling.ordered, fun l member => (stands l member).start_lt_stop,
    fun l member => (stands l member).covers, fun l member => ?_, fun gap member => ?_,
    ⟨end_counts, end_counts.offset.trans (byteLength_toList source)⟩, fun l member => ?_⟩
  · obtain ⟨-, before, after, whole, start⟩ := stands l member
    exact ⟨before, ⟨l.text ++ after, whole.symm⟩, start ▸ counts_afterAll before⟩
  · rw [Lexemes.gaps, finish] at member
    obtain ⟨blank, spaced, covers⟩ := tiling.gaps_blank [] rfl gap member
    exact ⟨blank, covers, blank_iff.mp spaced⟩
  · rw [Span.text, (stands l member).covers.slice_eq]
    exact (stands l member).read_alone

/-- A text of three lines with a letter of two bytes, a number in front of a name that looks like an
exponent, and an escape. -/
theorem tokens_tile_source_lines :
    let source := "$.é\r\n [1e,\n 'b\\u0061']"
    ∃ lexemes, Lexemes.read source = .ok lexemes ∧ lexemes.Tile source ∧
      lexemes.lexemes.map (fun l => (l.span.start, l.start.line, l.start.column)) =
        [(0, 1, 0), (1, 1, 1), (2, 1, 2), (7, 2, 1), (8, 2, 2), (9, 2, 3), (10, 2, 4),
          (13, 3, 1), (22, 3, 10)] := by
  intro source
  have places : (Lexemes.read source).toOption.any (fun lexemes =>
      lexemes.lexemes.map (fun l => (l.span.start, l.start.line, l.start.column)) ==
        [(0, 1, 0), (1, 1, 1), (2, 1, 2), (7, 2, 1), (8, 2, 2), (9, 2, 3), (10, 2, 4),
          (13, 3, 1), (22, 3, 10)]) = true := by decide +kernel
  obtain ⟨lexemes, some, same⟩ := (Option.any_eq_true _ _).mp places
  have read : Lexemes.read source = .ok lexemes := by
    cases ran : Lexemes.read source with
    | error e => simp [ran, Except.toOption] at some
    | ok found => simpa [ran, Except.toOption] using some
  exact ⟨lexemes, read, tokens_tile_source read, beq_iff_eq.mp same⟩

end JsonPath
