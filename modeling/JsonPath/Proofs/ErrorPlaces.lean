import JsonPath.Proofs.Recognition
import JsonPath.Proofs.SourceTokens

/-!
# Where syntax errors point

An error names a line, a column and the text that is to blame. All of it is found in the source:
line and column are those of one place, and the text that is to blame stands there.

Results:
1. `scanToken_error`, `readFrom_error`: errors of the scanner are found ahead of it.
2. `Faithful.bind` and one lemma for each parser: from lexemes of the source, parsers get to lexemes
   of the source or fail at one of them.
3. `parse_error_located`: errors of a whole text.
-/

namespace JsonPath

/-- The error is at a place of the source. What it blames stands there; at the end nothing does. -/
def SyntaxError.PointsInto (e : SyntaxError) (source : List Char) : Prop :=
  ∃ before after, source = before ++ after ∧ e.place = Position.start.afterAll before ∧
    (e.offending = none ↔ after = []) ∧
    ∀ symbol, e.offending = some symbol → symbol ≠ "" ∧ symbol.toList <+: after

/-! ## Scanning -/

theorem map_eq_error {ε α β : Type} {f : α → β} {x : Except ε α} {e : ε} :
    x.map f = .error e ↔ x = .error e := by
  cases x <;> simp [Except.map]

/-- Inside a string the scanner fails at what is ahead, unless the string does not end. -/
theorem scanQuoted_error {quote : Char} {unterminated e : ScanError} {cs : List Char}
    (failed : scanQuoted quote unterminated cs = .error e) : e = unterminated ∨ e.rest <:+ cs := by
  fun_induction scanQuoted quote unterminated cs with
  | case1 =>
    cases failed
    exact .inl rfl
  | case2 => cases failed
  | case3 =>
    cases failed
    exact .inr List.suffix_rfl
  | case4 tail decoded behind read other ih =>
    obtain ⟨text, -, whole⟩ := unescape?_sound read
    refine (ih (map_eq_error.mp failed)).imp_right fun ahead => ?_
    exact ahead.trans ⟨'\\' :: text, by rw [whole, List.cons_append]⟩
  | case5 =>
    cases failed
    exact .inr List.suffix_rfl
  | case6 c tail other bare printed ih =>
    refine (ih (map_eq_error.mp failed)).imp_right fun ahead => ?_
    exact ahead.trans (List.suffix_cons c tail)

theorem scanToken_error {c : Char} {cs : List Char} {e : ScanError}
    (failed : scanToken c cs = .error e) : e.rest <:+ c :: cs := by
  unfold scanToken at failed
  split at failed
  · cases failed
  · split at failed
    · rcases scanQuoted_error (map_eq_error.mp failed) with rfl | ahead
      · exact List.suffix_rfl
      · exact ahead.trans (List.suffix_cons c cs)
    · split at failed
      · cases failed
      · split at failed
        · cases failed
        · cases failed
          exact List.suffix_rfl

theorem pointsInto_errorAt {front cs : List Char} {e : ScanError} (ahead : e.rest <:+ cs) :
    (Lexemes.errorAt (Position.start.afterAll front) cs e).PointsInto (front ++ cs) := by
  obtain ⟨read, rfl⟩ := ahead
  have place : (Lexemes.errorAt (Position.start.afterAll front) (read ++ e.rest) e).place =
      Position.start.afterAll (front ++ read) := by
    rw [Lexemes.errorAt, readPart_append, Position.afterAll_append]
  refine ⟨front ++ read, e.rest, (List.append_assoc ..).symm, place, ?_, fun symbol blamed => ?_⟩
  · cases rest : e.rest <;> simp [Lexemes.errorAt, rest]
  · obtain ⟨c, first, rfl⟩ := Option.map_eq_some_iff.mp blamed
    obtain ⟨tail, rest⟩ := List.head?_eq_some_iff.mp first
    refine ⟨?_, ?_⟩
    · intro empty
      simpa using congrArg String.toList empty
    · rw [String.toList_ofList, rest]
      exact ⟨tail, rfl⟩

/-- Reading a part of a text fails at a place of the text. -/
theorem readFrom_error {n : Nat} {place : Position} {cs : List Char} {e : SyntaxError}
    (front : List Char) (begins : place = Position.start.afterAll front)
    (failed : Lexemes.readFrom n place cs = .error e) : e.PointsInto (front ++ cs) := by
  induction n generalizing place front cs with
  | zero => cases failed
  | succ n ih =>
    have whole : cs.takeWhile isQueryBlank ++ cs.dropWhile isQueryBlank = cs :=
      List.takeWhile_append_dropWhile
    simp only [Lexemes.readFrom] at failed
    generalize cs.takeWhile isQueryBlank = blank at failed whole
    have start : place.afterAll blank = Position.start.afterAll (front ++ blank) := by
      rw [begins, Position.afterAll_append]
    split at failed
    · cases failed
    · next c tail behind =>
      rw [behind] at whole
      rw [← whole, ← List.append_assoc]
      split at failed
      · next scanned =>
        cases failed
        rw [start]
        exact pointsInto_errorAt (scanToken_error scanned)
      · next token rest scanned =>
        obtain ⟨text, -, same⟩ := scanToken_sound scanned
        rw [map_eq_error] at failed
        rw [same, readPart_append] at failed
        have stop : (place.afterAll blank).afterAll text =
            Position.start.afterAll (front ++ blank ++ text) := by
          simp only [begins, Position.afterAll_append]
        have found := ih _ stop failed
        rwa [List.append_assoc, ← same] at found

/-! ## Errors at lexemes -/

theorem Lexeme.StandsIn.pointsInto {l : Lexeme} {source : List Char} (stands : l.StandsIn source)
    (fault : SyntaxFault) : (l.error fault).PointsInto source := by
  have text := stands.text_ne_nil
  obtain ⟨-, before, after, whole, start⟩ := stands
  refine ⟨before, l.text ++ after, whole, start, by simp [Lexeme.error, text], ?_⟩
  intro symbol blamed
  cases blamed
  refine ⟨fun empty => text ?_, ?_⟩
  · simpa using congrArg String.toList empty
  · rw [String.toList_ofList]
    exact List.prefix_append ..

/-- The lexemes ahead stand in the source, which ends where the text ends. -/
structure Cursor.StandsIn (c : Cursor) (source : List Char) : Prop where
  ahead : ∀ l ∈ c.ahead, l.StandsIn source
  finish : c.finish = Position.start.afterAll source

theorem Cursor.StandsIn.pointsInto {c : Cursor} {source : List Char} (stands : c.StandsIn source)
    (fault : SyntaxFault) : (c.error fault).PointsInto source := by
  obtain ⟨reached, ahead, finish⟩ := c
  cases ahead with
  | nil => exact ⟨source, [], by simp, stands.finish, by simp [Cursor.error], nofun⟩
  | cons l ls => exact (stands.ahead l List.mem_cons_self).pointsInto fault

/-! ## Parsers -/

namespace Parser

/-- From the cursor, the parser gets to lexemes of the source or fails at a place of it. -/
def FaithfulAt {α : Type} (source : List Char) (p : Parser α) (c : Cursor) : Prop :=
  match p c with
  | .ok (_, c') => c'.StandsIn source
  | .error e => e.PointsInto source

/-- From lexemes of the source, the parser gets to others or fails at a place of it. -/
def Faithful {α : Type} (source : List Char) (p : Parser α) : Prop :=
  ∀ c : Cursor, c.StandsIn source → FaithfulAt source p c

variable {α β : Type} {source : List Char} {p : Parser α} {f : α → Parser β} {c : Cursor}

theorem FaithfulAt.bind (first : FaithfulAt source p c) (next : ∀ x, Faithful source (f x)) :
    FaithfulAt source (p >>= f) c := by
  unfold FaithfulAt at first ⊢
  cases ran : p c with
  | error e =>
    rw [ran] at first
    have failed : (p >>= f) c = .error e := by
      show (p c >>= fun r => f r.1 r.2) = _
      rw [ran]
      rfl
    rw [failed]
    exact first
  | ok result =>
    obtain ⟨x, c'⟩ := result
    rw [ran] at first
    rw [bind_of_ok ran]
    exact next x c' first

theorem Faithful.bind (first : Faithful source p) (next : ∀ x, Faithful source (f x)) :
    Faithful source (p >>= f) :=
  fun c stands => (first c stands).bind next

theorem faithful_pure (x : α) : Faithful source (pure x : Parser α) := fun _ stands => stands

theorem faithful_throw {e : SyntaxError} (points : e.PointsInto source) :
    Faithful source (throw e : Parser α) := fun _ _ => points

theorem faithful_fail (fault : SyntaxFault) : Faithful source (fail fault : Parser α) :=
  fun _ stands => stands.pointsInto fault

theorem faithful_expected (expectation : Expectation) :
    Faithful source (expected expectation : Parser α) :=
  fun _ stands => stands.pointsInto _

theorem faithful_advance : Faithful source advance := by
  rintro ⟨reached, ahead, finish⟩ stands
  cases ahead with
  | nil => exact stands
  | cons l ls =>
    exact ⟨fun m member => stands.ahead m (List.mem_cons_of_mem l member), stands.finish⟩

/-- What a parser goes on with after a look at the lexemes ahead. -/
theorem faithful_get {f : Cursor → Parser α}
    (next : ∀ c : Cursor, c.StandsIn source → FaithfulAt source (f c) c) :
    Faithful source (get >>= f) := next

/-- A check that fails or lets the parser go on. -/
theorem faithful_check {condition : Prop} [Decidable condition] {failing : Parser Unit}
    {next : Unit → Parser α} (failed : Faithful source failing)
    (passed : Faithful source (next ())) :
    Faithful source (if condition then failing >>= next else next ()) := by
  split
  · exact failed.bind fun _ => passed
  · exact passed

theorem faithful_take (s : Symbol) (expectation : Expectation) :
    Faithful source (take s expectation) := by
  refine faithful_get fun c stands => ?_
  split
  · exact faithful_advance c stands
  · exact faithful_expected expectation c stands

/-! ## Lists -/

theorem faithful_manyUpTo {item : Parser (Option α)} (each : Faithful source item) (n : Nat) :
    Faithful source (manyUpTo item n) := by
  induction n with
  | zero => exact faithful_pure []
  | succ n ih =>
    refine each.bind fun found => ?_
    cases found with
    | none => exact faithful_pure []
    | some x => exact ih.bind fun xs => faithful_pure (x :: xs)

theorem faithful_many {item : Parser (Option α)} (each : Faithful source item) :
    Faithful source (many item) :=
  faithful_get fun c stands => faithful_manyUpTo each c.ahead.length c stands

theorem faithful_separatedUpTo (s : Symbol) {item : Parser α} (each : Faithful source item)
    (n : Nat) : Faithful source (separatedUpTo s item n) := by
  induction n with
  | zero => exact each.bind fun x => faithful_pure [x]
  | succ n ih =>
    refine each.bind fun x => faithful_get fun c stands => ?_
    split
    · exact faithful_advance.bind (fun _ => ih.bind fun xs => faithful_pure (x :: xs)) c stands
    · exact faithful_pure [x] c stands

theorem faithful_separated (s : Symbol) {item : Parser α} (each : Faithful source item) :
    Faithful source (separated s item) :=
  faithful_get fun c stands => faithful_separatedUpTo s each c.ahead.length c stands

/-! ## Segments and selectors -/

theorem faithful_index? : Faithful source index? := by
  refine faithful_get fun c stands => ?_
  split
  · split
    · exact faithful_advance.bind (fun _ => faithful_pure _) c stands
    · exact faithful_fail _ c stands
  · exact faithful_pure _ c stands

theorem faithful_indexOrSlice : Faithful source indexOrSlice := by
  refine faithful_index?.bind fun start => faithful_get fun c stands => ?_
  split
  · refine faithful_advance.bind (fun _ => faithful_index?.bind fun stop => ?_) c stands
    refine faithful_get fun c stands => ?_
    split
    · exact faithful_advance.bind (fun _ => faithful_index?.bind fun _ => faithful_pure _) c stands
    · exact faithful_pure _ c stands
  · cases start with
    | some n => exact faithful_pure _ c stands
    | none => exact faithful_expected .index c stands

theorem faithful_selector {filter : Parser Expression} (inside : Faithful source filter) :
    Faithful source (selector filter) := by
  refine faithful_get fun c stands => ?_
  split
  · exact faithful_advance.bind (fun _ => faithful_pure _) c stands
  · exact faithful_advance.bind (fun _ => faithful_pure _) c stands
  · exact faithful_advance.bind (fun _ => inside.bind fun _ => faithful_pure _) c stands
  · exact faithful_indexOrSlice c stands
  · exact faithful_indexOrSlice c stands
  · exact faithful_expected .selector c stands

theorem faithful_bracketed {filter : Parser Expression} (inside : Faithful source filter) :
    Faithful source (bracketed filter) :=
  (faithful_separated .comma (faithful_selector inside)).bind fun selectors =>
    (faithful_take .closeBracket .commaOrBracket).bind fun _ => faithful_pure selectors

theorem faithful_shorthand (marker : Lexeme) (kind : SegmentKind) :
    Faithful source (shorthand marker kind) := by
  refine faithful_get fun c stands => ?_
  split
  · split
    · exact faithful_advance.bind (fun _ => faithful_pure _) c stands
    · exact faithful_advance.bind (fun _ => faithful_pure _) c stands
    · exact faithful_expected .nameOrStar c stands
  · exact faithful_fail _ c stands

theorem faithful_segment? {filter : Parser Expression} (inside : Faithful source filter) :
    Faithful source (segment? filter) := by
  refine faithful_get fun c stands => ?_
  split
  · exact faithful_pure none c stands
  · next marker ls ahead =>
    split
    · exact faithful_advance.bind
        (fun _ => (faithful_shorthand marker .child).bind fun _ => faithful_pure _) c stands
    · refine faithful_advance.bind (fun _ => faithful_get fun c stands => ?_) c stands
      split
      · exact faithful_advance.bind
          (fun _ => (faithful_bracketed inside).bind fun _ => faithful_pure _) c stands
      · exact (faithful_shorthand marker .descendant).bind (fun _ => faithful_pure _) c stands
    · exact faithful_advance.bind
        (fun _ => (faithful_bracketed inside).bind fun _ => faithful_pure _) c stands
    · exact faithful_pure none c stands

theorem faithful_query {filter : Parser Expression} (inside : Faithful source filter)
    (root : QueryRoot) (start : Nat) : Faithful source (query filter root start) :=
  (faithful_many (faithful_segment? inside)).bind fun _ => faithful_get fun c stands =>
    faithful_pure _ c stands

/-! ## Expressions -/

theorem faithful_nested (limit : Nat) {inner : Option (Parser α)}
    (inside : ∀ p ∈ inner, Faithful source p) : Faithful source (nested limit inner) := by
  cases inner with
  | none => exact faithful_fail (.tooDeep limit)
  | some p => exact inside p rfl

theorem faithful_arguments {expression : Parser Expression} (inside : Faithful source expression) :
    Faithful source (arguments expression) := by
  refine faithful_get fun c stands => ?_
  split
  · exact faithful_pure [] c stands
  · exact faithful_separated .comma inside c stands

theorem faithful_call (limit : Nat) {inner : Option (Parser Expression)} {marker : Lexeme}
    (inside : ∀ p ∈ inner, Faithful source p) (stands : marker.StandsIn source) (name : String) :
    Faithful source (call limit inner marker name) := by
  have deeper : Faithful source (nested limit (inner.map arguments)) := by
    refine faithful_nested limit fun p member => ?_
    obtain ⟨expression, is, rfl⟩ := Option.map_eq_some_iff.mp member
    exact faithful_arguments (inside expression is)
  refine faithful_advance.bind fun _ => faithful_check (faithful_throw (stands.pointsInto _)) ?_
  refine faithful_get fun c stands => faithful_check (faithful_fail _) ?_ c stands
  refine faithful_advance.bind fun _ => deeper.bind fun es => ?_
  refine (faithful_take .closeParen .commaOrParen).bind fun _ => ?_
  exact faithful_get fun c stands => faithful_pure _ c stands

theorem faithful_comparable (limit : Nat) {inner : Option (Parser Expression)}
    (inside : ∀ p ∈ inner, Faithful source p) : Faithful source (comparable limit inner) := by
  unfold comparable
  refine faithful_get fun c stands => ?_
  split
  · exact faithful_expected .comparable c stands
  · next l rest ahead =>
    have here : l.StandsIn source := stands.ahead l (ahead ▸ List.mem_cons_self)
    have deeper := faithful_nested limit inside
    split
    · split
      · exact faithful_advance.bind (fun _ => faithful_pure _) c stands
      · exact faithful_fail _ c stands
    · exact faithful_advance.bind (fun _ => faithful_pure _) c stands
    · exact faithful_advance.bind
        (fun _ => (faithful_query deeper .document _).bind fun _ => faithful_pure _) c stands
    · exact faithful_advance.bind
        (fun _ => (faithful_query deeper .current _).bind fun _ => faithful_pure _) c stands
    · next name _ =>
      split
      · exact faithful_call limit inside here name c stands
      · split
        · exact faithful_advance.bind (fun _ => faithful_pure _) c stands
        · exact faithful_expected .comparable c stands
    · exact faithful_expected .comparable c stands

theorem faithful_operand (limit : Nat) {innerOperand inner : Option (Parser Expression)}
    (negated : ∀ p ∈ innerOperand, Faithful source p) (inside : ∀ p ∈ inner, Faithful source p) :
    Faithful source (operand limit innerOperand inner) := by
  unfold operand
  refine faithful_get fun c stands => ?_
  split
  · exact faithful_expected .comparable c stands
  · split
    · exact faithful_advance.bind
        (fun _ => (faithful_nested limit negated).bind fun _ => faithful_pure _) c stands
    · refine faithful_advance.bind (fun _ => ?_) c stands
      refine (faithful_nested limit inside).bind fun e => ?_
      refine (faithful_take .closeParen .closeParen).bind fun _ => ?_
      exact faithful_get fun c stands => faithful_pure _ c stands
    · exact faithful_comparable limit inside c stands

theorem faithful_comparison {operand comparable : Parser Expression}
    (left : Faithful source operand) (right : Faithful source comparable) :
    Faithful source (comparison operand comparable) := by
  unfold comparison
  refine left.bind fun e => faithful_get fun c stands => ?_
  split
  · exact faithful_pure e c stands
  · next operator _ =>
    refine faithful_check (faithful_fail _) ?_ c stands
    refine faithful_advance.bind fun _ => right.bind fun e' => ?_
    refine faithful_get fun c stands => faithful_check (faithful_fail _) ?_ c stands
    exact faithful_pure _

theorem faithful_disjunction {comparison : Parser Expression}
    (each : Faithful source comparison) : Faithful source (disjunction (conjunction comparison)) :=
  (faithful_separated .either ((faithful_separated .both each).bind fun _ => faithful_pure _)).bind
    fun _ => faithful_pure _

/-- Level by level: what is read inside is faithful where a level is left. -/
theorem faithful_levels (limit n : Nat) :
    Faithful source (operandAt limit n) ∧ Faithful source (expressionAt limit n) := by
  have level {innerOperand inner : Option (Parser Expression)}
      (negated : ∀ p ∈ innerOperand, Faithful source p) (inside : ∀ p ∈ inner, Faithful source p) :
      Faithful source (operand limit innerOperand inner) ∧ Faithful source
        (disjunction (conjunction (comparison (operand limit innerOperand inner)
          (comparable limit inner)))) :=
    ⟨faithful_operand limit negated inside, faithful_disjunction (faithful_comparison
      (faithful_operand limit negated inside) (faithful_comparable limit inside))⟩
  induction n with
  | zero => exact level nofun nofun
  | succ n ih =>
    refine level ?_ ?_
    · rintro _ ⟨⟩
      exact ih.1
    · rintro _ ⟨⟩
      exact ih.2

theorem faithful_filter (limit : Nat) : Faithful source (filter limit) := by
  cases limit with
  | zero => exact faithful_fail (.tooDeep 0)
  | succ n => exact (faithful_levels (n + 1) n).2

theorem faithful_wholeQuery (limit : Nat) : Faithful source (wholeQuery limit) := by
  unfold wholeQuery
  refine faithful_get fun c stands => ?_
  refine faithful_check (faithful_fail _) ?_ c stands
  refine (faithful_take .dollar .dollar).bind fun _ => ?_
  refine (faithful_query (faithful_filter limit) .document 0).bind fun tree => ?_
  refine faithful_get fun c stands => faithful_check (faithful_expected .segmentOrEnd) ?_ c stands
  exact faithful_check (faithful_fail _) (faithful_pure tree)

end Parser

/-! ## Whole texts -/

/-- Whatever is wrong with a text, the error is at a place of it. -/
theorem pointsInto_of_parse {limit : Nat} {source : String} {e : SyntaxError}
    (failed : parse limit source = .error e) : e.PointsInto source.toList := by
  unfold parse at failed
  cases read : Lexemes.read source with
  | error e' =>
    rw [read] at failed
    cases failed
    exact readFrom_error [] rfl read
  | ok lexemes =>
    rw [read] at failed
    have stands : Cursor.StandsIn ⟨0, lexemes.lexemes, lexemes.finish⟩ source.toList :=
      ⟨standsIn_of_read read, (read_eq_ok.mp read).2⟩
    have faithful := Parser.faithful_wholeQuery limit _ stands
    unfold Parser.FaithfulAt at faithful
    have ran : Except.map (·.1) (Parser.wholeQuery limit ⟨0, lexemes.lexemes, lexemes.finish⟩) =
        .error e := failed
    rwa [map_eq_error.mp ran] at faithful

/-- A reader of the source finds that byte in that line, counted from one, and in that column,
counted from zero in characters. -/
def FoundAt (source : String) (line column offset : Nat) : Prop :=
  ∃ before, before <+: source.toList ∧ Counts ⟨offset, line, column⟩ before

/-- The line and the column of an error are those of one byte of the source, its end included.
Nothing is to blame exactly at the end, and elsewhere it is some of the text from there on. -/
structure SyntaxError.Located (e : SyntaxError) (source : String) : Prop where
  found : ∀ offset, FoundAt source e.place.line e.place.column offset ↔ offset = e.place.offset
  inside : e.place.offset ≤ source.utf8ByteSize
  at_end : e.offending = none ↔ e.place.offset = source.utf8ByteSize
  blamed : ∀ symbol, e.offending = some symbol → symbol ≠ "" ∧
    ∃ rest, Span.dropBytes e.place.offset source.toList = some rest ∧ symbol.toList <+: rest

theorem SyntaxError.PointsInto.located {e : SyntaxError} {source : String}
    (points : e.PointsInto source.toList) : e.Located source := by
  obtain ⟨before, after, whole, place, at_end, blamed⟩ := points
  have counts : Counts e.place before := place ▸ counts_afterAll before
  have front : before <+: source.toList := ⟨after, whole.symm⟩
  have size : source.utf8ByteSize = e.place.offset + byteLength after := by
    rw [← byteLength_toList, whole, byteLength_append, counts.offset]
  refine ⟨fun offset => ⟨?_, ?_⟩, by omega, ?_, fun symbol is => ?_⟩
  · rintro ⟨other, otherFront, found⟩
    have same : other = before := by
      refine eq_of_line_column otherFront front ?_ ?_
      · exact Nat.add_left_cancel (found.line.symm.trans counts.line)
      · exact found.column.symm.trans counts.column
    rw [counts.offset, ← same]
    exact found.offset
  · rintro rfl
    exact ⟨before, front, counts⟩
  · rw [at_end]
    cases after with
    | nil => simp [size, byteLength]
    | cons c cs =>
      have room := c.utf8Size_pos
      simp [size, byteLength]
      omega
  · obtain ⟨nonempty, ahead⟩ := blamed symbol is
    refine ⟨nonempty, after, ?_, ahead⟩
    rw [whole, counts.offset, Span.dropBytes_append]

/-- Where a text is rejected, whether by the scanner or by a parser, the error is located in it. -/
theorem parse_error_located {limit : Nat} {source : String} {e : SyntaxError}
    (failed : parse limit source = .error e) : e.Located source :=
  (pointsInto_of_parse failed).located

/-- An operand is missing in the second line. -/
theorem parse_error_located_operand :
    let source := "$\n.a[?@.é ==]"
    ∃ e, parse 128 source = .error e ∧ e.place = ⟨13, 2, 10⟩ ∧ e.offending = some "]" ∧
      e.Located source := by
  intro source
  have rejected : (match parse 128 source with
      | .error e => decide (e.place = ⟨13, 2, 10⟩ ∧ e.offending = some "]")
      | .ok _ => false) = true := by decide +kernel
  cases failed : parse 128 source with
  | ok tree => simp [failed] at rejected
  | error e =>
    rw [failed] at rejected
    obtain ⟨place, blamed⟩ := of_decide_eq_true rejected
    exact ⟨e, rfl, place, blamed, parse_error_located failed⟩

end JsonPath
