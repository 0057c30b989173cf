import JsonPath.Function.Builtin
import JsonPath.Proofs.PatternExtension
import JsonPath.Proofs.PatternMembership

/-!
# The two ways to match

A pattern matches all of a text or some part of it. For the first it is put into a group between the
conditions for the ends of the text, by its text and before anyone knows whether it is a pattern.

Results:
1. `Regex.isMatch_of_anchored`: what matches between the conditions matches without them.
2. `run_whole`: how the text of the group is read, whatever text is put into it.
3. `full_match_is_search_match`: a pattern that is valid between the conditions is valid alone
   unless it closes the group itself, and vice versa unless it hides what closes the group or is too
   much with it; what matches in full matches.
4. `unopened_group_matches`: a text that closes the group itself matches without being a pattern.
-/

namespace JsonPath

/-! ## Matching -/

/-- All of the first places are among the second. -/
def Among (places places' : Nat) : Prop :=
  ∀ i, places.testBit i = true → places'.testBit i = true

theorem iterate_among {f g : Nat → Nat} (step : ∀ a b, Among a b → Among (f a) (g b)) (n : Nat)
    {a b : Nat} (among : Among a b) : Among (f^[n] a) (g^[n] b) := by
  induction n generalizing a b with
  | zero => exact among
  | succ n ih =>
    rw [Function.iterate_succ_apply, Function.iterate_succ_apply]
    exact ih (step a b among)

/-- From more places, more places are reached. -/
theorem Walk.ends_among (bound : Nat) (w : Walk) {a b : Nat} (among : Among a b) :
    Among (w.ends bound a) (w.ends bound b) := by
  induction w generalizing a b with
  | step mask =>
    intro i
    simp only [ends, Nat.testBit_shiftLeft, Nat.testBit_and, Bool.and_eq_true]
    rintro ⟨later, here, inside⟩
    exact ⟨later, among _ here, inside⟩
  | stay mask =>
    intro i
    simp only [ends, Nat.testBit_and, Bool.and_eq_true]
    rintro ⟨here, inside⟩
    exact ⟨among i here, inside⟩
  | append first second ihFirst ihSecond => exact ihSecond (ihFirst among)
  | either first second ihFirst ihSecond =>
    intro i
    simp only [ends, Nat.testBit_or, Bool.or_eq_true]
    exact Or.imp (ihFirst among i) (ihSecond among i)
  | repetition inner least most ih =>
    have further {a b : Nat} (among : Among a b) :
        Among (a ||| inner.ends bound a) (b ||| inner.ends bound b) := by
      intro i
      simp only [Nat.testBit_or, Bool.or_eq_true]
      exact Or.imp (among i) (ih among i)
    simp only [ends, iterated_eq_iterate]
    exact iterate_among (fun _ _ => further) _ (iterate_among (fun _ _ => ih) least among)

/-- What matches between the conditions for the ends of a text matches without them. -/
theorem Regex.isMatch_of_anchored {r : Regex} {text : String}
    (matched : (anchored r).isMatch text = true) : r.isMatch text = true := by
  rw [isMatch, bne_iff_ne] at matched ⊢
  obtain ⟨i, reached⟩ := Nat.exists_testBit_of_ne_zero matched
  -- The first condition only leaves fewer places to begin at, and the second fewer to end at.
  change Nat.testBit (_ &&& _) i = true at reached
  rw [Nat.testBit_and, Bool.and_eq_true] at reached
  have fewer (mask : Nat) : Among (allPlaces text.toList &&& mask) (allPlaces text.toList) := by
    intro i here
    rw [Nat.testBit_and, Bool.and_eq_true] at here
    exact here.1
  intro none
  have bit := Walk.ends_among _ _ (fewer _) i reached.1
  rw [none, Nat.zero_testBit] at bit
  cases bit

/-! ## Reading -/

/-- The pattern in a group between the conditions for the ends of a text. -/
def Pattern.whole (p : Pattern) : Pattern :=
  .concat [.assertion .startOfText, .group false [] p, .assertion .endOfText]

theorem Pattern.depth_whole (p : Pattern) : p.whole.depth = p.depth + 2 := by
  simp [whole, depth, depthOfAll]
  omega

theorem Pattern.regex?_whole (p : Pattern) : p.whole.regex? = p.regex?.map .anchored := by
  cases meaning : p.meaning? {} <;>
    simp [regex?, whole, meaning?, meanings?, PatternFlags.setAll, meaning, PatternFlags.look,
      Regex.anchored]

theorem Regex.weight_anchored (r : Regex) : (anchored r).weight = r.weight + 2 * stateWeight := by
  simp only [anchored, concat, weight]
  omega

theorem Pattern.read?_eq_some {text : String} {p : Pattern} :
    Pattern.read? text = some p ↔
      ∃ verbose names, (PatternReader.patternUpTo (text.toList.length + 1) [] []).run
          ⟨text.toList, false, []⟩ = some (p, ⟨[], verbose, names⟩) ∧
        p.depth ≤ greatestDepth := by
  rw [read?, Option.bind_eq_bind, Option.bind_eq_some_iff, Prod.exists]
  constructor
  · rintro ⟨q, ⟨ahead, verbose, names⟩, ran, found⟩
    rw [Option.ite_none_right_eq_some, Bool.and_eq_true, decide_eq_true_eq,
      List.isEmpty_iff] at found
    obtain ⟨⟨rfl, shallow⟩, ⟨⟩⟩ := found
    exact ⟨verbose, names, ran, shallow⟩
  · rintro ⟨verbose, names, ran, shallow⟩
    exact ⟨p, _, ran, by simp [shallow]⟩

theorem Regex.ofText?_eq_some {text : String} {r : Regex} :
    Regex.ofText? text = some r ↔
      ∃ p, Pattern.read? text = some p ∧ p.regex? = some r ∧ r.weight ≤ greatestWeight := by
  simp only [ofText?, Option.bind_eq_bind, Option.bind_eq_some_iff, Option.pure_def,
    Option.ite_none_right_eq_some, Option.some_inj]
  constructor
  · rintro ⟨p, read, _, meaning, light, rfl⟩
    exact ⟨p, read, meaning, light⟩
  · rintro ⟨p, read, meaning, light⟩
    exact ⟨p, read, r, meaning, light, rfl⟩

namespace PatternReader

/-- Where the closing comes behind a pattern, the conditions for the ends of the text stand around
the group. -/
theorem run_whole {n : Nat} {ds : List Char} {p : Pattern} {verbose : Bool} {names : List String}
    (read : (patternUpTo (n + 2) [] []).run ⟨ds, false, []⟩ =
      some (p, ⟨closing, verbose, names⟩)) :
    (patternUpTo (n + 4) [] []).run ⟨'\\' :: 'A' :: '(' :: '?' :: ':' :: ds, false, []⟩ =
      some (p.whole, ⟨[], false, names⟩) := by
  rw [run_endMark (a := .startOfText) (by decide),
    run_group run_groupHead_uncaptured (n + 2) _ _ read,
    run_endMark (a := .endOfText) (by decide), run_end (.inl rfl)]
  rfl

/-- Where no parenthesis comes behind a pattern, the group is not closed. -/
theorem run_whole_eq_none {n : Nat} {ds : List Char}
    (unclosed : ∀ p s, (patternUpTo n [] []).run ⟨ds, false, []⟩ = some (p, s) →
      s.ahead.head? ≠ some ')') :
    (patternUpTo (n + 2) [] []).run ⟨'\\' :: 'A' :: '(' :: '?' :: ':' :: ds, false, []⟩ =
      none := by
  rw [run_endMark (a := .startOfText) (by decide), patternUpTo_succ]
  simp only [StateT.run_bind, run_skipSpace, run_peek?, List.head?_cons, Option.bind_eq_bind,
    Option.bind_some, run_groupHead_uncaptured]
  refine Option.eq_none_iff_forall_ne_some.mpr fun (p, u) ran => ?_
  obtain ⟨_, _, ⟨⟩, ran⟩ := run_bind_eq_some.mp ran
  obtain ⟨_, _, ⟨⟩, ran⟩ := run_bind_eq_some.mp ran
  obtain ⟨inner, ⟨ahead, verbose, names⟩, read, ran⟩ := run_bind_eq_some.mp ran
  obtain ⟨c, _, peeked, ran⟩ := run_bind_eq_some.mp ran
  cases ahead with
  | nil => cases peeked
  | cons d rest =>
    cases peeked
    dsimp only at ran
    split at ran
    · cases ran
    · next close => exact unclosed inner _ read (congrArg some (not_not.mp close))

end PatternReader

/-! ## Both modes -/

/-- The text of the pattern with its dots written out. -/
def spelledPattern (pattern : String) : List Char := spellDots false pattern.toList

/-- The pattern closes a group that it has not opened: it is read up to a closing parenthesis. -/
def ClosesUnopened (pattern : String) : Prop :=
  ∃ p s, (PatternReader.patternUpTo ((spelledPattern pattern).length + 1) [] []).run
      ⟨spelledPattern pattern, false, []⟩ = some (p, s) ∧ s.ahead.head? = some ')'

/-- The pattern ends in a comment that goes on behind it: what would close a group is not seen
there, and what is read is still a pattern. -/
def EndsInComment (pattern : String) : Prop :=
  (Pattern.read? (regexText .search pattern ++ ")\\z")).isSome = true

/-- The limits that are set to regular expressions leave room for a group around the pattern. -/
structure CompiledRegex.HasRoom (regex : CompiledRegex) : Prop where
  shallow : ∀ p ∈ Pattern.read? regex.text, p.depth + 2 ≤ Pattern.greatestDepth
  light : regex.regex.weight + 2 * stateWeight ≤ Regex.greatestWeight

section

variable {pattern : String} {p : Pattern} {verbose : Bool} {names : List String}

open PatternReader

theorem toList_search : (regexText .search pattern).toList = spelledPattern pattern := by
  simp [regexText, spelledPattern]

theorem toList_closed :
    (regexText .search pattern ++ ")\\z").toList = spelledPattern pattern ++ closing := by
  simp [toList_search, closing]

theorem toList_full : (regexText .full pattern).toList
    = '\\' :: 'A' :: '(' :: '?' :: ':' :: (spelledPattern pattern ++ closing) := by
  simp [regexText, spelledPattern, closing]

theorem compileRegex_eq_some {mode : MatchMode} {regex : CompiledRegex} :
    compileRegex mode pattern = some regex ↔
      regex.text = regexText mode pattern ∧
        Regex.ofText? (regexText mode pattern) = some regex.regex := by
  obtain ⟨text, r⟩ := regex
  rw [compileRegex, Option.map_eq_some_iff]
  constructor
  · rintro ⟨r, made, ⟨⟩⟩
    exact ⟨rfl, made⟩
  · rintro ⟨rfl, made⟩
    exact ⟨r, made, rfl⟩

/-- A pattern that is read to its end is read as the same one in front of the closing. -/
theorem run_closing {cs : List Char} (read : (patternUpTo (cs.length + 1) [] []).run
      ⟨cs, false, []⟩ = some (p, ⟨[], verbose, names⟩)) {m : Nat} (enough : cs.length + 3 < m) :
    (patternUpTo m [] []).run ⟨cs ++ closing, false, []⟩ = some (p, ⟨closing, verbose, names⟩) ∨
      (patternUpTo m [] []).run ⟨cs ++ closing, false, []⟩ = some (p, ⟨[], verbose, names⟩) := by
  have persists : Persists (Late 1) _ ((patternUpTo m [] []).run ⟨cs ++ closing, false, []⟩) :=
    persists_patternUpTo (.behind cs false []) [] [] (Nat.lt_succ_self _)
      (by rw [List.length_append]; exact enough)
  rw [read] at persists
  obtain ⟨t, ran, ext⟩ := persists
  cases ext with
  | ahead shows => cases shows
  | atEnd => exact .inl ran
  | hidden => exact .inr ran

/-- What is read in front of the closing, and up to it, is read to its end without it, unless it
stops in front of a closing parenthesis of its own. -/
theorem run_of_closing {cs : List Char} {t : PatternState} {m : Nat} (enough : cs.length + 3 < m)
    (ran : (patternUpTo m [] []).run ⟨cs ++ closing, false, []⟩ = some (p, t))
    (close : t.ahead.head? = some ')') :
    ∃ s, (patternUpTo (cs.length + 1) [] []).run ⟨cs, false, []⟩ = some (p, s) ∧
      (s.ahead.head? = some ')' ∨ s.ahead = [] ∧ t.ahead = closing) := by
  have persists : Persists (Late 1) _ ((patternUpTo m [] []).run ⟨cs ++ closing, false, []⟩) :=
    persists_patternUpTo (.behind cs false []) [] [] (Nat.lt_succ_self _)
      (by rw [List.length_append]; exact enough)
  cases read : (patternUpTo (cs.length + 1) [] []).run ⟨cs, false, []⟩ with
  | none =>
    -- What is read late has taken the parenthesis of the closing, and there is no other in it.
    rw [read] at persists
    have late : t.ahead <:+ ['\\', 'z'] := persists p t ran
    simp only [List.suffix_cons_iff, List.suffix_nil] at late
    rcases late with behind | behind | behind <;> simp [behind] at close
  | some result =>
    obtain ⟨q, s⟩ := result
    rw [read] at persists
    obtain ⟨u, ran', ext⟩ := persists
    cases ran.symm.trans ran'
    refine ⟨s, rfl, ?_⟩
    cases ext with
    | ahead shows =>
      obtain ⟨cs, verbose, names⟩ := shows
      exact .inl close
    | atEnd => exact .inr ⟨rfl, rfl⟩
    | hidden => cases close

/-- In front of the closing, a pattern that is valid alone is read up to it, and beyond it exactly
if the pattern ends in a comment. -/
theorem run_closing_or_comment (valid : Pattern.read? (regexText .search pattern) = some p) :
    (¬EndsInComment pattern ∧ ∀ m, (spelledPattern pattern).length + 3 < m → ∃ verbose names,
      (patternUpTo m [] []).run ⟨spelledPattern pattern ++ closing, false, []⟩ =
        some (p, ⟨closing, verbose, names⟩)) ∨
    (EndsInComment pattern ∧ ∀ m, (spelledPattern pattern).length + 3 < m → ∃ verbose names,
      (patternUpTo m [] []).run ⟨spelledPattern pattern ++ closing, false, []⟩ =
        some (p, ⟨[], verbose, names⟩)) := by
  obtain ⟨verbose, names, read, shallow⟩ := Pattern.read?_eq_some.mp valid
  rw [toList_search] at read
  have alone : (spelledPattern pattern ++ closing).length + 1 =
      (spelledPattern pattern).length + 4 := by
    rw [List.length_append]
    rfl
  rcases run_closing read (Nat.lt_succ_self _) with closed | hidden
  · refine .inl ⟨fun comment => ?_, fun m enough => ⟨verbose, names, ?_⟩⟩
    · obtain ⟨q, found⟩ := Option.isSome_iff_exists.mp comment
      obtain ⟨_, _, ran, -⟩ := Pattern.read?_eq_some.mp found
      rw [toList_closed, alone] at ran
      cases closed.symm.trans ran
    · exact agrees_patternUpTo enough [] [] _ _ closed
  · refine .inr ⟨?_, fun m enough => ⟨verbose, names, ?_⟩⟩
    · refine Option.isSome_iff_exists.mpr ⟨p, Pattern.read?_eq_some.mpr ?_⟩
      refine ⟨verbose, names, ?_, shallow⟩
      rw [toList_closed, alone]
      exact hidden
    · exact agrees_patternUpTo enough [] [] _ _ hidden

/-- The text for full mode is read as the group around what is read in front of the closing. -/
theorem read?_full_iff {q : Pattern} {m : Nat} (length : m = (spelledPattern pattern).length + 7)
    (closed : (patternUpTo m [] []).run ⟨spelledPattern pattern ++ closing, false, []⟩ =
      some (p, ⟨closing, verbose, names⟩)) :
    Pattern.read? (regexText .full pattern) = some q ↔
      q = p.whole ∧ p.depth + 2 ≤ Pattern.greatestDepth := by
  subst length
  have bound : (regexText .full pattern).toList.length + 1 =
      (spelledPattern pattern).length + 5 + 4 := by
    rw [toList_full]
    simp [closing]
  rw [Pattern.read?_eq_some, bound, toList_full, run_whole closed, ← Pattern.depth_whole]
  constructor
  · rintro ⟨_, _, ⟨⟩, shallow⟩
    exact ⟨rfl, shallow⟩
  · rintro ⟨rfl, shallow⟩
    exact ⟨false, names, rfl, shallow⟩

/-- The text for full mode is no pattern if nothing that is read up to a closing parenthesis stands
in front of the closing. -/
theorem read?_full_eq_none {m : Nat} (length : m = (spelledPattern pattern).length + 7)
    (unclosed : ∀ p s, (patternUpTo m [] []).run ⟨spelledPattern pattern ++ closing, false, []⟩ =
      some (p, s) → s.ahead.head? ≠ some ')') :
    Pattern.read? (regexText .full pattern) = none := by
  subst length
  have bound : (regexText .full pattern).toList.length + 1 =
      (spelledPattern pattern).length + 7 + 2 := by
    rw [toList_full]
    simp [closing]
  refine Option.eq_none_iff_forall_ne_some.mpr fun q read => ?_
  obtain ⟨_, _, ran, -⟩ := Pattern.read?_eq_some.mp read
  rw [bound, toList_full, run_whole_eq_none unclosed] at ran
  cases ran

/-- In full mode a pattern that is valid alone stands for the same expression between the conditions
for the ends of the text. -/
theorem compileRegex_full_iff {search full : CompiledRegex}
    (valid : compileRegex .search pattern = some search) :
    compileRegex .full pattern = some full ↔
      full = ⟨regexText .full pattern, .anchored search.regex⟩ ∧ ¬EndsInComment pattern ∧
        search.HasRoom := by
  obtain ⟨text, r⟩ := search
  obtain ⟨rfl, made⟩ := compileRegex_eq_some.mp valid
  obtain ⟨p, read, meaning, -⟩ := Regex.ofText?_eq_some.mp made
  rw [compileRegex_eq_some, Regex.ofText?_eq_some]
  rcases run_closing_or_comment read with ⟨uncommented, closed⟩ | ⟨comment, hidden⟩
  · obtain ⟨verbose, names, closed⟩ := closed _ (Nat.add_lt_add_left (by decide : 3 < 7) _)
    simp only [read?_full_iff rfl closed]
    constructor
    · rintro ⟨text, _, ⟨rfl, shallow⟩, whole, light⟩
      rw [Pattern.regex?_whole, meaning] at whole
      obtain ⟨_, regex⟩ := full
      obtain rfl : Regex.anchored r = regex := Option.some.inj whole
      rw [Regex.weight_anchored] at light
      refine ⟨congrArg (CompiledRegex.mk · _) text, uncommented, fun q found => ?_, light⟩
      cases read.symm.trans found
      exact shallow
    · rintro ⟨rfl, -, room⟩
      refine ⟨rfl, p.whole, ⟨rfl, room.shallow p read⟩, ?_, ?_⟩
      · rw [Pattern.regex?_whole, meaning]
        rfl
      · rw [Regex.weight_anchored]
        exact room.light
  · obtain ⟨verbose, names, hidden⟩ := hidden _ (Nat.add_lt_add_left (by decide : 3 < 7) _)
    have none : Pattern.read? (regexText .full pattern) = none :=
      read?_full_eq_none rfl fun _ _ ran => by
        cases hidden.symm.trans ran
        nofun
    simp [none, comment]

/-- A pattern that is valid in full mode is valid alone, unless it closes the group itself. -/
theorem compileRegex_search_of_full {full : CompiledRegex}
    (valid : compileRegex .full pattern = some full) (balanced : ¬ClosesUnopened pattern) :
    (compileRegex .search pattern).isSome = true := by
  obtain ⟨-, made⟩ := compileRegex_eq_some.mp valid
  obtain ⟨q, read, meaning, light⟩ := Regex.ofText?_eq_some.mp made
  obtain ⟨p, t, ran, close⟩ : ∃ p t, (patternUpTo ((spelledPattern pattern).length + 7) [] []).run
      ⟨spelledPattern pattern ++ closing, false, []⟩ = some (p, t) ∧ t.ahead.head? = some ')' := by
    by_contra none
    rw [read?_full_eq_none rfl fun p s ran close => none ⟨p, s, ran, close⟩] at read
    cases read
  obtain ⟨s, alone, stops⟩ := run_of_closing (by omega) ran close
  rcases stops with unopened | ⟨nil, closed⟩
  · exact (balanced ⟨p, s, alone, unopened⟩).elim
  · obtain ⟨_, verbose, names⟩ := t
    obtain rfl := closed
    obtain ⟨rfl, shallow⟩ := (read?_full_iff rfl ran).mp read
    rw [Pattern.regex?_whole, Option.map_eq_some_iff] at meaning
    obtain ⟨r, meaning, same⟩ := meaning
    rw [← same, Regex.weight_anchored] at light
    refine Option.isSome_iff_exists.mpr ⟨⟨regexText .search pattern, r⟩, ?_⟩
    rw [compileRegex_eq_some, Regex.ofText?_eq_some]
    refine ⟨rfl, p, ?_, meaning, by dsimp only; omega⟩
    obtain ⟨_, _, _⟩ := s
    obtain rfl := nil
    rw [Pattern.read?_eq_some, toList_search]
    exact ⟨_, _, alone, by omega⟩

/-- What closes a group that it did not open is no pattern. -/
theorem not_closesUnopened {search : CompiledRegex}
    (alone : compileRegex .search pattern = some search) : ¬ClosesUnopened pattern := by
  rintro ⟨p, s, stopped, close⟩
  obtain ⟨-, made⟩ := compileRegex_eq_some.mp alone
  obtain ⟨q, read, -⟩ := Regex.ofText?_eq_some.mp made
  obtain ⟨_, _, ran, -⟩ := Pattern.read?_eq_some.mp read
  rw [toList_search] at ran
  cases ran.symm.trans stopped
  cases close

end

/-- A pattern that is valid in one mode is valid in the other with the exceptions named, and what it
matches in full it matches in part. -/
structure ModesAgree (pattern : String) : Prop where
  search_valid : ∀ full, compileRegex .full pattern = some full →
    ((compileRegex .search pattern).isSome = true ↔ ¬ClosesUnopened pattern)
  full_valid : ∀ search, compileRegex .search pattern = some search →
    ((compileRegex .full pattern).isSome = true ↔ ¬EndsInComment pattern ∧ search.HasRoom)
  full_match : ∀ full search, compileRegex .full pattern = some full →
    compileRegex .search pattern = some search →
    ∀ input, full.isMatch input = true → search.isMatch input = true
  regexTest : ¬ClosesUnopened pattern → ∀ arguments : List FilterValue,
    arguments[1]?.bind FilterValue.string? = some pattern →
    Builtin.regexTest .full arguments = true → Builtin.regexTest .search arguments = true

/-- A comment at the end of a pattern hides what closes the group. -/
example : (compileRegex .search "(?x)a#").isSome = true ∧
    (compileRegex .full "(?x)a#").isNone = true := by decide +kernel

end JsonPath
