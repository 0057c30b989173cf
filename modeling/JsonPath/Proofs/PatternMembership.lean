import JsonPath.Proofs.PatternReading

/-!
# Matching an interoperable pattern

A text fully matches an I-Regexp if it is in the language of the pattern. That holds of the patterns
that mean the same in the dialect that is read, up to the limits that are set to nesting and weight.

Results:
1. `IRegexp.Atom.denotes`, `Branch.denotes`, `Alternatives.denotes`: what is read of a pattern
   denotes its language.
2. `full_match_decides_language`: a portable pattern within the limits is made ready, and matches
   exactly the texts of its language.
3. `caret_outside_brackets`: a caret outside brackets is no character, so the restriction is needed.
-/

namespace JsonPath

/-! ## Sets -/

/-- The characters of the categories whose codes begin with the name. -/
def CharSet.ofCategoryPrefix (name : String) : CharSet :=
  ofCategories (GeneralCategory.all.filter fun g => name.toList.isPrefixOf g.code.toList)

theorem CharSet.contains_ofCategoryPrefix (name : String) (c : Char) :
    (ofCategoryPrefix name).contains c
      = name.toList.isPrefixOf (GeneralCategory.of c).code.toList := by
  have every (g : GeneralCategory) : g ∈ GeneralCategory.all := by cases g <;> decide
  rw [ofCategoryPrefix, contains_ofCategories, Bool.eq_iff_iff, List.contains_iff_mem,
    List.mem_filter]
  exact and_iff_right (every _)

/-- The set of a name that I-Regexps have for categories. -/
theorem CharSet.named?_category {name : String} (known : name ∈ IRegexp.categoryNames) :
    CharSet.named? name = some (ofCategoryPrefix name) := by
  have properties : ∀ name ∈ IRegexp.categoryNames,
      (if comparedName name = "cf" || comparedName name = "sc" || comparedName name = "lc"
        then none else Property.named? (comparedName name)).isNone = true := by decide +kernel
  have categories : ∀ name ∈ IRegexp.categoryNames,
      GeneralCategory.named? (comparedName name)
        = some (GeneralCategory.all.filter fun g => name.toList.isPrefixOf g.code.toList) := by
    decide +kernel
  have others : ∀ name ∈ IRegexp.categoryNames, comparedName name ≠ "any" ∧
      comparedName name ≠ "ascii" ∧ comparedName name ≠ "assigned" := by decide +kernel
  obtain ⟨noAny, noAscii, noAssigned⟩ := others name known
  have category : ofCategoryName? (comparedName name)
      = (GeneralCategory.named? (comparedName name)).map ofCategories := by
    unfold ofCategoryName?
    split
    · exact absurd ‹_› noAny
    · exact absurd ‹_› noAscii
    · exact absurd ‹_› noAssigned
    · rfl
  have noProperty := Option.isNone_iff_eq_none.mp (properties name known)
  -- The equation of the definition holds all tables, so Lean is slow to state it.
  delta named?
  simp only [noProperty, category, categories name known, Option.map_some, ofCategoryPrefix]

namespace IRegexp

/-- Under the usual flags, what is read stands for the characters of which `p` holds. -/
def Stands (read : ClassSet) (p : Char → Bool) : Prop :=
  ∃ s, read.set? {} = some s ∧ s.Complete ∧ ∀ c, s.contains c = p c

theorem CategoryEscape.stands (named : CategoryEscape) :
    ∃ s, named.asRead.set? {} = some s ∧ s.Complete ∧ ∀ c, s.contains c = named.contains c := by
  obtain ⟨negated, name, known⟩ := named
  have set := CharSet.named?_category known
  have complete : (CharSet.ofCategoryPrefix name).Complete := CharSet.complete_ofCategories _
  have contents := CharSet.contains_ofCategoryPrefix name
  cases negated with
  | false =>
    refine ⟨CharSet.ofCategoryPrefix name, ?_, complete, fun c => ?_⟩
    · simp [asRead, PropertyClass.set?, set, PatternFlags.closeCase]
    · simp [contents, CategoryEscape.contains]
  | true =>
    refine ⟨(CharSet.ofCategoryPrefix name).complement, ?_, complete.complement, fun c => ?_⟩
    · simp [asRead, PropertyClass.set?, set, PatternFlags.closeCase]
    · simp [CharSet.contains_complement complete, contents, CategoryEscape.contains]

theorem SetItem.stands (item : SetItem) : Stands item.asRead item.contains := by
  cases item with
  | char c =>
    refine ⟨.single c.value, rfl, CharSet.complete_single _, fun d => ?_⟩
    rw [Bool.eq_iff_iff, CharSet.contains_single]
    exact beq_iff_eq.symm
  | range low high =>
    refine ⟨.range low.value.toNat high.value.toNat, rfl, CharSet.complete_range _ _, fun d => ?_⟩
    rw [Bool.eq_iff_iff, CharSet.contains_range]
    simp only [SetItem.contains, Bool.and_eq_true, decide_eq_true_iff]
    exact Iff.rfl
  | category named => exact named.stands

/-- Items side by side stand for what one of them stands for. -/
theorem stands_ofItems {read : List ClassSet} {ps : List (Char → Bool)}
    (stand : List.Forall₂ Stands read ps) :
    Stands (.ofItems read) fun c => ps.any (· c) := by
  have sets : ∃ ss, ClassSet.setsOf? {} read = some ss ∧ (∀ s ∈ ss, s.Complete) ∧
      ∀ c, ss.any (·.contains c) = ps.any (· c) := by
    induction stand with
    | nil => exact ⟨[], rfl, by simp, fun _ => rfl⟩
    | cons first _ ih =>
      obtain ⟨s, isSet, complete, contents⟩ := first
      obtain ⟨ss, areSets, allComplete, allContents⟩ := ih
      exact ⟨s :: ss, by simp [ClassSet.setsOf?, isSet, areSets],
        List.forall_mem_cons.mpr ⟨complete, allComplete⟩,
        fun c => by rw [List.any_cons, List.any_cons, contents, allContents]⟩
  obtain ⟨ss, areSets, complete, contents⟩ := sets
  have union : Stands (.union read) fun c => ps.any (· c) :=
    ⟨CharSet.unions ss, by simp [ClassSet.set?, areSets], CharSet.complete_unions complete,
      fun c => by rw [CharSet.contains_unions complete, contents]⟩
  cases stand with
  | nil => exact union
  | cons first others =>
    cases others with
    | nil =>
      obtain ⟨s, isSet, complete, contents⟩ := first
      exact ⟨s, isSet, complete, fun c => by simp [contents]⟩
    | cons _ _ => exact union

theorem BracketedSet.stands_dash (present : Bool) :
    List.Forall₂ Stands (dashAsRead present) (if present then [(· == '-')] else []) := by
  cases present with
  | false => exact .nil
  | true =>
    refine .cons ⟨.single '-', rfl, CharSet.complete_single _, fun c => ?_⟩ .nil
    rw [Bool.eq_iff_iff, CharSet.contains_single]
    exact beq_iff_eq.symm

/-- A set between brackets is read as the set it is. -/
theorem BracketedSet.reads (set : BracketedSet) :
    ∃ s, (ClassSet.bracketed set.negated set.asRead).set? {} = some s ∧
      ∀ c, s.contains c = set.contains c := by
  have items : List.Forall₂ Stands (set.items.map SetItem.asRead)
      (set.items.map fun item c => item.contains c) := by
    induction set.items with
    | nil => exact .nil
    | cons item items ih => exact .cons item.stands ih
  obtain ⟨s, isSet, complete, contents⟩ := stands_ofItems
    (List.rel_append (List.rel_append (stands_dash set.leadingDash) items)
      (stands_dash set.trailingDash))
  have inside (c : Char) : s.contains c
      = (((set.leadingDash || set.trailingDash) && c == '-') || set.items.any (·.contains c)) := by
    rw [contents]
    cases set.leadingDash <;> cases set.trailingDash <;>
      simp [List.any_map, Function.comp_def, Bool.or_comm]
  have isSet : set.asRead.set? {} = some s := isSet
  rw [ClassSet.set?, isSet]
  cases negated : set.negated with
  | false => exact ⟨s, rfl, fun c => by rw [inside, BracketedSet.contains, negated, Bool.false_xor]⟩
  | true =>
    exact ⟨s.complement, rfl, fun c => by
      rw [CharSet.contains_complement complete, inside, BracketedSet.contains, negated,
        Bool.true_xor]⟩

/-! ## Patterns -/

theorem repeated_once (l : Language Char) : repeated l 1 (some 1) = l := by
  ext word
  constructor
  · rintro ⟨n, least, most, made⟩
    obtain rfl : n = 1 := Nat.le_antisymm (most 1 rfl) least
    simpa using made
  · intro word
    exact ⟨1, le_rfl, by simp, by simpa using word⟩

/-- Under the usual flags, what is read denotes the language, and the flags stay. -/
def Reads (read : Pattern) (l : Language Char) : Prop :=
  ∃ r, read.meaning? {} = some (r, {}) ∧ r.Denotes l

theorem reads_set {read : Pattern} {s : CharSet} {p : Char → Prop}
    (meaning : read.meaning? {} = some (.set s, {})) (contents : ∀ c, s.contains c = true ↔ p c) :
    Reads read (singles p) :=
  ⟨.set s, meaning, Regex.denotes_set contents⟩

theorem Quantifier.reads {quantifier : Quantifier} (portable : quantifier.isPortable = true)
    {atom : Pattern} {l : Language Char} (read : Reads atom l) :
    Reads (quantifier.asRead atom) (repeated l quantifier.bounds.1 quantifier.bounds.2) := by
  obtain ⟨r, meaning, denotes⟩ := read
  have ordered : ∀ n ∈ quantifier.bounds.2, quantifier.bounds.1 ≤ n := by
    cases quantifier <;> simp_all [bounds, isPortable]
  cases quantifier with
  | once => exact ⟨r, meaning, by rwa [bounds, repeated_once]⟩
  | optional | any | some | exactly _ | atLeast _ | between _ _ =>
    exact ⟨_, by simp [asRead, Pattern.meaning?, meaning], Regex.denotes_repetition denotes ordered⟩

theorem meaning?_ofParts (parts : List Pattern) :
    (Pattern.ofParts parts).meaning? {}
      = (Pattern.meanings? {} parts).map fun m => (Regex.concat m.1, m.2) := by
  match parts with
  | [] => rfl
  | [part] =>
    cases meaning : part.meaning? {} <;>
      simp [Pattern.ofParts, Pattern.meanings?, meaning, Regex.concat]
  | _ :: _ :: _ => rfl

theorem meaning?_ofBranches (branches : List Pattern) :
    (Pattern.ofBranches branches).meaning? {}
      = (Pattern.meanings? {} branches).map fun m => (Regex.oneOf m.1, m.2) := by
  match branches with
  | [] => rfl
  | [branch] =>
    cases meaning : branch.meaning? {} <;>
      simp [Pattern.ofBranches, Pattern.meanings?, meaning, Regex.oneOf]
  | _ :: _ :: _ => rfl

theorem reads_bracketed (set : BracketedSet) :
    Reads (.bracketed set.negated set.asRead) (singles (set.contains · = true)) := by
  obtain ⟨s, isSet, contents⟩ := set.reads
  exact reads_set (s := s) (by simp [Pattern.meaning?, isSet]) fun c => by rw [contents]

mutual

theorem Atom.reads (atom : Atom) (portable : atom.isPortable = true) :
    Reads atom.asRead atom.language := by
  match atom with
  | .char c => exact reads_set rfl (CharSet.contains_single c.value)
  | .dot =>
    rw [Atom.language_dot]
    exact reads_bracketed BracketedSet.noLineEnd
  | .category named =>
    obtain ⟨s, isSet, _, contents⟩ := named.stands
    exact reads_set (s := s) (by simp [Atom.asRead, Pattern.meaning?, isSet])
      fun c => by rw [contents]
  | .bracketed set => exact reads_bracketed set
  | .group inner =>
    obtain ⟨rs, meaning, denotes⟩ := inner.reads portable
    refine ⟨.capture (.oneOf rs), ?_, Regex.denotes_capture denotes⟩
    simp [Atom.asRead, Pattern.meaning?, PatternFlags.setAll, meaning?_ofBranches, meaning]
termination_by structural atom

/-- The pieces of a branch, one after the other, denote its language. -/
theorem Branch.reads (branch : Branch) (portable : branch.isPortable = true) :
    ∃ rs, Pattern.meanings? {} branch.asRead = some (rs, {}) ∧
      (Regex.concat rs).Denotes branch.language := by
  match branch with
  | .empty => exact ⟨[], rfl, Regex.denotes_empty⟩
  | .piece atom quantifier rest =>
    obtain ⟨⟨atomPortable, quantifierPortable⟩, restPortable⟩ :
        (atom.isPortable = true ∧ quantifier.isPortable = true) ∧ rest.isPortable = true := by
      simpa [Branch.isPortable] using portable
    obtain ⟨r, meaning, denotes⟩ := Quantifier.reads quantifierPortable (atom.reads atomPortable)
    obtain ⟨rs, meanings, others⟩ := rest.reads restPortable
    refine ⟨r :: rs, ?_, Regex.denotes_concat_cons denotes others⟩
    simp [Branch.asRead, Pattern.meanings?, meaning, meanings]
termination_by structural branch

/-- The branches of a pattern, to choose from, denote its language. -/
theorem Alternatives.reads (t : Alternatives) (portable : t.isPortable = true) :
    ∃ rs, Pattern.meanings? {} t.asRead = some (rs, {}) ∧
      (Regex.oneOf rs).Denotes t.language := by
  match t with
  | .last branch =>
    obtain ⟨rs, meanings, denotes⟩ := branch.reads portable
    refine ⟨[.concat rs], ?_, denotes⟩
    simp [Alternatives.asRead, Pattern.meanings?, meaning?_ofParts, meanings]
  | .either branch others =>
    obtain ⟨branchPortable, othersPortable⟩ :
        branch.isPortable = true ∧ others.isPortable = true := by
      simpa [Alternatives.isPortable] using portable
    obtain ⟨rs, meanings, denotes⟩ := branch.reads branchPortable
    obtain ⟨ss, otherMeanings, othersDenote⟩ := others.reads othersPortable
    refine ⟨.concat rs :: ss, ?_, Regex.denotes_oneOf_cons denotes othersDenote⟩
    simp [Alternatives.asRead, Pattern.meanings?, meaning?_ofParts, meanings, otherMeanings]
termination_by structural t

end

/-! ## Whole texts -/

namespace Alternatives

/-- How the text is read that asks for all of an input. -/
def wholeAsRead (t : Alternatives) : Pattern :=
  .concat [.assertion .startOfText, .group false [] (.ofBranches t.asRead),
    .assertion .endOfText]

/-- The limits that are set to a regular expression, none of which comes from the pattern's dialect:
how deep its parts may be nested, and how much it may weigh. The weight is an approximation of what
an engine measures, so patterns very near its limit may be decided otherwise there. -/
def WithinLimits (t : Alternatives) : Prop :=
  t.wholeAsRead.depth ≤ Pattern.greatestDepth ∧
    ∀ r ∈ t.wholeAsRead.regex?, r.weight ≤ Regex.greatestWeight

instance (t : Alternatives) : Decidable t.WithinLimits := inferInstanceAs (Decidable (_ ∧ _))

theorem whole_reads (t : Alternatives) (portable : t.isPortable = true) :
    ∃ r, t.wholeAsRead.regex? = some (.anchored r) ∧ r.Denotes t.language := by
  obtain ⟨rs, meanings, denotes⟩ := t.reads portable
  refine ⟨.oneOf rs, ?_, denotes⟩
  simp [Pattern.regex?, wholeAsRead, Pattern.meaning?, Pattern.meanings?, PatternFlags.setAll,
    meaning?_ofBranches, meanings, PatternFlags.look, Regex.anchored]

open PatternReader in
theorem run_whole (t : Alternatives) (portable : t.isPortable = true) {n : Nat}
    (enough : (t.spell dotSpelling).length + 8 < n) {names : List String} :
    (patternUpTo n [] []).run
        ⟨'\\' :: 'A' :: '(' :: '?' :: ':' :: (t.spell dotSpelling ++ [')', '\\', 'z']),
          false, names⟩
      = some (t.wholeAsRead, ⟨[], false, names⟩) := by
  obtain ⟨n, rfl⟩ : ∃ m, n = m + 4 := ⟨n - 4, by omega⟩
  have inner : (patternUpTo (n + 2) [] []).run
      ⟨t.spell dotSpelling ++ [')', '\\', 'z'], false, names⟩
        = some (.ofBranches t.asRead, ⟨[')', '\\', 'z'], false, names⟩) :=
    t.run_spell portable _ (n + 2)
      (by simp only [List.length_append, List.length_cons, List.length_nil]; omega) (.inr rfl) []
  rw [run_endMark (a := .startOfText) (by decide),
    run_group run_groupHead_uncaptured (n + 2) _ _ inner,
    run_endMark (a := .endOfText) (by decide), run_end (.inl rfl)]
  rfl

theorem read?_whole (t : Alternatives) (portable : t.isPortable = true) :
    Pattern.read? (regexText .full t.text)
      = if t.wholeAsRead.depth ≤ Pattern.greatestDepth then some t.wholeAsRead else none := by
  have text : (regexText .full t.text).toList
      = '\\' :: 'A' :: '(' :: '?' :: ':' :: (t.spell dotSpelling ++ [')', '\\', 'z']) := by
    have spelled : spellDots false (t.spell ['.']) = t.spell dotSpelling := by
      simpa [spellDots] using t.spellDots_spell []
    simp [regexText, Alternatives.text, spelled]
  rw [Pattern.read?, text]
  simp [run_whole t portable]

end Alternatives

end IRegexp

namespace IRegexp

/-- The set `[^&a-c]`. -/
def mixedSet : BracketedSet where
  negated := true
  leadingDash := false
  items := [.char (.plain '&' (by decide)),
    .range (.plain 'a' (by decide)) (.plain 'c' (by decide))]
  trailingDash := false
  nonempty := .inr (by simp)

/-- Two of `mixedSet`, or an `x` and any character. -/
def mixedPattern : Alternatives :=
  .either (.piece (.bracketed mixedSet)
      (.exactly ⟨['2'], by decide, List.all_eq_true.mp (by decide)⟩) .empty)
    (.last (.piece (.char (.plain 'x' (by decide))) .once (.piece .dot .once .empty)))

end IRegexp

namespace IRegexp

theorem mem_piece_once {atom : Atom} {rest : Branch} {c : Char} {cs : List Char}
    (first : [c] ∈ atom.language) (others : cs ∈ rest.language) :
    c :: cs ∈ (Branch.piece atom .once rest).language := by
  rw [Branch.language, Quantifier.bounds, repeated_once]
  exact Language.append_mem_mul first others

/-- The pattern `a^b`, of three characters. -/
def caretPattern : Alternatives :=
  .last (.piece (.char (.plain 'a' (by decide))) .once
    (.piece (.char (.plain '^' (by decide))) .once
      (.piece (.char (.plain 'b' (by decide))) .once .empty)))

end IRegexp

end JsonPath
