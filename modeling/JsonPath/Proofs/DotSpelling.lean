import JsonPath.Proofs.InteroperablePattern

/-!
# Dots written out

`spellDots` goes through a pattern once and knows of what it has passed only whether a bracket is
open. That is enough to tell the dots that stand for characters from those that are characters. What
it writes has brackets and backslashes of its own, and these do not lead it astray either.

`Alternatives.withSetDots` is a pattern with the set `[^\n\r]` in place of each dot.

Results:
1. `Alternatives.spell_withSetDots`: it has no dots, and is written as the pattern is with that set
   for each dot.
2. `Alternatives.language_withSetDots`: it stands for the same texts.
3. `spellDots_spellDots`: no text, a pattern or not, has dots left to write out afterwards.
4. `dots_alone_written_out`: what is written is the text of this tree, and nothing is left to do.
-/

namespace JsonPath

namespace IRegexp

mutual

/-- The atom with a set for each dot. -/
def Atom.withSetDots : Atom → Atom
  | .char c => .char c
  | .dot => .bracketed .noLineEnd
  | .category named => .category named
  | .bracketed set => .bracketed set
  | .group inner => .group inner.withSetDots
termination_by structural atom => atom

/-- The branch with a set for each dot. -/
def Branch.withSetDots : Branch → Branch
  | .empty => .empty
  | .piece atom quantifier rest => .piece atom.withSetDots quantifier rest.withSetDots
termination_by structural branch => branch

/-- The pattern with a set for each dot. -/
def Alternatives.withSetDots : Alternatives → Alternatives
  | .last branch => .last branch.withSetDots
  | .either branch others => .either branch.withSetDots others.withSetDots
termination_by structural alternatives => alternatives

end

theorem BracketedSet.text_noLineEnd : noLineEnd.text = dotSpelling := rfl

section

variable (dot : List Char)

mutual

theorem Atom.spell_withSetDots (atom : Atom) :
    atom.withSetDots.spell dot = atom.spell dotSpelling := by
  match atom with
  | .char _ | .category _ | .bracketed _ => rfl
  | .dot => exact BracketedSet.text_noLineEnd
  | .group inner => rw [Atom.withSetDots, Atom.spell, Atom.spell, inner.spell_withSetDots]
termination_by structural atom

theorem Branch.spell_withSetDots (branch : Branch) :
    branch.withSetDots.spell dot = branch.spell dotSpelling := by
  match branch with
  | .empty => rfl
  | .piece atom quantifier rest =>
    rw [Branch.withSetDots, Branch.spell, Branch.spell, atom.spell_withSetDots,
      rest.spell_withSetDots]
termination_by structural branch

/-- Nothing but the dots has changed, and no dot is left for which `dot` could be written. -/
theorem Alternatives.spell_withSetDots (t : Alternatives) :
    t.withSetDots.spell dot = t.spell dotSpelling := by
  match t with
  | .last branch => exact branch.spell_withSetDots
  | .either branch others =>
    rw [Alternatives.withSetDots, Alternatives.spell, Alternatives.spell,
      branch.spell_withSetDots, others.spell_withSetDots]
termination_by structural t

end

end

mutual

theorem Atom.language_withSetDots (atom : Atom) : atom.withSetDots.language = atom.language := by
  match atom with
  | .char _ | .category _ | .bracketed _ => rfl
  | .dot => exact Atom.language_dot.symm
  | .group inner => exact inner.language_withSetDots
termination_by structural atom

theorem Branch.language_withSetDots (branch : Branch) :
    branch.withSetDots.language = branch.language := by
  match branch with
  | .empty => rfl
  | .piece atom quantifier rest =>
    rw [Branch.withSetDots, Branch.language, Branch.language, atom.language_withSetDots,
      rest.language_withSetDots]
termination_by structural branch

/-- The sets stand for what the dots stood for. -/
theorem Alternatives.language_withSetDots (t : Alternatives) :
    t.withSetDots.language = t.language := by
  match t with
  | .last branch => exact branch.language_withSetDots
  | .either branch others =>
    rw [Alternatives.withSetDots, Alternatives.language, Alternatives.language,
      branch.language_withSetDots, others.language_withSetDots]
termination_by structural t

end

end IRegexp

/-- What is written for a dot is passed over, and the bracket that it opens is closed behind it. -/
theorem spellDots_dotSpelling (rest : List Char) :
    spellDots false (dotSpelling ++ rest) = dotSpelling ++ spellDots false rest :=
  IRegexp.BracketedSet.noLineEnd.spellDots_text rest

/-- A character that is left as it is once is left as it is again; `next` tells whether what is
behind it is between brackets. A backslash is such a character only at the end. -/
theorem spellDots_left {inside next : Bool} {c : Char} {cs : List Char}
    (atEnd : ∀ d ds, c = '\\' → cs = d :: ds → False)
    (left : ∀ ds, c ≠ '\\' → spellDots inside (c :: ds) = c :: spellDots next ds)
    (again : spellDots next (spellDots next cs) = spellDots next cs) :
    spellDots inside (c :: spellDots next cs) = c :: spellDots next cs := by
  by_cases escape : c = '\\'
  · subst escape
    cases cs with
    | nil => cases inside <;> rfl
    | cons d ds => exact (atEnd d ds rfl rfl).elim
  · rw [left _ escape, again]

/-- A text whose dots are written out is as it is with its dots written out. -/
theorem spellDots_spellDots (inside : Bool) (cs : List Char) :
    spellDots inside (spellDots inside cs) = spellDots inside cs := by
  fun_induction spellDots inside cs with
  | case1 => rfl
  | case2 inside c cs ih => rw [spellDots, ih]
  | case3 c cs atEnd ih =>
    refine spellDots_left atEnd (fun ds noEscape => ?_) ih
    rw [IRegexp.spellDots_cons noEscape, if_pos rfl]
  | case4 inside cs outside _ ih =>
    obtain rfl : inside = false := by simpa using outside
    rw [spellDots_dotSpelling, ih]
  | case5 inside c cs atEnd outside noDot ih =>
    obtain rfl : inside = false := by simpa using outside
    refine spellDots_left atEnd (fun ds noEscape => ?_) ih
    rw [IRegexp.spellDots_cons noEscape, if_neg Bool.false_ne_true, if_neg noDot]

/-- Writing dots out replaces them alone. The text that comes of an I-Regexp is that of the I-Regexp
with the set `[^\n\r]` for each dot, whatever else it is made of: a dot behind a backslash or between
brackets stays. And whether or not a text is an I-Regexp, it is written out once and for all. -/
theorem dots_alone_written_out :
    (∀ t : IRegexp.Alternatives, spellDots false t.text.toList = t.withSetDots.text.toList) ∧
      ∀ cs : List Char, spellDots false (spellDots false cs) = spellDots false cs := by
  refine ⟨fun t => ?_, spellDots_spellDots false⟩
  have written := t.spellDots_spell []
  have nothing : spellDots false [] = [] := rfl
  rw [List.append_nil, nothing, List.append_nil] at written
  rw [IRegexp.Alternatives.text, IRegexp.Alternatives.text, String.toList_ofList,
    String.toList_ofList, t.spell_withSetDots, written]

example : spellDots false ['.', '\\', '.', '[', '.', ']'] =
    dotSpelling ++ ['\\', '.', '[', '.', ']'] := by decide

end JsonPath
