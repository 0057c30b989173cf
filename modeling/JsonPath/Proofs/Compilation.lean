import JsonPath.Plan.Compile

/-!
# Compilation of a text that parses

Reading, analysis and the log meet in `compile`. The lemmas take them apart: what is reported about
a text that is a query is what analysis finds in its tree, and its plan is that of the tree.

Results:
1. `compile_of_parse`: the findings and the plan of a text that parses.
2. `compile_some`: a text that has a plan parses, and nothing was found about its tree.
-/

namespace JsonPath

theorem allPresent_cons {α : Type} {x? : Option α} {xs : List (Option α)} {ys : List α} :
    allPresent (x? :: xs) = some ys ↔
      ∃ z zs, x? = some z ∧ allPresent xs = some zs ∧ ys = z :: zs := by
  simp only [allPresent]
  constructor
  · intro present
    split at present
    · next z zs others => exact ⟨z, zs, rfl, others, (Option.some.inj present).symm⟩
    · cases present
  · rintro ⟨z, zs, rfl, others, rfl⟩
    simp [others]

theorem value_parseLogged (limit : Nat) (source : String) :
    (parseLogged limit source).value = parse limit source := by
  simp only [parseLogged, Lexemes.readLogged, parse, Noted.value_bind]
  cases read : Lexemes.read source <;> rfl

theorem findings_logged (lines : List LogLine) :
    (lines.map CompileNote.logged).filterMap CompileNote.finding? = [] := by
  rw [List.filterMap_map]
  exact List.filterMap_eq_nil_iff.mpr fun _ _ => rfl

theorem findings_reported (found : List Diagnostic) :
    (found.map CompileNote.reported).filterMap CompileNote.finding? = found := by
  rw [List.filterMap_map]
  exact List.filterMap_some

/-- What is reported about a text that is a query is what analysis finds, and the text has a plan
exactly if that is nothing. -/
theorem compile_of_parse (repository : Repository) {settings : CompilerSettings} {source : String}
    {tree : Query Expression} (parsed : parse settings.maxNestingDepth source = .ok tree) :
    findings settings repository source =
        (segmentsOf ⟨source, repository⟩ tree.segments).notes ∧
      (compile settings repository source).value =
        if (segmentsOf ⟨source, repository⟩ tree.segments).notes = [] then
          (allPresent (segmentsOf ⟨source, repository⟩ tree.segments).value).map (⟨source, ·⟩)
        else none := by
  have value := value_parseLogged settings.maxNestingDepth source
  rw [parsed] at value
  simp only [findings, compile, Noted.notes_bind, Noted.value_bind, Noted.mapNotes, value,
    List.filterMap_append, findings_logged, findings_reported, List.nil_append, List.append_nil,
    true_and]
  generalize segmentsOf ⟨source, repository⟩ tree.segments = analysis
  cases allPresent analysis.value <;> cases analysis.notes <;> rfl

/-- A plan comes from a tree about which nothing was found. -/
theorem compile_some {settings : CompilerSettings} {repository : Repository} {source : String}
    {plan : Plan} (compiled : (compile settings repository source).value = some plan) :
    ∃ tree, parse settings.maxNestingDepth source = .ok tree ∧
      (segmentsOf ⟨source, repository⟩ tree.segments).notes = [] ∧
      allPresent (segmentsOf ⟨source, repository⟩ tree.segments).value = some plan.segments := by
  cases parsed : parse settings.maxNestingDepth source with
  | error e => simp [compile, Noted.mapNotes, value_parseLogged, parsed] at compiled
  | ok tree =>
    rw [(compile_of_parse repository parsed).2] at compiled
    split at compiled
    · next quiet =>
      obtain ⟨segments, present, rfl⟩ := Option.map_eq_some_iff.mp compiled
      exact ⟨tree, rfl, quiet, present⟩
    · cases compiled

end JsonPath
