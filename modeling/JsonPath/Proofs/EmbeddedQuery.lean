import JsonPath.Proofs.Formula

/-!
# Queries within filters

A query may stand in a filter, as a test, as an operand of a comparison or as an argument. It is
then run without locations, and what it selects is taken for what its place needs. It agrees with
the query run for its result: the values are the same, in the same order and each as often, and the
place depends on nothing but those.

Results:
1. `values_untracked`: values selected with and without locations.
2. `queryText_standsFor`, `countText_standsFor`: a query from the root that has a plan, written in a
   filter, is the query with the segments of this plan.
3. `embedded_query_agrees`: what such a query comes to at each of its places.
-/

namespace JsonPath

open Grammar

/-! ## Selection without locations -/

/-- The value of a node, without its location. -/
abbrev Located.untracked : Node → Located Unit := Located.relocated fun _ => ()

/-- The values that are selected do not depend on whether locations are kept. -/
theorem values_untracked (maxDepth : Nat) (segments : List (Segment Test)) (nodes : List Node) :
    (select maxDepth segments (nodes.map Located.untracked)).value.map Located.value =
      (select maxDepth segments nodes).value.map Located.value := by
  rw [select_relocated (fun _ _ => rfl), List.map_map]
  rfl

/-! ## Texts of queries in filters -/

/-- Wherever so many levels are left in a filter, the text is an operand, and analysis finds nothing
about it and plans it as `f`. -/
def StandsFor (repository : Repository) (levels : Nat) (text : String) (f : Filter) : Prop :=
  ∀ n, levels ≤ n → ∀ place, ∃ e, ComparableText (deeperText n) place text.toList e ∧
    ∀ source, e.analyse ⟨source, repository⟩ = pure (some f)

theorem carries_within {old new m n : Nat} (room : m ≤ n) :
    CarriesExpression old new (filterText m) (Within (deeperText n)) := by
  cases m with
  | zero =>
    rintro _ _ _ _ - ⟨_, none, -⟩
    cases none
  | succ m =>
    cases n with
    | zero => omega
    | succ n =>
      intro place place' cs e moved phrase
      exact ⟨_, rfl, (carries_levels (Nat.le_of_succ_le_succ room)).2 moved phrase⟩

/-- A query from the root that has a plan may stand in a filter with as many levels left. -/
theorem queryText_standsFor {settings : CompilerSettings} {repository : Repository}
    {source : String} {plan : Plan}
    (compiled : (compile settings repository source).value = some plan) :
    StandsFor repository settings.maxNestingDepth source (.query .document plan.segments) := by
  obtain ⟨tree, parsed, quiet, present⟩ := compile_some compiled
  have derived := queryText_of_parse parsed
  have analysed : (Expression.query tree).analyse ⟨source, repository⟩ =
      pure (some (.query .document plan.segments)) := by
    obtain ⟨_, segments, -, -, rfl⟩ := derived
    rw [Expression.analyse, queryOf]
    generalize segmentsOf ⟨source, repository⟩ segments = analysis at quiet present
    obtain ⟨value, notes⟩ := analysis
    cases quiet
    show (⟨(allPresent value).map (.query .document), []⟩ : Analysis (Option Filter)) = _
    rw [show allPresent value = some plan.segments from present]
    rfl
  intro n room place
  have moved : Moved Position.start.offset place.offset .start place := Nat.add_comm _ _
  exact ⟨_, .query (carries_query (carries_within room) .document moved derived),
    fun whole => (alike_analyse _ _).eq_pure analysed⟩

/-- An operand may be the argument of a call that counts its nodes, where one level more is left. -/
theorem countText_standsFor {repository : Repository} {levels : Nat} {text : String}
    {root : QueryRoot} {segments : List (Segment Filter)}
    (query : StandsFor repository levels text (.query root segments))
    (bound : repository.lookup "count" = some Builtin.count) :
    StandsFor repository (levels + 1) ("count(" ++ text ++ ")")
      (.call "count" Builtin.count [.query root segments]) := by
  intro n room place
  cases n with
  | zero => omega
  | succ n =>
    obtain ⟨e, operand, planned⟩ := query n (Nat.le_of_succ_le_succ room)
      (place.afterAll ['c', 'o', 'u', 'n', 't', '('])
    have named : IsFunctionName ['c', 'o', 'u', 'n', 't'] :=
      isFunctionName_iff.mp (by decide)
    have argument : ArgumentsText (expressionText n)
        (place.afterAll ['c', 'o', 'u', 'n', 't', '(']) text.toList [e] := by
      refine .some ⟨[], _, .nil, rfl, .single ?_⟩
      rw [expressionText_eq]
      refine .single (.single (.alone ?_))
      cases n <;> exact .comparable operand
    have written : ("count(" ++ text ++ ")").toList =
        ['c', 'o', 'u', 'n', 't'] ++ '(' :: (text.toList ++ [')']) := by
      rw [String.toList_append, String.toList_append]
      rfl
    rw [written]
    refine ⟨_, .call named ⟨text.toList, [], .nil, rfl, _, rfl, argument⟩, fun whole => ?_⟩
    have name : String.ofList ['c', 'o', 'u', 'n', 't'] = "count" := rfl
    rw [Expression.analyse, argumentsOf, planned, argumentsOf, name]
    show AnalysisContext.call _ "count" [e] [some (.query root segments)] = _
    simp only [AnalysisContext.call, bound]
    rfl

/-- What stands for something that can be tested may be all of a filter. -/
theorem compile_standsFor {settings : CompilerSettings} {repository : Repository} {levels : Nat}
    {text : String} {f : Filter} (stands : StandsFor repository levels text f)
    (tested : f.type.isTest) (room : levels < settings.maxNestingDepth) :
    (compile settings repository (filterQuery text)).value =
      some ⟨filterQuery text, [⟨.child, [.filter f]⟩]⟩ := by
  obtain ⟨e, operand, planned⟩ := stands levels (Nat.le_refl _) filterPlace
  have padded : Padded (expressionText levels) filterPlace text.toList e := by
    refine ⟨[], _, [], .nil, .nil, (List.append_nil _).symm, ?_⟩
    rw [expressionText_eq]
    refine .single (.single (.alone ?_))
    cases levels <;> exact .comparable operand
  obtain ⟨g, span, parsed⟩ := parse_filterQuery_within padded room
  have test : Planned repository e f := fun source => asTest_pure _ (planned source) tested
  exact compile_of_planned parsed ((planned_withSpans g).mpr test)

/-! ## What a query comes to -/

section

variable {plan : Plan} {limits : EvaluatorSettings} {document : Value}

theorem value_evaluate_query (current : Value) :
    ((Filter.query .document plan.segments).evaluate ⟨limits.maxDepth, document⟩ current).value =
      .nodes ((plan.evaluate limits document).value.map Located.value) :=
  congrArg FilterValue.nodes (values_untracked limits.maxDepth _ [⟨.root, document⟩])

theorem value_evaluate_count (current : Value) :
    ((Filter.call "count" Builtin.count [.query .document plan.segments]).evaluate
        ⟨limits.maxDepth, document⟩ current).value =
      .value (some (.ofNat (plan.evaluate limits document).value.length)) := by
  have nodes : ((Filter.query .document plan.segments).evaluate
      ⟨limits.maxDepth, document⟩ current).value = _ := value_evaluate_query current
  have argument : (argumentValues ⟨limits.maxDepth, document⟩ "count"
      [.query .document plan.segments] Builtin.count.argumentTypes current).value =
        some [.nodes ((plan.evaluate limits document).value.map Located.value)] := by
    rw [Builtin.count, argumentValues, Noted.value_bind, placedAs, Noted.value_bind, nodes]
    rfl
  rw [Filter.evaluate, Noted.value_bind, argument]
  show FilterValue.value (some (.ofNat (List.map Located.value _).length)) = _
  rw [List.length_map]

theorem toComparable_nodes (nodes : List Node) :
    (FilterValue.nodes (nodes.map Located.value)).toComparable =
      match nodes with
      | [] => .nothing
      | [node] => .value node.value
      | _ :: _ :: _ => .ambiguous := by
  match nodes with
  | [] | [_] | _ :: _ :: _ => rfl

end

/-- Queries within filters agree with queries that are run for their results. Values are selected
alike with and without locations. The text of a query from the root that has a plan may therefore
stand in a filter as a test, as the argument of a count and as an operand of a comparison, and
whatever the current node is, it holds if the plan selects any node, counts the nodes that the plan
selects, and is nothing, the only value or ambiguous as their number is. -/
theorem embedded_query_agrees :
    (∀ (maxDepth : Nat) (segments : List (Segment Filter)) (document : Value) (nodes : List Node),
      (select maxDepth (filterTests ⟨maxDepth, document⟩ segments)
          (nodes.map Located.untracked)).value.map Located.value =
        (select maxDepth (filterTests ⟨maxDepth, document⟩ segments) nodes).value.map
          Located.value) ∧
    ∀ {settings : CompilerSettings} {repository : Repository} {source : String} {plan : Plan},
      (compile settings repository source).value = some plan →
      let query : Filter := .query .document plan.segments
      let count : Filter := .call "count" Builtin.count [query]
      StandsFor repository settings.maxNestingDepth source query ∧
      (repository.lookup "count" = some Builtin.count →
        StandsFor repository (settings.maxNestingDepth + 1) ("count(" ++ source ++ ")") count) ∧
      (∀ deeper : CompilerSettings, settings.maxNestingDepth < deeper.maxNestingDepth →
        (compile deeper repository (filterQuery source)).value =
          some ⟨filterQuery source, [⟨.child, [.filter query]⟩]⟩) ∧
      ∀ (limits : EvaluatorSettings) (document current : Value),
        let c : EvaluationContext := ⟨limits.maxDepth, document⟩
        let nodes := (plan.evaluate limits document).value
        (query.holds c current ↔ nodes ≠ []) ∧
        (count.evaluate c current).value = .value (some (.ofNat nodes.length)) ∧
        (query.evaluate c current).value.toComparable =
          match nodes with
          | [] => .nothing
          | [node] => .value node.value
          | _ :: _ :: _ => .ambiguous := by
  refine ⟨fun maxDepth segments document nodes => values_untracked maxDepth _ nodes, ?_⟩
  intro settings repository source plan compiled query count
  have stands := queryText_standsFor compiled
  refine ⟨stands, countText_standsFor stands, fun _ room => compile_standsFor stands rfl room,
    fun limits document current => ?_⟩
  have value : (query.evaluate ⟨limits.maxDepth, document⟩ current).value =
      .nodes ((plan.evaluate limits document).value.map Located.value) :=
    value_evaluate_query current
  refine ⟨?_, value_evaluate_count current, ?_⟩
  · rw [Filter.holds, value, FilterValue.toTest, Bool.not_eq_true', List.isEmpty_eq_false_iff,
      Ne, List.map_eq_nil_iff]
  · rw [value]
    exact toComparable_nodes _

/-- A query with a filter of its own, counted in another filter. -/
theorem embedded_query_agrees_nested :
    let source := "$..a[?@.b > 1, 0]"
    ∃ plan, (compile {} .builtins source).value = some plan ∧
      (compile ⟨129⟩ .builtins (filterQuery source)).value =
        some ⟨filterQuery source, [⟨.child, [.filter (.query .document plan.segments)]⟩]⟩ ∧
      StandsFor .builtins 129 ("count(" ++ source ++ ")")
        (.call "count" Builtin.count [.query .document plan.segments]) ∧
      ∀ (limits : EvaluatorSettings) (document current : Value),
        (Filter.query .document plan.segments).holds ⟨limits.maxDepth, document⟩ current ↔
          (plan.evaluate limits document).value ≠ [] := by
  intro source
  have compiles : (compile {} .builtins source).value.isSome := by decide +kernel
  obtain ⟨plan, compiled⟩ := Option.isSome_iff_exists.mp compiles
  have bound : Repository.builtins.lookup "count" = some Builtin.count := rfl
  obtain ⟨-, counted, whole, outcome⟩ := embedded_query_agrees.2 compiled
  exact ⟨plan, compiled, whole ⟨129⟩ (by decide), counted bound,
    fun limits document current => (outcome limits document current).1⟩

end JsonPath
