import JsonPath.Evaluation
import JsonPath.Proofs.ExpressionParsing
import JsonPath.Proofs.Relocation
import JsonPath.Proofs.Selection

/-!
# Queries one behind the other

Behind a query from the root the segments of another one may be written. The text is a query again,
and what it selects is what the second query selects in the values that the first one selects. Only
a filter that looks at the root of the document can tell the difference.

Results:
1. `evaluate_relative`: a filter without absolute queries does not depend on the document.
2. `compile_joined`: the plan of a joined text has the segments of both plans.
3. `joined_query_composes`: evaluation of a joined query is composition.
-/

namespace JsonPath

open Grammar

/-! ## Filters that do not look at the root -/

mutual

/-- Whether no query within the filter starts from the root of the document. -/
def Filter.isRelative : Filter → Bool
  | .literal _ => true
  | .query root segments => root == .current && segmentsRelative segments
  | .comparison _ left right => left.isRelative && right.isRelative
  | .logical _ operands => allRelative operands
  | .call _ _ arguments => allRelative arguments
  | .test inner => inner.isRelative
termination_by structural f => f

/-- Whether no query within the filters starts from the root of the document. -/
def allRelative : List Filter → Bool
  | [] => true
  | f :: fs => f.isRelative && allRelative fs
termination_by structural fs => fs

/-- Whether no query within the filters of the segments starts from the root of the document. -/
def segmentsRelative : List (Segment Filter) → Bool
  | [] => true
  | s :: ss => segmentRelative s && segmentsRelative ss
termination_by structural ss => ss

/-- Whether no query within the filters of the segment starts from the root of the document. -/
def segmentRelative : Segment Filter → Bool
  | ⟨_, selectors⟩ => selectorsRelative selectors
termination_by structural s => s

/-- Whether no query within the filters among the selectors starts from the root of the document. -/
def selectorsRelative : List (Selector Filter) → Bool
  | [] => true
  | s :: ss => selectorRelative s && selectorsRelative ss
termination_by structural ss => ss

/-- Whether no query within the filter of the selector starts from the root of the document. -/
def selectorRelative : Selector Filter → Bool
  | .filter predicate => predicate.isRelative
  | _ => true
termination_by structural s => s

end

section

variable (maxDepth : Nat) (document document' : Value)

mutual

/-- A filter without absolute queries comes to the same in every document, by the same events. -/
theorem evaluate_relative : ∀ (f : Filter), f.isRelative → ∀ current,
    f.evaluate ⟨maxDepth, document⟩ current = f.evaluate ⟨maxDepth, document'⟩ current
  | .literal _, _, _ => rfl
  | .query root segments, relative, current => by
    obtain ⟨rooted, relative⟩ := Bool.and_eq_true_iff.mp relative
    rw [eq_of_beq rooted, Filter.evaluate, Filter.evaluate, filterTests_relative segments relative]
    rfl
  | .comparison _ left right, relative, current => by
    obtain ⟨first, second⟩ := Bool.and_eq_true_iff.mp relative
    rw [Filter.evaluate, Filter.evaluate, evaluate_relative left first,
      evaluate_relative right second]
  | .logical operator operands, relative, current => by
    cases operator with
    | not => exact congrArg (· >>= _) (anyHolds_relative operands relative current)
    | and => exact congrArg (· >>= _) (allHold_relative operands relative current)
    | or => exact congrArg (· >>= _) (anyHolds_relative operands relative current)
  | .call name function arguments, relative, current => by
    rw [Filter.evaluate, Filter.evaluate, argumentValues_relative name arguments relative]
  | .test inner, relative, current => by
    rw [Filter.evaluate, Filter.evaluate, evaluate_relative inner relative]
termination_by structural f => f

theorem allHold_relative : ∀ (fs : List Filter), allRelative fs → ∀ current,
    allHold ⟨maxDepth, document⟩ fs current = allHold ⟨maxDepth, document'⟩ fs current
  | [], _, _ => rfl
  | f :: fs, relative, current => by
    obtain ⟨first, others⟩ := Bool.and_eq_true_iff.mp relative
    rw [allHold, allHold, evaluate_relative f first, allHold_relative fs others]
termination_by structural fs => fs

theorem anyHolds_relative : ∀ (fs : List Filter), allRelative fs → ∀ current,
    anyHolds ⟨maxDepth, document⟩ fs current = anyHolds ⟨maxDepth, document'⟩ fs current
  | [], _, _ => rfl
  | f :: fs, relative, current => by
    obtain ⟨first, others⟩ := Bool.and_eq_true_iff.mp relative
    rw [anyHolds, anyHolds, evaluate_relative f first, anyHolds_relative fs others]
termination_by structural fs => fs

theorem argumentValues_relative (name : String) : ∀ (fs : List Filter), allRelative fs →
    ∀ types current, argumentValues ⟨maxDepth, document⟩ name fs types current =
      argumentValues ⟨maxDepth, document'⟩ name fs types current
  | [], _, _, _ => rfl
  | f :: fs, relative, types, current => by
    obtain ⟨first, others⟩ := Bool.and_eq_true_iff.mp relative
    cases types with
    | nil => rfl
    | cons t ts =>
      rw [argumentValues, argumentValues, evaluate_relative f first,
        argumentValues_relative name fs others]
termination_by structural fs => fs

/-- Segments whose filters have no absolute queries select the same in every document. -/
theorem filterTests_relative : ∀ (ss : List (Segment Filter)), segmentsRelative ss →
    filterTests ⟨maxDepth, document⟩ ss = filterTests ⟨maxDepth, document'⟩ ss
  | [], _ => rfl
  | s :: ss, relative => by
    obtain ⟨first, others⟩ := Bool.and_eq_true_iff.mp relative
    rw [filterTests, filterTests, segmentTests_relative s first, filterTests_relative ss others]
termination_by structural ss => ss

theorem segmentTests_relative : ∀ (s : Segment Filter), segmentRelative s →
    segmentTests ⟨maxDepth, document⟩ s = segmentTests ⟨maxDepth, document'⟩ s
  | ⟨_, selectors⟩, relative => by
    rw [segmentTests, segmentTests, selectorTests_relative selectors relative]
termination_by structural s => s

theorem selectorTests_relative : ∀ (ss : List (Selector Filter)), selectorsRelative ss →
    selectorTests ⟨maxDepth, document⟩ ss = selectorTests ⟨maxDepth, document'⟩ ss
  | [], _ => rfl
  | s :: ss, relative => by
    obtain ⟨first, others⟩ := Bool.and_eq_true_iff.mp relative
    rw [selectorTests, selectorTests, selectorTest_relative s first,
      selectorTests_relative ss others]
termination_by structural ss => ss

theorem selectorTest_relative : ∀ (s : Selector Filter), selectorRelative s →
    selectorTest ⟨maxDepth, document⟩ s = selectorTest ⟨maxDepth, document'⟩ s
  | .filter predicate, relative => by
    rw [selectorTest, selectorTest]
    exact congrArg Selector.filter
      (funext fun current => congrArg _ (evaluate_relative predicate relative current))
  | .name _, _ | .index _, _ | .wildcard, _ | .slice _, _ => rfl
termination_by structural s => s

end

end

/-! ## The plan of a joined text -/

namespace Grammar

theorem segmentsText_append {filter : Phrase Expression} {place : Position} {cs ds : List Char}
    {ss ts : List (Segment Expression)} (first : SegmentsText filter place cs ss)
    (second : SegmentsText filter (place.afterAll cs) ds ts) :
    SegmentsText filter place (cs ++ ds) (ss ++ ts) := by
  induction first with
  | nil => exact second
  | cons head _ ih =>
    rw [Position.afterAll_append] at second
    rw [List.append_assoc]
    exact .cons head (ih second)

end Grammar

theorem allPresent_append {α : Type} {xs ys : List (Option α)} {as bs : List α}
    (first : allPresent xs = some as) (second : allPresent ys = some bs) :
    allPresent (xs ++ ys) = some (as ++ bs) := by
  induction xs generalizing as with
  | nil =>
    cases first
    exact second
  | cons x? xs ih =>
    obtain ⟨z, zs, rfl, others, rfl⟩ := allPresent_cons.mp first
    exact allPresent_cons.mpr ⟨z, zs ++ bs, rfl, ih others, rfl⟩

theorem value_segmentsOf_append (c : AnalysisContext) (ss ts : List (Segment Expression)) :
    (segmentsOf c (ss ++ ts)).value = (segmentsOf c ss).value ++ (segmentsOf c ts).value := by
  induction ss with
  | nil => rfl
  | cons s ss ih => exact congrArg ((segmentOf c s).value :: ·) ih

theorem notes_segmentsOf_append (c : AnalysisContext) (ss ts : List (Segment Expression)) :
    (segmentsOf c (ss ++ ts)).notes = (segmentsOf c ss).notes ++ (segmentsOf c ts).notes := by
  induction ss with
  | nil => rfl
  | cons s ss ih =>
    rw [List.cons_append]
    simp only [segmentsOf, Noted.notes_bind, Noted.notes_pure, List.append_nil, ih,
      List.append_assoc]

/-- The segments of one query may be written behind another query, and the plan of the text has the
segments of both plans. -/
theorem compile_joined {settings : CompilerSettings} {repository : Repository}
    {first second : String} {p q : Plan}
    (compiledFirst : (compile settings repository ("$" ++ first)).value = some p)
    (compiledSecond : (compile settings repository ("$" ++ second)).value = some q) :
    (compile settings repository ("$" ++ first ++ second)).value =
      some ⟨"$" ++ first ++ second, p.segments ++ q.segments⟩ := by
  obtain ⟨tree, parsed, quiet, present⟩ := compile_some compiledFirst
  obtain ⟨tree', parsed', quiet', present'⟩ := compile_some compiledSecond
  obtain ⟨text, ss, is, derived, rfl⟩ := queryText_of_parse parsed
  obtain ⟨text', ts, is', derived', rfl⟩ := queryText_of_parse parsed'
  rw [String.toList_append] at is is'
  cases is
  cases is'
  -- The segments of the second query stand where those of the first one end.
  obtain ⟨f, behind⟩ := segments_elsewhere derived'
    ((Position.start.after '$').afterAll first.toList)
  have isText : ("$" ++ first ++ second).toList = '$' :: (first.toList ++ second.toList) := by
    rw [String.toList_append, String.toList_append]
    rfl
  have parsedJoined : parse settings.maxNestingDepth ("$" ++ first ++ second) =
      .ok ⟨.document, ss ++ segmentsWithSpans f ts,
        spanOf .start ("$" ++ first ++ second).toList⟩ :=
    parse_of_queryText ⟨_, _, isText, segmentsText_append derived behind, rfl⟩
  have alike : Noted.Alike (segmentsOf ⟨"$" ++ first, repository⟩ ss)
      (segmentsOf ⟨"$" ++ first ++ second, repository⟩ ss) := alike_segmentsOf_source ss
  have alike' : Noted.Alike (segmentsOf ⟨"$" ++ second, repository⟩ ts)
      (segmentsOf ⟨"$" ++ first ++ second, repository⟩ (segmentsWithSpans f ts)) :=
    alike_segmentsOf f ts
  rw [(compile_of_parse repository parsedJoined).2, notes_segmentsOf_append,
    value_segmentsOf_append, alike.quiet quiet, alike'.quiet quiet', List.append_nil, if_pos rfl,
    allPresent_append (alike.1 ▸ present) (alike'.1 ▸ present')]
  rfl

/-! ## What a joined query selects -/

theorem filterTests_append (c : EvaluationContext) (ss ts : List (Segment Filter)) :
    filterTests c (ss ++ ts) = filterTests c ss ++ filterTests c ts := by
  induction ss with
  | nil => rfl
  | cons s ss ih => exact congrArg (segmentTests c s :: ·) ih

/-- The path that goes on from where another one ends. -/
def NormalizedPath.join (p q : NormalizedPath) : NormalizedPath := ⟨p.steps ++ q.steps⟩

theorem NormalizedPath.join_child (p q : NormalizedPath) (step : PathStep) :
    p.join (Location.child q step) = Location.child (p.join q) step :=
  congrArg NormalizedPath.mk (List.append_assoc p.steps q.steps [step]).symm

/-- What segments without absolute queries select below a node is what they select in its value, at
paths that go on from that of the node. -/
theorem select_below (maxDepth : Nat) {segments : List (Segment Filter)}
    (relative : segmentsRelative segments) (document : Value) (node : Node) :
    (select maxDepth (filterTests ⟨maxDepth, document⟩ segments) [node]).value =
      (select maxDepth (filterTests ⟨maxDepth, node.value⟩ segments)
        [(⟨.root, node.value⟩ : Node)]).value.map (Located.relocated node.location.join) := by
  have start : [node] = [(⟨.root, node.value⟩ : Node)].map
      (Located.relocated node.location.join) := by
    show [node] = [⟨⟨node.location.steps ++ []⟩, node.value⟩]
    rw [List.append_nil]
  rw [filterTests_relative maxDepth document node.value segments relative, start,
    select_relocated node.location.join_child]

/-- Joining queries is composing them. Where two queries have plans and no filter of the second one
has an absolute query, the text with the one behind the other has a plan too. On every document it
selects, node by node, for each node that the first query selects what the second one selects in its
value, at paths that go on from that of the node. -/
theorem joined_query_composes {settings : CompilerSettings} {repository : Repository}
    {first second : String} {p q : Plan}
    (compiledFirst : (compile settings repository ("$" ++ first)).value = some p)
    (compiledSecond : (compile settings repository ("$" ++ second)).value = some q)
    (relative : segmentsRelative q.segments) :
    ∃ joined, (compile settings repository ("$" ++ first ++ second)).value = some joined ∧
      ∀ (limits : EvaluatorSettings) (document : Value),
        (joined.evaluate limits document).value =
          (p.evaluate limits document).value.flatMap fun node =>
            (q.evaluate limits node.value).value.map fun below =>
              ⟨node.location.join below.location, below.value⟩ := by
  refine ⟨_, compile_joined compiledFirst compiledSecond, fun limits document => ?_⟩
  show (select limits.maxDepth (filterTests ⟨limits.maxDepth, document⟩ (p.segments ++ q.segments))
    [(⟨.root, document⟩ : Node)]).value = _
  rw [filterTests_append, select_append, select_flatMap]
  exact congrArg (List.flatMap · _)
    (funext fun node => select_below limits.maxDepth relative document node)

/-- A filter whose query starts from the current node, behind a descendant segment. -/
theorem joined_query_composes_filter : ∃ p q,
    (compile {} .builtins ("$" ++ "..a")).value = some p ∧
    (compile {} .builtins ("$" ++ " [?length(@.b) > 1, -1]")).value = some q ∧
    segmentsRelative q.segments ∧
    ∃ joined, (compile {} .builtins ("$" ++ "..a" ++ " [?length(@.b) > 1, -1]")).value =
        some joined ∧
      ∀ (limits : EvaluatorSettings) (document : Value),
        (joined.evaluate limits document).value =
          (p.evaluate limits document).value.flatMap fun node =>
            (q.evaluate limits node.value).value.map fun below =>
              ⟨node.location.join below.location, below.value⟩ := by
  have compiledFirst : (compile {} .builtins ("$" ++ "..a")).value.isSome := by decide +kernel
  have compiledSecond : (compile {} .builtins ("$" ++ " [?length(@.b) > 1, -1]")).value.any
      fun q => segmentsRelative q.segments := by decide +kernel
  obtain ⟨p, first⟩ := Option.isSome_iff_exists.mp compiledFirst
  obtain ⟨q, second, relative⟩ := (Option.any_eq_true _ _).mp compiledSecond
  exact ⟨p, q, first, second, relative, joined_query_composes first second relative⟩

end JsonPath
