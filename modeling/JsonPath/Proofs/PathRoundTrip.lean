import JsonPath.Evaluation
import JsonPath.Proofs.Compilation
import JsonPath.Proofs.ExpressionParsing

/-!
# Normalized paths as queries

The text of a path is a query, and that query selects the node that the path leads to. What the
writer of paths escapes is what the grammar lets a string spell, and the digits of an index are an
integer without leading zeros.

Results:
1. `path_derivation`: the text of a path is derivable, without any filter.
2. `select_path`: segments of one child each follow the steps.
3. `text_roundTrip`: compilation, evaluation and the text of a path fit together.
-/

namespace JsonPath

open Grammar

/-- The child of a value that a step leads to. -/
def PathStep.child? (step : PathStep) (v : Value) : Option Value := v.children.lookup step

/-- The segment that takes the step. -/
def PathStep.segment {φ : Type} : PathStep → Segment φ
  | .name key => ⟨.child, [.name key]⟩
  | .index place => ⟨.child, [.index place]⟩

namespace NormalizedPath

/-- The value that a path leads to. -/
def locate (p : NormalizedPath) (document : Value) : Option Value :=
  p.steps.foldlM (fun v (step : PathStep) => step.child? v) document

/-- The plan with a segment for each step. -/
def plan (p : NormalizedPath) : Plan := ⟨p.text, p.steps.map PathStep.segment⟩

/-- The indices on the path may be written in a query. -/
def Indexable (p : NormalizedPath) : Prop :=
  ∀ place, .index place ∈ p.steps → place ≤ 2 ^ 53 - 1

end NormalizedPath

/-! ## Names and indices -/

theorem hexText_named {n : Nat} (control : n < 0x20) : HexText (hexText 4 n) n := by
  have read : ∀ n < 0x20, hexUnit? (hexText 4 n) = some (n, []) := by decide
  obtain ⟨text, named, whole⟩ := hexUnit?_sound (read n control)
  rw [List.append_nil] at whole
  exact whole ▸ named

/-- A character is written in one of its spellings. -/
theorem escaped_charText (c : Char) : CharText '\'' (NormalizedPath.escaped c) c := by
  have short {mark : Char} (listed : (mark, c) ∈ shortEscapes) : CharText '\'' ['\\', mark] c :=
    .short listed
  unfold NormalizedPath.escaped
  split
  · next is => exact short (by rw [is]; decide)
  split
  · next is => exact short (by rw [is]; decide)
  split
  · next is => exact short (by rw [is]; decide)
  split
  · next is => exact short (by rw [is]; decide)
  split
  · next is => exact short (by rw [is]; decide)
  split
  · next is => exact is ▸ .quote
  split
  · next is => exact short (by rw [is]; decide)
  split
  · next control => exact .unit (hexText_named control)
  next inside bare printed => exact .plain (Nat.not_lt.mp printed) inside bare

theorem escaped_insideText (cs : List Char) :
    InsideText '\'' (cs.flatMap NormalizedPath.escaped) cs := by
  induction cs with
  | nil => exact .nil
  | cons c cs ih => exact .cons (escaped_charText c) ih

theorem digitsValue_toDigits (n : Nat) : digitsValue (Nat.toDigits 10 n) = n := by
  have same (ds : List Char) (k : Nat) : ds.foldl (fun n d => n * 10 + (d.toNat - '0'.toNat)) k =
      Nat.ofDigitChars 10 ds k := by
    induction ds generalizing k with
    | nil => rfl
    | cons d ds ih => rw [List.foldl_cons, ih, Nat.ofDigitChars_cons, Nat.mul_comm]
  rw [digitsValue, same, Nat.ofDigitChars_ten_toDigits]

/-- Only zero is written with a zero in front. -/
theorem head_toDigits {n : Nat} (zero : (Nat.toDigits 10 n).head? = some '0') :
    Nat.toDigits 10 n = ['0'] := by
  induction n using Nat.strongRecOn with
  | ind n ih =>
    by_cases small : n < 10
    · rw [Nat.toDigits_of_lt_base small] at zero ⊢
      exact congrArg (fun c => [c]) (Option.some.inj zero)
    · -- The first digit is that of a smaller number, which is not zero.
      have split := Nat.toDigits_of_base_le (b := 10) (by decide) (Nat.not_lt.mp small)
      have zeroAbove : (Nat.toDigits 10 (n / 10)).head? = some '0' := by
        obtain ⟨d, ds, digits⟩ :=
          List.exists_cons_of_ne_nil (Nat.toDigits_ne_nil : Nat.toDigits 10 (n / 10) ≠ [])
        rw [split, digits, List.cons_append] at zero
        rwa [digits]
      have above := ih (n / 10) (by omega) zeroAbove
      have value := digitsValue_toDigits (n / 10)
      rw [above] at value
      have positive : 0 < n / 10 := by omega
      rw [← value] at positive
      exact absurd positive (by decide)

theorem toDigits_whole (n : Nat) : Whole (Nat.toDigits 10 n) := by
  refine ⟨⟨Nat.toDigits_ne_nil, fun c member => ?_⟩, head_toDigits⟩
  exact Nat.isDigit_of_mem_toDigits (by decide) (by decide) member

theorem toDigits_integerText {n : Nat} (bounded : n ≤ 2 ^ 53 - 1) :
    IntegerText (Nat.toDigits 10 n) n := by
  refine ⟨false, Nat.toDigits 10 n, toDigits_whole n, nofun, rfl, ?_, by omega⟩
  rw [digitsValue_toDigits]
  rfl

/-! ## The text of a path -/

/-- A step is written as a segment, whatever filters are. -/
theorem step_segmentText (phrase : Phrase Expression) (place : Position) {step : PathStep}
    (bounded : ∀ index, step = .index index → index ≤ 2 ^ 53 - 1) :
    SegmentText phrase place (NormalizedPath.stepText step) step.segment := by
  have bracketed {cs : List Char} {s : Selector Expression}
      (derived : SelectorText phrase (place.afterAll ['[']) cs s) :
      SegmentText phrase place ('[' :: (cs ++ [']'])) ⟨.child, [s]⟩ :=
    .bracket ⟨cs, [], .nil, rfl, [], cs, .nil, rfl, .single derived⟩
  cases step with
  | name key =>
    have string : StringText ('\'' :: (key.toList.flatMap NormalizedPath.escaped ++ ['\'']))
        key := ⟨'\'', _, .inl rfl, escaped_insideText key.toList, rfl⟩
    have segment := bracketed (.name string)
    rw [List.cons_append, List.append_assoc] at segment
    exact segment
  | index index => exact bracketed (.position (.index (toDigits_integerText (bounded index rfl))))

theorem steps_segmentsText (phrase : Phrase Expression) (place : Position) {steps : List PathStep}
    (bounded : ∀ index, .index index ∈ steps → index ≤ 2 ^ 53 - 1) :
    SegmentsText phrase place (steps.flatMap NormalizedPath.stepText)
      (steps.map PathStep.segment) := by
  induction steps generalizing place with
  | nil => exact .nil
  | cons step steps ih =>
    have first : ∀ index, step = .index index → index ≤ 2 ^ 53 - 1 := by
      rintro index rfl
      exact bounded index List.mem_cons_self
    rw [List.flatMap_cons, List.map_cons]
    exact .cons ⟨[], _, .nil, rfl, step_segmentText phrase place first⟩
      (ih _ fun index member => bounded index (List.mem_cons_of_mem step member))

/-- The text of a path is a query with a segment for each step, under every limit. -/
theorem path_derivation (limit : Nat) {p : NormalizedPath} (indexable : p.Indexable) :
    Grammar.Derivation limit p.text
      ⟨.document, p.steps.map PathStep.segment, spanOf .start p.text.toList⟩ := by
  rw [Grammar.Derivation, NormalizedPath.text, String.toList_ofList]
  exact ⟨_, _, rfl, steps_segmentsText _ _ indexable, rfl⟩

/-! ## The plan of a path -/

theorem segmentsOf_steps (c : AnalysisContext) (steps : List PathStep) :
    (segmentsOf c (steps.map PathStep.segment)).notes = [] ∧
      allPresent (segmentsOf c (steps.map PathStep.segment)).value =
        some (steps.map PathStep.segment) := by
  induction steps with
  | nil => exact ⟨rfl, rfl⟩
  | cons step steps ih =>
    obtain ⟨quiet, present⟩ := ih
    have first : segmentOf c step.segment = pure (some step.segment) := by
      cases step <;> rfl
    constructor
    · simp [segmentsOf, first, quiet]
    · simp [segmentsOf, first, allPresent, present]

/-! ## What the plan of a path selects -/

theorem lookup_members (key : String) (members : Members) :
    (members.map fun m => (PathStep.name m.1, m.2)).lookup (.name key) =
      Value.member? key members := by
  induction members with
  | nil => rfl
  | cons m ms ih =>
    rw [List.map_cons, List.lookup_cons, Value.member?, ih]
    by_cases same : m.1 = key
    · simp [same]
    · have other : (PathStep.name key == .name m.1) = false := by
        rw [beq_eq_false_iff_ne]
        rintro ⟨⟩
        exact same rfl
      rw [other, if_neg same]

theorem lookup_elements (place start : Nat) (elements : List Value) :
    ((elements.zipIdx start).map fun e => (PathStep.index e.2, e.1)).lookup
        (.index (start + place)) = elements[place]? := by
  induction elements generalizing place start with
  | nil => rfl
  | cons v vs ih =>
    rw [List.zipIdx_cons, List.map_cons, List.lookup_cons]
    cases place with
    | zero => simp
    | succ place =>
      have other : (PathStep.index (start + (place + 1)) == .index start) = false := by simp
      have later := ih place (start + 1)
      rw [other, List.getElem?_cons_succ, ← later, Nat.add_assoc, Nat.add_comm 1]

/-- A name leads to the member of an object. -/
theorem child?_name (key : String) (v : Value) :
    PathStep.child? (.name key) v = Value.member? key v.members := by
  cases v with
  | object members => exact lookup_members key members
  | array elements =>
    refine List.lookup_eq_none_iff.mpr fun e member => ?_
    obtain ⟨_, -, rfl⟩ := List.mem_map.mp member
    rfl
  | _ => rfl

/-- An index leads to the element of an array. -/
theorem child?_index (place : Nat) (v : Value) :
    PathStep.child? (.index place) v = v.elements[place]? := by
  cases v with
  | array elements =>
    have located := lookup_elements place 0 elements
    rwa [Nat.zero_add] at located
  | object members =>
    refine List.lookup_eq_none_iff.mpr fun e member => ?_
    obtain ⟨_, -, rfl⟩ := List.mem_map.mp member
    rfl
  | _ => rfl

/-- An index that is not negative is resolved to itself. -/
theorem element_resolved (elements : Array Value) (place : Nat) :
    (resolveIndex elements.size place).bind (elementAt? elements) =
      elements[place]?.map fun v => (.index place, v) := by
  have counted : ¬((place : Int) < 0) := by omega
  simp only [resolveIndex, counted, if_false]
  split
  · rfl
  · next outside =>
    have missing : elements[place]? = none := by
      rw [Array.getElem?_eq_none_iff]
      omega
    rw [missing]
    rfl

/-- A segment of one child takes the step, if the child is there. -/
theorem apply_segment (c : EvaluationContext) (maxDepth : Nat) (step : PathStep) (node : Node) :
    ((segmentTests c step.segment).apply maxDepth node).value =
      ((step.child? node.value).map fun v => (⟨node.location.child step, v⟩ : Node)).toList := by
  cases step with
  | name key =>
    rw [child?_name]
    exact List.append_nil _
  | index place =>
    have picked := element_resolved node.value.elements.toArray place
    rw [child?_index]
    refine (List.append_nil _).trans ?_
    change (((resolveIndex _ _).bind (elementAt? _)).map node.child).toList = _
    rw [picked, Option.map_map, List.getElem?_toArray]
    rfl

/-- Nothing follows from no nodes. -/
theorem select_nil (maxDepth : Nat) (segments : List (Segment Test)) :
    (select maxDepth segments ([] : List Node)).value = [] := by
  induction segments with
  | nil => rfl
  | cons segment segments ih => exact ih

/-- Segments of one child each follow the steps from a node. -/
theorem select_path (c : EvaluationContext) (maxDepth : Nat) (steps : List PathStep) (node : Node) :
    (select maxDepth (filterTests c (steps.map PathStep.segment)) [node]).value =
      ((steps.foldlM (fun v (step : PathStep) => step.child? v) node.value).map fun v =>
        (⟨⟨node.location.steps ++ steps⟩, v⟩ : Node)).toList := by
  induction steps generalizing node with
  | nil =>
    rw [List.append_nil]
    rfl
  | cons step steps ih =>
    have first : (Noted.collect ((segmentTests c step.segment).apply maxDepth) [node]).value =
        ((step.child? node.value).map fun v =>
          (⟨node.location.child step, v⟩ : Node)).toList := by
      rw [← apply_segment c maxDepth]
      exact List.append_nil _
    rw [List.map_cons, filterTests, select, Noted.value_bind, first, List.foldlM_cons]
    cases step.child? node.value with
    | none => exact select_nil maxDepth _
    | some v =>
      refine (ih _).trans ?_
      rw [NormalizedPath.child, List.append_assoc]
      rfl

/-! ## Compilation and evaluation of the text of a path -/

theorem segment_injective (first second : PathStep)
    (same : (first.segment : Segment Filter) = second.segment) : first = second := by
  cases first <;> cases second <;> cases same <;> rfl

theorem compile_path (settings : CompilerSettings) (repository : Repository) {p : NormalizedPath}
    (indexable : p.Indexable) :
    findings settings repository p.text = [] ∧
      (compile settings repository p.text).value = some p.plan := by
  have parsed := (parse_iff_derivation settings.maxNestingDepth _ _).mpr
    (path_derivation settings.maxNestingDepth indexable)
  obtain ⟨found, planned⟩ := compile_of_parse repository parsed
  obtain ⟨quiet, present⟩ := segmentsOf_steps ⟨p.text, repository⟩ p.steps
  refine ⟨found.trans quiet, ?_⟩
  rw [planned, if_pos quiet, present]
  rfl

theorem evaluate_path (settings : EvaluatorSettings) (p : NormalizedPath) (document : Value) :
    (p.plan.evaluate settings document).value =
      ((p.locate document).map fun v => (⟨p, v⟩ : Node)).toList :=
  select_path ⟨settings.maxDepth, document⟩ settings.maxDepth p.steps ⟨.root, document⟩

/-- Paths with the same text have the same plan, and so the same steps. -/
theorem text_injective {p q : NormalizedPath} (indexable : p.Indexable) (other : q.Indexable)
    (same : q.text = p.text) : q = p := by
  have first := (compile_path {} .empty indexable).2
  have second := (compile_path {} .empty other).2
  rw [same, first] at second
  have segments := congrArg Plan.segments (Option.some.inj second)
  have steps := (List.map_inj_right segment_injective).mp segments
  exact (congrArg NormalizedPath.mk steps).symm

/-- The text of a path has the plan with a segment for each step, which selects the node that the
path leads to and nothing else, and no other path has that text. -/
theorem text_roundTrip (p : NormalizedPath) (indexable : p.Indexable) :
    (∀ settings repository,
      findings settings repository p.text = [] ∧
        (compile settings repository p.text).value = some p.plan) ∧
    (∀ settings document,
      (p.plan.evaluate settings document).value =
        ((p.locate document).map fun v => (⟨p, v⟩ : Node)).toList) ∧
    ∀ q : NormalizedPath, q.Indexable → q.text = p.text → q = p :=
  ⟨fun settings repository => compile_path settings repository indexable,
    fun settings document => evaluate_path settings p document,
    fun _ other same => text_injective indexable other same⟩

/-- A path with an empty name, with characters that are escaped, and with the last index. -/
def escapedPath : NormalizedPath :=
  ⟨[.name "it's \\ \x01\n", .name "", .index (2 ^ 53 - 1)]⟩

theorem text_roundTrip_escaped :
    escapedPath.text = "$['it\\'s \\\\ \\u0001\\n'][''][9007199254740991]" ∧
      (∀ settings repository,
        (compile settings repository escapedPath.text).value = some escapedPath.plan) ∧
      ∀ q : NormalizedPath, q.Indexable → q.text = escapedPath.text → q = escapedPath := by
  have indexable : escapedPath.Indexable := by
    intro place member
    simp only [escapedPath, List.mem_cons, List.not_mem_nil, or_false, reduceCtorEq, false_or,
      PathStep.index.injEq] at member
    exact Nat.le_of_eq member
  obtain ⟨compiled, -, only⟩ := text_roundTrip escapedPath indexable
  exact ⟨by decide +kernel, fun settings repository => (compiled settings repository).2, only⟩

end JsonPath
