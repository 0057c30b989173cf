import JsonPath.Proofs.Findings
import JsonPath.Proofs.Reordering
import Mathlib.Data.List.Forall2

/-!
# What compilation depends on

Of the functions that a repository holds, compilation looks at those whose names occur as calls, and
of these only at what they declare. Two repositories that declare these names alike are told the
same about a text, and the plans differ only in the functions that the calls are bound to.

`Filter.Counterpart` relates filters that are the same but for their functions, each of which is the
one that its own repository holds under the name of the call.

Results:
1. `analyse_counterpart`, `segmentsOf_counterpart`: analysis with two repositories, side by side.
2. `compile_depends_on_declarations`: the same for whole texts.
-/

namespace JsonPath

/-! ## Repositories and plans side by side -/

/-- The types of the arguments and of the result. -/
def FunctionExtension.declaration (f : FunctionExtension) : List ExpressionType × ExpressionType :=
  (f.argumentTypes, f.returnType)

/-- Either both repositories lack the name, or both hold functions of the same declaration. -/
def DeclaredAlike (r r' : Repository) (name : String) : Prop :=
  (r.lookup name).map FunctionExtension.declaration =
    (r'.lookup name).map FunctionExtension.declaration

/-- The name that is called at a site. -/
def Site.calledName? : Site → Option String
  | .call name _ => some name
  | _ => none

/-- The names that occur as calls in a text; one that is no query has none. -/
def calledNames (settings : CompilerSettings) (source : String) : List String :=
  match parse settings.maxNestingDepth source with
  | .ok tree => (segmentSites tree.segments).filterMap Site.calledName?
  | .error _ => []

/-- The same selector, with filters that are related. -/
inductive Selector.Lift {φ ψ : Type} (R : φ → ψ → Prop) : Selector φ → Selector ψ → Prop where
  | name (key : String) : Lift R (.name key) (.name key)
  | index (place : Int) : Lift R (.index place) (.index place)
  | wildcard : Lift R .wildcard .wildcard
  | slice (bounds : SliceBounds) : Lift R (.slice bounds) (.slice bounds)
  | filter {f : φ} {g : ψ} (related : R f g) : Lift R (.filter f) (.filter g)

/-- The same segment, with filters that are related. -/
inductive Segment.Lift {φ ψ : Type} (R : φ → ψ → Prop) : Segment φ → Segment ψ → Prop where
  | mk (kind : SegmentKind) {selectors : List (Selector φ)} {selectors' : List (Selector ψ)}
      (each : List.Forall₂ (Selector.Lift R) selectors selectors') :
      Lift R ⟨kind, selectors⟩ ⟨kind, selectors'⟩

/-- The same filter, but for the functions of calls. On either side a call holds the function of
that repository under the name of the call. -/
inductive Filter.Counterpart (r r' : Repository) : Filter → Filter → Prop where
  | literal (value : Value) : Counterpart r r' (.literal value) (.literal value)
  | query (root : QueryRoot) {segments segments' : List (Segment Filter)}
      (each : List.Forall₂ (Segment.Lift (Counterpart r r')) segments segments') :
      Counterpart r r' (.query root segments) (.query root segments')
  | comparison (operator : ComparisonOperator) {f f' g g' : Filter}
      (left : Counterpart r r' f f') (right : Counterpart r r' g g') :
      Counterpart r r' (.comparison operator f g) (.comparison operator f' g')
  | logical (operator : LogicalOperator) {fs fs' : List Filter}
      (each : List.Forall₂ (Counterpart r r') fs fs') :
      Counterpart r r' (.logical operator fs) (.logical operator fs')
  | call (name : String) {function function' : FunctionExtension} {fs fs' : List Filter}
      (bound : r.lookup name = some function) (bound' : r'.lookup name = some function')
      (declared : function.declaration = function'.declaration)
      (each : List.Forall₂ (Counterpart r r') fs fs') :
      Counterpart r r' (.call name function fs) (.call name function' fs')
  | test {f f' : Filter} (inner : Counterpart r r' f f') : Counterpart r r' (.test f) (.test f')

/-- Plans of one text that are the same but for the functions of calls. -/
structure Plan.Counterpart (r r' : Repository) (p p' : Plan) : Prop where
  source : p.source = p'.source
  segments : List.Forall₂ (Segment.Lift (Filter.Counterpart r r')) p.segments p'.segments

theorem Filter.Counterpart.type_eq {r r' : Repository} {f f' : Filter}
    (counterpart : f.Counterpart r r' f') : f.type = f'.type := by
  cases counterpart with
  | call name bound bound' declared each => exact congrArg Prod.snd declared
  | _ => rfl

namespace Noted

variable {ν α β γ δ : Type} {R : α → β → Prop} {S : γ → δ → Prop}

/-- The same notes, and values that are related. -/
structure Beside (R : α → β → Prop) (m : Noted ν α) (m' : Noted ν β) : Prop where
  value : R m.value m'.value
  notes : m.notes = m'.notes

theorem Beside.pure {x : α} {y : β} (related : R x y) :
    Beside R (pure x : Noted ν α) (pure y) :=
  ⟨related, rfl⟩

theorem Beside.bind {m : Noted ν α} {m' : Noted ν β} {f : α → Noted ν γ} {g : β → Noted ν δ}
    (beside : Beside R m m') (each : ∀ x y, R x y → Beside S (f x) (g y)) :
    Beside S (m >>= f) (m' >>= g) := by
  have further := each _ _ beside.value
  refine ⟨further.value, ?_⟩
  rw [notes_bind, notes_bind, beside.notes, further.notes]

/-- The same note on both sides makes no difference. -/
theorem Beside.behind {ν γ δ : Type} {S : γ → δ → Prop} (note : Noted ν Unit) {m : Noted ν γ}
    {m' : Noted ν δ} (beside : Beside S m m') :
    Beside S (note >>= fun _ => m) (note >>= fun _ => m') :=
  ⟨beside.value, congrArg (note.notes ++ ·) beside.notes⟩

theorem Beside.mapNotes {ν μ α β : Type} {R : α → β → Prop} {m : Noted ν α} {m' : Noted ν β}
    (beside : Beside R m m') (f : ν → μ) : Beside R (m.mapNotes f) (m'.mapNotes f) :=
  ⟨beside.value, congrArg (List.map f) beside.notes⟩

end Noted

open Noted (Beside)

/-! ## Analysis side by side -/

theorem allPresent_rel {α β : Type} {R : α → β → Prop} {xs : List (Option α)}
    {ys : List (Option β)} (each : List.Forall₂ (Option.Rel R) xs ys) :
    Option.Rel (List.Forall₂ R) (allPresent xs) (allPresent ys) := by
  induction each with
  | nil => exact .some .nil
  | @cons x? y? xs ys first _ ih =>
    simp only [allPresent]
    generalize allPresent xs = xs? at ih ⊢
    generalize allPresent ys = ys? at ih ⊢
    cases first with
    | none => exact .none
    | some related =>
      cases ih with
      | none => exact .none
      | some others => exact .some (.cons related others)

section

variable {r r' : Repository} {source : String}

/-- The repositories declare alike what is called at the sites. -/
def CallsAlike (r r' : Repository) (sites : List Site) : Prop :=
  ∀ name ∈ sites.filterMap Site.calledName?, DeclaredAlike r r' name

theorem callsAlike_append {sites others : List Site} :
    CallsAlike r r' (sites ++ others) ↔ CallsAlike r r' sites ∧ CallsAlike r r' others := by
  simp only [CallsAlike, List.filterMap_append, List.mem_append, or_imp, forall_and]

theorem selectorSites_cons (s : Selector Expression) (ss : List (Selector Expression)) :
    selectorSites (s :: ss) = selectorSites [s] ++ selectorSites ss := by
  cases s <;> simp only [selectorSites, List.append_assoc, List.nil_append]

theorem placed_beside (allowed : ExpressionType → Bool) (misplaced : Diagnostic)
    {plan plan' : Analysis (Option Filter)}
    (beside : Beside (Option.Rel (Filter.Counterpart r r')) plan plan') :
    Beside (Option.Rel (Filter.Counterpart r r')) (AnalysisContext.placed allowed misplaced plan)
      (AnalysisContext.placed allowed misplaced plan') := by
  refine beside.bind fun f? f'? related => ?_
  cases related with
  | none => exact .pure .none
  | some counterpart =>
    dsimp only
    rw [counterpart.type_eq]
    exact .behind _ (.pure (.some counterpart))

/-- The types that arguments take on are those of their counterparts. -/
theorem coerced_counterpart (types : List ExpressionType) {fs fs' : List Filter}
    (each : List.Forall₂ (Filter.Counterpart r r') fs fs') (es : List Expression) :
    AnalysisContext.coerced ⟨source, r⟩ types (fs.zip es) =
      AnalysisContext.coerced ⟨source, r'⟩ types (fs'.zip es) := by
  induction each generalizing types es with
  | nil => cases types <;> rfl
  | cons first _ ih =>
    cases es with
    | nil => cases types <;> rfl
    | cons e es =>
      cases types with
      | nil =>
        simp only [List.zip_cons_cons, AnalysisContext.coerced, first.type_eq, ih [] es]
        rfl
      | cons t ts =>
        simp only [List.zip_cons_cons, AnalysisContext.coerced, first.type_eq, ih ts es]
        rfl

theorem call_beside {name : String} (alike : DeclaredAlike r r' name) (es : List Expression)
    {plans plans' : List (Option Filter)}
    (each : List.Forall₂ (Option.Rel (Filter.Counterpart r r')) plans plans') :
    Beside (Option.Rel (Filter.Counterpart r r')) (AnalysisContext.call ⟨source, r⟩ name es plans)
      (AnalysisContext.call ⟨source, r'⟩ name es plans') := by
  have present := allPresent_rel each
  unfold DeclaredAlike at alike
  simp only [AnalysisContext.call]
  cases bound : r.lookup name with
  | none =>
    rw [bound, Option.map_none, eq_comm, Option.map_eq_none_iff] at alike
    rw [alike]
    exact .behind _ (.pure .none)
  | some function =>
    rw [bound, Option.map_some, eq_comm, Option.map_eq_some_iff] at alike
    obtain ⟨function', bound', declared⟩ := alike
    rw [bound']
    generalize allPresent plans = fs? at present ⊢
    generalize allPresent plans' = fs'? at present ⊢
    cases present with
    | none => exact .pure .none
    | @some fs fs' counterparts =>
      have types : function'.argumentTypes = function.argumentTypes := congrArg Prod.fst declared
      dsimp only
      rw [types, coerced_counterpart function.argumentTypes counterparts es]
      exact .behind _ (.pure (.some (.call name bound bound' declared.symm counterparts)))

mutual

/-- Analysis of an expression whose calls are declared alike. -/
theorem analyse_counterpart : ∀ (e : Expression), CallsAlike r r' e.sites →
    Beside (Option.Rel (Filter.Counterpart r r')) (e.analyse ⟨source, r⟩) (e.analyse ⟨source, r'⟩)
  | .literal value _, _ => .pure (.some (.literal value))
  | .query tree, alike => queryOf_counterpart tree alike
  | .call name es _, alike => by
    obtain ⟨inside, here⟩ := callsAlike_append.mp alike
    refine (argumentsOf_counterpart es inside).bind fun plans plans' each => ?_
    exact call_beside (here name List.mem_cons_self) es each
  | .comparison operator left right _, alike => by
    obtain ⟨first, second⟩ := callsAlike_append.mp alike
    refine (placed_beside _ _ (analyse_counterpart left (callsAlike_append.mp first).1)).bind
      fun f? f'? related => ?_
    refine (placed_beside _ _ (analyse_counterpart right (callsAlike_append.mp second).1)).bind
      fun g? g'? related' => .pure ?_
    cases related with
    | none => exact .none
    | some left =>
      cases related' with
      | none => exact .none
      | some right => exact .some (.comparison operator left right)
  | .not operand _, alike => by
    refine (placed_beside _ _ (analyse_counterpart operand (callsAlike_append.mp alike).1)).bind
      fun f? f'? related => .pure ?_
    exact optionRel_map (allPresent_rel (.cons related .nil)) fun _ _ each => .logical .not each
  | .and operands _, alike =>
    (testsOf_counterpart operands alike).bind fun _ _ each =>
      .pure (optionRel_map (allPresent_rel each) fun _ _ each => .logical .and each)
  | .or operands _, alike =>
    (testsOf_counterpart operands alike).bind fun _ _ each =>
      .pure (optionRel_map (allPresent_rel each) fun _ _ each => .logical .or each)
  | .paren inner _, alike => by
    refine (placed_beside _ _ (analyse_counterpart inner (callsAlike_append.mp alike).1)).bind
      fun f? f'? related => .pure ?_
    exact optionRel_map related fun _ _ counterpart => .test counterpart
termination_by structural e => e

theorem argumentsOf_counterpart : ∀ (es : List Expression), CallsAlike r r' (argumentSites es) →
    Beside (List.Forall₂ (Option.Rel (Filter.Counterpart r r'))) (argumentsOf ⟨source, r⟩ es)
      (argumentsOf ⟨source, r'⟩ es)
  | [], _ => .pure .nil
  | e :: es, alike => by
    obtain ⟨first, others⟩ := callsAlike_append.mp alike
    refine (analyse_counterpart e first).bind fun _ _ related => ?_
    exact (argumentsOf_counterpart es others).bind fun _ _ each => .pure (.cons related each)
termination_by structural es => es

theorem testsOf_counterpart : ∀ (es : List Expression), CallsAlike r r' (testSites es) →
    Beside (List.Forall₂ (Option.Rel (Filter.Counterpart r r'))) (testsOf ⟨source, r⟩ es)
      (testsOf ⟨source, r'⟩ es)
  | [], _ => .pure .nil
  | e :: es, alike => by
    obtain ⟨first, others⟩ := callsAlike_append.mp alike
    refine (placed_beside _ _ (analyse_counterpart e (callsAlike_append.mp first).1)).bind
      fun _ _ related => ?_
    exact (testsOf_counterpart es others).bind fun _ _ each => .pure (.cons related each)
termination_by structural es => es

theorem queryOf_counterpart : ∀ (q : Query Expression), CallsAlike r r' (querySites q) →
    Beside (Option.Rel (Filter.Counterpart r r')) (queryOf ⟨source, r⟩ q) (queryOf ⟨source, r'⟩ q)
  | ⟨root, segments, _⟩, alike =>
    (segmentsOf_counterpart segments alike).bind fun _ _ each =>
      .pure (optionRel_map (allPresent_rel each) fun _ _ each => .query root each)
termination_by structural q => q

/-- Analysis of segments whose calls are declared alike. -/
theorem segmentsOf_counterpart : ∀ (ss : List (Segment Expression)),
    CallsAlike r r' (segmentSites ss) →
    Beside (List.Forall₂ (Option.Rel (Segment.Lift (Filter.Counterpart r r'))))
      (segmentsOf ⟨source, r⟩ ss) (segmentsOf ⟨source, r'⟩ ss)
  | [], _ => .pure .nil
  | s :: ss, alike => by
    obtain ⟨first, others⟩ := callsAlike_append.mp alike
    refine (segmentOf_counterpart s first).bind fun _ _ related => ?_
    exact (segmentsOf_counterpart ss others).bind fun _ _ each => .pure (.cons related each)
termination_by structural ss => ss

theorem segmentOf_counterpart : ∀ (s : Segment Expression),
    CallsAlike r r' (selectorSites s.selectors) →
    Beside (Option.Rel (Segment.Lift (Filter.Counterpart r r'))) (segmentOf ⟨source, r⟩ s)
      (segmentOf ⟨source, r'⟩ s)
  | ⟨kind, selectors⟩, alike =>
    (selectorsOf_counterpart selectors alike).bind fun _ _ each =>
      .pure (optionRel_map (allPresent_rel each) fun _ _ each => .mk kind each)
termination_by structural s => s

theorem selectorsOf_counterpart : ∀ (ss : List (Selector Expression)),
    CallsAlike r r' (selectorSites ss) →
    Beside (List.Forall₂ (Option.Rel (Selector.Lift (Filter.Counterpart r r'))))
      (selectorsOf ⟨source, r⟩ ss) (selectorsOf ⟨source, r'⟩ ss)
  | [], _ => .pure .nil
  | s :: ss, alike => by
    rw [selectorSites_cons] at alike
    obtain ⟨first, others⟩ := callsAlike_append.mp alike
    refine (selectorOf_counterpart s first).bind fun _ _ related => ?_
    exact (selectorsOf_counterpart ss others).bind fun _ _ each => .pure (.cons related each)
termination_by structural ss => ss

theorem selectorOf_counterpart : ∀ (s : Selector Expression), CallsAlike r r' (selectorSites [s]) →
    Beside (Option.Rel (Selector.Lift (Filter.Counterpart r r'))) (selectorOf ⟨source, r⟩ s)
      (selectorOf ⟨source, r'⟩ s)
  | .filter predicate, alike => by
    obtain ⟨inside, -⟩ := callsAlike_append.mp (callsAlike_append.mp alike).1
    refine (placed_beside _ _ (analyse_counterpart predicate inside)).bind
      fun _ _ related => .pure ?_
    exact optionRel_map related fun _ _ counterpart => .filter counterpart
  | .name key, _ => .pure (.some (.name key))
  | .index place, _ => .pure (.some (.index place))
  | .wildcard, _ => .pure (.some .wildcard)
  | .slice bounds, _ => .pure (.some (.slice bounds))
termination_by structural s => s

end

end

/-! ## Compilation side by side -/

theorem planOf_beside {r r' : Repository} (source : String)
    {segments? segments'? : Option (List (Segment Filter))} (found : Nat)
    (related : Option.Rel (List.Forall₂ (Segment.Lift (Filter.Counterpart r r'))) segments?
      segments'?) :
    Beside (Option.Rel (Plan.Counterpart r r')) (planOf source segments? found)
      (planOf source segments'? found) := by
  cases related with
  | none => exact ⟨.none, rfl⟩
  | some each =>
    cases found with
    | zero =>
      refine ⟨.some ⟨rfl, each⟩, ?_⟩
      simp only [planOf, each.length_eq]
    | succ found => exact ⟨.none, rfl⟩

/-- Compilation depends only on the declarations of the functions that are called. Where two
repositories declare alike every name that occurs as a call in a text, the same is logged and
reported about the text in the same order, and either it has no plan or the plans are the same but
for the functions of calls, each of which is the one that its own repository holds. -/
theorem compile_depends_on_declarations {settings : CompilerSettings} {r r' : Repository}
    {source : String} (alike : ∀ name ∈ calledNames settings source, DeclaredAlike r r' name) :
    (compile settings r source).notes = (compile settings r' source).notes ∧
      Option.Rel (Plan.Counterpart r r') (compile settings r source).value
        (compile settings r' source).value := by
  have parsed : Beside (fun result result' => result = result' ∧
        result = parse settings.maxNestingDepth source)
      ((parseLogged settings.maxNestingDepth source).mapNotes CompileNote.logged)
      ((parseLogged settings.maxNestingDepth source).mapNotes CompileNote.logged) :=
    ⟨⟨rfl, value_parseLogged settings.maxNestingDepth source⟩, rfl⟩
  have beside : Beside (Option.Rel (Plan.Counterpart r r')) (compile settings r source)
      (compile settings r' source) := by
    refine parsed.bind ?_
    rintro result _ ⟨rfl, is⟩
    cases result with
    | error e => exact .behind _ (.behind _ (.pure .none))
    | ok tree =>
      rw [calledNames, ← is] at alike
      have analysed : Beside _ (segmentsOf ⟨source, r⟩ tree.segments)
          (segmentsOf ⟨source, r'⟩ tree.segments) := segmentsOf_counterpart tree.segments alike
      refine (analysed.mapNotes CompileNote.reported).bind fun _ _ each => ?_
      rw [analysed.notes]
      exact (planOf_beside source _ (allPresent_rel each)).mapNotes CompileNote.logged
  exact ⟨beside.notes, beside.value⟩

/-- A name under which the second repository holds another function of the same declaration, and one
that is declared in two ways but not called. -/
theorem compile_depends_on_declarations_elsewhere :
    let other := (Repository.builtins.insert "count"
      ⟨[.nodes], .value, "", fun _ => .nothing⟩).insert
        "match" ⟨[.nodes], .logical, "", fun _ => .logical true⟩
    let source := "$..[?count(@.a[?length(@) > 1]) == 1]"
    calledNames {} source = ["length", "count"] ∧
    (∀ name ∈ calledNames {} source, DeclaredAlike .builtins other name) ∧
    (compile {} .builtins source).notes = (compile {} other source).notes ∧
    ∃ plan plan', (compile {} .builtins source).value = some plan ∧
      (compile {} other source).value = some plan' ∧ plan.Counterpart .builtins other plan' := by
  intro other source
  have called : calledNames {} source = ["length", "count"] := by decide +kernel
  have alike : ∀ name ∈ calledNames {} source, DeclaredAlike .builtins other name := by
    rw [called]
    unfold DeclaredAlike
    decide +kernel
  obtain ⟨notes, related⟩ := compile_depends_on_declarations alike
  have compiles : (compile {} .builtins source).value.isSome := by decide +kernel
  refine ⟨called, alike, notes, ?_⟩
  generalize (compile {} .builtins source).value = p? at related compiles
  generalize (compile {} other source).value = p'? at related
  cases related with
  | none => cases compiles
  | some counterpart => exact ⟨_, _, rfl, rfl, counterpart⟩

end JsonPath
