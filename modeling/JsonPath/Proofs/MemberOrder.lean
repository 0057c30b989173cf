import JsonPath.Proofs.Location
import JsonPath.Proofs.Outcome
import JsonPath.Proofs.Reordering
import JsonPath.Proofs.Typing

/-!
# The order of members

Two runs of a plan, on documents that differ in the order of the members of objects, go side by
side. Whatever the one selects, the other selects too, at the same paths, although perhaps in
another order; every expression of a filter comes to the same in both, but for such an order. This
rests on the functions that a filter calls: none of those that are always there sees the order.

Results:
1. `select_twin`: segments select twins from twins.
2. `evaluate_agree`: expressions come to the same on twins, if functions do.
3. `builtin_orderBlind`: the functions that are always there do.
4. `member_order_irrelevant`: the results of a plan up to the order of members.
-/

namespace JsonPath

/-! ## Selection -/

section

variable {L : Type}

/-- Nodes at the same location whose values are twins. -/
structure Located.Twin (node node' : Located L) : Prop where
  location : node.location = node'.location
  value : node.value.Twin node'.value

/-- Selectors that pick alike from twins. -/
inductive Selector.Agree : Selector Test → Selector Test → Prop where
  | name (key : String) : Agree (.name key) (.name key)
  | index (place : Int) : Agree (.index place) (.index place)
  | wildcard : Agree .wildcard .wildcard
  | slice (bounds : SliceBounds) : Agree (.slice bounds) (.slice bounds)
  | filter {test test' : Test} (same : ∀ v v', v.Twin v' → (test v).value = (test' v').value) :
      Agree (.filter test) (.filter test')

/-- Segments that select alike from twins. -/
structure Segment.Agree (segment segment' : Segment Test) : Prop where
  kind : segment.kind = segment'.kind
  selectors : List.Forall₂ Selector.Agree segment.selectors segment'.selectors

/-- The same step to twins. -/
def StepTwin (step step' : PathStep × Value) : Prop :=
  step.1 = step'.1 ∧ step.2.Twin step'.2

variable [Location L] {node node' : Located L}

theorem Located.Twin.child (twin : node.Twin node') {step step' : PathStep × Value}
    (related : StepTwin step step') : (node.child step).Twin (node'.child step') :=
  ⟨by rw [Located.child, Located.child, twin.location, related.1], related.2⟩

theorem Located.Twin.children (twin : node.Twin node') :
    Rearranged Located.Twin node.children node'.children :=
  twin.value.children.map fun _ _ => twin.child

theorem walk_twin (n : Nat) (twin : node.Twin node') :
    Rearranged Located.Twin (walk n node) (walk n node') := by
  induction n generalizing node node' with
  | zero => exact .single twin
  | succ n ih => exact (Rearranged.single twin).append (twin.children.flatMap fun _ _ => ih)

theorem elementAt?_twin {vs ws : List Value} (each : List.Forall₂ Value.Twin vs ws) (place : Nat) :
    Option.Rel StepTwin (elementAt? vs.toArray place) (elementAt? ws.toArray place) := by
  rw [elementAt?, elementAt?, List.getElem?_toArray, List.getElem?_toArray]
  exact optionRel_map (forall₂_getElem? each place) fun _ _ twin => ⟨rfl, twin⟩

theorem elementsAt_twin {vs ws : List Value} (each : List.Forall₂ Value.Twin vs ws)
    (places : List Nat) :
    List.Forall₂ StepTwin (places.filterMap (elementAt? vs.toArray))
      (places.filterMap (elementAt? ws.toArray)) := by
  refine List.rel_filterMap (R := Eq) ?_ (List.forall₂_eq_eq_eq ▸ rfl)
  rintro place _ rfl
  exact elementAt?_twin each place

/-- A selector picks twins from twins. -/
theorem pick_twin {selector selector' : Selector Test} (agree : selector.Agree selector')
    (twin : node.Twin node') :
    Rearranged Located.Twin (selector.pick node).value (selector'.pick node').value := by
  have elements := twin.value.elements
  have sameSize : node.value.elements.toArray.size = node'.value.elements.toArray.size :=
    elements.length_eq
  cases agree with
  | name key =>
    exact .ofOption <| optionRel_map (twin.value.member? key) fun _ _ value =>
      twin.child ⟨rfl, value⟩
  | index place =>
    have found : Option.Rel StepTwin
        ((resolveIndex node.value.elements.toArray.size place).bind
          (elementAt? node.value.elements.toArray))
        ((resolveIndex node'.value.elements.toArray.size place).bind
          (elementAt? node'.value.elements.toArray)) := by
      rw [sameSize]
      cases resolveIndex node'.value.elements.toArray.size place with
      | none => exact .none
      | some place => exact elementAt?_twin elements place
    exact .ofOption (optionRel_map found fun _ _ => twin.child)
  | wildcard => exact twin.children
  | slice bounds =>
    rw [Selector.pick, Selector.pick, Noted.value_pure, Noted.value_pure, sameSize]
    exact (Rearranged.of_forall₂ (elementsAt_twin elements _)).map fun _ _ => twin.child
  | filter same =>
    rw [Selector.pick, Selector.pick, Noted.value_filter, Noted.value_filter]
    exact twin.children.filter fun child child' twin => same _ _ twin.value

theorem apply_twin (maxDepth : Nat) {segment segment' : Segment Test}
    (agree : segment.Agree segment') (twin : node.Twin node') :
    Rearranged Located.Twin (segment.apply maxDepth node).value
      (segment'.apply maxDepth node').value := by
  have picks {node node' : Located L} (twin : node.Twin node') :
      Rearranged Located.Twin (segment.picks node) (segment'.picks node') :=
    (Rearranged.of_forall₂ agree.selectors).flatMap fun _ _ agree => pick_twin agree twin
  rw [value_apply, value_apply, agree.kind]
  cases segment'.kind with
  | child => exact picks twin
  | descendant => exact (walk_twin maxDepth twin).flatMap fun _ _ => picks

/-- Segments that select alike select twins from twins. -/
theorem select_twin (maxDepth : Nat) {segments segments' : List (Segment Test)}
    (agree : List.Forall₂ Segment.Agree segments segments') {nodes nodes' : List (Located L)}
    (twins : Rearranged Located.Twin nodes nodes') :
    Rearranged Located.Twin (select maxDepth segments nodes).value
      (select maxDepth segments' nodes').value := by
  induction agree generalizing nodes nodes' with
  | nil => exact twins
  | cons first _ ih =>
    rw [select_cons, select_cons]
    exact ih (twins.flatMap fun _ _ => apply_twin maxDepth first)

end

/-! ## What expressions come to -/

/-- What expressions come to when they run side by side. -/
inductive FilterValue.Agree : FilterValue → FilterValue → Prop where
  | nothing : Agree (.value none) (.value none)
  | value {v w : Value} (agree : v.Agree w) : Agree (.value (some v)) (.value (some w))
  | logical (b : Bool) : Agree (.logical b) (.logical b)
  | nodes {vs ws : List Value} (twins : Rearranged Value.Twin vs ws) :
      Agree (.nodes vs) (.nodes ws)

/-- A function that answers the same, whatever the order of members and nodes is. -/
def FunctionExtension.OrderBlind (f : FunctionExtension) : Prop :=
  ∀ {arguments arguments' : List FilterValue}, List.Forall₂ FilterValue.Agree arguments arguments' →
    (f.evaluate arguments).Agree (f.evaluate arguments')

namespace FilterValue.Agree

theorem emptyOf (t : ExpressionType) : (FilterValue.emptyOf t).Agree (FilterValue.emptyOf t) := by
  cases t with
  | value => exact .nothing
  | logical => exact .logical false
  | nodes => exact .nodes .nil

theorem ofEq {a b : Bool} (same : a = b) : (FilterValue.logical a).Agree (.logical b) :=
  same ▸ .logical a

variable {v w : FilterValue}

theorem type_eq (agree : v.Agree w) : v.type = w.type := by
  cases agree <;> rfl

theorem toTest_eq (agree : v.Agree w) : v.toTest = w.toTest := by
  cases agree with
  | nodes twins =>
    rcases twins.shapes with ⟨rfl, rfl⟩ | ⟨_, _, rfl, rfl, -⟩ | ⟨_, _, _, _, _, _, rfl, rfl⟩ <;> rfl
  | _ => rfl

theorem toComparable (agree : v.Agree w) : v.toComparable.Agree w.toComparable := by
  cases agree with
  | nothing => exact .nothing
  | value agree => exact .value agree
  | logical => exact .nothing
  | nodes twins =>
    rcases twins.shapes with ⟨rfl, rfl⟩ | ⟨_, _, rfl, rfl, twin⟩ | ⟨_, _, _, _, _, _, rfl, rfl⟩
    · exact .nothing
    · exact .value (.inr twin)
    · exact .ambiguous

theorem toArgument (agree : v.Agree w) (t : ExpressionType) :
    Option.Rel FilterValue.Agree (v.toArgument t) (w.toArgument t) := by
  cases t with
  | logical =>
    rw [FilterValue.toArgument, FilterValue.toArgument, agree.toTest_eq]
    exact .some (.logical _)
  | nodes =>
    cases agree with
    | nodes twins => exact .some (.nodes twins)
    | _ => exact .none
  | value =>
    cases agree with
    | nothing => exact .some .nothing
    | value agree => exact .some (.value agree)
    | logical => exact .none
    | nodes twins =>
      rcases twins.shapes with ⟨rfl, rfl⟩ | ⟨_, _, rfl, rfl, twin⟩ | ⟨_, _, _, _, _, _, rfl, rfl⟩
      · exact .none
      · exact .some (.value (.inr twin))
      · exact .none

end FilterValue.Agree

theorem invoke_agree {f : FunctionExtension} (blind : f.OrderBlind) (name : String)
    {arguments arguments' : List FilterValue}
    (agree : List.Forall₂ FilterValue.Agree arguments arguments') :
    (f.invoke name arguments).value.Agree (f.invoke name arguments').value := by
  have answers := blind agree
  rw [FunctionExtension.invoke, FunctionExtension.invoke, Noted.value_bind, Noted.value_bind]
  dsimp only
  rw [answers.type_eq]
  split
  · exact answers
  · exact .emptyOf f.returnType

/-- What two runs have in common: functions that do not see the order, and documents that differ in
nothing else. -/
structure SideBySide (r : Repository) (document document' : Value) : Prop where
  blind {name : String} {function : FunctionExtension} :
    r.lookup name = some function → function.OrderBlind
  twin : document.Twin document'

section

variable {r : Repository} {document document' : Value} (maxDepth : Nat)

mutual

/-- An expression comes to the same on twins, in documents that are twins. -/
theorem evaluate_agree (side : SideBySide r document document') :
    ∀ (f : Filter), f.WellTyped r → ∀ {current current' : Value}, current.Twin current' →
      (f.evaluate ⟨maxDepth, document⟩ current).value.Agree
        (f.evaluate ⟨maxDepth, document'⟩ current').value
  | .literal value, _, _, _, _ => .value (.refl value)
  | .query root segments, typed, current, current', here => by
    have start : (⟨(), EvaluationContext.start ⟨maxDepth, document⟩ current root⟩ :
        Located Unit).Twin ⟨(), EvaluationContext.start ⟨maxDepth, document'⟩ current' root⟩ := by
      cases root with
      | document => exact ⟨rfl, side.twin⟩
      | current => exact ⟨rfl, here⟩
    exact .nodes ((select_twin maxDepth (filterTests_agree side segments typed) (.single start)).map
      fun _ _ node => node.value)
  | .comparison operator left right, typed, current, current', here => by
    have leftAgree := (evaluate_agree side left typed.1.2 here).toComparable
    have rightAgree := (evaluate_agree side right typed.2.2 here).toComparable
    exact .ofEq (leftAgree.compare operator rightAgree)
  | .logical operator operands, typed, current, current', here => by
    cases operator with
    | not => exact .ofEq (congrArg not (anyHolds_agree side operands typed here))
    | and => exact .ofEq (allHold_agree side operands typed here)
    | or => exact .ofEq (anyHolds_agree side operands typed here)
  | .call name function arguments, typed, current, current', here => by
    have agree := argumentValues_agree side name arguments function.argumentTypes typed.2 here
    rw [Filter.evaluate, Filter.evaluate, Noted.value_bind, Noted.value_bind]
    generalize (argumentValues ⟨maxDepth, document⟩ name arguments function.argumentTypes
      current).value = values at agree ⊢
    generalize (argumentValues ⟨maxDepth, document'⟩ name arguments function.argumentTypes
      current').value = values' at agree ⊢
    cases agree with
    | none => exact .emptyOf function.returnType
    | some agree => exact invoke_agree (side.blind typed.1) name agree
  | .test inner, typed, current, current', here =>
    .ofEq (evaluate_agree side inner typed.2 here).toTest_eq
termination_by structural f => f

theorem allHold_agree (side : SideBySide r document document') :
    ∀ (fs : List Filter), testsWellTyped r fs → ∀ {current current' : Value},
      current.Twin current' → (allHold ⟨maxDepth, document⟩ fs current).value =
        (allHold ⟨maxDepth, document'⟩ fs current').value
  | [], _, _, _, _ => rfl
  | f :: fs, typed, current, current', here => by
    have first : f.holds ⟨maxDepth, document⟩ current = f.holds ⟨maxDepth, document'⟩ current' :=
      (evaluate_agree side f typed.1.2 here).toTest_eq
    have others := allHold_agree side fs typed.2 here
    rw [value_allHold, value_allHold] at others ⊢
    rw [List.all_cons, List.all_cons, first, others]
termination_by structural fs => fs

theorem anyHolds_agree (side : SideBySide r document document') :
    ∀ (fs : List Filter), testsWellTyped r fs → ∀ {current current' : Value},
      current.Twin current' → (anyHolds ⟨maxDepth, document⟩ fs current).value =
        (anyHolds ⟨maxDepth, document'⟩ fs current').value
  | [], _, _, _, _ => rfl
  | f :: fs, typed, current, current', here => by
    have first : f.holds ⟨maxDepth, document⟩ current = f.holds ⟨maxDepth, document'⟩ current' :=
      (evaluate_agree side f typed.1.2 here).toTest_eq
    have others := anyHolds_agree side fs typed.2 here
    rw [value_anyHolds, value_anyHolds] at others ⊢
    rw [List.any_cons, List.any_cons, first, others]
termination_by structural fs => fs

theorem argumentValues_agree (side : SideBySide r document document') (name : String) :
    ∀ (fs : List Filter) (types : List ExpressionType), argumentsWellTyped r fs types →
      ∀ {current current' : Value}, current.Twin current' →
        Option.Rel (List.Forall₂ FilterValue.Agree)
          (argumentValues ⟨maxDepth, document⟩ name fs types current).value
          (argumentValues ⟨maxDepth, document'⟩ name fs types current').value
  | [], _, _, _, _, _ => .some .nil
  | f :: fs, types, typed, current, current', here => by
    cases types with
    | nil => exact .some .nil
    | cons t ts =>
      have first := (evaluate_agree side f typed.1.2 here).toArgument t
      have others := argumentValues_agree side name fs ts typed.2 here
      rw [argumentValues, argumentValues, Noted.value_bind, Noted.value_bind]
      dsimp only [placedAs, Noted.value_bind, Noted.value_pure]
      generalize (f.evaluate ⟨maxDepth, document⟩ current).value.toArgument t = v at first ⊢
      generalize (f.evaluate ⟨maxDepth, document'⟩ current').value.toArgument t = v' at first ⊢
      cases first with
      | none => exact .none
      | some first => exact optionRel_map others fun _ _ others => .cons first others
termination_by structural fs => fs

theorem filterTests_agree (side : SideBySide r document document') :
    ∀ (ss : List (Segment Filter)), segmentsWellTyped r ss →
      List.Forall₂ Segment.Agree (filterTests ⟨maxDepth, document⟩ ss)
        (filterTests ⟨maxDepth, document'⟩ ss)
  | [], _ => .nil
  | s :: ss, typed => .cons (segmentTests_agree side s typed.1) (filterTests_agree side ss typed.2)
termination_by structural ss => ss

theorem segmentTests_agree (side : SideBySide r document document') :
    ∀ (s : Segment Filter), segmentWellTyped r s →
      (segmentTests ⟨maxDepth, document⟩ s).Agree (segmentTests ⟨maxDepth, document'⟩ s)
  | ⟨_, selectors⟩, typed => ⟨rfl, selectorTests_agree side selectors typed⟩
termination_by structural s => s

theorem selectorTests_agree (side : SideBySide r document document') :
    ∀ (ss : List (Selector Filter)), selectorsWellTyped r ss →
      List.Forall₂ Selector.Agree (selectorTests ⟨maxDepth, document⟩ ss)
        (selectorTests ⟨maxDepth, document'⟩ ss)
  | [], _ => .nil
  | s :: ss, typed =>
    .cons (selectorTest_agree side s typed.1) (selectorTests_agree side ss typed.2)
termination_by structural ss => ss

theorem selectorTest_agree (side : SideBySide r document document') :
    ∀ (s : Selector Filter), selectorWellTyped r s →
      (selectorTest ⟨maxDepth, document⟩ s).Agree (selectorTest ⟨maxDepth, document'⟩ s)
  | .filter predicate, typed =>
    .filter fun _ _ here => (evaluate_agree side predicate typed.2 here).toTest_eq
  | .name key, _ => .name key
  | .index place, _ => .index place
  | .wildcard, _ => .wildcard
  | .slice bounds, _ => .slice bounds
termination_by structural s => s

end

end

/-! ## The functions that are always there -/

namespace FilterValue.Agree

variable {v w : FilterValue}

theorem ofRel {v? w? : Option Value} (related : Option.Rel Value.Agree v? w?) :
    (FilterValue.value v?).Agree (.value w?) := by
  cases related with
  | none => exact .nothing
  | some agree => exact .value agree

theorem value? (agree : v.Agree w) : Option.Rel Value.Agree v.value? w.value? := by
  cases agree with
  | value agree => exact .some agree
  | _ => exact .none

theorem nodes? (agree : v.Agree w) : Option.Rel (Rearranged Value.Twin) v.nodes? w.nodes? := by
  cases agree with
  | nodes twins => exact .some twins
  | _ => exact .none

theorem string?_eq (agree : v.Agree w) : v.string? = w.string? := by
  cases agree with
  | @value v w agree =>
    cases v with
    | array =>
      obtain ⟨_, rfl, -⟩ := agree.array
      rfl
    | object =>
      obtain ⟨_, _, rfl, -⟩ := agree.object
      rfl
    | _ => rw [agree.scalar rfl]
  | _ => rfl

end FilterValue.Agree

theorem lengthOf?_agree {v w : Value} (agree : v.Agree w) :
    Option.Rel Eq (Builtin.lengthOf? v) (Builtin.lengthOf? w) := by
  cases v with
  | array =>
    obtain ⟨_, rfl, each⟩ := agree.array
    exact .some each.length_eq
  | object =>
    obtain ⟨_, _, rfl, each, permuted, -⟩ := agree.object
    exact .some (each.length_eq.trans permuted.length_eq)
  | string =>
    rw [agree.scalar rfl]
    exact .some rfl
  | _ =>
    rw [agree.scalar rfl]
    exact .none

theorem onlyOne?_agree {vs ws : List Value} (twins : Rearranged Value.Twin vs ws) :
    Option.Rel Value.Agree (Builtin.onlyOne? vs) (Builtin.onlyOne? ws) := by
  rcases twins.shapes with ⟨rfl, rfl⟩ | ⟨_, _, rfl, rfl, twin⟩ | ⟨_, _, _, _, _, _, rfl, rfl⟩
  · exact .none
  · exact .some (.inr twin)
  · exact .none

section

variable {arguments arguments' : List FilterValue}
  (agree : List.Forall₂ FilterValue.Agree arguments arguments')

include agree

theorem head?_agree : Option.Rel FilterValue.Agree arguments.head? arguments'.head? := by
  rw [List.head?_eq_getElem?, List.head?_eq_getElem?]
  exact forall₂_getElem? agree 0

theorem regexTest_agree (mode : MatchMode) :
    Builtin.regexTest mode arguments = Builtin.regexTest mode arguments' := by
  have text : arguments.head?.bind FilterValue.string? =
      arguments'.head?.bind FilterValue.string? :=
    optionRel_eq.mp <| optionRel_bind (head?_agree agree) fun _ _ agree =>
      optionRel_eq.mpr agree.string?_eq
  have pattern : arguments[1]?.bind FilterValue.string? = arguments'[1]?.bind FilterValue.string? :=
    optionRel_eq.mp <| optionRel_bind (forall₂_getElem? agree 1) fun _ _ agree =>
      optionRel_eq.mpr agree.string?_eq
  rw [Builtin.regexTest, Builtin.regexTest, text, pattern]

end

/-- None of the functions that are always there sees the order of members. -/
theorem builtin_orderBlind {f : FunctionExtension} (listed : f ∈ Builtin.all.map Prod.snd) :
    f.OrderBlind := by
  have known : f = Builtin.length ∨ f = Builtin.count ∨ f = Builtin.matchAll ∨
      f = Builtin.search ∨ f = Builtin.value := by
    simpa [Builtin.all] using listed
  intro arguments arguments' agree
  have nodes := optionRel_bind (head?_agree agree) fun _ _ agree => agree.nodes?
  have number (m n : Nat) (same : m = n) : (Value.ofNat m).Agree (Value.ofNat n) :=
    .inl (congrArg Value.ofNat same.symm)
  rcases known with rfl | rfl | rfl | rfl | rfl
  · have value := optionRel_bind (head?_agree agree) fun _ _ agree => agree.value?
    exact .ofRel (optionRel_map (optionRel_bind value fun _ _ => lengthOf?_agree) number)
  · exact .ofRel (optionRel_map nodes fun _ _ twins => number _ _ twins.length_eq)
  · exact .ofEq (regexTest_agree agree .full)
  · exact .ofEq (regexTest_agree agree .search)
  · exact .ofRel (optionRel_bind nodes fun _ _ => onlyOne?_agree)

theorem lookup_builtins {name : String} {f : FunctionExtension}
    (found : Repository.builtins.lookup name = some f) : f ∈ Builtin.all.map Prod.snd := by
  have listed (known : List (String × FunctionExtension)) (r : Repository) :
      ∀ e ∈ (known.foldl (fun r e => r.insert e.1 e.2) r).entries, e ∈ known ∨ e ∈ r.entries := by
    induction known generalizing r with
    | nil => exact fun e member => .inr member
    | cons k known ih =>
      intro e member
      rcases ih (r.insert k.1 k.2) e member with later | inserted
      · exact .inl (List.mem_cons_of_mem k later)
      · rcases Repository.mem_insertEntry inserted with rfl | old
        · exact .inl List.mem_cons_self
        · exact .inr old
  obtain ⟨e, entry, rfl⟩ := Option.map_eq_some_iff.mp found
  rcases listed Builtin.all .empty e (List.mem_of_find?_eq_some entry) with known | none
  · exact List.mem_map_of_mem known
  · cases none

/-! ## Results -/

/-- Results do not depend on the order of the members of objects. A plan that calls only functions
that are always there selects from two documents that differ in this order nodes at the same paths,
each path as often, and values at the same path differ again only in the order of members. -/
theorem member_order_irrelevant {settings : CompilerSettings} {repository : Repository}
    {source : String} {plan : Plan}
    (compiled : (compile settings repository source).value = some plan)
    (builtin : ∀ name function, repository.lookup name = some function →
      function ∈ Builtin.all.map Prod.snd)
    (limits : EvaluatorSettings) {document document' : Value} (unique : document.UniqueNames)
    (reordered : document.Reordered document') :
    ((plan.evaluate limits document).value.map Located.location).Perm
        ((plan.evaluate limits document').value.map Located.location) ∧
      ∀ node ∈ (plan.evaluate limits document).value,
        ∀ node' ∈ (plan.evaluate limits document').value,
          node.location = node'.location → node.value.Reordered node'.value := by
  have twin : document.Twin document' := ⟨unique, reordered⟩
  have side : SideBySide repository document document' :=
    ⟨fun found => builtin_orderBlind (builtin _ _ found), twin⟩
  have start : Rearranged Located.Twin [(⟨.root, document⟩ : Node)] [⟨.root, document'⟩] :=
    .single ⟨rfl, twin⟩
  have twins := select_twin limits.maxDepth
    (filterTests_agree limits.maxDepth side plan.segments (compiled_wellTyped compiled)) start
  constructor
  · exact (twins.map fun _ _ twin => twin.location).perm
  · intro node member node' member' same
    obtain ⟨other, listed, related⟩ := twins.exists_left member'
    have located := locate_selected limits.maxDepth _ unique node member
    have located' := locate_selected limits.maxDepth _ unique other listed
    rw [same, ← related.location, located', Option.some.injEq] at located
    exact located ▸ related.value.reordered

/-- Members in two orders, at two depths, and a filter that compares objects and counts members. -/
theorem member_order_irrelevant_nested :
    let inner : Value := .object [("x", .null), ("y", .bool true)]
    let inner' : Value := .object [("y", .bool true), ("x", .null)]
    let document : Value := .object [("a", .array [inner]), ("b", inner)]
    let document' : Value := .object [("b", inner'), ("a", .array [inner'])]
    ∃ plan, (compile {} .builtins "$..[?@ == $.b || count(@.*) == 1]").value = some plan ∧
      document.UniqueNames ∧ document.Reordered document' ∧
      ∀ limits : EvaluatorSettings,
        ((plan.evaluate limits document).value.map Located.location).Perm
            ((plan.evaluate limits document').value.map Located.location) ∧
          ∀ node ∈ (plan.evaluate limits document).value,
            ∀ node' ∈ (plan.evaluate limits document').value,
              node.location = node'.location → node.value.Reordered node'.value := by
  intro inner inner' document document'
  have compiles : (compile {} .builtins "$..[?@ == $.b || count(@.*) == 1]").value.isSome := by
    decide +kernel
  obtain ⟨plan, compiled⟩ := Option.isSome_iff_exists.mp compiles
  have uniqueInner : inner.UniqueNames := ⟨by decide, trivial, trivial, trivial⟩
  have unique : document.UniqueNames := ⟨by decide, ⟨uniqueInner, trivial⟩, uniqueInner, trivial⟩
  have reorderedInner : inner.Reordered inner' :=
    ⟨[("x", .null), ("y", .bool true)], ⟨⟨rfl, trivial⟩, ⟨rfl, rfl⟩, trivial⟩, .swap ..⟩
  have reordered : document.Reordered document' :=
    ⟨[("a", .array [inner']), ("b", inner')],
      ⟨⟨rfl, reorderedInner, trivial⟩, ⟨rfl, reorderedInner⟩, trivial⟩, .swap ..⟩
  exact ⟨plan, compiled, unique, reordered, fun limits =>
    member_order_irrelevant compiled (fun _ _ => lookup_builtins) limits unique reordered⟩

end JsonPath
