import JsonPath.Registry
import JsonPath.Proofs.Typing

/-!
# What a registry holds in the course of time

A registry answers with what was written last under a name. Views and plans go on answering with
what was written when they were made, although a registry writes into the cell of a view once the
views of this cell are given up.

The invariant is `Registry.Counted`: the number of holders beside a cell is the number of those who
do hold it. So a cell that is written in place is held by nobody else.

Results:
1. `Repository.lookup_insert`, `Repository.lookup_erase`: what a write changes.
2. `Counted.in_place`, `Counted.copied`: the two ways to write, neither of which shows in a view.
   `Counted.snapshot`, `Counted.drop`: the counts as views come and go.
3. `Session.step_spec`, `step_views`, `step_plans`: what one operation does.
4. `Session.lookup_run`, `view_run`, `plan_run`: what operations one after the other do.
5. `history_faithful`: what a history of operations leaves of a registry, its views and its plans.
-/

namespace JsonPath

/-! ## Repositories -/

namespace Repository

theorem find?_insertEntry (name : String) (f : FunctionExtension) (other : String)
    (es : List (String × FunctionExtension)) :
    (insertEntry name f es).find? (·.1 == other) =
      if name = other then some (name, f) else es.find? (·.1 == other) := by
  induction es with
  | nil => by_cases same : name = other <;> simp [insertEntry, same]
  | cons e es ih =>
    rw [insertEntry]
    split
    · by_cases same : name = other <;> simp [same]
    · split
      · next is =>
        by_cases same : name = other
        · simp [same]
        · have passed : e.1 ≠ other := fun there => same (is.trans there)
          simp [same, passed]
      · next isNot =>
        by_cases there : e.1 = other
        · have same : name ≠ other := fun same => isNot (same.trans there.symm)
          simp [there, same]
        · simp [there, ih]

variable (r : Repository) (name : String)

theorem lookup_insert (f : FunctionExtension) (other : String) :
    (r.insert name f).lookup other = if name = other then some f else r.lookup other := by
  rw [lookup, insert, find?_insertEntry]
  split <;> rfl

theorem lookup_erase (other : String) :
    (r.erase name).lookup other = if name = other then none else r.lookup other := by
  rw [lookup, erase, List.find?_filter]
  split
  · next same =>
    subst same
    simp
  · next same =>
    rw [lookup]
    congr 2
    funext e
    by_cases there : e.1 = other
    · simp [there, Ne.symm same]
    · simp [there]

theorem mem_names : name ∈ r.names ↔ (r.lookup name).isSome := by
  simp [names, lookup]

theorem names_ascending : r.names.Pairwise (· < ·) :=
  List.pairwise_map.mpr r.ascending

end Repository

/-! ## Cells -/

namespace Registry

/-- Every cell counts its holders: the views of it that are not given up, and the registry. -/
def Counted (g : Registry) (views : List (Option View)) : Prop :=
  ∀ cell, g.holders cell = views.count (some ⟨cell⟩) + if g.current = cell then 1 else 0

variable {g : Registry} {views : List (Option View)}

theorem holders_recount (change : Nat → Nat) {cell : Nat} (inRange : cell < g.cells.length)
    (current other : Nat) : (⟨recount change cell g.cells, current⟩ : Registry).holders other =
      if cell = other then change (g.holders other) else g.holders other := by
  simp only [holders, recount, List.getElem?_modify]
  split
  · next same => simp [← same, inRange]
  · simp

theorem content_recount (change : Nat → Nat) (current cell other : Nat) :
    (⟨recount change cell g.cells, current⟩ : Registry).content other = g.content other := by
  simp only [content, recount, List.getElem?_modify]
  split
  · cases g.cells[other]? <;> simp
  · simp

theorem holders_append (cells : List Cell) (c : Cell) (current cell : Nat) :
    (⟨cells ++ [c], current⟩ : Registry).holders cell =
      if cell = cells.length then c.holders
      else (⟨cells, current⟩ : Registry).holders cell := by
  simp only [holders, List.getElem?_append]
  grind

theorem content_append (cells : List Cell) (c : Cell) (current cell : Nat) :
    (⟨cells ++ [c], current⟩ : Registry).content cell =
      if cell = cells.length then c.content
      else (⟨cells, current⟩ : Registry).content cell := by
  simp only [content, List.getElem?_append]
  grind

theorem lt_of_held {cell : Nat} (held : 0 < g.holders cell) : cell < g.cells.length := by
  refine Nat.lt_of_not_le fun beyond => ?_
  simp [holders, List.getElem?_eq_none beyond] at held

theorem Counted.ofRepository (r : Repository) : (ofRepository r).Counted [] := by
  intro cell
  cases cell <;> simp [Registry.ofRepository, holders]

theorem Counted.current_lt (counted : g.Counted views) : g.current < g.cells.length :=
  lt_of_held (by simp [counted g.current])

theorem Counted.view_lt (counted : g.Counted views) {v : View} (live : some v ∈ views) :
    v.cell < g.cells.length := by
  have shared : 0 < views.count (some ⟨v.cell⟩) := List.count_pos_iff.mpr live
  exact lt_of_held (by rw [counted v.cell]; omega)

/-- The second registry is the first one after a write: it holds what is written, and no view shows
another repository than before. -/
structure Written (views : List (Option View)) (g : Registry) (r : Repository) (g' : Registry) :
    Prop where
  counted : g'.Counted views
  repository : g'.repository = r
  frozen : ∀ v, some v ∈ views → g'.viewed v = g.viewed v

/-- A cell whose one holder is the registry is in no view. -/
theorem Counted.in_place (counted : g.Counted views) (alone : g.holders g.current = 1)
    (r : Repository) :
    Written views g r { g with cells := g.cells.modify g.current fun c => { c with content := r } }
    where
  counted := fun cell => by
    rw [← counted cell]
    simp only [holders, List.getElem?_modify]
    split <;> cases g.cells[cell]? <;> rfl
  repository := by simp [repository, content, counted.current_lt]
  frozen := fun v live => by
    have unshared : views.count (some ⟨g.current⟩) = 0 := by
      have all := counted g.current
      simp only [alone, if_true] at all
      omega
    have other : g.current ≠ v.cell := by
      rintro same
      rw [same] at unshared
      exact List.count_eq_zero.mp unshared live
    simp [viewed, content, other]

/-- The views keep the cell that they have, with one holder less, and the new one has one. -/
theorem Counted.copied (counted : g.Counted views) (r : Repository) :
    Written views g r ⟨recount (· - 1) g.current g.cells ++ [⟨r, 1⟩], g.cells.length⟩ where
  counted := fun cell => by
    have here := counted cell
    have inRange := counted.current_lt
    have beyond : g.holders g.cells.length = 0 :=
      Nat.eq_zero_of_not_pos fun held => Nat.lt_irrefl _ (lt_of_held held)
    rw [holders_append, holders_recount _ inRange]
    simp only [recount, List.length_modify]
    grind
  repository := by simp [repository, content_append, recount]
  frozen := fun v live => by
    have old : v.cell ≠ g.cells.length := Nat.ne_of_lt (counted.view_lt live)
    simp only [viewed, content_append, content_recount]
    simp [recount, old]

theorem Counted.replace (counted : g.Counted views) (r : Repository) :
    Written views g r (g.replace r) := by
  rw [Registry.replace]
  split
  · next alone => exact counted.in_place alone r
  · exact counted.copied r

theorem Counted.snapshot (counted : g.Counted views) :
    g.snapshot.1.Counted (views ++ [some g.snapshot.2]) := by
  intro cell
  have here := counted cell
  simp only [Registry.snapshot, holders_recount _ counted.current_lt, List.count_append,
    List.count_singleton]
  grind

theorem Counted.drop (counted : g.Counted views) {k : Nat} {v : View}
    (live : views[k]? = some (some v)) : (g.drop v).Counted (views.set k none) := by
  obtain ⟨given⟩ := v
  obtain ⟨inList, shown⟩ := List.getElem?_eq_some_iff.mp live
  have held : some ⟨given⟩ ∈ views := shown ▸ List.getElem_mem inList
  have shared : 0 < views.count (some ⟨given⟩) := List.count_pos_iff.mpr held
  intro cell
  have here := counted cell
  have left : (g.drop ⟨given⟩).holders cell =
      if given = cell then g.holders cell - 1 else g.holders cell :=
    holders_recount (· - 1) (counted.view_lt held) g.current cell
  change (g.drop ⟨given⟩).holders cell = _ + if g.current = cell then 1 else 0
  rw [left, here, List.count_set inList, shown]
  by_cases same : given = cell
  · subst same
    simp only [beq_self_eq_true, if_true, Option.none_beq_some, Bool.false_eq_true, if_false]
    omega
  · simp [same]

theorem content_snapshot (cell : Nat) : g.snapshot.1.content cell = g.content cell :=
  content_recount _ _ _ _

theorem content_drop (v : View) (cell : Nat) : (g.drop v).content cell = g.content cell :=
  content_recount _ _ _ _

theorem Counted.register (counted : g.Counted views) (name : String) (f : FunctionExtension) :
    (g.register name f).value.1.Counted views ∧
      (∀ other, (g.register name f).value.1.lookup other =
        if name = other then some f else g.lookup other) ∧
      ∀ v, some v ∈ views → (g.register name f).value.1.viewed v = g.viewed v := by
  have written : Written views g (g.repository.insert name f) (g.register name f).value.1 :=
    counted.replace _
  refine ⟨written.counted, fun other => ?_, written.frozen⟩
  rw [lookup, written.repository, Repository.lookup_insert]
  rfl

theorem unregister_value (name : String) : (g.unregister name).value =
    if g.contains name then (g.replace (g.repository.erase name), g.lookup name)
    else (g, none) := by
  rw [unregister]
  split
  · next there =>
    obtain ⟨f, found⟩ := Option.isSome_iff_exists.mp there
    have held : g.repository.lookup name = some f := found
    simp [Repository.unregister, held, lookup]
  · rfl

theorem lookup_of_not_contains {name : String} (absent : ¬g.contains name) :
    g.lookup name = none := by
  rwa [contains, Repository.contains, Option.not_isSome_iff_eq_none] at absent

/-- Also where there is nothing to take away and nothing is written. -/
theorem Counted.unregister (counted : g.Counted views) (name : String) :
    (g.unregister name).value.1.Counted views ∧ (g.unregister name).value.2 = g.lookup name ∧
      (∀ other, (g.unregister name).value.1.lookup other =
        if name = other then none else g.lookup other) ∧
      ∀ v, some v ∈ views → (g.unregister name).value.1.viewed v = g.viewed v := by
  rw [unregister_value]
  split
  · have written := counted.replace (g.repository.erase name)
    refine ⟨written.counted, rfl, fun other => ?_, written.frozen⟩
    rw [lookup, written.repository, Repository.lookup_erase]
    rfl
  · next absent =>
    have unheld := lookup_of_not_contains absent
    refine ⟨counted, unheld.symm, fun other => ?_, fun _ _ => rfl⟩
    split
    · next same => rw [← same, unheld]
    · rfl

theorem compile_outcome (settings : CompilerSettings) (source : String) :
    (g.compile settings source).2 = JsonPath.compile settings g.repository source :=
  congrArg (JsonPath.compile settings · source) (content_snapshot g.current)

/-- The view that a text is compiled with is given up, and nothing is left of it. -/
theorem Counted.compile (counted : g.Counted views) (settings : CompilerSettings)
    (source : String) : (g.compile settings source).1.Counted views := by
  have last : (views ++ [some g.snapshot.2])[views.length]? = some (some g.snapshot.2) := by simp
  have without := counted.snapshot.drop last
  intro cell
  have counts := without cell
  rwa [List.set_append_right _ _ (Nat.le_refl _), Nat.sub_self, List.set_cons_zero,
    List.count_append, List.count_singleton] at counts

end Registry

/-! ## Histories -/

/-- What is done with a registry. -/
inductive Operation where
  | register (name : String) (f : FunctionExtension)
  | unregister (name : String)
  | snapshot
  /-- Gives up the view with this number, if there is one that is not given up. -/
  | drop (number : Nat)
  | compile (settings : CompilerSettings) (source : String)

/-- What an operation leaves under a name, if it is one on this name. -/
def Operation.write? (name : String) : Operation → Option (Option FunctionExtension)
  | .register other f => if other = name then some (some f) else none
  | .unregister other => if other = name then some none else none
  | _ => none

/-- A registry with the views that were taken of it and the outcomes of compilation, both numbered
in the order in which they came. A view that is given up leaves its number empty. -/
structure Session where
  registry : Registry
  views : List (Option View)
  plans : List (Option Plan)

namespace Session

/-- A registry that nothing was done with. -/
def start (first : Repository) : Session := ⟨.ofRepository first, [], []⟩

/-- What becomes of a session with an operation. -/
def step (s : Session) : Operation → Session
  | .register name f => { s with registry := (s.registry.register name f).value.1 }
  | .unregister name => { s with registry := (s.registry.unregister name).value.1 }
  | .snapshot =>
    let taken := s.registry.snapshot
    { s with registry := taken.1, views := s.views ++ [some taken.2] }
  | .drop number =>
    match s.views[number]? with
    | some (some v) =>
      { s with registry := s.registry.drop v, views := s.views.set number none }
    | _ => s
  | .compile settings source =>
    let compiled := s.registry.compile settings source
    { s with registry := compiled.1, plans := s.plans ++ [compiled.2.value] }

/-- What becomes of a session with operations one after the other. -/
def run (s : Session) (history : List Operation) : Session := history.foldl step s

/-- The session of a registry that starts with `first`. -/
def after (first : Repository) (history : List Operation) : Session := (start first).run history

/-- The views that are not given up are those that are counted. -/
def Sound (s : Session) : Prop := s.registry.Counted s.views

variable {s : Session}

theorem sound_start (first : Repository) : (start first).Sound := .ofRepository first

/-- What one operation does. It keeps the counts right, changes only the name that it is about, and
leaves what the views show. -/
theorem step_spec (sound : s.Sound) (operation : Operation) : (s.step operation).Sound ∧
    (∀ name, (s.step operation).registry.lookup name =
      (operation.write? name).getD (s.registry.lookup name)) ∧
    ∀ v, some v ∈ s.views → (s.step operation).registry.viewed v = s.registry.viewed v := by
  cases operation with
  | register name f =>
    obtain ⟨counted, written, frozen⟩ := Registry.Counted.register sound name f
    refine ⟨counted, fun other => (written other).trans ?_, frozen⟩
    rw [Operation.write?]
    split <;> rfl
  | unregister name =>
    obtain ⟨counted, -, written, frozen⟩ := Registry.Counted.unregister sound name
    refine ⟨counted, fun other => (written other).trans ?_, frozen⟩
    rw [Operation.write?]
    split <;> rfl
  | snapshot =>
    have same := Registry.content_snapshot (g := s.registry)
    exact ⟨Registry.Counted.snapshot sound,
      fun other => congrArg (Repository.lookup · other) (same _), fun v _ => same _⟩
  | drop number =>
    rw [step]
    split
    · next v live =>
      have same := Registry.content_drop (g := s.registry) v
      exact ⟨Registry.Counted.drop sound live,
        fun other => congrArg (Repository.lookup · other) (same _), fun v _ => same _⟩
    · exact ⟨sound, fun _ => rfl, fun _ _ => rfl⟩
  | compile settings source =>
    have same (cell : Nat) :
        (s.registry.compile settings source).1.content cell = s.registry.content cell :=
      (Registry.content_drop _ cell).trans (Registry.content_snapshot cell)
    exact ⟨Registry.Counted.compile sound settings source,
      fun other => congrArg (Repository.lookup · other) (same _), fun v _ => same _⟩

/-- A view stays under its number as long as it is not given up. -/
theorem step_views {operation : Operation} {number : Nat} {v : View}
    (live : s.views[number]? = some (some v)) (kept : operation ≠ .drop number) :
    (s.step operation).views[number]? = some (some v) := by
  cases operation with
  | snapshot =>
    exact (List.getElem?_append_left (List.getElem?_eq_some_iff.mp live).1).trans live
  | drop other =>
    have different : other ≠ number := fun same => kept (congrArg _ same)
    rw [step]
    split
    · rwa [List.getElem?_set_ne different]
    · exact live
  | register | unregister | compile => exact live

theorem step_plans {number : Nat} {compiled : Option Plan}
    (made : s.plans[number]? = some compiled) (operation : Operation) :
    (s.step operation).plans[number]? = some compiled := by
  cases operation with
  | compile =>
    exact (List.getElem?_append_left (List.getElem?_eq_some_iff.mp made).1).trans made
  | drop => rw [step]; split <;> exact made
  | register | unregister | snapshot => exact made

theorem sound_run (sound : s.Sound) (history : List Operation) : (s.run history).Sound := by
  induction history generalizing s with
  | nil => exact sound
  | cons operation later ih => exact ih (step_spec sound operation).1

/-- The last operation on a name decides what there is under it. -/
theorem lookup_run (sound : s.Sound) (history : List Operation) (name : String) :
    (s.run history).registry.lookup name =
      (history.reverse.findSome? (·.write? name)).getD (s.registry.lookup name) := by
  induction history generalizing s with
  | nil => rfl
  | cons operation later ih =>
    obtain ⟨soundNext, written, -⟩ := step_spec sound operation
    have rest := ih soundNext
    rw [written] at rest
    rw [List.reverse_cons, List.findSome?_append, List.findSome?_singleton]
    refine rest.trans ?_
    cases later.reverse.findSome? (·.write? name) <;> rfl

/-- A view shows the same repository whatever is done with the registry and with other views. -/
theorem view_run (sound : s.Sound) {history : List Operation} {number : Nat} {v : View}
    (live : s.views[number]? = some (some v)) (kept : .drop number ∉ history) :
    (s.run history).views[number]? = some (some v) ∧
      (s.run history).registry.viewed v = s.registry.viewed v := by
  induction history generalizing s with
  | nil => exact ⟨live, rfl⟩
  | cons operation later ih =>
    obtain ⟨soundNext, -, frozen⟩ := step_spec sound operation
    have keptNow : operation ≠ .drop number := (List.ne_of_not_mem_cons kept).symm
    obtain ⟨stillLive, unchanged⟩ :=
      ih soundNext (step_views live keptNow) (List.not_mem_of_not_mem_cons kept)
    exact ⟨stillLive, unchanged.trans (frozen v (List.mem_of_getElem? live))⟩

theorem plan_run {number : Nat} {compiled : Option Plan}
    (made : s.plans[number]? = some compiled) (history : List Operation) :
    (s.run history).plans[number]? = some compiled := by
  induction history generalizing s with
  | nil => exact made
  | cons operation later ih => exact ih (step_plans made operation)

/-- What comes after a first part and one more operation. -/
theorem after_append_cons (first : Repository) (before later : List Operation)
    (operation : Operation) : after first (before ++ operation :: later) =
      ((after first before).step operation).run later :=
  List.foldl_append

/-- What a history of operations leaves under a name, if it starts with `first`. -/
def heldAfter (first : Repository) (history : List Operation) (name : String) :
    Option FunctionExtension :=
  (history.reverse.findSome? (·.write? name)).getD (first.lookup name)

/-- What is expected of a registry that starts with `first`, after a history of operations. -/
structure Faithful (first : Repository) (history : List Operation) : Prop where
  /-- What is under a name is what the last operation on it wrote. -/
  lookup (name : String) :
    (after first history).registry.lookup name = heldAfter first history name
  contains (name : String) :
    (after first history).registry.contains name = (heldAfter first history name).isSome
  /-- A function takes the place of the one under its name, which is given back. -/
  register (name : String) (f : FunctionExtension) :
    let done := ((after first history).registry.register name f).value
    done.2 = heldAfter first history name ∧
      ∀ other, done.1.lookup other = if name = other then some f else heldAfter first history other
  unregister (name : String) :
    let done := ((after first history).registry.unregister name).value
    done.2 = heldAfter first history name ∧
      ∀ other, done.1.lookup other = if name = other then none else heldAfter first history other
  /-- The names are those that something is under, each of them once. -/
  names : (after first history).registry.names.Pairwise (· < ·) ∧
    ∀ name, name ∈ (after first history).registry.names ↔ (heldAfter first history name).isSome
  size : (after first history).registry.size = (after first history).registry.names.length
  /-- A view that is not given up shows what was registered when it was taken. -/
  views (before later : List Operation) : history = before ++ .snapshot :: later →
    let number := (after first before).views.length
    .drop number ∉ later →
    ∃ v, (after first history).views[number]? = some (some v) ∧
      (after first history).registry.viewed v = (after first before).registry.repository ∧
      ∀ name, ((after first history).registry.viewed v).lookup name = heldAfter first before name
  /-- A plan is the one for what was registered when it was made, and calls the functions that were
  registered then. -/
  plans (before later : List Operation) (settings : CompilerSettings) (source : String) :
    history = before ++ .compile settings source :: later →
    let number := (after first before).plans.length
    ∃ compiled, (after first history).plans[number]? = some compiled ∧
      compiled = (compile settings (after first before).registry.repository source).value ∧
      ∀ plan, compiled = some plan → ∀ limits document name function arguments,
        .called name function arguments ∈ (plan.evaluate limits document).notes →
          heldAfter first before name = some function

end Session

/-- The last write wins, and what was put aside is frozen. This holds of every registry, whichever
functions it starts with and whatever is done with it and with its views. -/
theorem history_faithful (first : Repository) (history : List Operation) :
    Session.Faithful first history := by
  have soundAfter (h : List Operation) : (Session.after first h).Sound :=
    Session.sound_run (Session.sound_start first) h
  have held (h : List Operation) (name : String) :
      (Session.after first h).registry.lookup name = Session.heldAfter first h name :=
    Session.lookup_run (Session.sound_start first) h name
  constructor
  case lookup => exact held history
  case contains => exact fun name => congrArg Option.isSome (held history name)
  case register =>
    intro name f
    have written := (Registry.Counted.register (soundAfter history) name f).2.1
    exact ⟨held history name, fun other => by rw [written, held]⟩
  case unregister =>
    intro name
    obtain ⟨-, returned, written, -⟩ := Registry.Counted.unregister (soundAfter history) name
    exact ⟨returned.trans (held history name), fun other => by rw [written, held]⟩
  case names =>
    refine ⟨Repository.names_ascending _, fun name => ?_⟩
    rw [← held]
    exact Repository.mem_names _ name
  case size => exact (List.length_map _).symm
  case views =>
    rintro before later rfl number kept
    have taken : ((Session.after first before).step .snapshot).views[number]? =
        some (some ⟨(Session.after first before).registry.current⟩) := by
      simp [Session.step, Registry.snapshot, number]
    have soundTaken := (Session.step_spec (soundAfter before) .snapshot).1
    obtain ⟨live, unchanged⟩ := Session.view_run soundTaken taken kept
    rw [← Session.after_append_cons] at live unchanged
    have shown := unchanged.trans (Registry.content_snapshot _)
    exact ⟨_, live, shown, fun name => by rw [shown]; exact held before name⟩
  case plans =>
    rintro before later settings source rfl number
    let compiled := (compile settings (Session.after first before).registry.repository source).value
    have made : ((Session.after first before).step (.compile settings source)).plans[number]? =
        some compiled := by
      simp [Session.step, Registry.compile_outcome, number, compiled]
    refine ⟨compiled, ?_, rfl, fun plan found limits document name function arguments called => ?_⟩
    · rw [Session.after_append_cons]
      exact Session.plan_run made later
    · have bound := run_sound (compiled_wellTyped found) limits document _ called
      exact (held before name).symm.trans bound.1

/-- A function is replaced while a view and a plan have the one that was there before. The second
view is given up before the new function is registered, so that this is written in place. -/
theorem history_faithful_replaced :
    let later := [.unregister "length", .snapshot, .drop 1, .register "length" misanswering]
    let history := .compile {} "$[?length(@.a) == 1]" :: .snapshot :: later
    let s := Session.after .builtins history
    s.registry.lookup "length" = some misanswering ∧
      s.registry.cells.length = 2 ∧
      (∃ v, s.views[0]? = some (some v) ∧
        (s.registry.viewed v).lookup "length" = Repository.builtins.lookup "length") ∧
      ∃ plan, s.plans[0]? = some (some plan) ∧ ∀ limits document function arguments,
        .called "length" function arguments ∈ (plan.evaluate limits document).notes →
          Repository.builtins.lookup "length" = some function := by
  intro later history s
  have faithful : Session.Faithful .builtins history := history_faithful .builtins history
  obtain ⟨v, live, -, shown⟩ := faithful.views [.compile {} "$[?length(@.a) == 1]"] later rfl
    (by simp [later, Session.after, Session.run, Session.step, Session.start])
  obtain ⟨compiled, made, outcome, calls⟩ :=
    faithful.plans [] (.snapshot :: later) {} "$[?length(@.a) == 1]" rfl
  have present : compiled.isSome := by
    rw [outcome]
    decide +kernel
  obtain ⟨plan, rfl⟩ := Option.isSome_iff_exists.mp present
  refine ⟨faithful.lookup "length", ?_, ⟨v, live, shown "length"⟩, plan, made, ?_⟩
  · decide +kernel
  · exact fun limits document => calls plan rfl limits document "length"

end JsonPath
