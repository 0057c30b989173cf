import JsonPath.Regex.Cache
import Mathlib.Data.List.Induction
import Mathlib.Data.List.Nodup

/-!
# Calls that share a cache

A call for a pattern asks the store of those that were made ready. If that has nothing, the call
makes the pattern ready and puts it there. Asking and putting are two accesses, and between them
other calls go on: they may put the same pattern there, or make the store forget it.

What is assumed of a store is `RegexStore.IsFaithful`: if it answers, it answers with what was put
last under the key. What it forgets, and when, is left open. It follows that `Builtin.regexTest`,
which makes its patterns ready without a store, answers as it would with one.

The invariant is `RegexStore.Reached`: by the accesses that led to a store, nothing was put under a
key but what comes of compiling it.

Results:
1. `Reached.get`, `Reached.put`, `Reached.answer`: the invariant, and what it says of an answer.
2. `RegexCalls.Fresh.step`, `RegexCalls.Fresh.run`: calls that go on at the same time.
3. `RegexCalls.step_alone`: a call whose two accesses follow each other is `RegexStore.compile`.
4. `RegexCache.store_faithful`, `RegexCache.entries_compileAll`: the store that is used is faithful,
   and what it holds are the keys that were used last.
5. `cache_transparent`: no call and no sequence of calls shows that there is a store.
-/

namespace JsonPath

/-! ## Lists without repetitions -/

section

variable {α : Type} [DecidableEq α]

theorem eraseDups_filter (p : α → Bool) (l : List α) :
    (l.filter p).eraseDups = l.eraseDups.filter p := by
  match l with
  | [] => rfl
  | a :: as =>
    have others := eraseDups_filter p (as.filter (!· == a))
    rw [List.filter_filter] at others
    rw [List.eraseDups_cons, List.filter_cons, List.filter_cons, ← others]
    split
    · rw [List.eraseDups_cons, List.filter_filter]
      simp only [Bool.and_comm]
    · next out =>
      congr 1
      refine List.filter_congr fun b _ => ?_
      by_cases same : b = a <;> simp_all
termination_by l.length
decreasing_by exact Nat.lt_succ_of_le (List.length_filter_le _ as)

theorem nodup_eraseDups (l : List α) : l.eraseDups.Nodup := by
  match l with
  | [] => exact .nil
  | a :: as =>
    rw [List.eraseDups_cons]
    exact List.nodup_cons.mpr ⟨by simp, nodup_eraseDups _⟩
termination_by l.length
decreasing_by exact Nat.lt_succ_of_le (List.length_filter_le _ as)

theorem filter_ne_eq_self {a : α} {l : List α} (absent : a ∉ l) : l.filter (· != a) = l :=
  List.filter_eq_self.mpr fun _ member => bne_iff_ne.mpr fun same => absent (same ▸ member)

theorem eraseDups_of_nodup {l : List α} (distinct : l.Nodup) : l.eraseDups = l := by
  induction l with
  | nil => rfl
  | cons a l ih =>
    obtain ⟨new, distinct⟩ := List.nodup_cons.mp distinct
    have others : l.filter (!· == a) = l := filter_ne_eq_self new
    rw [List.eraseDups_cons, others, ih distinct]

/-- Without one of its elements, the head of a list is found in the head that is longer by one. -/
theorem take_filter_take (a : α) (n : Nat) {l : List α} (distinct : l.Nodup) :
    ((l.take (n + 1)).filter (· != a)).take n = (l.filter (· != a)).take n := by
  induction l generalizing n with
  | nil => rfl
  | cons b l ih =>
    obtain ⟨new, distinct⟩ := List.nodup_cons.mp distinct
    rw [List.take_succ_cons, List.filter_cons, List.filter_cons]
    by_cases same : b = a
    · subst same
      have beyond : b ∉ l.take n := fun member => new (List.mem_of_mem_take member)
      simp [filter_ne_eq_self new, filter_ne_eq_self beyond, List.take_take]
    · cases n with
      | zero => rfl
      | succ n => simpa [same] using ih n distinct

theorem take_cons_filter_take (a : α) (n : Nat) {l : List α} (distinct : l.Nodup) :
    (a :: (l.take n).filter (· != a)).take n = (a :: l.filter (· != a)).take n := by
  cases n with
  | zero => rfl
  | succ n => exact congrArg (a :: ·) (take_filter_take a n distinct)

end

/-! ## Stores -/

variable {σ : Type}

namespace RegexStore

/-- An access to a store. -/
inductive Access where
  | get (key : RegexKey)
  | put (key : RegexKey) (result : Option CompiledRegex)

/-- What an access puts under a key. -/
def Access.puts (key : RegexKey) : Access → Option (Option CompiledRegex)
  | .get _ => none
  | .put other result => if other = key then some result else none

/-- What was put last under a key. -/
def lastPut (key : RegexKey) (history : List Access) : Option (Option CompiledRegex) :=
  history.reverse.findSome? (Access.puts key)

theorem lastPut_concat (key : RegexKey) (history : List Access) (a : Access) :
    lastPut key (history ++ [a]) = (a.puts key).or (lastPut key history) := by
  rw [lastPut, List.reverse_append, List.reverse_singleton, List.singleton_append,
    List.findSome?_cons]
  cases a.puts key <;> rfl

theorem mem_of_lastPut {key : RegexKey} {history : List Access} {result : Option CompiledRegex}
    (last : lastPut key history = some result) : .put key result ∈ history := by
  obtain ⟨a, member, puts⟩ := List.exists_of_findSome?_eq_some last
  cases a with
  | get other => cases puts
  | put other _ =>
    rw [Access.puts, Option.ite_none_right_eq_some] at puts
    obtain ⟨rfl, same⟩ := puts
    cases same
    exact List.mem_reverse.mp member

variable (store : RegexStore σ)

/-- What is kept after an access. -/
def access (kept : σ) : Access → σ
  | .get key => (store.get kept key).2
  | .put key result => store.put kept key result

/-- What is kept after accesses to the empty store. -/
def after (history : List Access) : σ := history.foldl store.access store.empty

/-- If the store answers, it answers with what was put last under the key. -/
def IsFaithful : Prop :=
  ∀ history key result, (store.get (store.after history) key).1 = some result →
    lastPut key history = some result

/-- What is kept came about by accesses that put nothing under a key but what comes of it. -/
def Reached (kept : σ) : Prop :=
  ∃ history, store.after history = kept ∧
    ∀ key result, .put key result ∈ history → result = key.compile

variable {store} {kept : σ}

theorem Reached.empty : store.Reached store.empty := ⟨[], rfl, nofun⟩

theorem Reached.access (reached : store.Reached kept) {a : Access}
    (fresh : ∀ key result, a = .put key result → result = key.compile) :
    store.Reached (store.access kept a) := by
  obtain ⟨history, rfl, earlier⟩ := reached
  refine ⟨history ++ [a], by rw [after, List.foldl_concat]; rfl, fun key result member => ?_⟩
  rcases List.mem_append.mp member with before | now
  · exact earlier key result before
  · exact fresh key result (List.mem_singleton.mp now).symm

theorem Reached.get (reached : store.Reached kept) (key : RegexKey) :
    store.Reached (store.get kept key).2 :=
  reached.access (a := .get key) nofun

theorem Reached.put (reached : store.Reached kept) (key : RegexKey) :
    store.Reached (store.put kept key key.compile) := by
  refine reached.access (a := .put key key.compile) fun _ _ same => ?_
  cases same
  rfl

theorem Reached.answer (faithful : store.IsFaithful) (reached : store.Reached kept)
    {key : RegexKey} {result : Option CompiledRegex}
    (answer : (store.get kept key).1 = some result) : result = key.compile := by
  obtain ⟨history, rfl, fresh⟩ := reached
  exact fresh key result (mem_of_lastPut (faithful history key result answer))

end RegexStore

/-! ## Calls at the same time -/

/-- A call for a key that has begun, and what it has returned. It has returned nothing as long as it
makes its pattern ready. -/
structure RegexCall where
  key : RegexKey
  returned : Option (Option CompiledRegex)

/-- What is kept, and the calls that share it, in the order in which they began. -/
structure RegexCalls (σ : Type) where
  kept : σ
  begun : List RegexCall

namespace RegexCalls

/-- What a call does without being interrupted by others. -/
inductive Step where
  /-- A call for a key begins and asks the store. -/
  | ask (key : RegexKey)
  /-- The call with this number has made its pattern ready and puts it into the store. -/
  | finish (number : Nat)

/-- The key of the call that begins with a step. -/
def Step.asked? : Step → Option RegexKey
  | .ask key => some key
  | .finish _ => none

variable (store : RegexStore σ)

/-- The calls after a step. -/
def step (calls : RegexCalls σ) : Step → RegexCalls σ
  | .ask key =>
    let asked := store.get calls.kept key
    ⟨asked.2, calls.begun ++ [⟨key, asked.1⟩]⟩
  | .finish number =>
    match calls.begun[number]? with
    | some ⟨key, none⟩ =>
      let result := key.compile
      ⟨store.put calls.kept key result, calls.begun.set number ⟨key, some result⟩⟩
    | _ => calls

/-- The calls after steps from the empty store. -/
def run (steps : List Step) : RegexCalls σ := steps.foldl (step store) ⟨store.empty, []⟩

/-- A call that is not interrupted is a call made by itself. -/
theorem step_alone (calls : RegexCalls σ) (key : RegexKey) :
    (calls.step store (.ask key)).step store (.finish calls.begun.length) =
      ⟨(store.compile calls.kept key).2,
        calls.begun ++ [⟨key, some (store.compile calls.kept key).1⟩]⟩ := by
  rw [RegexStore.compile]
  rcases asked : store.get calls.kept key with ⟨_ | result, kept⟩ <;> simp [step, asked]

/-- What is kept is reached, and what calls have returned comes of their keys. -/
structure Fresh (calls : RegexCalls σ) : Prop where
  kept : store.Reached calls.kept
  returned : ∀ call ∈ calls.begun, ∀ result, call.returned = some result →
    result = call.key.compile

variable {store} {calls : RegexCalls σ}

theorem Fresh.start : Fresh store ⟨store.empty, []⟩ := ⟨.empty, nofun⟩

theorem Fresh.step (faithful : store.IsFaithful) (fresh : Fresh store calls) (s : Step) :
    Fresh store (calls.step store s) := by
  cases s with
  | ask key =>
    refine ⟨fresh.kept.get key, fun call member result returned => ?_⟩
    rcases List.mem_append.mp member with before | now
    · exact fresh.returned call before result returned
    · obtain rfl := List.mem_singleton.mp now
      exact fresh.kept.answer faithful returned
  | finish number =>
    rw [RegexCalls.step]
    split
    · next key _ =>
      refine ⟨fresh.kept.put key, fun call member result returned => ?_⟩
      rcases List.mem_or_eq_of_mem_set member with before | rfl
      · exact fresh.returned call before result returned
      · exact (Option.some.inj returned).symm
    · exact fresh

theorem Fresh.alone (faithful : store.IsFaithful) (fresh : Fresh store calls) (key : RegexKey) :
    Fresh store ⟨(store.compile calls.kept key).2,
      calls.begun ++ [⟨key, some (store.compile calls.kept key).1⟩]⟩ := by
  rw [← step_alone]
  exact (fresh.step faithful (.ask key)).step faithful (.finish _)

theorem Fresh.run (faithful : store.IsFaithful) (steps : List Step) :
    Fresh store (run store steps) := by
  induction steps using List.reverseRecOn with
  | nil => exact .start
  | append_singleton steps s ih =>
    rw [RegexCalls.run, List.foldl_concat]
    exact ih.step faithful s

/-- After its second step a call has returned, whether or not it had before. -/
theorem Fresh.finish (fresh : Fresh store calls) {number : Nat} {call : RegexCall}
    (there : calls.begun[number]? = some call) :
    (calls.step store (.finish number)).begun[number]? =
      some ⟨call.key, some call.key.compile⟩ := by
  obtain ⟨inRange, _⟩ := List.getElem?_eq_some_iff.mp there
  obtain ⟨key, returned⟩ := call
  cases returned with
  | none => simp only [RegexCalls.step, there, List.getElem?_set_self inRange]
  | some result =>
    have same : result = key.compile := fresh.returned _ (List.mem_of_getElem? there) result rfl
    simp only [RegexCalls.step, there, same]

/-- No call is lost, and none changes its key. -/
theorem keys_step (s : Step) :
    (calls.step store s).begun.map RegexCall.key =
      calls.begun.map RegexCall.key ++ s.asked?.toList := by
  cases s with
  | ask key => simp [step, Step.asked?]
  | finish number =>
    rw [step]
    split
    · next key there =>
      have known : (calls.begun.map RegexCall.key)[number]? = some key := by simp [there]
      obtain ⟨inRange, is⟩ := List.getElem?_eq_some_iff.mp known
      rw [List.map_set, Step.asked?, Option.toList_none, List.append_nil, ← is,
        List.set_getElem_self inRange]
    · simp [Step.asked?]

theorem keys_run (steps : List Step) :
    (run store steps).begun.map RegexCall.key = steps.filterMap Step.asked? := by
  induction steps using List.reverseRecOn with
  | nil => rfl
  | append_singleton steps s ih =>
    rw [run, List.foldl_concat, keys_step, List.filterMap_append, ← ih, run]
    cases s <;> rfl

end RegexCalls

/-! ## One call after the other -/

namespace RegexStore

variable (store : RegexStore σ)

/-- What calls for keys return one after the other, and what is kept afterwards. -/
def compileAll (kept : σ) : List RegexKey → List (Option CompiledRegex) × σ
  | [] => ([], kept)
  | key :: keys =>
    let first := store.compile kept key
    let others := compileAll first.2 keys
    (first.1 :: others.1, others.2)

theorem compileAll_concat (kept : σ) (keys : List RegexKey) (key : RegexKey) :
    (store.compileAll kept (keys ++ [key])).2 =
      (store.compile (store.compileAll kept keys).2 key).2 := by
  induction keys generalizing kept with
  | nil => rfl
  | cons first keys ih => exact ih (store.compile kept first).2

variable {store} {kept : σ}

theorem Reached.compile (faithful : store.IsFaithful) (reached : store.Reached kept)
    (key : RegexKey) :
    (store.compile kept key).1 = key.compile ∧ store.Reached (store.compile kept key).2 := by
  have before : RegexCalls.Fresh store ⟨kept, []⟩ := ⟨reached, nofun⟩
  have after := before.alone faithful key
  exact ⟨after.returned _ List.mem_cons_self _ rfl, after.kept⟩

theorem Reached.compileAll (faithful : store.IsFaithful) (reached : store.Reached kept)
    (keys : List RegexKey) :
    (store.compileAll kept keys).1 = keys.map RegexKey.compile ∧
      store.Reached (store.compileAll kept keys).2 := by
  induction keys generalizing kept with
  | nil => exact ⟨rfl, reached⟩
  | cons key keys ih =>
    obtain ⟨first, reachedThen⟩ := reached.compile faithful key
    obtain ⟨others, reachedAfter⟩ := ih reachedThen
    exact ⟨congrArg₂ List.cons first others, reachedAfter⟩

end RegexStore

/-! ## The store that is used -/

namespace RegexCache

variable {cache : RegexCache} {key : RegexKey} {result : Option CompiledRegex}

theorem mem_of_find? (found : cache.find? key = some result) : (key, result) ∈ cache.entries := by
  obtain ⟨⟨other, _⟩, entry, rfl⟩ := Option.map_eq_some_iff.mp found
  have same : other = key := by simpa using List.find?_some entry
  exact same ▸ List.mem_of_find?_eq_some entry

theorem of_mem_keep {e : RegexKey × Option CompiledRegex}
    (member : e ∈ (cache.keep key result).entries) :
    e = (key, result) ∨ e ∈ cache.entries ∧ e.1 ≠ key := by
  rcases List.mem_cons.mp (List.mem_of_mem_take member) with now | before
  · exact .inl now
  · exact .inr (by simpa using List.mem_filter.mp before)

theorem get_fst (cache : RegexCache) (key : RegexKey) : (cache.get key).1 = cache.find? key := by
  rw [get]
  split <;> simp_all

/-- Asking changes the order of the entries, and brings in no others. -/
theorem of_mem_get {e : RegexKey × Option CompiledRegex}
    (member : e ∈ (cache.get key).2.entries) : e ∈ cache.entries := by
  rw [get] at member
  split at member
  · next found =>
    rcases of_mem_keep member with rfl | ⟨before, _⟩
    · exact mem_of_find? found
    · exact before
  · exact member

/-- Entries hold what was put last under their keys. -/
theorem lastPut_of_mem (history : List RegexStore.Access) :
    ∀ e ∈ (store.after history).entries, RegexStore.lastPut e.1 history = some e.2 := by
  induction history using List.reverseRecOn with
  | nil => exact nofun
  | append_singleton history a ih =>
    intro e member
    rw [RegexStore.after, List.foldl_concat] at member
    rw [RegexStore.lastPut_concat]
    cases a with
    | get key => exact ih e (of_mem_get member)
    | put key result =>
      rcases of_mem_keep member with rfl | ⟨before, other⟩
      · simp [RegexStore.Access.puts]
      · simpa [RegexStore.Access.puts, other.symm] using ih e before

theorem store_faithful : store.IsFaithful := by
  intro history key result answer
  have found : (store.after history).find? key = some result := (get_fst _ _).symm.trans answer
  exact lastPut_of_mem history _ (mem_of_find? found)

theorem compile_eq (reached : store.Reached cache) (key : RegexKey) :
    cache.compile key = (key.compile, cache.keep key key.compile) := by
  rw [compile, RegexStore.compile]
  cases found : cache.find? key with
  | none =>
    have asked : store.get cache key = (none, cache) := by simp only [store, get, found]
    rw [asked]
    rfl
  | some result =>
    have asked : store.get cache key = (some result, cache.keep key result) := by
      simp only [store, get, found]
    have fresh := reached.answer store_faithful (congrArg Prod.fst asked)
    rw [asked, fresh]

/-- A key that is used comes first, and the last one makes room for it if there is none. -/
theorem entries_keep {used : List RegexKey} (distinct : used.Nodup)
    (entries : cache.entries = (used.take capacity).map fun key => (key, key.compile)) :
    (cache.keep key key.compile).entries =
      ((key :: used.filter (· != key)).take capacity).map fun key => (key, key.compile) := by
  rw [keep, entries, List.filter_map, ← take_cons_filter_take key capacity distinct, List.map_take]
  rfl

/-- What is kept are the keys that were used last, each with what comes of it. -/
theorem entries_compileAll (keys : List RegexKey) :
    (store.compileAll {} keys).2.entries =
      (keys.reverse.eraseDups.take capacity).map fun key => (key, key.compile) := by
  induction keys using List.reverseRecOn with
  | nil => rfl
  | append_singleton keys key ih =>
    have reached := (RegexStore.Reached.empty.compileAll store_faithful keys).2
    have kept : (store.compileAll {} (keys ++ [key])).2 =
        (store.compileAll {} keys).2.keep key key.compile := by
      rw [RegexStore.compileAll_concat]
      exact congrArg Prod.snd (compile_eq reached key)
    have recent : (keys ++ [key]).reverse.eraseDups =
        key :: keys.reverse.eraseDups.filter (· != key) := by
      rw [List.reverse_append, List.reverse_singleton, List.singleton_append, List.eraseDups_cons,
        eraseDups_filter]
      rfl
    rw [kept, recent]
    exact entries_keep (nodup_eraseDups _) ih

/-- A key is forgotten when as many others were used since as there is room for. -/
theorem find?_forgotten {key : RegexKey} (earlier : List RegexKey) {others : List RegexKey}
    (distinct : others.Nodup) (absent : key ∉ others) (many : capacity ≤ others.length) :
    (store.compileAll {} (earlier ++ others)).2.find? key = none := by
  have recent : (earlier ++ others).reverse.eraseDups.take capacity =
      others.reverse.take capacity := by
    rw [List.reverse_append, List.eraseDups_append,
      eraseDups_of_nodup (List.nodup_reverse.mpr distinct),
      List.take_append_of_le_length (by simpa using many)]
  rw [find?, entries_compileAll, recent, Option.map_eq_none_iff, List.find?_eq_none]
  intro e member
  obtain ⟨other, used, rfl⟩ := List.mem_map.mp member
  have late : other ∈ others := List.mem_reverse.mp (List.mem_of_mem_take used)
  simpa using fun same : other = key => absent (same ▸ late)

end RegexCache

/-- The store is transparent. For every store that does not make answers up: calls that are made one
after the other return what their patterns give when they are made ready; so does each of the calls
that go on at the same time, however their accesses follow each other, and a call that has not
returned can do so at any time. What is kept for a key is always what comes of it. -/
theorem cache_transparent (store : RegexStore σ) (faithful : store.IsFaithful) :
    (∀ keys, (store.compileAll store.empty keys).1 = keys.map RegexKey.compile ∧
      ∀ key result, (store.get (store.compileAll store.empty keys).2 key).1 = some result →
        result = key.compile) ∧
    ∀ steps, let calls := RegexCalls.run store steps
      calls.begun.map RegexCall.key = steps.filterMap RegexCalls.Step.asked? ∧
      (∀ call ∈ calls.begun, ∀ result, call.returned = some result → result = call.key.compile) ∧
      (∀ number call, calls.begun[number]? = some call →
        (calls.step store (.finish number)).begun[number]? =
          some ⟨call.key, some call.key.compile⟩) ∧
      ∀ key result, (store.get calls.kept key).1 = some result → result = key.compile := by
  refine ⟨fun keys => ?_, fun steps => ?_⟩
  · obtain ⟨returned, reached⟩ := RegexStore.Reached.empty.compileAll faithful keys
    exact ⟨returned, fun key result => reached.answer faithful⟩
  · have fresh := RegexCalls.Fresh.run faithful steps
    exact ⟨RegexCalls.keys_run steps, fresh.returned, fun number call => fresh.finish,
      fun key result => fresh.kept.answer faithful⟩

/-- As many keys as there is room for. -/
def RegexCache.fillingKeys : List RegexKey :=
  (List.range capacity).map fun n => ⟨.search, String.ofList (List.replicate n 'a')⟩

theorem RegexCache.nodup_fillingKeys : fillingKeys.Nodup := by
  refine List.Nodup.map (fun m n same => ?_) List.nodup_range
  simpa using congrArg (fun key : RegexKey => key.pattern.length) same

open RegexCache in
/-- The store that is used, and a pattern that is a regular expression only in one of the two modes.
It is asked for again when it is forgotten, and by two calls at the same time. -/
theorem cache_transparent_forgetful :
    let full : RegexKey := ⟨.full, "a)|(b"⟩
    let search : RegexKey := ⟨.search, "a)|(b"⟩
    let keys := full :: search :: fillingKeys
    store.IsFaithful ∧ (store.compileAll store.empty keys).2.find? full = none ∧
      (store.compileAll store.empty (keys ++ [full])).1 =
        (keys ++ [full]).map RegexKey.compile ∧
      (store.compileAll store.empty [full, search, full, search]).1.map Option.isSome =
        [true, false, true, false] ∧
      let calls := RegexCalls.run store [.ask full, .ask full, .finish 1]
      calls.begun = [⟨full, none⟩, ⟨full, some full.compile⟩] ∧
        (calls.step store (.finish 0)).begun[0]? = some ⟨full, some full.compile⟩ := by
  intro full search keys
  have absent : full ∉ fillingKeys := by simp [fillingKeys, full]
  have many : fillingKeys.length = capacity := by
    rw [fillingKeys, List.length_map, List.length_range]
  have forgotten : (store.compileAll store.empty keys).2.find? full = none :=
    find?_forgotten [full, search] nodup_fillingKeys absent (Nat.le_of_eq many.symm)
  have valid : full.compile.isSome = true := by decide +kernel
  have invalid : search.compile.isSome = false := by decide +kernel
  obtain ⟨inTurn, atOnce⟩ := cache_transparent store store_faithful
  refine ⟨store_faithful, forgotten, (inTurn _).1, ?_, rfl, ?_⟩
  · rw [(inTurn _).1]
    simp [valid, invalid]
  · obtain ⟨_, _, finished, _⟩ := atOnce [.ask full, .ask full, .finish 1]
    exact finished 0 ⟨full, none⟩ rfl

end JsonPath
