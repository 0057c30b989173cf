import JsonPath.Proofs.PatternProgress

/-!
# Patterns with a closing behind them

To match all of a text, a pattern is put into a group. The reader then finds the end of the group
behind the text that it would have read alone. Here the two readings are followed side by side.

Results:
1. `Persists.bind` and one lemma for each reader: what comes to a result comes to the same one in
   front of a closing. What fails fails there as well, or takes some of the closing for itself.
2. `Stuck.patternUpTo`: behind an assertion that was given up, a pattern cannot go on.
3. `persists_patternUpTo`: a whole pattern.
-/

namespace JsonPath

namespace PatternReader

/-- What stands behind a pattern that is put into a group. -/
def closing : List Char := [')', '\\', 'z']

/-- The character is ahead in both readings, with the closing at the end of the second. -/
inductive Shows (c : Char) : PatternState → PatternState → Prop where
  | intro (cs : List Char) (verbose : Bool) (names : List String) :
      Shows c ⟨c :: cs, verbose, names⟩ ⟨c :: (cs ++ closing), verbose, names⟩

/-- The second reading is at the same place as the first, with the closing behind the text, unless
that is in a comment, which both have passed over. -/
inductive Extends : PatternState → PatternState → Prop where
  | ahead {c : Char} {s t : PatternState} (shows : Shows c s t) : Extends s t
  | atEnd (verbose : Bool) (names : List String) :
      Extends ⟨[], verbose, names⟩ ⟨closing, verbose, names⟩
  | hidden (verbose : Bool) (names : List String) :
      Extends ⟨[], verbose, names⟩ ⟨[], verbose, names⟩

/-- How the outcome of a reading compares with that in front of the closing. A result is the same in
both. Where the first has none, there may be one in front of the closing if `late` allows it. -/
def Persists {α : Type} (late : α → PatternState → Prop) :
    Option (α × PatternState) → Option (α × PatternState) → Prop
  | some (x, s), outcome => ∃ t, outcome = some (x, t) ∧ Extends s t
  | none, outcome => ∀ x t, outcome = some (x, t) → late x t

/-- No result that comes late. -/
def Never {α : Type} (_ : α) (_ : PatternState) : Prop := False

/-- A result that comes late: so many characters of the closing have been passed over. -/
def Late {α : Type} (count : Nat) (_ : α) (t : PatternState) : Prop :=
  t.ahead <:+ closing.drop count

variable {α β : Type} {c : Char} {s t : PatternState} {f f' : PatternReader α}
  {g g' : α → PatternReader β} {late : α → PatternState → Prop} {j k : Nat}

theorem Extends.behind (cs : List Char) (verbose : Bool) (names : List String) :
    Extends ⟨cs, verbose, names⟩ ⟨cs ++ closing, verbose, names⟩ := by
  cases cs with
  | nil => exact .atEnd verbose names
  | cons c cs => exact .ahead (.intro cs verbose names)

theorem Extends.shows (ext : Extends s t) (head : s.ahead.head? = some c) : Shows c s t := by
  cases ext with
  | ahead shows =>
    obtain ⟨cs, verbose, names⟩ := shows
    cases head
    exact .intro cs verbose names
  | atEnd verbose names => cases head
  | hidden verbose names => cases head

theorem Extends.behind_or_hidden (ext : Extends s t) :
    (∃ cs verbose names, s = ⟨cs, verbose, names⟩ ∧ t = ⟨cs ++ closing, verbose, names⟩) ∨
      ∃ verbose names, s = ⟨[], verbose, names⟩ ∧ t = ⟨[], verbose, names⟩ := by
  cases ext with
  | ahead shows =>
    obtain ⟨cs, verbose, names⟩ := shows
    exact .inl ⟨_, verbose, names, rfl, rfl⟩
  | atEnd verbose names => exact .inl ⟨[], verbose, names, rfl, rfl⟩
  | hidden verbose names => exact .inr ⟨verbose, names, rfl, rfl⟩

theorem Shows.length_pos (shows : Shows c s t) : 0 < s.ahead.length ∧ 0 < t.ahead.length := by
  cases shows
  exact ⟨Nat.succ_pos _, Nat.succ_pos _⟩

/-- What has passed over a character in front of the end has less text ahead in both readings. -/
theorem Shows.length_lt {s' t' : PatternState} (shows : Shows c s t) (ext : Extends s' t')
    (leaves : s'.ahead <:+ s.ahead.drop 1) :
    s'.ahead.length < s.ahead.length ∧ t'.ahead.length < t.ahead.length := by
  obtain ⟨cs, verbose, names⟩ := shows
  have shorter : s'.ahead.length ≤ cs.length := leaves.length_le
  obtain ⟨ds, _, _, rfl, rfl⟩ | ⟨_, _, rfl, rfl⟩ := ext.behind_or_hidden
  · simp only [List.length_append, List.length_cons] at shorter ⊢
    omega
  · simp

/-! ## Outcomes -/

/-- One reader behind another. -/
theorem Persists.bind {late' : β → PatternState → Prop}
    (first : Persists late (f.run s) (f'.run t))
    (next : ∀ x s' t', f.run s = some (x, s') → f'.run t = some (x, t') → Extends s' t' →
      Persists late' ((g x).run s') ((g' x).run t'))
    (beyond : ∀ x t', late x t' → ∀ y u, (g' x).run t' = some (y, u) → late' y u) :
    Persists late' ((f >>= g).run s) ((f' >>= g').run t) := by
  cases ran : f.run s with
  | some result =>
    obtain ⟨x, s'⟩ := result
    rw [ran] at first
    obtain ⟨t', ran', ext⟩ := first
    rw [StateT.run_bind, StateT.run_bind, ran, ran']
    exact next x s' t' ran ran' ext
  | none =>
    rw [ran] at first
    rw [StateT.run_bind, ran]
    intro y u ran'
    obtain ⟨x, t', left, right⟩ := run_bind_eq_some.mp ran'
    exact beyond x t' (first x t' left) y u right

/-- The first reader has no late result. -/
theorem Persists.step {late' : β → PatternState → Prop}
    (first : Persists Never (f.run s) (f'.run t))
    (next : ∀ x s' t', f.run s = some (x, s') → Extends s' t' →
      Persists late' ((g x).run s') ((g' x).run t')) :
    Persists late' ((f >>= g).run s) ((f' >>= g').run t) :=
  first.bind (fun x s' t' ran _ => next x s' t' ran) fun _ _ never => never.elim

/-- The same for a reader that adds no text in either reading. -/
theorem Persists.stepWithin {late' : β → PatternState → Prop}
    (first : Persists Never (f.run s) (f'.run t)) (leaves : Leaves 0 f) (leaves' : Leaves 0 f')
    (next : ∀ x s' t', Extends s' t' → s'.ahead.length ≤ s.ahead.length →
      t'.ahead.length ≤ t.ahead.length → Persists late' ((g x).run s') ((g' x).run t')) :
    Persists late' ((f >>= g).run s) ((f' >>= g').run t) :=
  first.bind (fun x s' t' ran ran' ext => next x s' t' ext (leaves _ _ _ ran).length_le
    (leaves' _ _ _ ran').length_le) fun _ _ never => never.elim

/-- Behind a late result of the first reader, the second passes over some of the closing at most. -/
theorem Persists.andThen (first : Persists (Late j) (f.run s) (f'.run t))
    (next : ∀ x s' t', f.run s = some (x, s') → Extends s' t' →
      Persists (Late j) ((g x).run s') ((g' x).run t'))
    (leaves : ∀ x, Leaves 0 (g' x)) : Persists (Late j) ((f >>= g).run s) ((f' >>= g').run t) :=
  first.bind (fun x s' t' ran _ => next x s' t' ran) fun x t' behind y u ran =>
    (leaves x t' y u ran).trans behind

theorem Persists.mono {late' : α → PatternState → Prop} {o o' : Option (α × PatternState)}
    (persists : Persists late o o') (weaker : ∀ x t, late x t → late' x t) :
    Persists late' o o' := by
  cases o with
  | none => exact fun x t ran => weaker x t (persists x t ran)
  | some result => exact persists

theorem Persists.of_never {o o' : Option (α × PatternState)} (persists : Persists Never o o') :
    Persists late o o' := persists.mono fun _ _ => False.elim

theorem persists_none : Persists late none none := fun _ _ ran => nomatch ran

theorem persists_pure (ext : Extends s t) (x : α) :
    Persists late ((pure x : PatternReader α).run s) ((pure x : PatternReader α).run t) :=
  ⟨t, rfl, ext⟩

/-- In front of the closing, what a reader passes over is part of the closing. -/
theorem persists_atEnd (leaves : Leaves k f) (verbose : Bool) (names : List String) :
    Persists (Late k) none (f.run ⟨closing, verbose, names⟩) := fun x t ran => leaves _ x t ran

theorem persists_get {h k : PatternState → PatternReader α}
    (next : Persists late ((h s).run s) ((k t).run t)) :
    Persists late ((get >>= h).run s) ((get >>= k).run t) := next

theorem persists_ite {condition : Prop} [Decidable condition] {e e' : PatternReader α}
    (holds : condition → Persists late (f.run s) (f'.run t))
    (fails : ¬condition → Persists late (e.run s) (e'.run t)) :
    Persists late ((if condition then f else e).run s) ((if condition then f' else e').run t) := by
  by_cases is : condition
  · simpa only [if_pos is] using holds is
  · simpa only [if_neg is] using fails is

/-- A check that fails or lets the reader go on, and does the same in both readings. -/
theorem persists_check {condition condition' : Prop} [Decidable condition] [Decidable condition']
    {next next' : Unit → PatternReader α} (same : condition' ↔ condition)
    (passed : ¬condition → Persists late ((next ()).run s) ((next' ()).run t)) :
    Persists late
      ((if condition then (failure : PatternReader Unit) >>= next else next ()).run s)
      ((if condition' then (failure : PatternReader Unit) >>= next' else next' ()).run t) := by
  by_cases is : condition
  · rw [if_pos is, if_pos (same.mpr is)]
    exact persists_none
  · rw [if_neg is, if_neg (mt same.mp is)]
    exact passed is

/-! ## Characters -/

theorem Shows.peek {h k : Char → PatternReader α} (shows : Shows c s t)
    (next : Persists late ((h c).run s) ((k c).run t)) :
    Persists late ((PatternReader.peek >>= h).run s) ((PatternReader.peek >>= k).run t) := by
  cases shows
  exact next

/-- A look at the next character. At the end of the text that is the first one of the closing. -/
theorem Persists.peek {h k : Char → PatternReader α} (ext : Extends s t)
    (ahead : ∀ c, Shows c s t → Persists late ((h c).run s) ((k c).run t))
    (atEnd : ∀ verbose names, Persists late none ((k ')').run ⟨closing, verbose, names⟩)) :
    Persists late ((peek >>= h).run s) ((peek >>= k).run t) := by
  cases ext with
  | ahead shows => exact shows.peek (ahead _ shows)
  | atEnd verbose names => exact atEnd verbose names
  | hidden verbose names => exact persists_none

/-- The same, where there need not be one. -/
theorem Persists.peek? {h k : Option Char → PatternReader α} (ext : Extends s t)
    (ahead : ∀ c, Shows c s t → Persists late ((h (some c)).run s) ((k (some c)).run t))
    (ends : s.ahead = [] → ∀ d ∈ [none, some ')'],
      Persists late ((h none).run s) ((k d).run t)) :
    Persists late ((peek? >>= h).run s) ((peek? >>= k).run t) := by
  cases ext with
  | ahead shows =>
    cases shows with
    | intro cs verbose names => exact ahead _ (.intro cs verbose names)
  | atEnd verbose names => exact ends rfl (some ')') (by simp)
  | hidden verbose names => exact ends rfl none (by simp)

theorem persists_drop (shows : Shows c s t) : Persists Never (drop.run s) (drop.run t) := by
  obtain ⟨cs, verbose, names⟩ := shows
  exact ⟨_, rfl, .behind cs verbose names⟩

theorem dropWhile_isSpace_closing : closing.dropWhile isSpace = closing := by decide +kernel

theorem dropWhile_isSpace_append (cs : List Char) :
    (cs ++ closing).dropWhile isSpace = cs.dropWhile isSpace ++ closing := by
  rw [List.dropWhile_append]
  split
  · next blank => rw [List.isEmpty_iff.mp blank, dropWhile_isSpace_closing, List.nil_append]
  · rfl

theorem withoutSpace_comment {n : Nat} {cs rest : List Char}
    (comment : cs.dropWhile isSpace = '#' :: rest) :
    withoutSpace (n + 1) cs = withoutSpace n ((rest.dropWhile (· != '\n')).drop 1) := by
  simp only [withoutSpace, comment]

theorem withoutSpace_visible {n : Nat} {cs : List Char}
    (visible : (cs.dropWhile isSpace).head? ≠ some '#') :
    withoutSpace (n + 1) cs = cs.dropWhile isSpace := by
  rw [withoutSpace]
  split
  · next comment => simp [comment] at visible
  · rfl

theorem withoutSpace_nil (n : Nat) : withoutSpace n [] = [] := by
  cases n <;> rfl

/-- Blank space and comments in front of the closing are passed over as before, and the closing too
if it is in a comment. -/
theorem withoutSpace_append {n m : Nat} {cs : List Char} (enough : cs.length < n)
    (enough' : cs.length < m) :
    withoutSpace m (cs ++ closing) = withoutSpace n cs ++ closing ∨
      withoutSpace n cs = [] ∧ withoutSpace m (cs ++ closing) = [] := by
  induction n generalizing m cs with
  | zero => omega
  | succ n ih =>
    obtain ⟨m, rfl⟩ : ∃ l, m = l + 1 := ⟨m - 1, by omega⟩
    have trimmed := dropWhile_isSpace_append cs
    have shorter : (cs.dropWhile isSpace).length ≤ cs.length := (List.dropWhile_suffix _).length_le
    by_cases comment : (cs.dropWhile isSpace).head? = some '#'
    · obtain ⟨rest, head⟩ := List.head?_eq_some_iff.mp comment
      rw [head] at shorter
      rw [head, List.cons_append] at trimmed
      rw [withoutSpace_comment head, withoutSpace_comment trimmed, List.dropWhile_append]
      have line : (rest.dropWhile (· != '\n')).length ≤ rest.length :=
        (List.dropWhile_suffix _).length_le
      rw [List.length_cons] at shorter
      split
      · next last =>
        -- The comment goes on to the end of the text, which the closing does not end.
        rw [List.isEmpty_iff.mp last]
        exact .inr ⟨withoutSpace_nil n, withoutSpace_nil m⟩
      · next next =>
        rw [List.drop_append_of_le_length (by cases h : rest.dropWhile (· != '\n') <;> simp_all)]
        exact ih (by rw [List.length_drop]; omega) (by rw [List.length_drop]; omega)
    · refine .inl ?_
      rw [withoutSpace_visible comment, withoutSpace_visible, trimmed]
      rw [trimmed]
      cases visible : cs.dropWhile isSpace with
      | nil => decide
      | cons d ds => rwa [visible] at comment

theorem persists_skipSpace (ext : Extends s t) :
    Persists Never (skipSpace.run s) (skipSpace.run t) := by
  obtain ⟨cs, verbose, names, rfl, rfl⟩ | ⟨verbose, names, rfl, rfl⟩ := ext.behind_or_hidden
  · refine ⟨_, rfl, ?_⟩
    cases verbose with
    | false => exact .behind cs false names
    | true =>
      have spaced := withoutSpace_append (Nat.lt_succ_self cs.length)
        (m := (cs ++ closing).length + 1) (by rw [List.length_append]; omega)
      show Extends ⟨withoutSpace (cs.length + 1) cs, true, names⟩
        ⟨withoutSpace ((cs ++ closing).length + 1) (cs ++ closing), true, names⟩
      rcases spaced with same | ⟨nil, nil'⟩
      · rw [same]
        exact .behind _ true names
      · rw [nil, nil']
        exact .hidden true names
  · exact ⟨_, rfl, by cases verbose <;> exact .hidden _ names⟩

theorem persists_dropSpaced (shows : Shows c s t) :
    Persists Never (dropSpaced.run s) (dropSpaced.run t) :=
  (persists_drop shows).step fun _ _ _ _ ext => persists_skipSpace ext

/-! ## Numbers -/

theorem charsUpTo_end {p : Char → Bool} (n : Nat) (ends : ∀ c ∈ s.ahead.head?, p c = false) :
    (charsUpTo p n).run s = some ([], s) := by
  cases n with
  | zero => rfl
  | succ n =>
    obtain ⟨cs, verbose, names⟩ := s
    cases cs with
    | nil => rfl
    | cons c cs =>
      have other : p c = false := ends c rfl
      simp [charsUpTo, other]

theorem persists_charsUpTo {p : Char → Bool} (noClose : p ')' = false) (ext : Extends s t)
    {n m : Nat} (enough : s.ahead.length ≤ n) (enough' : t.ahead.length ≤ m) :
    Persists Never ((charsUpTo p n).run s) ((charsUpTo p m).run t) := by
  induction n generalizing m s t with
  | zero =>
    have last : ∀ c ∈ t.ahead.head?, p c = false := by
      cases ext with
      | ahead shows => cases shows; simp at enough
      | atEnd verbose names => simpa [closing] using noClose
      | hidden verbose names => simp
    rw [charsUpTo_end m last]
    exact ⟨t, rfl, ext⟩
  | succ n ih =>
    cases m with
    | zero =>
      have first : ∀ c ∈ s.ahead.head?, p c = false := by
        cases ext with
        | ahead shows => cases shows; simp at enough'
        | atEnd verbose names => simp
        | hidden verbose names => simp
      rw [charsUpTo_end (n + 1) first]
      exact ⟨t, rfl, ext⟩
    | succ m =>
      refine Persists.peek? ext (fun c shows => ?_) (fun _ d member => ?_)
      · refine persists_ite (fun _ => ?_) fun _ => persists_pure ext []
        refine (persists_dropSpaced shows).step fun _ s' t' ran ext' => ?_
        obtain ⟨shorter, shorter'⟩ := shows.length_lt ext' (leaves_dropSpaced _ _ _ ran)
        refine (ih ext' (by omega) (by omega)).step fun digits _ _ _ ext => ?_
        exact persists_pure ext _
      · simp only [List.mem_cons, List.not_mem_nil, or_false] at member
        rcases member with rfl | rfl
        · exact persists_pure ext []
        · simp only [noClose]
          exact persists_pure ext []

theorem persists_trim (ext : Extends s t) :
    Persists Never
      ((modify fun s => { s with ahead := s.ahead.dropWhile isSpace } : PatternReader Unit).run s)
      ((modify fun s => { s with ahead := s.ahead.dropWhile isSpace } : PatternReader Unit).run
        t) := by
  refine ⟨_, rfl, ?_⟩
  obtain ⟨cs, verbose, names, rfl, rfl⟩ | ⟨verbose, names, rfl, rfl⟩ := ext.behind_or_hidden
  · dsimp only
    rw [dropWhile_isSpace_append]
    exact .behind _ verbose names
  · exact .hidden verbose names

theorem persists_count (ext : Extends s t) : Persists Never (count.run s) (count.run t) := by
  refine (persists_trim ext).step fun _ s t _ ext => persists_get ?_
  rw [digitsUpTo_eq, digitsUpTo_eq]
  refine (persists_charsUpTo (by decide) ext le_rfl le_rfl).step fun digits s t _ ext => ?_
  refine (persists_trim ext).step fun _ s t _ ext => ?_
  refine (persists_skipSpace ext).step fun _ s t _ ext => ?_
  exact persists_ite (fun _ => persists_none) fun _ => persists_pure ext _

theorem persists_ofCodePoint (ext : Extends s t) (n : Nat) :
    Persists Never ((ofCodePoint n).run s) ((ofCodePoint n).run t) :=
  persists_ite (fun _ => persists_pure ext _) fun _ => persists_none

theorem persists_hexDigits (ext : Extends s t) (n value : Nat) :
    Persists Never ((hexDigits n value).run s) ((hexDigits n value).run t) := by
  induction n generalizing value s t with
  | zero => exact persists_pure ext value
  | succ n ih =>
    refine Persists.peek ext (fun c shows => ?_) fun verbose names => persists_none
    split
    · exact (persists_dropSpaced shows).step fun _ _ _ _ ext => ih ext _
    · exact persists_none

theorem persists_hexUpToBrace (ext : Extends s t) (some? : Bool) (value : Nat) {n m : Nat}
    (enough : s.ahead.length < n) (enough' : t.ahead.length < m) :
    Persists Never ((hexUpToBrace n some? value).run s) ((hexUpToBrace m some? value).run t) := by
  induction n generalizing some? value s t m with
  | zero => omega
  | succ n ih =>
    obtain ⟨m, rfl⟩ : ∃ l, m = l + 1 := ⟨m - 1, by omega⟩
    refine Persists.peek ext (fun c shows => ?_) fun verbose names => persists_none
    refine persists_ite (fun _ => persists_ite (fun _ => ?_) fun _ => persists_none) fun _ => ?_
    · exact (persists_dropSpaced shows).step fun _ _ _ _ ext => persists_pure ext value
    · split
      · refine (persists_dropSpaced shows).step fun _ _ _ ran ext => ?_
        obtain ⟨shorter, shorter'⟩ := shows.length_lt ext (leaves_dropSpaced _ _ _ ran)
        exact ih ext true _ (by omega) (by omega)
      · exact persists_none

theorem persists_hexChar (shows : Shows c s t) {width : Nat} (digits : 0 < width) :
    Persists Never ((hexChar width).run s) ((hexChar width).run t) := by
  obtain ⟨width, rfl⟩ : ∃ n, width = n + 1 := ⟨width - 1, by omega⟩
  refine (persists_dropSpaced shows).step fun _ s t _ ext => ?_
  refine Persists.peek ext (fun c shows => ?_) fun verbose names => persists_none
  refine persists_ite (fun _ => ?_) fun _ => ?_
  · refine (persists_dropSpaced shows).step fun _ s t _ ext => persists_get ?_
    refine (persists_hexUpToBrace ext _ _ (by omega) (by omega)).step fun n s t _ ext => ?_
    exact (persists_ofCodePoint ext n).step fun _ _ _ _ ext => persists_pure ext _
  · refine (persists_hexDigits ext _ _).step fun n s t _ ext => ?_
    exact (persists_ofCodePoint ext n).step fun _ _ _ _ ext => persists_pure ext _

/-! ## Escapes -/

theorem persists_nameUpToBrace (ext : Extends s t) {n m : Nat} (enough : s.ahead.length < n)
    (enough' : t.ahead.length < m) :
    Persists (Late 1) ((nameUpToBrace n).run s) ((nameUpToBrace m).run t) := by
  induction n generalizing s t m with
  | zero => omega
  | succ n ih =>
    obtain ⟨m, rfl⟩ : ∃ l, m = l + 1 := ⟨m - 1, by omega⟩
    refine Persists.peek ext (fun c shows => ?_) (persists_atEnd ?_)
    · refine persists_ite (fun _ => ?_) fun _ => ?_
      · exact (persists_drop shows).step fun _ _ _ _ ext => persists_pure ext []
      · refine (persists_dropSpaced shows).step fun _ _ _ ran ext => ?_
        obtain ⟨shorter, shorter'⟩ := shows.length_lt ext (leaves_dropSpaced _ _ _ ran)
        refine (ih ext (by omega) (by omega)).andThen (fun name _ _ _ ext => ?_) ?_
        · exact persists_pure ext _
        · exact fun name => leaves_pure _
    · exact leaves_ite (leaves_drop.andThen fun _ => leaves_pure _)
        (leaves_dropSpaced.andThen fun _ => (leaves_nameUpToBrace m).after fun _ => leaves_pure _)

theorem persists_propertyClass (shows : Shows c s t) (negated : Bool) :
    Persists (Late 1) ((propertyClass negated).run s) ((propertyClass negated).run t) := by
  refine (persists_dropSpaced shows).step fun _ s t _ ext => ?_
  refine Persists.peek ext (fun c shows => ?_) (persists_atEnd ?_)
  · refine persists_ite (fun _ => ?_) fun _ => persists_ite (fun _ => persists_none) fun _ => ?_
    · refine (persists_dropSpaced shows).step fun _ s t _ ext => persists_get ?_
      refine (persists_nameUpToBrace ext (by omega) (by omega)).andThen (fun _ _ _ _ ext => ?_) ?_
      · exact persists_pure ext _
      · exact fun _ => leaves_pure _
    · exact (persists_dropSpaced shows).step fun _ _ _ _ ext => persists_pure ext _
  · refine leaves_ite ?_ (leaves_ite leaves_failure (leaves_dropSpaced.andThen fun _ => ?_))
    · refine leaves_dropSpaced.andThen fun _ => leaves_get fun s => ?_
      exact (leaves_nameUpToBrace _).least.andThen fun _ => leaves_pure _
    · exact leaves_pure _

/-- A brace is ahead that only blank space and comments separate from the closing. -/
def Stuck (t : PatternState) : Prop :=
  t.ahead.head? = some '\x7b' ∧
    ∃ verbose names, dropSpaced.run t = some ((), ⟨closing, verbose, names⟩)

/-- At the end of the text a brace may begin the name of an assertion, and there is none. In front
of the closing it does not begin one, and is gone back to. -/
theorem persists_wordAssertion (ext : Extends s t) :
    Persists (fun a t => a = .wordBoundary ∧ Stuck t) (wordAssertion.run s)
      (wordAssertion.run t) := by
  unfold wordAssertion
  refine Persists.peek? ext (fun c shows => ?_) fun _ d member => ?_
  · refine persists_ite (fun _ => persists_pure ext _) fun brace => persists_get ?_
    obtain rfl : c = '\x7b' := by simpa using brace
    refine Persists.bind (persists_dropSpaced shows) (fun _ s' t' _ ran ext' => ?_)
      fun _ _ never => never.elim
    cases ext' with
    | hidden verbose names => exact persists_none
    | atEnd verbose names =>
      rintro a u ⟨⟩
      refine ⟨rfl, ?_, verbose, names, ran⟩
      cases shows
      rfl
    | @ahead c s' t' shows' =>
      have ext' : Extends s' t' := .ahead shows'
      refine shows'.peek (persists_ite (fun _ => ⟨t, rfl, ext⟩) fun _ => persists_get ?_)
      rw [assertionName_eq, assertionName_eq]
      refine (persists_charsUpTo (by decide) ext' le_rfl le_rfl).step fun name s t _ ext => ?_
      refine Persists.peek ext (fun c shows => ?_) fun _ _ => persists_none
      refine persists_check Iff.rfl fun _ => (persists_drop shows).step fun _ s t _ ext => ?_
      split
      case h_5 => exact persists_none
      all_goals exact persists_pure ext _
  · simp only [List.mem_cons, List.not_mem_nil, or_false] at member
    rcases member with rfl | rfl
    · exact persists_pure ext _
    · exact persists_pure ext _

/-- What an escape takes for itself if it fails without the closing. -/
def LateEscape (e : Escape) (t : PatternState) : Prop :=
  Late 1 e t ∨ e = .assertion .wordBoundary ∧ Stuck t

theorem persists_escape (ext : Extends s t) :
    Persists LateEscape (escape.run s) (escape.run t) := by
  have closed {o o' : Option (Escape × PatternState)} (persists : Persists (Late 1) o o') :
      Persists LateEscape o o' := persists.mono fun _ _ => .inl
  cases ext with
  | atEnd verbose names => exact closed (persists_atEnd leaves_escape verbose names)
  | hidden verbose names => exact persists_none
  | ahead shows =>
    unfold escape
    refine shows.peek ?_
    have char (width : Nat) (digits : 0 < width) : Persists LateEscape
        ((hexChar width >>= fun c => pure (Escape.char c)).run s)
        ((hexChar width >>= fun c => pure (Escape.char c)).run t) :=
      (persists_hexChar shows digits).step fun _ _ _ _ ext => persists_pure ext _
    have property (negated : Bool) : Persists LateEscape
        ((propertyClass negated >>= fun named => pure (Escape.property named)).run s)
        ((propertyClass negated >>= fun named => pure (Escape.property named)).run t) :=
      closed ((persists_propertyClass shows negated).andThen
        (fun _ _ _ _ ext => persists_pure ext _) fun _ => leaves_pure _)
    split
    · exact char 2 (by decide)
    · exact char 4 (by decide)
    · exact char 8 (by decide)
    · exact property false
    · exact property true
    · refine (persists_drop shows).step fun _ s t _ ext => ?_
      split
      -- Behind `\b` the name of an assertion may stand in braces. With the closing the reader may
      -- find that it does not, and go back to the brace.
      case h_15 =>
        refine (persists_wordAssertion ext).bind (fun _ _ _ _ _ ext => persists_pure ext _) ?_
        rintro a t ⟨rfl, stuck⟩ _ _ ⟨⟩
        exact .inr ⟨rfl, stuck⟩
      case h_19 => exact persists_ite (fun _ => persists_pure ext _) fun _ => persists_none
      all_goals exact persists_pure ext _

/-! ## Brackets -/

theorem persists_setItem (ext : Extends s t) :
    Persists LateEscape (setItem.run s) (setItem.run t) := by
  cases ext with
  | atEnd verbose names =>
    exact (persists_atEnd leaves_setItem verbose names).mono fun _ _ => .inl
  | hidden verbose names => exact persists_none
  | ahead shows =>
    refine shows.peek ((persists_drop shows).step fun _ s t _ ext => ?_)
    exact persists_ite (fun _ => persists_escape ext) fun _ => persists_pure ext _

theorem persists_itemSet (ext : Extends s t) (item : Escape) :
    Persists Never ((itemSet item).run s) ((itemSet item).run t) := by
  cases item with
  | assertion a => exact persists_none
  | char c => exact persists_pure ext _
  | property named => exact persists_pure ext _
  | letter named negated => exact persists_pure ext _

theorem persists_itemChar (ext : Extends s t) (item : Escape) :
    Persists Never ((itemChar item).run s) ((itemChar item).run t) := by
  cases item with
  | char c => exact persists_pure ext _
  | assertion a => exact persists_none
  | property named => exact persists_none
  | letter named negated => exact persists_none

theorem head?_append_closing (cs : List Char) :
    (cs ++ closing).head? = cs.head? ∨ cs.head? = none ∧ (cs ++ closing).head? = some ')' := by
  cases cs with
  | nil => exact .inr ⟨rfl, rfl⟩
  | cons c cs => exact .inl rfl

/-- What follows a character in verbose mode. -/
def nextVisible? (cs : List Char) : Option Char :=
  match cs.dropWhile isSpace with
  | '#' :: comment => (comment.dropWhile isSpace).head?
  | visible => visible.head?

theorem run_peekSpaced?_verbose (c : Char) (cs : List Char) (names : List String) :
    peekSpaced?.run ⟨c :: cs, true, names⟩ = some (nextVisible? cs, ⟨c :: cs, true, names⟩) := by
  simp only [peekSpaced?, nextVisible?, StateT.run_bind, StateT.run_get, Option.bind_eq_bind,
    Option.pure_def, Option.bind_some, List.tail_cons, if_true]
  generalize cs.dropWhile isSpace = visible
  cases visible with
  | nil => rfl
  | cons d ds =>
    by_cases mark : d = '#'
    · subst mark
      rfl
    · simp [mark]

theorem nextVisible?_append (cs : List Char) :
    nextVisible? (cs ++ closing) = nextVisible? cs ∨
      nextVisible? cs = none ∧ nextVisible? (cs ++ closing) = some ')' := by
  simp only [nextVisible?, dropWhile_isSpace_append]
  cases cs.dropWhile isSpace with
  | nil => exact .inr ⟨rfl, rfl⟩
  | cons d ds =>
    by_cases mark : d = '#'
    · subst mark
      simp only [List.cons_append, dropWhile_isSpace_append]
      exact head?_append_closing _
    · refine .inl ?_
      simp only [List.cons_append]
      split
      · next comment => exact absurd (List.cons.inj comment).1 mark
      · split
        · next comment => exact absurd (List.cons.inj comment).1 mark
        · rfl

/-- What follows the next character is the same in both readings, or the end in the first and the
closing in the second. -/
theorem Shows.peekSpaced? {h k : Option Char → PatternReader α} (shows : Shows c s t)
    (next : ∀ d e, e = d ∨ d = none ∧ e = some ')' →
      Persists late ((h d).run s) ((k e).run t)) :
    Persists late ((PatternReader.peekSpaced? >>= h).run s)
      ((PatternReader.peekSpaced? >>= k).run t) := by
  obtain ⟨cs, verbose, names⟩ := shows
  cases verbose with
  | false => exact next _ _ (head?_append_closing cs)
  | true =>
    rw [StateT.run_bind, StateT.run_bind, run_peekSpaced?_verbose, run_peekSpaced?_verbose]
    exact next _ _ (nextVisible?_append cs)

/-- An assertion is no item of a set and no end of a range. -/
theorem rangeFrom_assertion (a : Assertion) (t : PatternState) :
    (rangeFrom (.assertion a)).run t = none := by
  refine Option.eq_none_iff_forall_ne_some.mpr fun (set, u) ran => ?_
  obtain ⟨_, t₁, -, ran⟩ := run_bind_eq_some.mp ran
  obtain ⟨_, t₂, -, ran⟩ := run_bind_eq_some.mp ran
  obtain ⟨_, t₃, -, ran⟩ := run_bind_eq_some.mp ran
  split at ran
  · cases ran
  · obtain ⟨_, t₄, -, ran⟩ := run_bind_eq_some.mp ran
    obtain ⟨_, t₅, -, ran⟩ := run_bind_eq_some.mp ran
    obtain ⟨_, t₆, -, ran⟩ := run_bind_eq_some.mp ran
    cases ran

theorem persists_rangeTo (shows : Shows c s t) (low : Escape) :
    Persists (Late 0) ((rangeTo low).run s) ((rangeTo low).run t) := by
  have ends (high : Escape) : Leaves 0 (do
      let low ← itemChar low
      let high ← itemChar high
      if low.char ≤ high.char then return .range low high else failure : PatternReader ClassSet) :=
    (leaves_itemChar low).after fun low => (leaves_itemChar high).after fun high =>
      leaves_ite (leaves_pure _) leaves_failure
  refine (persists_dropSpaced shows).step fun _ s t _ ext => ?_
  refine Persists.peek ext (fun c shows => ?_) (persists_atEnd (leaves_setItem.after ends))
  refine (persists_setItem ext).bind (fun high s t _ _ ext => ?_) ?_
  · refine (persists_itemChar ext low).step fun low s t _ ext => ?_
    refine (persists_itemChar ext high).step fun high s t _ ext => ?_
    exact persists_ite (fun _ => persists_pure ext _) fun _ => persists_none
  -- The end of a range that is read late is part of the closing, or a boundary of words, which ends
  -- no range.
  · rintro high t (behind | ⟨rfl, -⟩) set u ran
    · exact (ends high _ _ _ ran).trans (behind.trans (List.drop_suffix ..))
    · obtain ⟨low, _, -, ran⟩ := run_bind_eq_some.mp ran
      cases ran

theorem persists_rangeFrom (ext : Extends s t) (low : Escape) :
    Persists (Late 0) ((rangeFrom low).run s) ((rangeFrom low).run t) := by
  refine (persists_skipSpace ext).step fun _ s t _ ext => ?_
  refine Persists.peek ext (fun c shows => shows.peekSpaced? fun d e same => ?_) (persists_atEnd ?_)
  · have condition : (c ≠ '-' || e == some ']' || e == some '-') =
        (c ≠ '-' || d == some ']' || d == some '-') := by
      rcases same with rfl | ⟨rfl, rfl⟩ <;> rfl
    rw [condition]
    refine persists_ite (fun _ => ?_) fun _ => persists_rangeTo shows low
    exact (persists_itemSet (.ahead shows) low).of_never
  · exact leaves_peekSpaced?.after fun _ => leaves_ite (leaves_itemSet low) (leaves_rangeTo low)

theorem persists_setRange (ext : Extends s t) :
    Persists (Late 0) (setRange.run s) (setRange.run t) := by
  rw [setRange_eq]
  refine (persists_setItem ext).bind (fun low _ _ _ _ ext => persists_rangeFrom ext low) ?_
  rintro low t (behind | ⟨rfl, -⟩) set u ran
  · exact (leaves_rangeFrom low _ _ _ ran).trans (behind.trans (List.drop_suffix ..))
  · rw [rangeFrom_assertion] at ran
    cases ran

theorem prefix_append_closing {word cs : List Char} (noClose : ')' ∉ word) :
    word <+: cs ++ closing ↔ word <+: cs := by
  induction word generalizing cs with
  | nil => simp
  | cons w ws ih =>
    rw [List.mem_cons, not_or] at noClose
    cases cs with
    | nil => simp [closing, Ne.symm noClose.1]
    | cons c cs => rw [List.cons_append, List.cons_prefix_cons, List.cons_prefix_cons, ih noClose.2]

/-- What stops at a character of the text stops there in front of the closing too. -/
theorem span_append_closing {p : Char → Bool} {cs ds : List Char} {d : Char}
    (found : cs.dropWhile p = d :: ds) :
    (cs ++ closing).takeWhile p = cs.takeWhile p ∧
      (cs ++ closing).dropWhile p = d :: (ds ++ closing) := by
  have whole := congrArg List.length (List.takeWhile_append_dropWhile (p := p) (l := cs))
  rw [List.length_append, found, List.length_cons] at whole
  rw [List.takeWhile_append, List.dropWhile_append, found]
  exact ⟨if_neg (by omega), if_neg (by simp)⟩

theorem posixName?_eq_none {cs : List Char} (other : ¬['[', ':'] <+: cs) :
    posixName? cs = none := by
  unfold posixName?
  split
  · exact absurd ⟨_, rfl⟩ other
  · rfl

/-- The name of a class between brackets does not go on into the closing. -/
theorem posixName?_append (cs : List Char) : posixName? (cs ++ closing) =
    (posixName? cs).map fun found => (found.1, found.2.1, found.2.2 ++ closing) := by
  by_cases opened : ['[', ':'] <+: cs
  · obtain ⟨inside, rfl⟩ := opened
    have caret : (inside ++ closing).head? == some '^' ↔ inside.head? == some '^' := by
      cases inside <;> simp [closing]
    have named : (if inside.head? == some '^' then (inside ++ closing).tail else inside ++ closing)
        = (if inside.head? == some '^' then inside.tail else inside) ++ closing := by
      cases inside with
      | nil => rfl
      | cons d ds => split <;> rfl
    simp only [posixName?, List.cons_append, List.nil_append, Bool.eq_iff_iff.mpr caret]
    rw [named]
    generalize (if inside.head? == some '^' then inside.tail else inside) = ds
    cases behind : ds.dropWhile (· != ':') with
    | nil => simp [List.dropWhile_append, behind, closing]
    | cons d es =>
      obtain ⟨taken, left⟩ := span_append_closing behind
      rw [taken, left]
      cases es with
      | nil =>
        simp only [closing, List.nil_append]
        split
        · next last => simp at last
        · rfl
      | cons e es =>
        by_cases marks : d = ':' ∧ e = ']'
        · obtain ⟨rfl, rfl⟩ := marks
          simp only [List.cons_append]
          split <;> rfl
        · simp only [List.cons_append]
          split
          · next here => simp_all
          · split
            · next here => simp_all
            · rfl
  · rw [posixName?_eq_none opened, posixName?_eq_none]
    · rfl
    · rwa [prefix_append_closing (by decide)]

theorem dashesThenPeek_nil (n : Nat) (verbose : Bool) (names : List String) :
    (dashesThenPeek n).run ⟨[], verbose, names⟩ = none := by
  cases n <;> rfl

theorem dashesThenPeek_succ (n : Nat) : dashesThenPeek (n + 1) = (do
    if (← peek) = '-' then do
      dropSpaced
      let (dashes, c) ← dashesThenPeek n
      return (.char ⟨'-', false⟩ :: dashes, c)
    else return ([], ← peek)) := by
  simp only [dashesThenPeek, leadingDashes, bind_assoc]
  refine bind_congr fun c => ?_
  split
  · simp only [bind_assoc, pure_bind]
  · simp only [pure_bind]

/-- What is peeked at behind the dashes is ahead. -/
theorem head?_of_dashesThenPeek {n : Nat} {found : List ClassSet × Char} {s' : PatternState}
    (ran : (dashesThenPeek n).run s = some (found, s')) : s'.ahead.head? = some found.2 := by
  obtain ⟨dashes, ⟨cs, verbose, names⟩, -, ran⟩ := run_bind_eq_some.mp ran
  cases cs with
  | nil => cases ran
  | cons c cs =>
    cases ran
    rfl

/-- Where the dashes reach the end of the text, the first reading fails at the character that is
missing behind them, and the second finds the closing there. -/
theorem persists_dashesThenPeek (ext : Extends s t) {n m : Nat} (enough : s.ahead.length ≤ n)
    (enough' : t.ahead.length ≤ m) :
    Persists (Late 0) ((dashesThenPeek n).run s) ((dashesThenPeek m).run t) := by
  induction n generalizing s t m with
  | zero =>
    cases ext with
    | ahead shows => cases shows; simp at enough
    | atEnd verbose names => exact persists_atEnd (leaves_dashesThenPeek m) verbose names
    | hidden verbose names =>
      rw [dashesThenPeek_nil, dashesThenPeek_nil]
      exact persists_none
  | succ n ih =>
    cases ext with
    | atEnd verbose names => exact persists_atEnd (leaves_dashesThenPeek m) verbose names
    | hidden verbose names =>
      rw [dashesThenPeek_nil, dashesThenPeek_nil]
      exact persists_none
    | ahead shows =>
      obtain ⟨m, rfl⟩ : ∃ l, m = l + 1 := ⟨m - 1, by have := shows.length_pos; omega⟩
      rw [dashesThenPeek_succ, dashesThenPeek_succ]
      refine shows.peek (persists_ite (fun _ => ?_) fun _ =>
        shows.peek (persists_pure (.ahead shows) _))
      refine (persists_dropSpaced shows).step fun _ _ _ ran ext => ?_
      obtain ⟨shorter, shorter'⟩ := shows.length_lt ext (leaves_dropSpaced _ _ _ ran)
      refine (ih ext (by omega) (by omega)).andThen (fun _ _ _ _ ext => ?_) fun _ => leaves_pure _
      exact persists_pure ext _

theorem persists_setHeadFrom (ext : Extends s t) (negated : Bool) :
    Persists (Late 0) ((setHeadFrom negated).run s) ((setHeadFrom negated).run t) := by
  have rest (dashes : List ClassSet) (c : Char) : Leaves 0 (
      if dashes.isEmpty && c = ']' then do
        dropSpaced
        let _ ← peek
        return (negated, [.char ⟨']', false⟩])
      else return (negated, dashes) : PatternReader (Bool × List ClassSet)) :=
    leaves_ite (leaves_dropSpaced.after fun _ => leaves_peek.after fun _ => leaves_pure _)
      (leaves_pure _)
  refine Persists.peek ext (fun c shows => persists_get ?_) (persists_atEnd ?_)
  · refine (persists_dashesThenPeek ext le_rfl le_rfl).andThen (fun head s t ran ext => ?_)
      fun head => rest head.1 head.2
    refine persists_ite (fun _ => ?_) fun _ => persists_pure ext _
    refine (persists_dropSpaced (ext.shows (head?_of_dashesThenPeek ran))).step
      fun _ _ _ _ ext => ?_
    exact Persists.peek ext (fun _ shows => persists_pure (.ahead shows) _)
      (persists_atEnd (leaves_pure _))
  · exact leaves_get fun s => (leaves_dashesThenPeek _).after fun head => rest head.1 head.2

theorem persists_setHead (shows : Shows c s t) :
    Persists (Late 0) (setHead.run s) (setHead.run t) := by
  rw [setHead_eq]
  refine (persists_dropSpaced shows).step fun _ s t _ ext => ?_
  refine Persists.peek ext (fun c shows => persists_ite (fun _ => ?_) fun _ => ?_)
    (persists_atEnd ?_)
  · exact (persists_dropSpaced shows).step fun _ _ _ _ ext => persists_setHeadFrom ext true
  · exact persists_setHeadFrom (.ahead shows) false
  · exact leaves_setHeadFrom false

/-- A late result of the first reader leaves the closing ahead, and the second takes at least one
character of it. -/
theorem Persists.closes (first : Persists (Late 0) (f.run s) (f'.run t))
    (next : ∀ x s' t', f.run s = some (x, s') → Extends s' t' →
      Persists (Late 1) ((g x).run s') ((g' x).run t'))
    (leaves : ∀ x, Leaves 1 (g' x)) : Persists (Late 1) ((f >>= g).run s) ((f' >>= g').run t) :=
  first.bind (fun x s' t' ran _ => next x s' t' ran) fun x t' behind y u ran =>
    suffix_drop_add behind (leaves x t' y u ran)

/-- The closing does not make a mark of what begins an item. -/
theorem BeginsItem.append {cs : List Char} (item : BeginsItem cs) : BeginsItem (cs ++ closing) where
  nonempty := by simp [closing]
  noClose := by
    rw [List.head?_append_of_ne_nil cs item.nonempty]
    exact item.noClose
  noOpen := by
    rw [List.head?_append_of_ne_nil cs item.nonempty]
    exact item.noOpen
  noSign d sign ahead := by
    refine item.noSign d sign ((prefix_append_closing ?_).mp ahead)
    rintro close
    obtain rfl : ')' = d := by simpa using close
    exact absurd sign (by decide)

/-- How a set goes on behind blank space, by the text ahead. -/
def setRestBy (n : Nat) (left : Option (ClassSet × SetOperator)) (items : List ClassSet) :
    List Char → PatternReader ClassSet
  | [] => failure
  | ']' :: _ => do
    drop
    return joinSet left items
  | '&' :: '&' :: _ => do
    drop
    drop
    setAt.setRest n (some (joinSet left items, .inter)) []
  | '-' :: '-' :: _ => do
    drop
    drop
    setAt.setRest n (some (joinSet left items, .minus)) []
  | '~' :: '~' :: _ => do
    drop
    drop
    setAt.setRest n (some (joinSet left items, .symmetric)) []
  | '[' :: rest =>
    match posixName? ('[' :: rest) with
    | some (name, negated, rest) => do
      modify fun s => { s with ahead := rest }
      setAt.setRest n left (.posix name negated :: items)
    | none => do
      let (negated, inner) ← setHead
      let set ← setAt.setRest n none inner.reverse
      setAt.setRest n left (.bracketed negated set :: items)
  | _ => do
    let item ← setRange
    setAt.setRest n left (item :: items)

theorem setRest_succ (n : Nat) (left : Option (ClassSet × SetOperator)) (items : List ClassSet) :
    setAt.setRest (n + 1) left items
      = (skipSpace >>= fun _ => get >>= fun s => setRestBy n left items s.ahead) := by
  rw [setAt.setRest]
  rfl

theorem setRestBy_operator {d : Char} (sign : d ∈ ['&', '-', '~']) :
    ∃ operator, ∀ n left items cs, setRestBy n left items (d :: d :: cs) = (do
      drop
      drop
      setAt.setRest n (some (joinSet left items, operator)) []) := by
  simp only [List.mem_cons, List.not_mem_nil, or_false] at sign
  rcases sign with rfl | rfl | rfl
  · exact ⟨.inter, fun _ _ _ _ => rfl⟩
  · exact ⟨.minus, fun _ _ _ _ => rfl⟩
  · exact ⟨.symmetric, fun _ _ _ _ => rfl⟩

theorem setRestBy_item {cs : List Char} (item : BeginsItem cs) (n : Nat)
    (left : Option (ClassSet × SetOperator)) (items : List ClassSet) :
    setRestBy n left items cs
      = setRange >>= fun item => setAt.setRest n left (item :: items) := by
  obtain ⟨nonempty, noClose, noOpen, noSign⟩ := item
  unfold setRestBy
  split
  · exact absurd rfl nonempty
  · exact absurd rfl noClose
  · exact absurd ⟨_, rfl⟩ (noSign '&' (by decide))
  · exact absurd ⟨_, rfl⟩ (noSign '-' (by decide))
  · exact absurd ⟨_, rfl⟩ (noSign '~' (by decide))
  · exact absurd rfl noOpen
  · rfl

/-- The rest of a set is read alike where its text is within these bounds. -/
def SetRestPersists (n m : Nat) : Prop :=
  ∀ {s t : PatternState}, Extends s t → ∀ left items, s.ahead.length < n → t.ahead.length < m →
    Persists (Late 1) ((setAt.setRest n left items).run s) ((setAt.setRest m left items).run t)

section
variable {n m : Nat} (set : SetRestPersists n m) (shows : Shows c s t)
  (enough : s.ahead.length < n + 1) (enough' : t.ahead.length < m + 1)
include set shows enough enough'

theorem SetRestPersists.behind {s' t' : PatternState} (ext : Extends s' t')
    (passed : s'.ahead <:+ s.ahead.drop 1) (left : Option (ClassSet × SetOperator))
    (items : List ClassSet) :
    Persists (Late 1) ((setAt.setRest n left items).run s')
      ((setAt.setRest m left items).run t') := by
  obtain ⟨shorter, shorter'⟩ := shows.length_lt ext passed
  exact set ext left items (by omega) (by omega)

theorem SetRestPersists.item (begins : BeginsItem s.ahead)
    (left : Option (ClassSet × SetOperator)) (items : List ClassSet) :
    Persists (Late 1) ((setRestBy n left items s.ahead).run s)
      ((setRestBy m left items t.ahead).run t) := by
  have begins' : BeginsItem t.ahead := by
    cases shows
    exact begins.append
  rw [setRestBy_item begins, setRestBy_item begins']
  refine (persists_setRange (.ahead shows)).closes (fun item _ _ ran ext => ?_)
    fun item => leaves_setRest _ _ _
  exact set.behind shows enough enough' ext (leaves_setRange _ _ _ ran) _ _

theorem SetRestPersists.operator {d : Char} (sign : d ∈ ['&', '-', '~'])
    {tail : List Char} (twice : s.ahead = d :: d :: tail)
    (left : Option (ClassSet × SetOperator)) (items : List ClassSet) :
    Persists (Late 1) ((setRestBy n left items s.ahead).run s)
      ((setRestBy m left items t.ahead).run t) := by
  obtain ⟨operator, read⟩ := setRestBy_operator sign
  obtain ⟨cs, verbose, names⟩ := id shows
  cases twice
  rw [read, List.cons_append, read]
  refine (persists_drop shows).step fun _ _ _ ran ext => ?_
  cases ran
  refine (persists_drop (ext.shows rfl)).step fun _ _ _ ran ext => ?_
  cases ran
  exact set.behind shows enough enough' ext (List.suffix_cons ..) _ _
end

/-- A set inside a set has a name between colons, or a head of its own. -/
theorem SetRestPersists.nested {n m : Nat} (set : SetRestPersists n m) (shows : Shows '[' s t)
    (enough : s.ahead.length < n + 1) (enough' : t.ahead.length < m + 1)
    (left : Option (ClassSet × SetOperator)) (items : List ClassSet) :
    Persists (Late 1) ((setRestBy n left items s.ahead).run s)
      ((setRestBy m left items t.ahead).run t) := by
  obtain ⟨cs, verbose, names⟩ := id shows
  have found := posixName?_append ('[' :: cs)
  rw [List.cons_append] at found
  simp only [setRestBy, found]
  cases named : posixName? ('[' :: cs) with
  | some known =>
    obtain ⟨name, negated, rest⟩ := known
    exact set.behind shows enough enough' (.behind rest verbose names) (posixName?_suffix named)
      left _
  | none =>
    refine (persists_setHead shows).closes (fun head s t ran ext => ?_) fun head =>
      (leaves_setRest _ _ _).andThen fun _ => (leaves_setRest _ _ _).least
    have passed := leaves_setHead _ _ _ ran
    refine (set.behind shows enough enough' ext passed none _).andThen
      (fun inner _ _ ran ext => ?_) fun inner => (leaves_setRest _ _ _).least
    exact set.behind shows enough enough' ext
      (((leaves_setRest _ _ _).least _ _ _ ran).trans passed) left _

theorem persists_setRest {n m : Nat} : SetRestPersists n m := by
  induction n generalizing m with
  | zero =>
    intro s t ext left items enough
    omega
  | succ n ih =>
    intro s t ext left items enough enough'
    obtain ⟨m, rfl⟩ : ∃ l, m = l + 1 := ⟨m - 1, by omega⟩
    rw [setRest_succ, setRest_succ]
    refine (persists_skipSpace ext).stepWithin leaves_skipSpace leaves_skipSpace
      fun _ s t ext shorter shorter' => persists_get ?_
    replace enough := shorter.trans_lt enough
    replace enough' := shorter'.trans_lt enough'
    cases ext with
    | hidden verbose names => exact persists_none
    | atEnd verbose names =>
      exact persists_atEnd (leaves_setRange.andThen fun _ => (leaves_setRest _ _ _).least) _ _
    | @ahead c _ _ shows =>
      -- The text ahead decides how the set goes on, and the closing changes nothing of that: it
      -- has no bracket and none of the signs in it.
      by_cases close : c = ']'
      · subst close
        obtain ⟨cs, verbose, names⟩ := shows
        exact ⟨_, rfl, .behind cs verbose names⟩
      by_cases opened : c = '['
      · subst opened
        exact ih.nested shows enough enough' left items
      by_cases twice : ∃ d ∈ ['&', '-', '~'], ∃ tail, s.ahead = d :: d :: tail
      · obtain ⟨d, sign, tail, twice⟩ := twice
        exact ih.operator shows enough enough' sign twice left items
      · refine ih.item shows enough enough' ?_ left items
        obtain ⟨cs, verbose, names⟩ := shows
        refine ⟨List.cons_ne_nil _ _, fun is => close (Option.some_inj.mp is),
          fun is => opened (Option.some_inj.mp is), ?_⟩
        rintro d sign ⟨tail, same⟩
        exact twice ⟨d, sign, tail, same.symm⟩

theorem persists_setAt (shows : Shows c s t) {n m : Nat} (enough : s.ahead.length < n)
    (enough' : t.ahead.length < m) :
    Persists (Late 1) ((setAt n).run s) ((setAt m).run t) := by
  obtain ⟨n, rfl⟩ : ∃ l, n = l + 1 := ⟨n - 1, by omega⟩
  obtain ⟨m, rfl⟩ : ∃ l, m = l + 1 := ⟨m - 1, by omega⟩
  refine (persists_setHead shows).closes (fun head s' t' ran ext => ?_) fun head => ?_
  · obtain ⟨shorter, shorter'⟩ := shows.length_lt ext (leaves_setHead _ _ _ ran)
    refine (persists_setRest ext _ _ (by omega) (by omega)).andThen (fun _ _ _ _ ext => ?_)
      fun _ => leaves_pure _
    exact persists_pure ext _
  · exact (leaves_setRest _ _ _).andThen fun _ => leaves_pure _

/-! ## Groups -/

theorem persists_flagsUpTo (ext : Extends s t) (on dangling : Bool) (settings : List FlagSetting)
    {n m : Nat} (enough : s.ahead.length < n) (enough' : t.ahead.length < m) :
    Persists (Late 0) ((flagsUpTo n on dangling settings).run s)
      ((flagsUpTo m on dangling settings).run t) := by
  induction n generalizing s t m on dangling settings with
  | zero => omega
  | succ n ih =>
    obtain ⟨m, rfl⟩ : ∃ l, m = l + 1 := ⟨m - 1, by omega⟩
    have next {c : Char} (shows : Shows c s t) (on dangling : Bool) (settings : List FlagSetting) :
        Persists (Late 0) ((drop >>= fun _ => flagsUpTo n on dangling settings).run s)
          ((drop >>= fun _ => flagsUpTo m on dangling settings).run t) := by
      refine (persists_drop shows).step fun _ _ _ ran ext => ?_
      obtain ⟨shorter, shorter'⟩ := shows.length_lt ext (leaves_drop _ _ _ ran)
      exact ih ext on dangling settings (by omega) (by omega)
    cases ext with
    | atEnd verbose names => exact persists_atEnd (leaves_flagsUpTo (m + 1) _ _ _) verbose names
    | hidden verbose names => exact persists_none
    | ahead shows =>
      refine shows.peek (persists_ite (fun _ => ?_) fun _ => persists_ite (fun _ => ?_) fun _ => ?_)
      · exact persists_ite (fun _ => persists_none) fun _ => persists_pure (.ahead shows) _
      · exact persists_ite (fun _ => next shows _ _ _) fun _ => persists_none
      · split
        · exact persists_none
        · exact persists_ite (fun _ => persists_none) fun _ => next shows _ _ _

/-- A name that the text does not end is not ended by the closing either. -/
theorem persists_groupName (ext : Extends s t) :
    Persists Never (groupName.run s) (groupName.run t) := by
  obtain ⟨cs, verbose, names, rfl, rfl⟩ | ⟨verbose, names, rfl, rfl⟩ := ext.behind_or_hidden
  · have rest (ds : List Char) :
        ds.drop (ds.takeWhile (· != '>')).length = ds.dropWhile (· != '>') := by
      have split : (ds.takeWhile (· != '>') ++ ds.dropWhile (· != '>')).drop
          (ds.takeWhile (· != '>')).length = ds.dropWhile (· != '>') := List.drop_left
      rwa [List.takeWhile_append_dropWhile] at split
    simp only [groupName, StateT.run_bind, StateT.run_get, Option.bind_eq_bind, Option.pure_def,
      Option.bind_some, rest]
    cases behind : cs.dropWhile (· != '>') with
    | nil =>
      rw [List.dropWhile_append, behind]
      exact persists_none
    | cons d ds =>
      obtain ⟨taken, left⟩ := span_append_closing behind
      rw [taken, left]
      cases cs.takeWhile (· != '>') with
      | nil => exact persists_none
      | cons first others =>
        exact persists_ite (fun _ => ⟨_, rfl, .behind ds verbose _⟩) fun _ => persists_none
  · exact persists_none

/-- A word without the mark that ends groups is ahead in both readings or in neither. -/
theorem Extends.isPrefixOf_eq (ext : Extends s t) {word : List Char} (noClose : ')' ∉ word) :
    word.isPrefixOf t.ahead = word.isPrefixOf s.ahead := by
  obtain ⟨cs, verbose, names, rfl, rfl⟩ | ⟨verbose, names, rfl, rfl⟩ := ext.behind_or_hidden
  · rw [Bool.eq_iff_iff, List.isPrefixOf_iff_prefix, List.isPrefixOf_iff_prefix,
      prefix_append_closing noClose]
  · rfl

theorem persists_dropWord (ext : Extends s t) {word : List Char} (noClose : ')' ∉ word) :
    Persists Never ((dropWord word).run s) ((dropWord word).run t) := by
  refine persists_get ?_
  rw [ext.isPrefixOf_eq noClose]
  refine persists_ite (fun ahead => ⟨_, rfl, ?_⟩) fun _ => persists_pure ext false
  obtain ⟨cs, verbose, names, rfl, rfl⟩ | ⟨verbose, names, rfl, rfl⟩ := ext.behind_or_hidden
  · obtain ⟨rest, rfl⟩ := List.isPrefixOf_iff_prefix.mp ahead
    simp only [List.append_assoc, List.drop_left]
    exact .behind rest verbose names
  · simp only [List.drop_nil]
    exact .hidden verbose names

theorem persists_groupHead (shows : Shows c s t) :
    Persists (Late 1) (groupHead.run s) (groupHead.run t) := by
  have named {s t : PatternState} (ext : Extends s t) : Persists (Late 1)
      ((groupName >>= fun _ => pure (GroupHead.group true [])).run s)
      ((groupName >>= fun _ => pure (GroupHead.group true [])).run t) :=
    (persists_groupName ext).step fun _ _ _ _ ext => persists_pure ext _
  refine (persists_drop shows).step fun _ s t _ ext => ?_
  refine (persists_skipSpace ext).step fun _ s t _ ext => persists_get ?_
  have looks {words : List (List Char)} (noClose : ∀ word ∈ words, ')' ∉ word) :
      words.any (·.isPrefixOf t.ahead) = true ↔ words.any (·.isPrefixOf s.ahead) = true := by
    simp only [List.any_eq_true]
    refine exists_congr fun word => and_congr_right fun member => ?_
    rw [ext.isPrefixOf_eq (noClose word member)]
  refine persists_check (looks (by decide)) fun _ => ?_
  refine (persists_dropWord ext (by decide)).step fun found s t _ ext => ?_
  refine persists_ite (fun _ => named ext) fun _ => ?_
  refine (persists_dropWord ext (by decide)).step fun found s t _ ext => ?_
  refine persists_ite (fun _ => named ext) fun _ => ?_
  refine (persists_dropWord ext (by decide)).step fun found s t _ ext => ?_
  refine persists_ite (fun _ => persists_get ?_) fun _ => persists_pure ext _
  have ends (settings : List FlagSetting) (c : Char) : Leaves 1 (do
      drop
      if c = ')' then if settings.isEmpty then failure else return .settings settings
      else return .group false settings : PatternReader GroupHead) :=
    leaves_drop.andThen fun _ => leaves_ite (leaves_ite leaves_failure (leaves_pure _))
      (leaves_pure _)
  refine (persists_flagsUpTo ext _ _ _ (Nat.lt_succ_self _) (Nat.lt_succ_self _)).closes
    (fun settings s t _ ext => ?_) fun settings => leaves_peek.after (ends settings)
  refine Persists.peek ext (fun c shows => ?_) (persists_atEnd (ends settings _))
  refine (persists_drop shows).step fun _ _ _ _ ext => ?_
  refine persists_ite (fun _ => ?_) fun _ => persists_pure ext _
  exact persists_ite (fun _ => persists_none) fun _ => persists_pure ext _

/-! ## Repetitions -/

theorem persists_repeatLast (ext : Extends s t) (least : Nat) (most : Option Nat)
    (parts : List Pattern) :
    Persists Never ((repeatLast least most parts).run s) ((repeatLast least most parts).run t) := by
  cases parts with
  | nil => exact persists_none
  | cons last parts => exact persists_ite (fun _ => persists_pure ext _) fun _ => persists_none

theorem persists_dropReluctant (ext : Extends s t) :
    Persists Never (dropReluctant.run s) (dropReluctant.run t) := by
  refine Persists.peek? ext (fun c shows => ?_) fun _ d member => ?_
  · exact persists_ite (fun _ => persists_drop shows) fun _ => persists_pure ext _
  · simp only [List.mem_cons, List.not_mem_nil, or_false] at member
    rcases member with rfl | rfl <;> exact persists_pure ext _

theorem persists_countsFrom (ext : Extends s t) (least : Nat) (most : Option Nat) :
    Persists Never ((countsFrom least most).run s) ((countsFrom least most).run t) := by
  refine Persists.peek ext (fun c shows => ?_) fun _ _ => persists_none
  refine persists_check Iff.rfl fun _ => (persists_dropSpaced shows).step fun _ s t _ ext => ?_
  refine (persists_dropReluctant ext).step fun _ s t _ ext => ?_
  cases most with
  | none => exact persists_pure ext _
  | some m => exact persists_ite (fun _ => persists_pure ext _) fun _ => persists_none

/-- There is no count in front of the closing. -/
theorem run_count_closing (verbose : Bool) (names : List String) :
    count.run ⟨closing, verbose, names⟩ = none := by
  refine Option.eq_none_iff_forall_ne_some.mpr fun (n, t) ran => ?_
  obtain ⟨_, _, ⟨⟩, ran⟩ := run_bind_eq_some.mp ran
  obtain ⟨_, _, ⟨⟩, ran⟩ := run_bind_eq_some.mp ran
  obtain ⟨digits, _, read, ran⟩ := run_bind_eq_some.mp ran
  obtain ⟨_, _, -, ran⟩ := run_bind_eq_some.mp ran
  obtain ⟨_, _, -, ran⟩ := run_bind_eq_some.mp ran
  have none : digits = [] := by
    rw [digitsUpTo_eq, charsUpTo_end] at read
    · cases read
      rfl
    · dsimp only
      rw [dropWhile_isSpace_closing]
      rintro _ ⟨⟩
      decide
  subst none
  cases ran

theorem persists_counts (shows : Shows c s t) : Persists Never (counts.run s) (counts.run t) := by
  have closed {k : Nat → PatternReader (Nat × Option Nat)} (verbose : Bool) (names : List String) :
      Persists Never none ((count >>= k).run ⟨closing, verbose, names⟩) := by
    rw [StateT.run_bind, run_count_closing]
    exact persists_none
  rw [counts_eq]
  refine (persists_dropSpaced shows).step fun _ s t _ ext => ?_
  refine Persists.peek ext (fun c shows => ?_) closed
  refine (persists_count ext).step fun least s t _ ext => ?_
  refine Persists.peek ext (fun c shows => ?_) fun _ _ => persists_none
  refine persists_ite (fun _ => ?_) fun _ => persists_countsFrom ext _ _
  refine (persists_dropSpaced shows).step fun _ s t _ ext => ?_
  refine Persists.peek ext (fun c shows => ?_) closed
  refine persists_ite (fun _ => persists_countsFrom ext _ _) fun _ => ?_
  exact (persists_count ext).step fun _ s t _ ext => persists_countsFrom ext _ _

/-! ## Patterns -/

theorem persists_primitive (shows : Shows c s t) :
    Persists (fun part t => Late 1 part t ∨ Stuck t) (primitive.run s) (primitive.run t) := by
  refine shows.peek ((persists_drop shows).step fun _ s t _ ext => ?_)
  split
  · refine (persists_escape ext).bind (fun item _ _ _ _ ext => ?_) ?_
    · cases item <;> exact persists_pure ext _
    · intro item t late part u ran
      obtain rfl : u = t := by cases item <;> cases ran <;> rfl
      exact late.imp id And.right
  all_goals exact persists_pure ext _

/-- The closing is no count, so the counts that the brace begins are not there. -/
theorem Stuck.counts {u : PatternState} (stuck : Stuck u) : PatternReader.counts.run u = none := by
  obtain ⟨-, verbose, names, toClosing⟩ := stuck
  refine Option.eq_none_iff_forall_ne_some.mpr fun (bounds, t) ran => ?_
  rw [counts_eq] at ran
  obtain ⟨_, _, dropped, ran⟩ := run_bind_eq_some.mp ran
  cases toClosing.symm.trans dropped
  obtain ⟨_, _, ⟨⟩, ran⟩ := run_bind_eq_some.mp ran
  obtain ⟨_, _, counted, -⟩ := run_bind_eq_some.mp ran
  cases (run_count_closing verbose names).symm.trans counted

theorem Stuck.skipSpace {u : PatternState} (stuck : Stuck u) :
    PatternReader.skipSpace.run u = some ((), u) := by
  obtain ⟨cs, verbose, names⟩ := u
  obtain ⟨cs, rfl⟩ := List.head?_eq_some_iff.mp stuck.1
  have visible : isSpace '\x7b' = false := by decide +kernel
  cases verbose with
  | false => rfl
  | true =>
    have same : withoutSpace (('\x7b' :: cs).length + 1) ('\x7b' :: cs) = '\x7b' :: cs := by
      rw [withoutSpace_visible] <;> simp [visible]
    show some ((), PatternState.mk (withoutSpace _ _) true names) = _
    rw [same]

/-- Behind an assertion that went back to a brace, a pattern cannot go on. -/
theorem Stuck.patternUpTo {u : PatternState} (stuck : Stuck u) (n : Nat)
    (branches parts : List Pattern) :
    (PatternReader.patternUpTo n branches parts).run u = none := by
  cases n with
  | zero => rfl
  | succ n =>
    refine Option.eq_none_iff_forall_ne_some.mpr fun (pattern, t) ran => ?_
    rw [patternUpTo_succ] at ran
    obtain ⟨_, _, skipped, ran⟩ := run_bind_eq_some.mp ran
    cases stuck.skipSpace.symm.trans skipped
    obtain ⟨_, _, ⟨⟩, ran⟩ := run_bind_eq_some.mp ran
    rw [stuck.1] at ran
    obtain ⟨_, _, counted, -⟩ := run_bind_eq_some.mp ran
    cases stuck.counts.symm.trans counted

theorem Extends.verbose_eq (ext : Extends s t) : t.verbose = s.verbose := by
  obtain ⟨cs, verbose, names, rfl, rfl⟩ | ⟨verbose, names, rfl, rfl⟩ := ext.behind_or_hidden
  · rfl
  · rfl

theorem persists_setVerbose (ext : Extends s t) (on : Bool) :
    Persists Never ((modify fun s => { s with verbose := on } : PatternReader Unit).run s)
      ((modify fun s => { s with verbose := on } : PatternReader Unit).run t) := by
  refine ⟨_, rfl, ?_⟩
  obtain ⟨cs, verbose, names, rfl, rfl⟩ | ⟨verbose, names, rfl, rfl⟩ := ext.behind_or_hidden
  · exact .behind cs on names
  · exact .hidden on names

/-- From the same place, the bounds suffice to read a pattern in both readings. -/
def PatternPersists (n m : Nat) : Prop :=
  ∀ {s t : PatternState}, Extends s t → ∀ branches parts, s.ahead.length < n →
    t.ahead.length < m → Persists (Late 1) ((patternUpTo n branches parts).run s)
      ((patternUpTo m branches parts).run t)

theorem persists_groupFrom {n m : Nat} (pattern : PatternPersists n m) (ext : Extends s t)
    (enough : s.ahead.length < n) (enough' : t.ahead.length < m)
    (branches parts : List Pattern) (head : GroupHead) :
    Persists (Late 1) ((groupFrom n branches parts head).run s)
      ((groupFrom m branches parts head).run t) := by
  cases head with
  | settings settings =>
    rw [groupFrom, groupFrom]
    cases verboseSetting? settings with
    | none => exact pattern ext _ _ enough enough'
    | some on =>
      refine (persists_setVerbose ext on).stepWithin (leaves_setVerbose on) (leaves_setVerbose on)
        fun _ _ _ ext shorter shorter' => ?_
      exact pattern ext _ _ (by omega) (by omega)
  | group captures settings =>
    have rest (outer : Bool) (inner : Pattern) : Leaves 1 (do
        drop
        modify fun s => { s with verbose := outer }
        patternUpTo m branches (.group captures settings inner :: parts)) :=
      leaves_drop.andThen fun _ => (leaves_setVerbose outer).after fun _ =>
        leaves_patternUpTo _ _ _
    refine persists_get ?_
    rw [ext.verbose_eq]
    refine (persists_setVerbose ext _).stepWithin (leaves_setVerbose _) (leaves_setVerbose _)
      fun _ s₁ t₁ ext shorter₁ shorter₁' => ?_
    refine (pattern ext [] [] (by omega) (by omega)).bind (fun inner s₂ t₂ ran ran' ext => ?_) ?_
    · have shorter₂ : s₂.ahead.length ≤ s₁.ahead.length :=
        (leaves_patternUpTo _ _ _ _ _ _ ran).length_le
      have shorter₂' : t₂.ahead.length ≤ t₁.ahead.length :=
        (leaves_patternUpTo _ _ _ _ _ _ ran').length_le
      refine Persists.peek ext (fun c shows => ?_) (persists_atEnd (leaves_check (rest _ _)))
      refine persists_check Iff.rfl fun _ => ?_
      refine (persists_drop shows).step fun _ s₃ t₃ ran ext => ?_
      obtain ⟨shorter₃, shorter₃'⟩ := shows.length_lt ext (leaves_drop _ _ _ ran)
      refine (persists_setVerbose ext _).stepWithin (leaves_setVerbose _) (leaves_setVerbose _)
        fun _ s₄ t₄ ext shorter₄ shorter₄' => ?_
      exact pattern ext _ _ (by omega) (by omega)
    -- A late pattern inside has taken the parenthesis of the closing.
    · intro inner t behind pattern u ran
      refine List.IsSuffix.trans ?_ behind
      exact leaves_peek.after (fun c => leaves_check (rest _ _).least) _ _ _ ran

section
variable {n m : Nat} (pattern : PatternPersists n m) (shows : Shows c s t)
  (enough : s.ahead.length < n + 1) (enough' : t.ahead.length < m + 1)
include pattern shows enough enough'

theorem PatternPersists.behind {s' t' : PatternState} (ext : Extends s' t')
    (passed : s'.ahead <:+ s.ahead.drop 1) (branches parts : List Pattern) :
    Persists (Late 1) ((patternUpTo n branches parts).run s')
      ((patternUpTo m branches parts).run t') := by
  obtain ⟨shorter, shorter'⟩ := shows.length_lt ext passed
  exact pattern ext branches parts (by omega) (by omega)

theorem PatternPersists.repeated (least : Nat) (most : Option Nat)
    (branches parts : List Pattern) :
    Persists (Late 1) ((drop >>= fun _ => repeatedFrom n least most branches parts).run s)
      ((drop >>= fun _ => repeatedFrom m least most branches parts).run t) := by
  refine (persists_drop shows).step fun _ s₁ t₁ ran ext => ?_
  have passed₁ := leaves_drop _ _ _ ran
  refine (persists_dropReluctant ext).step fun _ s₂ t₂ ran ext => ?_
  have passed₂ := (leaves_dropReluctant _ _ _ ran).trans passed₁
  refine (persists_repeatLast ext _ _ _).step fun parts s₃ t₃ ran ext => ?_
  exact pattern.behind shows enough enough' ext
    ((leaves_repeatLast _ _ _ _ _ _ ran).trans passed₂) _ _
end

theorem persists_patternUpTo {n m : Nat} : PatternPersists n m := by
  induction n generalizing m with
  | zero =>
    intro s t ext branches parts enough
    omega
  | succ n ih =>
    intro s t ext branches parts enough enough'
    obtain ⟨m, rfl⟩ : ∃ l, m = l + 1 := ⟨m - 1, by omega⟩
    rw [patternUpTo_succ, patternUpTo_succ]
    refine (persists_skipSpace ext).stepWithin leaves_skipSpace leaves_skipSpace
      fun _ s t ext shorter shorter' => ?_
    replace enough := shorter.trans_lt enough
    replace enough' := shorter'.trans_lt enough'
    refine Persists.peek? ext (fun c shows => ?_) fun _ d member => ?_
    · split
      · next nothing => cases nothing
      · exact persists_pure ext _
      · exact (persists_drop shows).step fun _ _ _ ran ext =>
          ih.behind shows enough enough' ext (leaves_drop _ _ _ ran) _ _
      · refine (persists_groupHead shows).andThen (fun head s₁ t₁ ran ext => ?_)
          (leaves_groupFrom (leaves_patternUpTo m) branches parts)
        obtain ⟨shorter, shorter'⟩ := shows.length_lt ext (leaves_groupHead _ _ _ ran)
        exact persists_groupFrom ih ext (by omega) (by omega) branches parts head
      · refine persists_get
          ((persists_setAt shows (Nat.lt_succ_self _) (Nat.lt_succ_self _)).andThen
          (fun set _ _ ran ext => ?_) fun set => leaves_patternUpTo _ _ _)
        exact ih.behind shows enough enough' ext (leaves_setAt _ _ _ _ ran) _ _
      · exact ih.repeated shows enough enough' _ _ _ _
      · exact ih.repeated shows enough enough' _ _ _ _
      · exact ih.repeated shows enough enough' _ _ _ _
      · refine (persists_counts shows).step fun bounds s₁ t₁ ran ext => ?_
        have passed := leaves_counts _ _ _ ran
        refine (persists_repeatLast ext _ _ _).step fun parts s₂ t₂ ran ext => ?_
        exact ih.behind shows enough enough' ext
          ((leaves_repeatLast _ _ _ _ _ _ ran).trans passed) _ _
      · refine (persists_primitive shows).bind (fun part _ _ ran _ ext => ?_) ?_
        · exact ih.behind shows enough enough' ext (leaves_primitive _ _ _ ran) _ _
        -- A late part is made of the closing, or it stands in front of a brace where a pattern
        -- cannot go on.
        · rintro part t (behind | stuck) pattern u ran
          · exact (leaves_patternUpTo _ _ _ _ _ _ ran).trans behind
          · cases (stuck.patternUpTo _ _ _).symm.trans ran
    · simp only [List.mem_cons, List.not_mem_nil, or_false] at member
      rcases member with rfl | rfl <;> exact persists_pure ext _

end PatternReader

end JsonPath
