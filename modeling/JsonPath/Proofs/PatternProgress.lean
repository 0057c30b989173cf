import JsonPath.Proofs.PatternReading

/-!
# What readers of patterns leave

A reader of patterns passes over text and adds none: what it leaves is the end of what it found.
Readers that begin with a character of their own pass over that one at least, which is why the
length of the text bounds the recursion.

Results:
1. `Leaves.andThen`, `Leaves.after`: what one reader leaves behind another.
2. `leaves_escape`, `leaves_setAt`, `leaves_groupHead`, `leaves_primitive`: what readers of one part
   leave, at least one character less.
3. `leaves_patternUpTo`: what is left behind a pattern.
-/

namespace JsonPath

namespace PatternReader

variable {α β : Type} {f : PatternReader α} {g : α → PatternReader β} {j k : Nat}

/-- What the reader leaves is an end of what it found, with so many characters at its head passed
over. -/
def Leaves (count : Nat) (f : PatternReader α) : Prop :=
  ∀ s x s', f.run s = some (x, s') → s'.ahead <:+ s.ahead.drop count

theorem suffix_drop_add {cs ds es : List Char} (first : ds <:+ es.drop j)
    (second : cs <:+ ds.drop k) : cs <:+ es.drop (j + k) := by
  refine second.trans ?_
  rw [List.suffix_iff_eq_drop] at first
  rw [first, ← List.drop_drop, List.drop_drop, Nat.add_comm, ← List.drop_drop]
  exact List.drop_suffix ..

theorem Leaves.mono (leaves : Leaves j f) (fewer : k ≤ j) : Leaves k f := fun s x s' ran =>
  (leaves s x s' ran).trans (List.drop_suffix_drop_left s.ahead fewer)

theorem run_bind_eq_some {s t : PatternState} {y : β} :
    (f >>= g).run s = some (y, t) ↔
      ∃ x s', f.run s = some (x, s') ∧ (g x).run s' = some (y, t) := by
  rw [StateT.run_bind, Option.bind_eq_bind, Option.bind_eq_some_iff, Prod.exists]

theorem Leaves.least (leaves : Leaves k f) : Leaves 0 f := leaves.mono (Nat.zero_le k)

/-- What both of two readers pass over. -/
theorem Leaves.bind (first : Leaves j f) (next : ∀ x, Leaves k (g x)) :
    Leaves (j + k) (f >>= g) := by
  intro s y t ran
  obtain ⟨x, s', left, right⟩ := run_bind_eq_some.mp ran
  exact suffix_drop_add (first s x s' left) (next x s' y t right)

/-- What the first reader passes over. -/
theorem Leaves.andThen (first : Leaves k f) (next : ∀ x, Leaves 0 (g x)) : Leaves k (f >>= g) :=
  first.bind next

/-- What the second reader passes over. -/
theorem Leaves.after (first : Leaves j f) (next : ∀ x, Leaves k (g x)) : Leaves k (f >>= g) :=
  (first.bind next).mono (Nat.le_add_left k j)

theorem leaves_pure (x : α) : Leaves 0 (pure x : PatternReader α) := by
  rintro s _ _ ⟨⟩
  exact List.suffix_rfl

theorem leaves_failure : Leaves k (failure : PatternReader α) := fun _ _ _ ran => nomatch ran

theorem leaves_get {f : PatternState → PatternReader α} (next : ∀ s, Leaves k (f s)) :
    Leaves k (get >>= f) := fun s => next s s

theorem leaves_modify {h : PatternState → PatternState}
    (ends : ∀ s, (h s).ahead <:+ s.ahead.drop k) : Leaves k (modify h : PatternReader Unit) := by
  rintro s _ _ ⟨⟩
  exact ends s

theorem leaves_ite {condition : Prop} [Decidable condition] {f f' : PatternReader α}
    (holds : Leaves k f) (fails : Leaves k f') : Leaves k (if condition then f else f') := by
  split
  · exact holds
  · exact fails

/-- A check that fails or lets the reader go on. -/
theorem leaves_check {condition : Prop} [Decidable condition] {next : Unit → PatternReader α}
    (passed : Leaves k (next ())) :
    Leaves k (if condition then (failure : PatternReader Unit) >>= next else next ()) := by
  split
  · exact fun _ _ _ ran => nomatch ran
  · exact passed

/-! ## Characters and numbers -/

theorem withoutSpace_suffix (n : Nat) (cs : List Char) : withoutSpace n cs <:+ cs := by
  induction n generalizing cs with
  | zero => exact List.suffix_rfl
  | succ n ih =>
    have visible : cs.dropWhile isSpace <:+ cs := List.dropWhile_suffix _
    rw [withoutSpace]
    split
    · next rest comment =>
      rw [comment] at visible
      have behind : (rest.dropWhile (· != '\n')).drop 1 <:+ rest :=
        (List.drop_suffix ..).trans (List.dropWhile_suffix _)
      exact (ih _).trans (behind.trans ((List.suffix_cons ..).trans visible))
    · exact visible

theorem leaves_skipSpace : Leaves 0 skipSpace := by
  refine leaves_modify fun s => ?_
  split
  · exact withoutSpace_suffix ..
  · exact List.suffix_rfl

theorem leaves_peek? : Leaves 0 peek? := leaves_get fun _ => leaves_pure _

theorem leaves_peek : Leaves 0 peek := by
  refine leaves_get fun s => ?_
  split
  · exact leaves_failure
  · exact leaves_pure _

theorem leaves_drop : Leaves 1 drop := leaves_modify fun s => by
  rw [List.drop_one]

theorem leaves_dropSpaced : Leaves 1 dropSpaced := leaves_drop.andThen fun _ => leaves_skipSpace

theorem leaves_dropWord (word : List Char) : Leaves 0 (dropWord word) := by
  rintro s x s' ran
  simp only [dropWord, StateT.run_bind, StateT.run_get, Option.bind_eq_bind, Option.pure_def,
    Option.bind_some] at ran
  split at ran
  · cases ran
    exact List.drop_suffix ..
  · cases ran
    exact List.suffix_rfl

theorem leaves_peekSpaced? : Leaves 0 peekSpaced? := by
  refine leaves_get fun s => ?_
  split
  · dsimp only
    split <;> exact leaves_pure _
  · exact leaves_pure _

/-- The characters at the head of the text for which `p` holds, blank space among them aside in
verbose mode. -/
def charsUpTo (p : Char → Bool) : Nat → PatternReader (List Char)
  | 0 => return []
  | n + 1 => do
    match ← peek? with
    | some c =>
      if p c then do
        dropSpaced
        return c :: (← charsUpTo p n)
      else return []
    | none => return []

theorem digitsUpTo_eq (n : Nat) : digitsUpTo n = charsUpTo Char.isDigit n := by
  induction n with
  | zero => rfl
  | succ n ih =>
    rw [digitsUpTo, ih]
    rfl

theorem assertionName_eq (n : Nat) : assertionName n = charsUpTo isAssertionChar n := by
  induction n with
  | zero => rfl
  | succ n ih =>
    rw [assertionName, ih]
    rfl

theorem leaves_charsUpTo (p : Char → Bool) (n : Nat) : Leaves 0 (charsUpTo p n) := by
  induction n with
  | zero => exact leaves_pure []
  | succ n ih =>
    refine leaves_peek?.after fun next => ?_
    split
    · refine leaves_ite (leaves_dropSpaced.after fun _ => ?_) (leaves_pure [])
      exact ih.after fun _ => leaves_pure _
    · exact leaves_pure []

theorem leaves_count : Leaves 0 count := by
  have trim : Leaves 0 (modify fun s => { s with ahead := s.ahead.dropWhile isSpace }) :=
    leaves_modify fun _ => List.dropWhile_suffix _
  refine trim.after fun _ => leaves_get fun s => ?_
  refine (digitsUpTo_eq _ ▸ leaves_charsUpTo _ _).after fun digits => ?_
  refine trim.after fun _ => leaves_skipSpace.after fun _ => ?_
  exact leaves_ite leaves_failure (leaves_pure _)

theorem leaves_ofCodePoint (n : Nat) : Leaves 0 (ofCodePoint n) :=
  leaves_ite (leaves_pure _) leaves_failure

theorem leaves_hexDigits (n value : Nat) : Leaves 0 (hexDigits n value) := by
  induction n generalizing value with
  | zero => exact leaves_pure value
  | succ n ih =>
    refine leaves_peek.after fun c => ?_
    split
    · exact leaves_dropSpaced.after fun _ => ih _
    · exact leaves_failure

theorem leaves_hexUpToBrace (n : Nat) (some? : Bool) (value : Nat) :
    Leaves 0 (hexUpToBrace n some? value) := by
  induction n generalizing some? value with
  | zero => exact leaves_failure
  | succ n ih =>
    refine leaves_peek.after fun c => leaves_ite (leaves_ite ?_ leaves_failure) ?_
    · exact leaves_dropSpaced.after fun _ => leaves_pure _
    · split
      · exact leaves_dropSpaced.after fun _ => ih _ _
      · exact leaves_failure

theorem leaves_hexChar (width : Nat) : Leaves 1 (hexChar width) := by
  refine leaves_dropSpaced.andThen fun _ => leaves_peek.after fun c => leaves_ite ?_ ?_
  · refine leaves_dropSpaced.after fun _ => leaves_get fun s => ?_
    refine (leaves_hexUpToBrace _ _ _).after fun n => ?_
    exact (leaves_ofCodePoint n).after fun _ => leaves_pure _
  · exact (leaves_hexDigits _ _).after fun n => (leaves_ofCodePoint n).after fun _ => leaves_pure _

/-! ## Escapes -/

theorem leaves_nameUpToBrace (n : Nat) : Leaves 1 (nameUpToBrace n) := by
  induction n with
  | zero => exact leaves_failure
  | succ n ih =>
    refine leaves_peek.after fun c => leaves_ite ?_ ?_
    · exact leaves_drop.andThen fun _ => leaves_pure _
    · exact leaves_dropSpaced.andThen fun _ =>
        ih.after fun _ => leaves_pure _

theorem leaves_propertyClass (negated : Bool) : Leaves 1 (propertyClass negated) := by
  refine leaves_dropSpaced.andThen fun _ => leaves_peek.after fun c => ?_
  refine leaves_ite ?_ (leaves_ite leaves_failure ?_)
  · refine leaves_dropSpaced.after fun _ => leaves_get fun s => ?_
    exact (leaves_nameUpToBrace _).after fun _ => leaves_pure _
  · exact leaves_dropSpaced.after fun _ => leaves_pure _

/-- A brace that is no part of the assertion is gone back to. -/
theorem leaves_wordAssertion : Leaves 0 wordAssertion := by
  unfold wordAssertion
  refine leaves_peek?.after fun next => leaves_ite (leaves_pure _) ?_
  intro before x s' ran
  obtain ⟨_, _, ⟨⟩, ran⟩ := run_bind_eq_some.mp ran
  obtain ⟨_, s, passed, ran⟩ := run_bind_eq_some.mp ran
  obtain ⟨c, t, seen, ran⟩ := run_bind_eq_some.mp ran
  have behind : t.ahead <:+ before.ahead :=
    (leaves_peek _ _ _ seen).trans ((leaves_dropSpaced _ _ _ passed).trans (List.drop_suffix ..))
  split at ran
  · cases ran
    exact List.suffix_rfl
  · refine List.IsSuffix.trans ?_ behind
    refine leaves_get (k := 0) (fun u => ?_) _ _ _ ran
    refine (assertionName_eq _ ▸ leaves_charsUpTo _ _).after fun name => ?_
    refine leaves_peek.after fun c => leaves_check ?_
    refine leaves_drop.after fun _ => ?_
    split
    case h_5 => exact leaves_failure
    all_goals exact leaves_pure _

/-- One character is passed over at least, the one behind the backslash. -/
theorem leaves_escape : Leaves 1 escape := by
  unfold escape
  refine leaves_peek.after fun c => ?_
  split
  · exact (leaves_hexChar 2).andThen fun _ => leaves_pure _
  · exact (leaves_hexChar 4).andThen fun _ => leaves_pure _
  · exact (leaves_hexChar 8).andThen fun _ => leaves_pure _
  · exact (leaves_propertyClass false).andThen fun _ => leaves_pure _
  · exact (leaves_propertyClass true).andThen fun _ => leaves_pure _
  · refine leaves_drop.andThen fun _ => ?_
    split
    case h_15 => exact leaves_wordAssertion.after fun _ => leaves_pure _
    case h_19 => exact leaves_ite (leaves_pure _) leaves_failure
    all_goals exact leaves_pure _

/-! ## Brackets -/

theorem leaves_setItem : Leaves 1 setItem := by
  refine leaves_peek.after fun c => leaves_drop.andThen fun _ => leaves_ite ?_ (leaves_pure _)
  exact leaves_escape.least

theorem leaves_itemSet (item : Escape) : Leaves 0 (itemSet item) := by
  cases item with
  | assertion a => exact leaves_failure
  | char c => exact leaves_pure _
  | property named => exact leaves_pure _
  | letter named negated => exact leaves_pure _

theorem leaves_itemChar (item : Escape) : Leaves 0 (itemChar item) := by
  cases item with
  | char c => exact leaves_pure _
  | assertion a => exact leaves_failure
  | property named => exact leaves_failure
  | letter named negated => exact leaves_failure

/-- The dash of a range and its other end. -/
def rangeTo (low : Escape) : PatternReader ClassSet := do
  dropSpaced
  let _ ← peek
  let high ← setItem
  let low ← itemChar low
  let high ← itemChar high
  if low.char ≤ high.char then return .range low high else failure

/-- What follows the first item of what may be a range. -/
def rangeFrom (low : Escape) : PatternReader ClassSet := do
  skipSpace
  let c ← peek
  let next ← peekSpaced?
  if c ≠ '-' || next == some ']' || next == some '-' then itemSet low else rangeTo low

theorem setRange_eq : setRange = setItem >>= rangeFrom := rfl

theorem leaves_rangeTo (low : Escape) : Leaves 0 (rangeTo low) := by
  refine leaves_dropSpaced.after fun _ => leaves_peek.after fun _ => ?_
  refine leaves_setItem.after fun high => ?_
  refine (leaves_itemChar low).after fun low => (leaves_itemChar high).after fun high => ?_
  exact leaves_ite (leaves_pure _) leaves_failure

theorem leaves_rangeFrom (low : Escape) : Leaves 0 (rangeFrom low) :=
  leaves_skipSpace.after fun _ => leaves_peek.after fun _ => leaves_peekSpaced?.after fun _ =>
    leaves_ite (leaves_itemSet low) (leaves_rangeTo low)

theorem leaves_setRange : Leaves 1 setRange := leaves_setItem.andThen leaves_rangeFrom

theorem leaves_leadingDashes (n : Nat) : Leaves 0 (leadingDashes n) := by
  induction n with
  | zero => exact leaves_pure []
  | succ n ih =>
    refine leaves_peek.after fun c => leaves_ite ?_ (leaves_pure [])
    exact leaves_dropSpaced.after fun _ => ih.after fun _ => leaves_pure _

/-- The dashes at the head of a set and the character behind them, which is left unread. -/
def dashesThenPeek (n : Nat) : PatternReader (List ClassSet × Char) := do
  let dashes ← leadingDashes n
  return (dashes, ← peek)

/-- The head of a set behind its sign. -/
def setHeadFrom (negated : Bool) : PatternReader (Bool × List ClassSet) := do
  let _ ← peek
  let (dashes, c) ← dashesThenPeek (← get).ahead.length
  if dashes.isEmpty && c = ']' then do
    dropSpaced
    let _ ← peek
    return (negated, [.char ⟨']', false⟩])
  else return (negated, dashes)

theorem setHead_eq : setHead = (do
    dropSpaced
    if (← peek) = '^' then do
      dropSpaced
      setHeadFrom true
    else setHeadFrom false) := by
  refine bind_congr fun _ => bind_congr fun c => ?_
  by_cases caret : c = '^'
  · simp [caret, setHeadFrom, dashesThenPeek]
  · simp [caret, setHeadFrom, dashesThenPeek]

theorem leaves_dashesThenPeek (n : Nat) : Leaves 0 (dashesThenPeek n) :=
  (leaves_leadingDashes n).after fun _ => leaves_peek.after fun _ => leaves_pure _

theorem leaves_setHeadFrom (negated : Bool) : Leaves 0 (setHeadFrom negated) := by
  refine leaves_peek.after fun _ => leaves_get fun s => ?_
  refine (leaves_dashesThenPeek _).after fun head => ?_
  refine leaves_ite ?_ (leaves_pure _)
  exact leaves_dropSpaced.after fun _ => leaves_peek.after fun _ => leaves_pure _

theorem leaves_setHead : Leaves 1 setHead := by
  rw [setHead_eq]
  refine leaves_dropSpaced.andThen fun _ => leaves_peek.after fun c => ?_
  exact leaves_ite (leaves_dropSpaced.after fun _ => leaves_setHeadFrom true)
    (leaves_setHeadFrom false)

theorem posixName?_suffix {cs rest : List Char} {name : String} {negated : Bool}
    (found : posixName? cs = some (name, negated, rest)) : rest <:+ cs.drop 1 := by
  unfold posixName? at found
  split at found
  · next inside =>
    simp only at found
    split at found
    · next behind =>
      have marks : rest <:+ ':' :: ']' :: rest := ⟨[':', ']'], rfl⟩
      rw [Option.ite_none_right_eq_some] at found
      cases found.2
      have named : rest <:+ if inside.head? == some '^' then inside.tail else inside :=
        marks.trans (behind ▸ List.dropWhile_suffix _)
      have whole : (if inside.head? == some '^' then inside.tail else inside) <:+ inside := by
        split
        · exact List.tail_suffix inside
        · exact List.suffix_rfl
      exact (named.trans whole).trans (List.suffix_cons ':' inside)
    · cases found
  · cases found

theorem leaves_setRest (n : Nat) (left : Option (ClassSet × SetOperator)) (items : List ClassSet) :
    Leaves 1 (setAt.setRest n left items) := by
  induction n generalizing left items with
  | zero => exact leaves_failure
  | succ n ih =>
    rw [setAt.setRest]
    refine leaves_skipSpace.after fun _ => ?_
    intro s x s' ran
    obtain ⟨_, _, ⟨⟩, ran⟩ := run_bind_eq_some.mp ran
    have operator (set : ClassSet) (sign : SetOperator) : Leaves 1 (do
        drop
        drop
        setAt.setRest n (some (set, sign)) []) :=
      leaves_drop.after fun _ => leaves_drop.after fun _ => ih _ _
    split at ran
    · cases ran
    · exact leaves_drop.andThen (fun _ => leaves_pure _) _ _ _ ran
    · exact operator _ _ _ _ _ ran
    · exact operator _ _ _ _ _ ran
    · exact operator _ _ _ _ _ ran
    · next rest opened =>
      split at ran
      · next found =>
        obtain ⟨_, _, ⟨⟩, ran⟩ := run_bind_eq_some.mp ran
        rw [opened]
        exact ((ih _ _).least _ _ _ ran).trans (posixName?_suffix found)
      · refine leaves_setHead.andThen (fun head => ?_) _ _ _ ran
        exact (ih _ _).after fun _ => (ih _ _).least
    · exact leaves_setRange.andThen (fun _ => (ih _ _).least) _ _ _ ran

theorem leaves_setAt (n : Nat) : Leaves 1 (setAt n) := by
  cases n with
  | zero => exact leaves_failure
  | succ n =>
    refine leaves_setHead.andThen fun head => ?_
    exact (leaves_setRest _ _ _).after fun _ => leaves_pure _

/-! ## Groups -/

theorem leaves_flagsUpTo (n : Nat) (on dangling : Bool) (settings : List FlagSetting) :
    Leaves 0 (flagsUpTo n on dangling settings) := by
  induction n generalizing on dangling settings with
  | zero => exact leaves_failure
  | succ n ih =>
    refine leaves_peek.after fun c => leaves_ite ?_ (leaves_ite ?_ ?_)
    · exact leaves_ite leaves_failure (leaves_pure _)
    · exact leaves_ite (leaves_drop.after fun _ => ih _ _ _) leaves_failure
    · split
      · exact leaves_failure
      · exact leaves_ite leaves_failure (leaves_drop.after fun _ => ih _ _ _)

theorem leaves_groupName : Leaves 0 groupName := by
  intro s x s' ran
  obtain ⟨_, _, ⟨⟩, ran⟩ := run_bind_eq_some.mp ran
  dsimp only at ran
  split at ran
  · cases ran
  · next behind =>
    split at ran
    · cases ran
    · split at ran
      · cases ran
        exact (List.suffix_cons ..).trans (behind ▸ List.drop_suffix ..)
      · cases ran

theorem leaves_groupHead : Leaves 1 groupHead := by
  have named : Leaves 0 (groupName >>= fun _ => pure (GroupHead.group true [])) :=
    leaves_groupName.after fun _ => leaves_pure _
  refine leaves_drop.andThen fun _ => leaves_skipSpace.after fun _ => leaves_get fun s => ?_
  refine leaves_check ((leaves_dropWord _).after fun _ => leaves_ite named ?_)
  refine (leaves_dropWord _).after fun _ => leaves_ite named ?_
  refine (leaves_dropWord _).after fun _ => leaves_ite (leaves_get fun s => ?_) (leaves_pure _)
  refine (leaves_flagsUpTo _ _ _ _).after fun settings => leaves_peek.after fun c => ?_
  refine leaves_drop.after fun _ => leaves_ite ?_ (leaves_pure _)
  exact leaves_ite leaves_failure (leaves_pure _)

/-! ## Patterns -/

theorem leaves_repeatLast (least : Nat) (most : Option Nat) (parts : List Pattern) :
    Leaves 0 (repeatLast least most parts) := by
  cases parts with
  | nil => exact leaves_failure
  | cons last parts => exact leaves_ite (leaves_pure _) leaves_failure

theorem leaves_dropReluctant : Leaves 0 dropReluctant :=
  leaves_peek?.after fun _ => leaves_ite (leaves_drop.least) (leaves_pure _)

/-- The closing brace behind the counts of a repetition. -/
def countsFrom (least : Nat) (most : Option Nat) : PatternReader (Nat × Option Nat) := do
  if (← peek) ≠ '\x7d' then failure
  dropSpaced
  dropReluctant
  match most with
  | some m => if least ≤ m then return (least, most) else failure
  | none => return (least, none)

theorem counts_eq : counts = (do
    dropSpaced
    let _ ← peek
    let least ← count
    if (← peek) = ',' then do
      dropSpaced
      if (← peek) = '\x7d' then countsFrom least none
      else countsFrom least (some (← count))
    else countsFrom least (some least)) := rfl

theorem leaves_countsFrom (least : Nat) (most : Option Nat) : Leaves 0 (countsFrom least most) := by
  refine leaves_peek.after fun c => leaves_check ?_
  refine leaves_dropSpaced.after fun _ => leaves_dropReluctant.after fun _ => ?_
  cases most with
  | none => exact leaves_pure _
  | some m => exact leaves_ite (leaves_pure _) leaves_failure

theorem leaves_counts : Leaves 1 counts := by
  rw [counts_eq]
  refine leaves_dropSpaced.andThen fun _ => leaves_peek.after fun _ => ?_
  refine leaves_count.after fun least => leaves_peek.after fun c => ?_
  refine leaves_ite ?_ (leaves_countsFrom least (some least))
  refine leaves_dropSpaced.after fun _ => leaves_peek.after fun c => ?_
  exact leaves_ite (leaves_countsFrom least none)
    (leaves_count.after fun most => leaves_countsFrom least (some most))

theorem leaves_primitive : Leaves 1 primitive := by
  refine leaves_peek.after fun c => leaves_drop.andThen fun _ => ?_
  split
  · refine leaves_escape.after fun item => ?_
    cases item <;> exact leaves_pure _
  all_goals exact leaves_pure _

/-- What follows the head of a group: more of the pattern behind settings of flags, else the pattern
in the group first. -/
def groupFrom (n : Nat) (branches parts : List Pattern) : GroupHead → PatternReader Pattern
  | .settings settings => do
    match verboseSetting? settings with
    | some on => modify fun s => { s with verbose := on }
    | none => pure ()
    patternUpTo n branches (.flags settings :: parts)
  | .group captures settings => do
    let outer := (← get).verbose
    modify fun s => { s with verbose := (verboseSetting? settings).getD outer }
    let inner ← patternUpTo n [] []
    if (← peek) ≠ ')' then failure
    drop
    modify fun s => { s with verbose := outer }
    patternUpTo n branches (.group captures settings inner :: parts)

theorem leaves_setVerbose (on : Bool) :
    Leaves 0 (modify fun s => { s with verbose := on } : PatternReader Unit) :=
  leaves_modify fun _ => List.suffix_rfl

theorem leaves_groupFrom {n : Nat}
    (pattern : ∀ branches parts, Leaves 0 (patternUpTo n branches parts))
    (branches parts : List Pattern) (head : GroupHead) :
    Leaves 0 (groupFrom n branches parts head) := by
  cases head with
  | settings settings =>
    rw [groupFrom]
    split
    · exact (leaves_setVerbose _).after fun _ => pattern _ _
    · exact pattern _ _
  | group captures settings =>
    refine leaves_get fun s => (leaves_setVerbose _).after fun _ => ?_
    refine (pattern _ _).after fun inner => ?_
    refine leaves_peek.after fun c => leaves_check (leaves_drop.after fun _ => ?_)
    exact (leaves_setVerbose _).after fun _ => pattern _ _

/-- What follows the mark of a repetition: a mark that makes it reluctant, and more of the
pattern. -/
def repeatedFrom (n : Nat) (least : Nat) (most : Option Nat) (branches parts : List Pattern) :
    PatternReader Pattern := do
  dropReluctant
  patternUpTo n branches (← repeatLast least most parts)

/-- One step of reading a pattern, by the next character. -/
theorem patternUpTo_succ (n : Nat) (branches parts : List Pattern) :
    patternUpTo (n + 1) branches parts = (do
      skipSpace
      match ← peek? with
      | none | some ')' =>
        return .ofBranches ((Pattern.ofParts parts.reverse :: branches).reverse)
      | some '|' => do
        drop
        patternUpTo n (.ofParts parts.reverse :: branches) []
      | some '(' => groupHead >>= groupFrom n branches parts
      | some '[' => do
        let set ← setAt ((← get).ahead.length + 1)
        patternUpTo n branches (.bracketed set.1 set.2 :: parts)
      | some '?' => do
        drop
        repeatedFrom n 0 (some 1) branches parts
      | some '*' => do
        drop
        repeatedFrom n 0 none branches parts
      | some '+' => do
        drop
        repeatedFrom n 1 none branches parts
      | some '\x7b' => do
        let bounds ← counts
        patternUpTo n branches (← repeatLast bounds.1 bounds.2 parts)
      | some _ => do
        let part ← primitive
        patternUpTo n branches (part :: parts)) := by
  rw [patternUpTo]
  refine bind_congr fun _ => bind_congr fun next => ?_
  split
  case h_4 =>
    refine bind_congr fun head => ?_
    cases head <;> rfl
  case h_10 => simp_all
  all_goals rfl

theorem leaves_patternUpTo (n : Nat) (branches parts : List Pattern) :
    Leaves 0 (patternUpTo n branches parts) := by
  induction n generalizing branches parts with
  | zero => exact leaves_failure
  | succ n ih =>
    have repeated (least : Nat) (most : Option Nat) :
        Leaves 0 (repeatedFrom n least most branches parts) :=
      leaves_dropReluctant.after fun _ => (leaves_repeatLast _ _ _).after fun _ => ih _ _
    rw [patternUpTo_succ]
    refine leaves_skipSpace.after fun _ => leaves_peek?.after fun next => ?_
    split
    · exact leaves_pure _
    · exact leaves_pure _
    · exact leaves_drop.after fun _ => ih _ _
    · exact leaves_groupHead.after fun head => leaves_groupFrom ih branches parts head
    · exact leaves_get fun s => (leaves_setAt _).after fun set => ih _ _
    · exact leaves_drop.after fun _ => repeated _ _
    · exact leaves_drop.after fun _ => repeated _ _
    · exact leaves_drop.after fun _ => repeated _ _
    · exact leaves_counts.after fun bounds => (leaves_repeatLast _ _ _).after fun _ => ih _ _
    · exact leaves_primitive.after fun _ => ih _ _

/-! ## Bounds -/

/-- What comes to a result comes to the same one with the other reader. -/
def Agrees (f f' : PatternReader α) : Prop :=
  ∀ s result, f.run s = some result → f'.run s = some result

theorem Agrees.bind {f' : PatternReader α} {g' : α → PatternReader β} (first : Agrees f f')
    (next : ∀ x, Agrees (g x) (g' x)) : Agrees (f >>= g) (f' >>= g') := by
  rintro s ⟨y, u⟩ ran
  obtain ⟨x, t, left, right⟩ := run_bind_eq_some.mp ran
  exact run_bind_eq_some.mpr ⟨x, t, first s _ left, next x t _ right⟩

theorem agrees_rfl (f : PatternReader α) : Agrees f f := fun _ _ ran => ran

theorem Agrees.after {g' : α → PatternReader β} (next : ∀ x, Agrees (g x) (g' x)) :
    Agrees (f >>= g) (f >>= g') := (agrees_rfl f).bind next

theorem agrees_groupFrom {n m : Nat}
    (pattern : ∀ branches parts,
      Agrees (patternUpTo n branches parts) (patternUpTo m branches parts))
    (branches parts : List Pattern) (head : GroupHead) :
    Agrees (groupFrom n branches parts head) (groupFrom m branches parts head) := by
  cases head with
  | settings settings =>
    rw [groupFrom, groupFrom]
    split
    · exact .after fun _ => pattern _ _
    · exact pattern _ _
  | group captures settings =>
    refine .after fun _ => .after fun _ => (pattern [] []).bind fun inner => .after fun c => ?_
    dsimp only
    split
    · exact fun _ _ ran => nomatch ran
    · exact .after fun _ => .after fun _ => pattern _ _

/-- A greater bound gives no other result. -/
theorem agrees_patternUpTo_succ (n : Nat) (branches parts : List Pattern) :
    Agrees (patternUpTo n branches parts) (patternUpTo (n + 1) branches parts) := by
  induction n generalizing branches parts with
  | zero => exact fun _ _ ran => nomatch ran
  | succ n ih =>
    have repeated (least : Nat) (most : Option Nat) :
        Agrees (repeatedFrom n least most branches parts)
          (repeatedFrom (n + 1) least most branches parts) :=
      .after fun _ => .after fun _ => ih _ _
    -- The bound is handed on and never looked at, so the two differ in what they go on with only.
    rw [patternUpTo_succ n, patternUpTo_succ (n + 1)]
    refine .after fun _ => .after fun next => ?_
    split
    · exact agrees_rfl _
    · exact agrees_rfl _
    · exact .after fun _ => ih _ _
    · exact .after fun head => agrees_groupFrom ih branches parts head
    · exact .after fun _ => .after fun _ => ih _ _
    · exact .after fun _ => repeated _ _
    · exact .after fun _ => repeated _ _
    · exact .after fun _ => repeated _ _
    · exact .after fun _ => .after fun _ => ih _ _
    · exact .after fun _ => ih _ _

theorem agrees_patternUpTo {n m : Nat} (le : n ≤ m) (branches parts : List Pattern) :
    Agrees (patternUpTo n branches parts) (patternUpTo m branches parts) := by
  induction le with
  | refl => exact agrees_rfl _
  | step _ ih => exact fun s _ ran => agrees_patternUpTo_succ _ _ _ s _ (ih s _ ran)

end PatternReader

end JsonPath
