import JsonPath.Proofs.InteroperablePattern

/-!
# Reading interoperable patterns

What the reader of patterns makes of the text of an I-Regexp. Verbose mode stays off throughout, so
every phrase is read where it stands, and reading takes exactly its text.

Results:
1. `run_setRange`, `run_setAt`: sets between brackets, item by item.
2. `run_counts`: the counts of a repetition.
3. `Alternatives.run_spell`: a whole pattern, with its dots written out.
-/

namespace JsonPath

/-! ## What is read -/

namespace IRegexp

/-- How a character is read. -/
def WrittenChar.asRead {admits : Char → Bool} (c : WrittenChar admits) : PatternChar :=
  ⟨c.value, false⟩

/-- How the name of a category is read. -/
def CategoryEscape.asRead (named : CategoryEscape) : PropertyClass :=
  ⟨named.negated, named.name, none⟩

/-- How an item between brackets is read. -/
def SetItem.asRead : SetItem → ClassSet
  | char c => .char c.asRead
  | range low high => .range low.asRead high.asRead
  | category named => .property named.asRead

/-- How a dash that may be missing is read. -/
def BracketedSet.dashAsRead (present : Bool) : List ClassSet :=
  if present then [.char ⟨'-', false⟩] else []

/-- How the items between brackets are read. -/
def BracketedSet.asRead (set : BracketedSet) : ClassSet :=
  .ofItems (dashAsRead set.leadingDash ++ set.items.map SetItem.asRead
    ++ dashAsRead set.trailingDash)

/-- How an atom with a quantifier is read. -/
def Quantifier.asRead (atom : Pattern) : Quantifier → Pattern
  | once => atom
  | quantifier => .repetition atom quantifier.bounds.1 quantifier.bounds.2

mutual

/-- How an atom is read, a dot as the set that is written out for it. -/
def Atom.asRead : Atom → Pattern
  | .char c => .char c.asRead
  | .dot => .bracketed BracketedSet.noLineEnd.negated BracketedSet.noLineEnd.asRead
  | .category named => .property named.asRead
  | .bracketed set => .bracketed set.negated set.asRead
  | .group inner => .group true [] (.ofBranches inner.asRead)
termination_by structural atom => atom

/-- How the pieces of a branch are read. -/
def Branch.asRead : Branch → List Pattern
  | .empty => []
  | .piece atom quantifier rest => quantifier.asRead atom.asRead :: rest.asRead
termination_by structural branch => branch

/-- How the branches of a pattern are read. -/
def Alternatives.asRead : Alternatives → List Pattern
  | .last branch => [.ofParts branch.asRead]
  | .either branch others => .ofParts branch.asRead :: others.asRead
termination_by structural alternatives => alternatives

end

/-- An item begins with no mark that means something else between brackets, and if it is not
escaped, its first character opens it. -/
theorem SetItem.exists_head (item : SetItem) :
    ∃ d ds, item.text = d :: ds ∧ d ∉ ['-', '[', ']'] ∧ (d = '\\' ∨ item.opensWith d = true) := by
  have unmarked {c : Char} (admitted : isSetChar c = true) : c ∉ ['-', '[', ']'] :=
    notMem_of_holds admitted (by decide)
  have escape : '\\' ∉ ['-', '[', ']'] := by decide
  cases item with
  | char c =>
    cases c with
    | plain c admitted => exact ⟨c, [], rfl, unmarked admitted, .inr (beq_self_eq_true c)⟩
    | escaped mark known => exact ⟨_, _, rfl, escape, .inl rfl⟩
  | range low high =>
    cases low with
    | plain c admitted => exact ⟨c, _, rfl, unmarked admitted, .inr (beq_self_eq_true c)⟩
    | escaped mark known => exact ⟨_, _, rfl, escape, .inl rfl⟩
  | category named => exact ⟨_, _, rfl, escape, .inl rfl⟩

end IRegexp

open IRegexp

namespace PatternReader

variable {c d : Char} {cs : List Char} {verbose : Bool} {names : List String}

/-! ## Single steps -/

@[simp] theorem run_peek :
    peek.run ⟨c :: cs, verbose, names⟩ = some (c, ⟨c :: cs, verbose, names⟩) := rfl

@[simp] theorem run_peek? :
    peek?.run ⟨cs, verbose, names⟩ = some (cs.head?, ⟨cs, verbose, names⟩) := rfl

@[simp] theorem run_drop :
    drop.run ⟨cs, verbose, names⟩ = some ((), ⟨cs.tail, verbose, names⟩) := rfl

@[simp] theorem run_skipSpace :
    skipSpace.run ⟨cs, false, names⟩ = some ((), ⟨cs, false, names⟩) := rfl

@[simp] theorem run_dropSpaced :
    dropSpaced.run ⟨cs, false, names⟩ = some ((), ⟨cs.tail, false, names⟩) := rfl

@[simp] theorem run_peekSpaced? :
    peekSpaced?.run ⟨cs, false, names⟩ = some (cs.tail.head?, ⟨cs, false, names⟩) := rfl

/-! ## Escapes -/

theorem run_escape_mark (known : c ∈ escapeMarks) :
    escape.run ⟨c :: cs, false, names⟩ = some (.char ⟨markValue c, false⟩, ⟨cs, false, names⟩) := by
  simp only [escapeMarks, List.mem_cons, List.not_mem_nil, or_false] at known
  rcases known with rfl | rfl | rfl | rfl | rfl | rfl | rfl | rfl | rfl | rfl | rfl | rfl | rfl |
    rfl | rfl | rfl | rfl <;> rfl

theorem run_nameUpToBrace {name : List Char} (unbraced : '\x7d' ∉ name) {n : Nat}
    (enough : name.length < n) :
    (nameUpToBrace n).run ⟨name ++ '\x7d' :: cs, false, names⟩
      = some (name, ⟨cs, false, names⟩) := by
  induction name generalizing n with
  | nil =>
    cases n with
    | zero => omega
    | succ n => rfl
  | cons d name ih =>
    cases n with
    | zero => omega
    | succ n =>
      simp only [List.mem_cons, not_or, List.length_cons, Nat.add_lt_add_iff_right]
        at unbraced enough
      simp [nameUpToBrace, Ne.symm unbraced.1, ih unbraced.2 enough]

theorem propertyOf_plain {name : String} (known : name ∈ categoryNames) (negated : Bool) :
    propertyOf negated name.toList = ⟨negated, name, none⟩ := by
  revert negated name
  decide +kernel

theorem run_propertyClass {name : String} (known : name ∈ categoryNames) (negated : Bool)
    (letter : Char) :
    (propertyClass negated).run
        ⟨letter :: '\x7b' :: (name.toList ++ '\x7d' :: cs), false, names⟩
      = some (⟨negated, name, none⟩, ⟨cs, false, names⟩) := by
  have letters : ∀ name ∈ categoryNames, '\x7d' ∉ name.toList := by decide +kernel
  have enough : name.toList.length < name.toList.length + (cs.length + 1) + 1 := by omega
  simp [propertyClass, run_nameUpToBrace (letters name known) enough, propertyOf_plain known]

/-- A class of the characters of a category, behind its backslash. -/
theorem run_escape_category (named : CategoryEscape) :
    escape.run ⟨named.text.tail ++ cs, false, names⟩
      = some (.property named.asRead, ⟨cs, false, names⟩) := by
  obtain ⟨negated, name, known⟩ := named
  cases negated <;>
    simp [CategoryEscape.text, CategoryEscape.asRead, escape, run_propertyClass known]

/-! ## Items between brackets -/

theorem run_setItem (c : WrittenChar isSetChar) :
    setItem.run ⟨c.text ++ cs, false, names⟩ = some (.char c.asRead, ⟨cs, false, names⟩) := by
  cases c with
  | plain c admitted =>
    have noEscape : c ≠ '\\' := ne_of_holds admitted (by decide)
    simp [setItem, WrittenChar.text, WrittenChar.asRead, WrittenChar.value, noEscape]
  | escaped mark known =>
    simp [setItem, WrittenChar.text, WrittenChar.asRead, WrittenChar.value,
      run_escape_mark known]

theorem run_setItem_category (named : CategoryEscape) :
    setItem.run ⟨named.text ++ cs, false, names⟩
      = some (.property named.asRead, ⟨cs, false, names⟩) := by
  show setItem.run ⟨'\\' :: (named.text.tail ++ cs), false, names⟩ = _
  simp [setItem, run_escape_category named]

/-- An item that no dash follows stands alone, and so does one in front of the last dash. -/
theorem run_setRange_alone {text : List Char} {item : Escape}
    (read : setItem.run ⟨text ++ d :: cs, false, names⟩ = some (item, ⟨d :: cs, false, names⟩))
    (alone : d = '-' → cs.head? = some ']') :
    setRange.run ⟨text ++ d :: cs, false, names⟩
      = (itemSet item).run ⟨d :: cs, false, names⟩ := by
  have single : (¬d = '-' ∨ cs.head? = some ']') ∨ cs.head? = some '-' :=
    .inl (Decidable.not_or_of_imp alone)
  simp [setRange, read, single]

theorem run_setRange (item : SetItem) (portable : item.isPortable = true)
    (alone : d = '-' → cs.head? = some ']') :
    setRange.run ⟨item.text ++ d :: cs, false, names⟩
      = some (item.asRead, ⟨d :: cs, false, names⟩) := by
  cases item with
  | char c => exact run_setRange_alone (run_setItem c) alone
  | category named => exact run_setRange_alone (run_setItem_category named) alone
  | range low high =>
    obtain ⟨e, es, text, unmarked, _⟩ := (SetItem.char high).exists_head
    obtain ⟨noDash, _, noClose⟩ : e ≠ '-' ∧ e ≠ '[' ∧ e ≠ ']' := by simpa using unmarked
    have ordered : low.asRead.char ≤ high.asRead.char := of_decide_eq_true portable
    have first : setItem.run ⟨low.text ++ '-' :: high.text ++ d :: cs, false, names⟩
        = some (.char low.asRead, ⟨'-' :: high.text ++ d :: cs, false, names⟩) := by
      simpa using run_setItem low
    have second : setItem.run ⟨high.text ++ d :: cs, false, names⟩
        = some (.char high.asRead, ⟨d :: cs, false, names⟩) := run_setItem high
    rw [SetItem.text] at text
    simp only [SetItem.text, List.append_assoc, List.cons_append, text] at first second ⊢
    simp [setRange, first, noClose, noDash, second, itemChar, ordered, SetItem.asRead]

/-! ## Sets -/

/-- What stands between brackets begins with an item: neither the end of the set, nor a set inside
it, nor a sign that joins sets. -/
structure BeginsItem (cs : List Char) : Prop where
  nonempty : cs ≠ []
  noClose : cs.head? ≠ some ']'
  noOpen : cs.head? ≠ some '['
  noSign : ∀ d ∈ ['&', '-', '~'], ¬[d, d] <+: cs

theorem run_setRest_item (item : BeginsItem cs) (n : Nat) (left : Option (ClassSet × SetOperator))
    (items : List ClassSet) :
    (setAt.setRest (n + 1) left items).run ⟨cs, false, names⟩
      = (do let item ← setRange
            setAt.setRest n left (item :: items) : PatternReader ClassSet).run
          ⟨cs, false, names⟩ := by
  obtain ⟨nonempty, noClose, noOpen, noSign⟩ := item
  rw [setAt.setRest]
  simp only [StateT.run_bind, run_skipSpace, StateT.run_get, Option.bind_eq_bind,
    Option.pure_def, Option.bind_some]
  split
  · exact absurd rfl nonempty
  · exact absurd rfl noClose
  · exact absurd ⟨_, rfl⟩ (noSign '&' (by decide))
  · exact absurd ⟨_, rfl⟩ (noSign '-' (by decide))
  · exact absurd ⟨_, rfl⟩ (noSign '~' (by decide))
  · exact absurd rfl noOpen
  · rfl

/-- What is left of a set behind its items. -/
def setEnd (trailingDash : Bool) (cs : List Char) : List Char :=
  BracketedSet.dash trailingDash ++ ']' :: cs

/-- Where only items and the end of the set follow, a dash stands in front of the end, and any other
mark that is not escaped opens an item. -/
theorem items_head (items : List SetItem) (trailingDash : Bool) (cs : List Char) :
    ∃ d ds, items.flatMap SetItem.text ++ setEnd trailingDash cs = d :: ds ∧
      (d = '-' → ds.head? = some ']') ∧ (d = '-' ∨ d = ']' → items = []) ∧
      (d = '\\' ∨ d = '-' ∨ d = ']' ∨ items.head?.any (SetItem.opensWith d) = true) := by
  cases items with
  | nil =>
    cases trailingDash with
    | false => exact ⟨']', cs, rfl, fun dash => absurd dash (by decide), fun _ => rfl, by simp⟩
    | true => exact ⟨'-', ']' :: cs, rfl, fun _ => rfl, fun _ => rfl, by simp⟩
  | cons item items =>
    obtain ⟨d, ds, text, unmarked, head⟩ := item.exists_head
    have noMark : ¬(d = '-' ∨ d = ']') := by
      rintro (rfl | rfl) <;> simp at unmarked
    refine ⟨d, ds ++ (items.flatMap SetItem.text ++ setEnd trailingDash cs), by simp [text],
      fun dash => absurd (.inl dash) noMark, fun mark => absurd mark noMark, ?_⟩
    rcases head with escape | opens
    · exact .inl escape
    · exact .inr (.inr (.inr (by simpa using opens)))

theorem doubles_cons {item : SetItem} {items : List SetItem}
    (single : doubles d (item :: items) = false) :
    (item.isPlain d = true → items.head?.any (SetItem.opensWith d) = false) ∧
      doubles d items = false := by
  cases items with
  | nil => exact ⟨fun _ => rfl, rfl⟩
  | cons next items =>
    rw [doubles, Bool.or_eq_false_iff, Bool.and_eq_false_imp] at single
    exact single

/-- An item does not begin with a sign that joins sets if no such sign arises behind it. -/
theorem not_sign (item : SetItem) (noEscape : d ≠ '\\') (noDash : d ≠ '-')
    (single : item.isPlain d = true → cs.head? ≠ some d) : ¬[d, d] <+: item.text ++ cs := by
  have escaped (tail : List Char) : ¬[d, d] <+: '\\' :: tail := by simp [noEscape]
  cases item with
  | char c =>
    cases c with
    | plain e admitted =>
      show ¬[d, d] <+: e :: cs
      simp only [List.cons_prefix_cons, not_and]
      rintro rfl
      cases cs with
      | nil => simp
      | cons next cs => simpa [eq_comm] using single (beq_self_eq_true d)
    | escaped mark known => exact escaped _
  | range low high =>
    cases low with
    | plain e admitted =>
      show ¬[d, d] <+: e :: '-' :: (high.text ++ cs)
      simp [noDash]
    | escaped mark known => exact escaped _
  | category named => exact escaped _

theorem beginsItem (item : SetItem)
    (single : ∀ d ∈ ['&', '~'], item.isPlain d = true → cs.head? ≠ some d) :
    BeginsItem (item.text ++ cs) := by
  obtain ⟨e, es, text, unmarked, _⟩ := item.exists_head
  obtain ⟨noDash, noOpen, noClose⟩ : e ≠ '-' ∧ e ≠ '[' ∧ e ≠ ']' := by simpa using unmarked
  refine ⟨by simp [text], by simpa [text] using noClose, by simpa [text] using noOpen, ?_⟩
  intro d sign
  by_cases dash : d = '-'
  · simp [text, dash, noDash.symm]
  · exact not_sign item (by rintro rfl; simp at sign) dash (single d (by simp_all))

theorem run_setRest (items : List SetItem) (trailingDash : Bool)
    (portable : items.all SetItem.isPortable = true)
    (single : ∀ mark ∈ ['&', '~'], doubles mark items = false) (n : Nat)
    (enough : items.length + 1 < n) (read : List ClassSet) :
    (setAt.setRest n none read).run
        ⟨items.flatMap SetItem.text ++ setEnd trailingDash cs, false, names⟩
      = some (joinSet none
          ((items.map SetItem.asRead ++ BracketedSet.dashAsRead trailingDash).reverse ++ read),
          ⟨cs, false, names⟩) := by
  induction items generalizing n read with
  | nil =>
    obtain ⟨n, rfl⟩ : ∃ m, n = m + 2 := ⟨n - 2, by simp at enough; omega⟩
    cases trailingDash <;> rfl
  | cons item items ih =>
    obtain ⟨n, rfl⟩ : ∃ m, n = m + 1 := ⟨n - 1, by omega⟩
    obtain ⟨itemPortable, portable⟩ := Bool.and_eq_true_iff.mp portable
    obtain ⟨d, ds, behind, dash, _, opens⟩ := items_head items trailingDash cs
    have begins : BeginsItem (item.text ++ d :: ds) := by
      refine beginsItem item fun mark sign plain => ?_
      rw [List.head?_cons, ne_eq, Option.some_inj]
      rintro rfl
      have apart := (doubles_cons (single d sign)).1 plain
      rcases opens with rfl | rfl | rfl | opens
      · simp at sign
      · simp at sign
      · simp at sign
      · exact Bool.false_ne_true (apart.symm.trans opens)
    have first : setRange.run ⟨item.text ++ d :: ds, false, names⟩
        = some (item.asRead, ⟨d :: ds, false, names⟩) := run_setRange item itemPortable dash
    have further := ih portable (fun mark sign => (doubles_cons (single mark sign)).2) n
      (by simp at enough; omega) (item.asRead :: read)
    rw [List.flatMap_cons, List.append_assoc, behind, run_setRest_item begins]
    rw [behind] at further
    simp [first, further]

/-! The head of a set is read with all dashes that begin it. -/

theorem run_leadingDashes (k : Nat) {n : Nat} (enough : k ≤ n) (noDash : d ≠ '-') :
    (leadingDashes n).run ⟨List.replicate k '-' ++ d :: cs, false, names⟩
      = some (List.replicate k (.char ⟨'-', false⟩), ⟨d :: cs, false, names⟩) := by
  induction k generalizing n with
  | zero => cases n <;> simp [leadingDashes, noDash]
  | succ k ih =>
    cases n with
    | zero => omega
    | succ n => simp [leadingDashes, List.replicate_succ, ih (Nat.le_of_succ_le_succ enough)]

theorem run_setHead (negated : Bool) (k : Nat) (noDash : d ≠ '-')
    (begun : k = 0 → d ≠ ']' ∧ (negated = false → d ≠ '^')) :
    setHead.run ⟨'[' :: (if negated then ['^'] else []) ++ (List.replicate k '-' ++ d :: cs),
        false, names⟩
      = some ((negated, List.replicate k (.char ⟨'-', false⟩)), ⟨d :: cs, false, names⟩) := by
  have dashes (n : Nat) (enough : k ≤ n) :
      (leadingDashes n).run ⟨List.replicate k '-' ++ d :: cs, false, names⟩
        = some (List.replicate k (.char ⟨'-', false⟩), ⟨d :: cs, false, names⟩) :=
    run_leadingDashes k enough noDash
  cases k with
  | zero =>
    obtain ⟨noClose, noCaret⟩ := begun rfl
    simp only [List.replicate_zero, List.nil_append] at dashes
    cases negated with
    | false => simp [setHead, noCaret rfl, dashes, noClose]
    | true => simp [setHead, dashes, noClose]
  | succ k =>
    simp only [List.replicate_succ, List.cons_append] at dashes
    cases negated <;> simp [setHead, List.replicate_succ, dashes]

/-- A set whose dashes at the head are counted. -/
theorem run_setAt_dashes (negated : Bool) (k : Nat) {items : List SetItem} {trailingDash : Bool}
    (portable : items.all SetItem.isPortable = true)
    (single : ∀ mark ∈ ['&', '~'], doubles mark items = false) {n : Nat}
    (enough : items.length + 2 < n) {ds : List Char}
    (content : items.flatMap SetItem.text ++ setEnd trailingDash cs = d :: ds)
    (noDash : d ≠ '-') (begun : k = 0 → d ≠ ']' ∧ (negated = false → d ≠ '^')) :
    (setAt n).run ⟨'[' :: (if negated then ['^'] else []) ++ (List.replicate k '-' ++ d :: ds),
        false, names⟩
      = some ((negated, .ofItems (List.replicate k (.char ⟨'-', false⟩)
          ++ (items.map SetItem.asRead ++ BracketedSet.dashAsRead trailingDash))),
        ⟨cs, false, names⟩) := by
  obtain ⟨n, rfl⟩ : ∃ m, n = m + 1 := ⟨n - 1, by omega⟩
  have rest (read : List ClassSet) : (setAt.setRest n none read).run ⟨d :: ds, false, names⟩ = _ :=
    content ▸ run_setRest items trailingDash portable single n (by omega) read
  simp only [setAt, StateT.run_bind, run_setHead negated k noDash begun, Option.bind_eq_bind,
    Option.bind_some, rest]
  simp [joinSet]

theorem run_setAt (set : BracketedSet) (portable : set.isPortable = true) {n : Nat}
    (enough : set.items.length + 2 < n) :
    (setAt n).run ⟨set.text ++ cs, false, names⟩
      = some ((set.negated, set.asRead), ⟨cs, false, names⟩) := by
  obtain ⟨negated, leadingDash, items, trailingDash, nonempty⟩ := set
  simp only [BracketedSet.isPortable, Bool.and_eq_true, Bool.not_eq_true'] at portable
  obtain ⟨⟨⟨portable, ampersands⟩, tildes⟩, caret⟩ := portable
  have single : ∀ mark ∈ ['&', '~'], doubles mark items = false := by
    simp [ampersands, tildes]
  obtain ⟨d, ds, content, _, mark, opens⟩ := items_head items trailingDash cs
  have text : BracketedSet.text ⟨negated, leadingDash, items, trailingDash, nonempty⟩ ++ cs
      = '[' :: (if negated then ['^'] else []) ++ (BracketedSet.dash leadingDash ++ d :: ds) := by
    rw [← content]
    simp [BracketedSet.text, BracketedSet.content, setEnd]
  rw [text]
  cases leadingDash with
  | false =>
    have noMark : ¬(d = '-' ∨ d = ']') := fun is => by simp [mark is] at nonempty
    have noCaret (plain : negated = false) : d ≠ '^' := by
      rintro rfl
      simp_all
    exact run_setAt_dashes negated 0 portable single enough content
      (fun dash => noMark (.inl dash)) fun _ => ⟨fun close => noMark (.inr close), noCaret⟩
  | true =>
    by_cases noDash : d = '-'
    · -- Nothing but two dashes, both of which are read as the head.
      obtain rfl := mark (.inl noDash)
      have both : trailingDash = true := by
        cases trailingDash with
        | false => exact absurd noDash (by rintro rfl; simp [setEnd, BracketedSet.dash] at content)
        | true => rfl
      subst both
      obtain ⟨rfl, rfl⟩ := List.cons.inj content
      have last : [].flatMap SetItem.text ++ setEnd false cs = ']' :: cs := rfl
      exact run_setAt_dashes negated 2 portable single enough last (by decide)
        fun none => absurd none (by decide)
    · exact run_setAt_dashes negated 1 portable single enough content noDash
        fun none => absurd none (by decide)

/-! ## Counts -/

theorem not_isSpace_of_isDigit (digit : c.isDigit = true) : isSpace c = false := by
  have digits : ∀ n ∈ List.range 10, isSpace (Char.ofNat (48 + n)) = false := by decide +kernel
  have range : 48 ≤ c.toNat ∧ c.toNat ≤ 57 := by
    simpa [Char.isDigit, UInt32.le_iff_toNat_le] using digit
  have visible := digits (c.toNat - 48) (by simp; omega)
  rwa [show 48 + (c.toNat - 48) = c.toNat by omega, Char.ofNat_toNat] at visible

theorem run_digitsUpTo {digits : List Char} (decimal : ∀ e ∈ digits, e.isDigit = true)
    (stop : d.isDigit = false) {n : Nat} (enough : digits.length ≤ n) :
    (digitsUpTo n).run ⟨digits ++ d :: cs, false, names⟩
      = some (digits, ⟨d :: cs, false, names⟩) := by
  induction digits generalizing n with
  | nil => cases n <;> simp [digitsUpTo, stop]
  | cons e digits ih =>
    cases n with
    | zero => simp at enough
    | succ n =>
      have others := ih (fun f member => decimal f (List.mem_cons_of_mem e member))
        (Nat.le_of_succ_le_succ enough)
      simp [digitsUpTo, decimal e List.mem_cons_self, others]

/-- A count is read up to a character that is neither a digit nor blank. -/
theorem run_count (written : Count) (small : written.value ≤ greatestCount)
    (stop : d.isDigit = false) (visible : isSpace d = false) :
    count.run ⟨written.digits ++ d :: cs, false, names⟩
      = some (written.value, ⟨d :: cs, false, names⟩) := by
  obtain ⟨digits, nonempty, decimal⟩ := written
  have read : (digitsUpTo (digits.length + (cs.length + 1))).run
      ⟨digits ++ d :: cs, false, names⟩ = some (digits, ⟨d :: cs, false, names⟩) :=
    run_digitsUpTo decimal stop (by omega)
  have blank : (digits ++ d :: cs).dropWhile isSpace = digits ++ d :: cs := by
    cases digits with
    | nil => exact absurd rfl nonempty
    | cons e digits =>
      simp [not_isSpace_of_isDigit (decimal e List.mem_cons_self)]
  have small : digits.foldl (fun n d => n * 10 + (d.toNat - 48)) 0 ≤ greatestCount := small
  simp [count, blank, read, visible, nonempty, Count.value, Nat.not_lt.mpr small]

/-- The question mark that would make a repetition reluctant is not there. -/
theorem run_dropReluctant (greedy : cs.head? ≠ some '?') :
    dropReluctant.run ⟨cs, false, names⟩ = some ((), ⟨cs, false, names⟩) := by
  simp [dropReluctant, greedy]

/-- What a quantifier between braces says. -/
theorem run_counts (quantifier : Quantifier) (braced : quantifier.text.head? = some '\x7b')
    (portable : quantifier.isPortable = true) (greedy : cs.head? ≠ some '?') :
    counts.run ⟨quantifier.text ++ cs, false, names⟩
      = some (quantifier.bounds, ⟨cs, false, names⟩) := by
  have visible : [',', '\x7d'].any (fun d => d.isDigit || isSpace d) = false := by decide +kernel
  have read (written : Count) (small : written.value ≤ greatestCount) (d : Char)
      (mark : d ∈ [',', '\x7d']) (cs : List Char) :
      count.run ⟨written.digits ++ d :: cs, false, names⟩
        = some (written.value, ⟨d :: cs, false, names⟩) := by
    obtain ⟨stop, visible⟩ : d.isDigit = false ∧ isSpace d = false := by
      simpa using List.any_eq_false.mp visible d mark
    exact run_count written small stop visible
  cases quantifier with
  | once | optional | any | some => simp [Quantifier.text] at braced
  | exactly written =>
    obtain ⟨e, es, digits⟩ := List.exists_cons_of_ne_nil written.nonempty
    have first := read written (of_decide_eq_true portable) '\x7d' (by decide) cs
    simp only [Quantifier.text, digits, List.cons_append, List.append_assoc] at first ⊢
    simp [counts, first, run_dropReluctant greedy, Quantifier.bounds]
  | atLeast written =>
    obtain ⟨e, es, digits⟩ := List.exists_cons_of_ne_nil written.nonempty
    have first := read written (of_decide_eq_true portable) ',' (by decide) ('\x7d' :: cs)
    simp only [Quantifier.text, digits, List.cons_append, List.append_assoc] at first ⊢
    simp [counts, first, run_dropReluctant greedy, Quantifier.bounds]
  | between least most =>
    obtain ⟨ordered, small⟩ : least.value ≤ most.value ∧ most.value ≤ greatestCount := by
      simpa [Quantifier.isPortable] using portable
    obtain ⟨e, es, digits⟩ := List.exists_cons_of_ne_nil least.nonempty
    obtain ⟨f, fs, others⟩ := List.exists_cons_of_ne_nil most.nonempty
    have noBrace : f ≠ '\x7d' := by
      rintro rfl
      exact absurd (most.decimal '\x7d' (by simp [others])) (by decide)
    have first := read least (ordered.trans small) ',' (by decide) (most.digits ++ '\x7d' :: cs)
    have second := read most small '\x7d' (by decide) cs
    simp only [Quantifier.text, digits, others, List.cons_append, List.append_assoc]
      at first second ⊢
    simp [counts, first, noBrace, second, ordered, run_dropReluctant greedy, Quantifier.bounds]

/-! ## Pieces -/

/-- A quantifier repeats the atom in front of it. -/
theorem run_quantifier (quantifier : Quantifier) (written : quantifier.text ≠ [])
    (portable : quantifier.isPortable = true) (greedy : cs.head? ≠ some '?') {atom : Pattern}
    (repeatable : isRepeatable atom = true) (n : Nat) (branches parts : List Pattern) :
    (patternUpTo (n + 1) branches (atom :: parts)).run ⟨quantifier.text ++ cs, false, names⟩
      = (patternUpTo n branches (quantifier.asRead atom :: parts)).run ⟨cs, false, names⟩ := by
  have reluctant : dropReluctant.run ⟨cs, false, names⟩ = some ((), ⟨cs, false, names⟩) :=
    run_dropReluctant greedy
  have braced (text : quantifier.text.head? = some '\x7b')
      (read : quantifier.asRead atom
        = .repetition atom quantifier.bounds.1 quantifier.bounds.2) :
      (patternUpTo (n + 1) branches (atom :: parts)).run ⟨quantifier.text ++ cs, false, names⟩
        = (patternUpTo n branches (quantifier.asRead atom :: parts)).run ⟨cs, false, names⟩ := by
    have head : (quantifier.text ++ cs).head? = some '\x7b' := by
      simp [List.head?_append, text]
    simp [patternUpTo, head, run_counts quantifier text portable greedy, repeatLast, repeatable,
      read]
  cases quantifier with
  | once => exact absurd rfl written
  | optional | any | some =>
    simp [Quantifier.text, patternUpTo, reluctant, repeatLast, repeatable, Quantifier.asRead,
      Quantifier.bounds]
  | exactly _ | atLeast _ | between _ _ => exact braced rfl rfl

/-- The characters that make something else than a part of their own. -/
def pieceMarks : List Char := [')', '|', '(', '[', '?', '*', '+', '\x7b']

theorem run_primitive (part : c ∉ pieceMarks) (n : Nat) (branches parts : List Pattern) :
    (patternUpTo (n + 1) branches parts).run ⟨c :: cs, false, names⟩
      = (do let part ← primitive
            patternUpTo n branches (part :: parts) : PatternReader Pattern).run
          ⟨c :: cs, false, names⟩ := by
  simp only [patternUpTo, StateT.run_bind, run_skipSpace, run_peek?, Option.bind_eq_bind,
    Option.bind_some, List.head?_cons]
  split
  case h_10 => rfl
  all_goals simp_all [pieceMarks]

theorem run_plain (normal : isNormal c = true) (noCaret : c ≠ '^') (noDollar : c ≠ '$') :
    primitive.run ⟨c :: cs, false, names⟩ = some (.char ⟨c, false⟩, ⟨cs, false, names⟩) := by
  simp only [primitive, StateT.run_bind, run_peek, run_drop, Option.bind_eq_bind,
    Option.bind_some]
  split
  · exact absurd normal (by decide)
  · exact absurd normal (by decide)
  · exact absurd rfl noCaret
  · exact absurd rfl noDollar
  · rfl

theorem run_char (c : WrittenChar isNormal) (noCaret : c.isPlain '^' = false)
    (noDollar : c.isPlain '$' = false) (n : Nat) (branches parts : List Pattern) :
    (patternUpTo (n + 1) branches parts).run ⟨c.text ++ cs, false, names⟩
      = (patternUpTo n branches (.char c.asRead :: parts)).run ⟨cs, false, names⟩ := by
  cases c with
  | plain c normal =>
    have part : c ∉ pieceMarks := notMem_of_holds normal (by decide)
    have read : primitive.run ⟨c :: cs, false, names⟩
        = some (.char ⟨c, false⟩, ⟨cs, false, names⟩) :=
      run_plain normal (ne_of_beq_false noCaret) (ne_of_beq_false noDollar)
    show (patternUpTo (n + 1) branches parts).run ⟨c :: cs, false, names⟩ = _
    rw [run_primitive part, StateT.run_bind, read]
    rfl
  | escaped mark known =>
    have part : '\\' ∉ pieceMarks := by decide
    show (patternUpTo (n + 1) branches parts).run ⟨'\\' :: mark :: cs, false, names⟩ = _
    simp [run_primitive part, primitive, run_escape_mark known, WrittenChar.asRead,
      WrittenChar.value]

theorem run_category (named : CategoryEscape) (n : Nat) (branches parts : List Pattern) :
    (patternUpTo (n + 1) branches parts).run ⟨named.text ++ cs, false, names⟩
      = (patternUpTo n branches (.property named.asRead :: parts)).run ⟨cs, false, names⟩ := by
  have part : '\\' ∉ pieceMarks := by decide
  show (patternUpTo (n + 1) branches parts).run
    ⟨'\\' :: (named.text.tail ++ cs), false, names⟩ = _
  simp [run_primitive part, primitive, run_escape_category named]

theorem items_length_le (items : List SetItem) :
    items.length ≤ (items.flatMap SetItem.text).length := by
  induction items with
  | nil => exact le_rfl
  | cons item items ih =>
    obtain ⟨d, ds, text, _⟩ := item.exists_head
    simp only [List.flatMap_cons, text, List.length_append, List.length_cons]
    omega

theorem run_bracketed (set : BracketedSet) (portable : set.isPortable = true) (n : Nat)
    (branches parts : List Pattern) :
    (patternUpTo (n + 1) branches parts).run ⟨set.text ++ cs, false, names⟩
      = (patternUpTo n branches (.bracketed set.negated set.asRead :: parts)).run
          ⟨cs, false, names⟩ := by
  have head : (set.text ++ cs).head? = some '[' := rfl
  have enough : set.items.length + 2 < set.text.length + cs.length + 1 := by
    have := items_length_le set.items
    simp only [BracketedSet.text, BracketedSet.content, List.length_append, List.length_cons]
    omega
  simp [patternUpTo, head, run_setAt set portable enough]

/-! ## Groups -/

/-- The head of a group that has no question mark. -/
theorem run_groupHead (plain : cs.head? ≠ some '?') :
    groupHead.run ⟨'(' :: cs, false, names⟩ = some (.group true [], ⟨cs, false, names⟩) := by
  have apart (word : List Char) : ¬('?' :: word) <+: cs := by
    rintro ⟨rest, rfl⟩
    exact plain rfl
  simp [groupHead, dropWord, apart]

/-- The head of a group that is not captured. -/
theorem run_groupHead_uncaptured :
    groupHead.run ⟨'(' :: '?' :: ':' :: cs, false, names⟩
      = some (.group false [], ⟨cs, false, names⟩) := by
  simp [groupHead, dropWord, flagsUpTo]

/-- Verbose mode that is switched on in a group is off behind it. -/
theorem run_group {text rest : List Char} {captures verbose : Bool} {others : List String}
    (head : groupHead.run ⟨'(' :: text, false, names⟩
      = some (.group captures [], ⟨cs, false, names⟩)) (n : Nat)
    (branches parts : List Pattern) {inner : Pattern}
    (read : (patternUpTo n [] []).run ⟨cs, false, names⟩
      = some (inner, ⟨')' :: rest, verbose, others⟩)) :
    (patternUpTo (n + 1) branches parts).run ⟨'(' :: text, false, names⟩
      = (patternUpTo n branches (.group captures [] inner :: parts)).run
          ⟨rest, false, others⟩ := by
  simp [patternUpTo, head, verboseSetting?, read]

/-- The conditions for the ends of a text. -/
def endMarks : List (Char × Assertion) := [('A', .startOfText), ('z', .endOfText)]

theorem run_endMark {mark : Char} {a : Assertion} (known : (mark, a) ∈ endMarks) (n : Nat)
    (branches parts : List Pattern) :
    (patternUpTo (n + 1) branches parts).run ⟨'\\' :: mark :: cs, false, names⟩
      = (patternUpTo n branches (.assertion a :: parts)).run ⟨cs, false, names⟩ := by
  have part : '\\' ∉ pieceMarks := by decide
  rw [run_primitive part]
  simp only [endMarks, List.mem_cons, List.not_mem_nil, or_false, Prod.mk.injEq] at known
  rcases known with ⟨rfl, rfl⟩ | ⟨rfl, rfl⟩ <;> rfl

/-- A pattern ends where a group or the text does. -/
theorem run_end (ends : cs.head? = none ∨ cs.head? = some ')') (n : Nat)
    (branches parts : List Pattern) :
    (patternUpTo (n + 1) branches parts).run ⟨cs, false, names⟩
      = some (.ofBranches ((Pattern.ofParts parts.reverse :: branches).reverse),
          ⟨cs, false, names⟩) := by
  rcases ends with none | close
  · simp [patternUpTo, none]
  · simp [patternUpTo, close]

theorem run_bar (n : Nat) (branches parts : List Pattern) :
    (patternUpTo (n + 1) branches parts).run ⟨'|' :: cs, false, names⟩
      = (patternUpTo n (.ofParts parts.reverse :: branches) []).run ⟨cs, false, names⟩ := by
  simp [patternUpTo]

end PatternReader

/-! ## Patterns -/

namespace IRegexp

open PatternReader

variable {cs : List Char} {names : List String}

/-- No atom begins with a question mark. -/
theorem Atom.exists_head (atom : Atom) :
    ∃ d ds, atom.spell dotSpelling = d :: ds ∧ d ≠ '?' := by
  match atom with
  | .char (.plain c normal) => exact ⟨c, [], rfl, ne_of_holds normal (by decide)⟩
  | .char (.escaped mark known) => exact ⟨_, _, rfl, by decide⟩
  | .dot => exact ⟨_, _, rfl, by decide⟩
  | .category named => exact ⟨_, _, rfl, by decide⟩
  | .bracketed set => exact ⟨_, _, rfl, by decide⟩
  | .group inner => exact ⟨_, _, rfl, by decide⟩

theorem Branch.head_spell (branch : Branch) (plain : cs.head? ≠ some '?') :
    (branch.spell dotSpelling ++ cs).head? ≠ some '?' := by
  cases branch with
  | empty => exact plain
  | piece atom quantifier rest =>
    obtain ⟨d, ds, text, other⟩ := atom.exists_head
    simpa [Branch.spell, text] using other

theorem Alternatives.head_spell (t : Alternatives) (plain : cs.head? ≠ some '?') :
    (t.spell dotSpelling ++ cs).head? ≠ some '?' := by
  cases t with
  | last branch => exact branch.head_spell plain
  | either branch others =>
    rw [Alternatives.spell, List.append_assoc]
    exact branch.head_spell (by simp)

theorem Atom.isRepeatable_asRead (atom : Atom) : isRepeatable atom.asRead = true := by
  cases atom <;> rfl

mutual

/-- An atom is read as a part of its branch. -/
theorem Atom.run_spell (atom : Atom) (portable : atom.isPortable = true) (cs : List Char) (n : Nat)
    (enough : (atom.spell dotSpelling ++ cs).length ≤ n) (branches parts : List Pattern) :
    (patternUpTo (n + 1) branches parts).run ⟨atom.spell dotSpelling ++ cs, false, names⟩
      = (patternUpTo n branches (atom.asRead :: parts)).run ⟨cs, false, names⟩ := by
  match atom with
  | .char c =>
    obtain ⟨noCaret, noDollar⟩ : c.isPlain '^' = false ∧ c.isPlain '$' = false := by
      simpa [Atom.isPortable] using portable
    exact run_char c noCaret noDollar n branches parts
  | .dot => exact run_bracketed BracketedSet.noLineEnd (by decide) n branches parts
  | .category named => exact run_category named n branches parts
  | .bracketed set => exact run_bracketed set portable n branches parts
  | .group inner =>
    have text : (Atom.group inner).spell dotSpelling ++ cs
        = '(' :: (inner.spell dotSpelling ++ ')' :: cs) := by simp [Atom.spell]
    rw [text] at enough ⊢
    exact run_group (run_groupHead (inner.head_spell (by simp))) n branches parts
      (inner.run_spell portable (')' :: cs) n enough (.inr rfl) [])
termination_by structural atom

/-- A branch is read part by part. -/
theorem Branch.run_spell (branch : Branch) (portable : branch.isPortable = true) (cs : List Char)
    (n : Nat) (enough : (branch.spell dotSpelling ++ cs).length < n) (plain : cs.head? ≠ some '?')
    (branches parts : List Pattern) :
    ∃ m, cs.length < m ∧
      (patternUpTo n branches parts).run ⟨branch.spell dotSpelling ++ cs, false, names⟩
        = (patternUpTo m branches (branch.asRead.reverse ++ parts)).run ⟨cs, false, names⟩ := by
  match branch with
  | .empty => exact ⟨n, enough, rfl⟩
  | .piece atom quantifier rest =>
    obtain ⟨⟨atomPortable, quantifierPortable⟩, restPortable⟩ :
        (atom.isPortable = true ∧ quantifier.isPortable = true) ∧ rest.isPortable = true := by
      simpa [Branch.isPortable] using portable
    obtain ⟨n, rfl⟩ : ∃ k, n = k + 1 := ⟨n - 1, by omega⟩
    obtain ⟨d, ds, head, _⟩ := atom.exists_head
    have text : (Branch.piece atom quantifier rest).spell dotSpelling ++ cs
        = atom.spell dotSpelling ++ (quantifier.text ++ (rest.spell dotSpelling ++ cs)) := by
      simp [Branch.spell]
    rw [text] at enough ⊢
    rw [atom.run_spell atomPortable _ n (by omega)]
    simp only [head, List.cons_append, List.length_cons, List.length_append] at enough
    have greedy := rest.head_spell plain
    by_cases written : quantifier.text = []
    · obtain rfl : quantifier = .once := by cases quantifier <;> simp_all [Quantifier.text]
      obtain ⟨m, more, read⟩ := rest.run_spell restPortable cs n
        (by rw [List.length_append]; omega) plain branches (atom.asRead :: parts)
      refine ⟨m, more, ?_⟩
      rw [Quantifier.text, List.nil_append, read]
      simp [Branch.asRead, Quantifier.asRead]
    · have some := List.length_pos_iff.mpr written
      obtain ⟨n, rfl⟩ : ∃ k, n = k + 1 := ⟨n - 1, by omega⟩
      obtain ⟨m, more, read⟩ := rest.run_spell restPortable cs n
        (by rw [List.length_append]; omega) plain branches
        (quantifier.asRead atom.asRead :: parts)
      refine ⟨m, more, ?_⟩
      rw [run_quantifier quantifier written quantifierPortable greedy atom.isRepeatable_asRead,
        read]
      simp [Branch.asRead]
termination_by structural branch

/-- A pattern is read branch by branch up to its end. -/
theorem Alternatives.run_spell (t : Alternatives) (portable : t.isPortable = true)
    (cs : List Char) (n : Nat) (enough : (t.spell dotSpelling ++ cs).length < n)
    (ends : cs.head? = none ∨ cs.head? = some ')') (branches : List Pattern) :
    (patternUpTo n branches []).run ⟨t.spell dotSpelling ++ cs, false, names⟩
      = some (.ofBranches (branches.reverse ++ t.asRead), ⟨cs, false, names⟩) := by
  have plain : cs.head? ≠ some '?' := by
    rcases ends with none | close
    · simp [none]
    · simp [close]
  match t with
  | .last branch =>
    obtain ⟨m, more, read⟩ := branch.run_spell portable cs n enough plain branches []
    obtain ⟨m, rfl⟩ : ∃ k, m = k + 1 := ⟨m - 1, by omega⟩
    rw [Alternatives.spell, read, run_end ends]
    simp [Alternatives.asRead]
  | .either branch others =>
    obtain ⟨branchPortable, othersPortable⟩ :
        branch.isPortable = true ∧ others.isPortable = true := by
      simpa [Alternatives.isPortable] using portable
    have text : (Alternatives.either branch others).spell dotSpelling ++ cs
        = branch.spell dotSpelling ++ '|' :: (others.spell dotSpelling ++ cs) := by
      simp [Alternatives.spell]
    rw [text] at enough ⊢
    obtain ⟨m, more, read⟩ := branch.run_spell branchPortable _ n enough (by simp) branches []
    obtain ⟨m, rfl⟩ : ∃ k, m = k + 1 := ⟨m - 1, by omega⟩
    rw [read, run_bar, others.run_spell othersPortable cs m (Nat.lt_of_succ_lt_succ more) ends]
    simp [Alternatives.asRead]
termination_by structural t

end

end IRegexp

end JsonPath
