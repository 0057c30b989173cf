import JsonPath.Proofs.Tiling
import Mathlib.Data.List.DropRight
import Mathlib.Data.String.Basic

/-!
# Places and spans of a text

A place is kept as three numbers that go up with every character, a span as two. Here they are
compared with what a reader counts in the text, and with the text that is cut out.

Results:
1. `counts_afterAll`: bytes, line feeds and the characters behind the last of them.
2. `eq_of_line_column`: line and column tell one place of a text from all others.
3. `Span.Covers.slice_eq`: a span that covers a part of a text cuts out that part.
-/

namespace JsonPath

theorem rtakeWhile_append {p : Char → Bool} {cs ds : List Char} (inside : ∀ c ∈ ds, p c) :
    (cs ++ ds).rtakeWhile p = cs.rtakeWhile p ++ ds := by
  have reversed : ∀ c ∈ ds.reverse, p c := fun c member => inside c (List.mem_reverse.mp member)
  rw [List.rtakeWhile, List.reverse_append, List.takeWhile_append_of_pos reversed,
    List.reverse_append, List.reverse_reverse, ← List.rtakeWhile]

/-! ## Places -/

/-- The place behind `before` as a reader counts it: in bytes, in line feeds, and in the characters
behind the last of them. -/
structure Counts (place : Position) (before : List Char) : Prop where
  offset : place.offset = byteLength before
  line : place.line = 1 + before.count '\n'
  column : place.column = (before.rtakeWhile (· != '\n')).length

theorem byteLength_append (cs ds : List Char) :
    byteLength (cs ++ ds) = byteLength cs + byteLength ds := by
  induction cs with
  | nil => simp [byteLength]
  | cons c cs ih => rw [List.cons_append, byteLength, byteLength, ih, Nat.add_assoc]

theorem byteLength_toList (s : String) : byteLength s.toList = s.utf8ByteSize := by
  have utf8Len (cs : List Char) : byteLength cs = String.utf8Len cs := by
    induction cs with
    | nil => rfl
    | cons c cs ih => rw [byteLength, String.utf8Len_cons, ih, Nat.add_comm]
  rw [utf8Len, ← String.utf8ByteSize_ofList, String.ofList_toList]

theorem line_afterAll (cs : List Char) : (Position.start.afterAll cs).line = 1 + cs.count '\n' := by
  induction cs using List.reverseRecOn with
  | nil => rfl
  | append_singleton cs c ih =>
    rw [Position.afterAll_append, List.count_append, ← Nat.add_assoc, ← ih]
    by_cases feed : c = '\n' <;> simp [Position.after, feed]

theorem column_afterAll (cs : List Char) :
    (Position.start.afterAll cs).column = (cs.rtakeWhile (· != '\n')).length := by
  induction cs using List.reverseRecOn with
  | nil => rfl
  | append_singleton cs c ih =>
    rw [Position.afterAll_append, List.rtakeWhile_concat]
    by_cases feed : c = '\n' <;> simp [Position.after, feed, ih]

/-- Reading keeps the count. -/
theorem counts_afterAll (before : List Char) : Counts (Position.start.afterAll before) before where
  offset := by rw [offset_afterAll]; exact Nat.zero_add _
  line := line_afterAll before
  column := column_afterAll before

/-- Behind more characters a place is in another line, or in the same line and farther to the
right. -/
theorem eq_nil_of_line_column {cs ds : List Char}
    (line : (cs ++ ds).count '\n' = cs.count '\n')
    (column : ((cs ++ ds).rtakeWhile (· != '\n')).length = (cs.rtakeWhile (· != '\n')).length) :
    ds = [] := by
  have noFeed : '\n' ∉ ds := by
    rw [List.count_append] at line
    exact List.count_eq_zero.mp (Nat.add_eq_left.mp line)
  have inside : ∀ c ∈ ds, (c != '\n') = true := fun c member =>
    bne_iff_ne.mpr (ne_of_mem_of_not_mem member noFeed)
  rw [rtakeWhile_append inside, List.length_append] at column
  exact List.length_eq_zero_iff.mp (Nat.add_eq_left.mp column)

/-- No two places of a text have the same line and column. -/
theorem eq_of_line_column {source first second : List Char} (one : first <+: source)
    (other : second <+: source) (line : first.count '\n' = second.count '\n')
    (column : (first.rtakeWhile (· != '\n')).length = (second.rtakeWhile (· != '\n')).length) :
    first = second := by
  rcases List.prefix_or_prefix_of_prefix one other with ⟨more, rfl⟩ | ⟨more, rfl⟩
  · rw [eq_nil_of_line_column line.symm column.symm, List.append_nil]
  · rw [eq_nil_of_line_column line column, List.append_nil]

/-! ## Spans -/

/-- The span covers the text, which is made of whole characters of the source. -/
def Span.Covers (s : Span) (source text : List Char) : Prop :=
  ∃ before after, source = before ++ (text ++ after) ∧
    s = ⟨byteLength before, byteLength (before ++ text)⟩

theorem Span.dropBytes_cons (c : Char) (n : Nat) (cs : List Char) :
    dropBytes (c.utf8Size + n) (c :: cs) = dropBytes n cs := by
  obtain ⟨k, some⟩ := Nat.exists_eq_succ_of_ne_zero (Nat.add_pos_left c.utf8Size_pos n).ne'
  rw [some, dropBytes, ← Nat.succ_eq_add_one, ← some, if_pos (Nat.le_add_right ..),
    Nat.add_sub_cancel_left]

theorem Span.takeBytes_cons (c : Char) (n : Nat) (cs : List Char) :
    takeBytes (c.utf8Size + n) (c :: cs) = (takeBytes n cs).map (c :: ·) := by
  obtain ⟨k, some⟩ := Nat.exists_eq_succ_of_ne_zero (Nat.add_pos_left c.utf8Size_pos n).ne'
  rw [some, takeBytes, ← Nat.succ_eq_add_one, ← some, if_pos (Nat.le_add_right ..),
    Nat.add_sub_cancel_left]

theorem Span.dropBytes_append (before after : List Char) :
    dropBytes (byteLength before) (before ++ after) = some after := by
  induction before with
  | nil => cases after <;> rfl
  | cons c cs ih => rw [byteLength, List.cons_append, dropBytes_cons, ih]

theorem Span.takeBytes_append (text after : List Char) :
    takeBytes (byteLength text) (text ++ after) = some text := by
  induction text with
  | nil => cases after <;> rfl
  | cons c cs ih => rw [byteLength, List.cons_append, takeBytes_cons, ih, Option.map_some]

/-- What a span covers is what it cuts out. -/
theorem Span.Covers.slice_eq {s : Span} {source text : List Char} (covers : s.Covers source text) :
    s.slice source = text := by
  obtain ⟨before, after, rfl, rfl⟩ := covers
  have ordered : byteLength before ≤ byteLength (before ++ text) := by
    rw [byteLength_append]
    exact Nat.le_add_right ..
  rw [slice, if_pos ordered, dropBytes_append, Option.bind_some, byteLength_append,
    Nat.add_sub_cancel_left, takeBytes_append, Option.getD_some]

end JsonPath
