import JsonPath.Regex.CharSet

/-!
# What sets of characters contain

A set of characters is kept as runs of code points, and its operations join runs. Here they are read
character by character. That works for sets whose runs reach far enough to decide every character:
two sets are joined only as far as the shorter one reaches.

Results:
1. `Runs.value?_zipWith`, `Runs.value?_merged`, `Runs.value?_mapValue`: operations on runs are
   operations on the values of each code point.
2. `CharSet.contains_unions`, `CharSet.contains_complement`: what sets built from complete ones
   contain.
3. `GeneralCategory.table_covers`: the table of categories knows every code point, so that
   `CharSet.contains_ofCategories` holds of all characters.
-/

namespace JsonPath

namespace Runs

/-! ## Runs -/

@[simp] theorem value?_mapValue (f : α → β) (runs : Runs α) (n : Nat) :
    (runs.mapValue f).value? n = (runs.value? n).map f := by
  induction runs generalizing n with
  | nil => rfl
  | cons run rest ih =>
    obtain ⟨length, x⟩ := run
    have rest_mapped := ih (n - length)
    simp only [mapValue] at rest_mapped ⊢
    by_cases inside : n < length <;> simp [value?, inside, rest_mapped]

/-- Two runs of the same value, one after the other, are one. -/
theorem value?_join (m n : Nat) (x : α) (rest : Runs α) (i : Nat) :
    value? ((m + n, x) :: rest) i = value? ((m, x) :: (n, x) :: rest) i := by
  by_cases first : i < m
  · simp [value?, first, show i < m + n by omega]
  · by_cases second : i - m < n
    · simp [value?, first, second, show i < m + n by omega]
    · simp [value?, first, second, show ¬i < m + n by omega, Nat.sub_sub]

/-- Only the values of what stands behind a run matter. -/
theorem value?_cons_congr {as bs : Runs α} (same : ∀ i, as.value? i = bs.value? i)
    (run : Nat × α) (n : Nat) : value? (run :: as) n = value? (run :: bs) n := by
  simp [value?, same]

@[simp] theorem value?_merged [DecidableEq α] (runs : Runs α) (n : Nat) :
    runs.merged.value? n = runs.value? n := by
  induction runs generalizing n with
  | nil => rfl
  | cons run rest ih =>
    obtain ⟨length, x⟩ := run
    have kept := value?_cons_congr ih (length, x) n
    unfold merged
    split
    · next empty => simp [ih, value?, empty]
    · split
      · next m y others behind =>
        rw [behind] at kept
        split
        · next same => rw [← kept, same, value?_join]
        · exact kept
      · next behind => rwa [behind] at kept

theorem value?_zipWith (f : α → β → γ) (as : Runs α) (bs : Runs β) (n : Nat) :
    (zipWith f as bs).value? n = (as.value? n).bind fun a => (bs.value? n).map (f a) := by
  fun_induction zipWith f as bs generalizing n with
  | case1 bs => rfl
  | case2 as none => cases as <;> simp [value?]
  | case3 l a as m b bs shorter ih =>
    by_cases inside : n < l
    · simp [value?, inside, show n < m by omega]
    · by_cases still : n < m
      · simp [value?, inside, ih, still, show n - l < m - l by omega]
      · simp [value?, inside, ih, still, show ¬n - l < m - l by omega,
          show n - l - (m - l) = n - m by omega]
  | case4 l a as m b bs longer shorter ih =>
    by_cases inside : n < m
    · simp [value?, inside, show n < l by omega]
    · by_cases still : n < l
      · simp [value?, inside, ih, still, show n - m < l - m by omega]
      · simp [value?, inside, ih, still, show ¬n - m < l - m by omega,
          show n - m - (l - m) = n - l by omega]
  | case5 l a as m b bs notShorter notLonger ih =>
    obtain rfl : l = m := by omega
    by_cases inside : n < l <;> simp [value?, inside, ih]

/-- Whether the runs give values to as many code points. -/
def covers : Runs α → Nat → Bool
  | [], n => n == 0
  | (length, _) :: rest, n => if n ≤ length then true else covers rest (n - length)

theorem isSome_value?_of_covers {runs : Runs α} {m n : Nat} (covered : runs.covers m = true)
    (below : n < m) : (runs.value? n).isSome := by
  induction runs generalizing m n with
  | nil => simp [covers] at covered; omega
  | cons run rest ih =>
    obtain ⟨length, x⟩ := run
    by_cases inside : n < length
    · simp [value?, inside]
    · have further : ¬m ≤ length := by omega
      simp only [covers, if_neg further] at covered
      simp only [value?, if_neg inside]
      exact ih covered (by omega)

@[simp] theorem covers_map (f : α → β) (runs : Runs α) (n : Nat) :
    covers (runs.map fun run => (run.1, f run.2)) n = runs.covers n := by
  induction runs generalizing n with
  | nil => rfl
  | cons run rest ih => simp [covers, ih]

end Runs

/-! ## Sets -/

namespace CharSet

/-- The set says of every character whether it is inside. -/
def Complete (s : CharSet) : Prop := ∀ c : Char, (s.runs.value? c.toNat).isSome

theorem Complete.value? {s : CharSet} (complete : s.Complete) (c : Char) :
    s.runs.value? c.toNat = some (s.contains c) := by
  obtain ⟨inside, value⟩ := Option.isSome_iff_exists.mp (complete c)
  simp [contains, value]

theorem toNat_lt_codePoints (c : Char) : c.toNat < codePoints := by
  have := c.valid
  simp only [UInt32.isValidChar, Nat.isValidChar] at this
  simp only [Char.toNat, codePoints]
  omega

theorem complete_range (low high : Nat) : (range low high).Complete := by
  intro c
  have := toNat_lt_codePoints c
  simp only [range, Runs.value?]
  repeat' split
  all_goals first | rfl | omega

theorem contains_range (low high : Nat) (c : Char) :
    (range low high).contains c = true ↔ low ≤ c.toNat ∧ c.toNat ≤ high := by
  simp only [contains, range, Runs.value?]
  repeat' split
  all_goals
    simp only [Option.getD_some, Option.getD_none, Bool.false_eq_true, false_iff, true_iff]
    omega

theorem contains_single (c d : Char) : (single c).contains d = true ↔ d = c := by
  rw [single, contains_range, ← Nat.le_antisymm_iff, eq_comm, Char.toNat_inj]

theorem complete_single (c : Char) : (single c).Complete := complete_range _ _

theorem value?_combine {s t : CharSet} (hs : s.Complete) (ht : t.Complete)
    (f : Bool → Bool → Bool) (c : Char) :
    (s.combine f t).runs.value? c.toNat = some (f (s.contains c) (t.contains c)) := by
  rw [combine, Runs.value?_merged, Runs.value?_zipWith, hs.value? c, ht.value? c]
  rfl

theorem Complete.combine {s t : CharSet} (hs : s.Complete) (ht : t.Complete)
    (f : Bool → Bool → Bool) : (s.combine f t).Complete :=
  fun c => by rw [value?_combine hs ht]; rfl

theorem contains_combine {s t : CharSet} (hs : s.Complete) (ht : t.Complete)
    (f : Bool → Bool → Bool) (c : Char) :
    (s.combine f t).contains c = f (s.contains c) (t.contains c) := by
  rw [contains, value?_combine hs ht, Option.getD_some]

theorem value?_complement {s : CharSet} (complete : s.Complete) (c : Char) :
    s.complement.runs.value? c.toNat = some (!s.contains c) := by
  rw [complement, Runs.value?_mapValue, complete.value? c, Option.map_some]

theorem Complete.complement {s : CharSet} (complete : s.Complete) : s.complement.Complete :=
  fun c => by rw [value?_complement complete]; rfl

theorem contains_complement {s : CharSet} (complete : s.Complete) (c : Char) :
    s.complement.contains c = !s.contains c := by
  rw [contains, value?_complement complete, Option.getD_some]

/-- Sets joined one after the other: the result is complete and holds what one of them holds. -/
theorem foldl_union {sets : List CharSet} (complete : ∀ s ∈ sets, s.Complete) {start : CharSet}
    (started : start.Complete) :
    (sets.foldl union start).Complete ∧
      ∀ c, (sets.foldl union start).contains c
        = (start.contains c || sets.any (·.contains c)) := by
  induction sets generalizing start with
  | nil => simp [started]
  | cons s sets ih =>
    have hs := complete s List.mem_cons_self
    obtain ⟨joined, contents⟩ := ih (fun t ht => complete t (List.mem_cons_of_mem _ ht))
      (started.combine hs or)
    refine ⟨joined, fun c => ?_⟩
    rw [List.foldl_cons, union, contents, contains_combine started hs, List.any_cons,
      Bool.or_assoc]

theorem complete_empty : empty.Complete := by
  intro c
  simp [empty, Runs.value?, toNat_lt_codePoints c]

theorem complete_unions {sets : List CharSet} (complete : ∀ s ∈ sets, s.Complete) :
    (unions sets).Complete :=
  (foldl_union complete complete_empty).1

theorem contains_unions {sets : List CharSet} (complete : ∀ s ∈ sets, s.Complete) (c : Char) :
    (unions sets).contains c = sets.any (·.contains c) := by
  rw [unions, (foldl_union complete complete_empty).2]
  simp [contains, empty, Runs.value?, toNat_lt_codePoints c]

end CharSet

/-! ## Categories -/

theorem toList_join_cons {line : String} {cs : List Char} {lines : List String}
    {css : List (List Char)} (first : line = String.ofList cs)
    (others : (String.join lines).toList = css.flatten) :
    (String.join (line :: lines)).toList = (cs :: css).flatten := by
  simp [first, ← others, String.join_cons]

/-- The table of categories knows every code point. Its text is taken apart line by line first,
which spares the kernel from decoding text. -/
theorem GeneralCategory.table_covers :
    GeneralCategory.table.covers CharSet.codePoints = true := by
  have spelled : ∃ css : List (List Char), tableText.toList = css.flatten ∧
      (Runs.decodeFrom css.flatten 0 []).covers CharSet.codePoints = true := by
    apply Exists.intro
    apply And.intro
    · unfold tableText
      dsimp only
      repeat apply toList_join_cons rfl
      exact List.flatten_nil.symm
    · decide +kernel
  obtain ⟨css, text, covered⟩ := spelled
  rw [table, Runs.covers_map, Runs.decode, text, covered]

namespace CharSet

theorem complete_ofCategories (categories : List GeneralCategory) :
    (ofCategories categories).Complete := by
  intro c
  have known := Runs.isSome_value?_of_covers GeneralCategory.table_covers (toNat_lt_codePoints c)
  simpa [ofCategories] using known

theorem contains_ofCategories (categories : List GeneralCategory) (c : Char) :
    (ofCategories categories).contains c = categories.contains (.of c) := by
  have known := Runs.isSome_value?_of_covers GeneralCategory.table_covers (toNat_lt_codePoints c)
  obtain ⟨category, value⟩ := Option.isSome_iff_exists.mp known
  simp [ofCategories, contains, GeneralCategory.of, value]

end CharSet

end JsonPath
