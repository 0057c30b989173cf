import JsonPath.Number
import JsonPath.Proofs.Rounding

/-!
# The order of numbers

Comparison is exact between integers, and between binary64 numbers. An integer and a binary64 number
are compared after rounding the integer. Since rounding keeps the order, that can only make numbers
equal that are not: an integer and the number that it is rounded to.

Results:
1. `rounded_mono`: rounding keeps the order of numbers of either form.
2. `compare_of_integers`, `compare_of_double`: what numbers are ordered by.
3. `compare_swap`, `compare_self`, `compare_trans`: it is an order, although a sequence of
   comparisons may mix exact ones with those after rounding.
4. `compare_up_to_rounding`: it is that of the exact values, but for integers that are rounded.
-/

namespace JsonPath.Number

/-! ## Values -/

/-- The numerical value. -/
def value : Number → ℚ
  | .integer n => n
  | .double x => x.value

/-- The value after rounding to binary64. -/
def rounded (a : Number) : ℚ := (a.toDouble.map Double.value).getD 0

/-- The number is an integer of 64 bits, with a sign or without, or a binary64 number. -/
def WellFormed : Number → Prop
  | .integer n => fitsSigned n ∨ fitsUnsigned n
  | .double x => x.WellFormed

def isInteger : Number → Bool
  | .integer _ => true
  | .double _ => false

/-- The one number is an integer that binary64 does not have, and the other one is the binary64
number that it is rounded to. -/
inductive RoundsTo : Number → Number → Prop where
  | intro {n : Int} {x : Double} (same : (Number.integer n).rounded = x.value)
      (other : x.value ≠ n) : RoundsTo (.integer n) (.double x)

/-! ## Rounding -/

theorem wellFormed_integer {n : Int} :
    (Number.integer n).WellFormed ↔ -2 ^ 63 ≤ n ∧ n < 2 ^ 64 := by
  rw [WellFormed, fitsSigned_iff, fitsUnsigned_iff]
  omega

section

variable {a b c : Number}

/-- No number is too large to be rounded. -/
theorem exists_nearest (wellFormed : a.WellFormed) :
    ∃ x, a.toDouble = some x ∧ a.rounded = x.value ∧ x.IsNearest a.value := by
  cases a with
  | integer n =>
    have bounded := wellFormed_integer.mp wellFormed
    obtain ⟨x, made⟩ := Option.isSome_iff_exists.mp (Double.ofInt_isSome (n := n) (by omega))
    refine ⟨x, made, ?_, Double.ofInt_isNearest made⟩
    rw [rounded, toDouble, made]
    rfl
  | double x => exact ⟨x, rfl, rfl, Double.WellFormed.isNearest wellFormed⟩

theorem rounded_integer {n : Int} (short : n.natAbs ≤ 2 ^ Double.precision) :
    (Number.integer n).rounded = n := by
  have bounded : -2 ^ 63 ≤ n ∧ n < 2 ^ 64 := by
    simp only [Double.precision] at short
    omega
  obtain ⟨x, made, is, -⟩ := exists_nearest (wellFormed_integer.mpr bounded)
  rw [is, Double.ofInt_exact made short]

/-- Numbers of one value are rounded alike, whatever their forms are. -/
theorem rounded_eq (ha : a.WellFormed) (hb : b.WellFormed) (same : a.value = b.value) :
    a.rounded = b.rounded := by
  obtain ⟨x, made, is, nearest⟩ := exists_nearest ha
  obtain ⟨y, made', is', nearest'⟩ := exists_nearest hb
  cases a with
  | integer m =>
    cases b with
    | integer n =>
      rw [Int.cast_inj.mp same]
    | double y =>
      cases made'
      rw [same] at nearest
      rw [is, is']
      exact nearest.exact hb
  | double x =>
    cases made
    rw [← same] at nearest'
    rw [is, is', nearest'.exact ha]

/-- Rounding keeps the order, although it may make numbers equal. -/
theorem rounded_mono (ha : a.WellFormed) (hb : b.WellFormed) (le : a.value ≤ b.value) :
    a.rounded ≤ b.rounded := by
  rcases le.lt_or_eq with less | same
  · obtain ⟨x, -, is, nearest⟩ := exists_nearest ha
    obtain ⟨y, -, is', nearest'⟩ := exists_nearest hb
    rw [is, is']
    exact nearest.mono nearest' less
  · exact (rounded_eq ha hb same).le

/-- Numbers that rounding does not make equal stay in their order. -/
theorem compare_rounded (ha : a.WellFormed) (hb : b.WellFormed) (apart : a.rounded ≠ b.rounded) :
    Ord.compare a.rounded b.rounded = Ord.compare a.value b.value := by
  rcases lt_trichotomy a.value b.value with less | same | greater
  · have less' := (rounded_mono ha hb less.le).lt_of_ne apart
    rw [compare_lt_iff_lt.mpr less, compare_lt_iff_lt.mpr less']
  · exact absurd (rounded_eq ha hb same) apart
  · have greater' := (rounded_mono hb ha greater.le).lt_of_ne apart.symm
    rw [compare_gt_iff_gt.mpr greater, compare_gt_iff_gt.mpr greater']

end

/-! ## Comparison -/

theorem compare_cast (m n : Int) : Ord.compare m n = Ord.compare (m : ℚ) n := by
  rw [← cmp_eq_compare, ← cmp_eq_compare]
  exact (Int.cast_strictMono.cmp_map_eq m n).symm

theorem swap_compare (u v : ℚ) : (Ord.compare u v).swap = Ord.compare v u := by
  rw [← cmp_eq_compare, ← cmp_eq_compare, cmp_swap]

section

variable {a b c : Number}

/-- Both numbers are rounded and compared as what they are rounded to. -/
theorem compareDoubles_eq (ha : a.WellFormed) (hb : b.WellFormed) :
    compare.compareDoubles a b = some (Ord.compare a.rounded b.rounded) := by
  obtain ⟨x, made, is, -⟩ := exists_nearest ha
  obtain ⟨y, made', is', -⟩ := exists_nearest hb
  rw [compare.compareDoubles, made, made', is, is']
  exact congrArg some (Double.compare_eq x y)

/-- Unless both are integers, numbers are ordered as they are rounded. -/
theorem compare_of_double (ha : a.WellFormed) (hb : b.WellFormed)
    (mixed : ¬(a.isInteger ∧ b.isInteger)) :
    a.compare b = some (Ord.compare a.rounded b.rounded) := by
  cases a with
  | integer m =>
    cases b with
    | integer n => exact absurd ⟨rfl, rfl⟩ mixed
    | double y => exact compareDoubles_eq ha hb
  | double x => exact compareDoubles_eq ha hb

/-- An integer with a sign and one beyond the range of signed integers are not rounded to one
number. -/
theorem rounded_ne {m n : Int} (hm : (Number.integer m).WellFormed)
    (hn : (Number.integer n).WellFormed) (negative : m < 0) (positive : 0 < n) :
    (Number.integer m).rounded ≠ (Number.integer n).rounded := by
  have below : (Number.integer m).rounded ≤ (Number.integer 0).rounded :=
    rounded_mono hm (.inl (by decide)) (Int.cast_le.mpr negative.le)
  have above : (Number.integer 1).rounded ≤ (Number.integer n).rounded :=
    rounded_mono (.inl (by decide)) hn (Int.cast_le.mpr positive)
  have zero : (Number.integer 0).rounded = (0 : Int) := rounded_integer (by decide)
  have one : (Number.integer 1).rounded = (1 : Int) := rounded_integer (by decide)
  rw [zero, Int.cast_zero] at below
  rw [one, Int.cast_one] at above
  exact ((below.trans_lt one_pos).trans_le above).ne

/-- Integers are ordered exactly, also where only one of them is in the range of signed integers
and only the other one in that of unsigned ones. -/
theorem compare_of_integers (ha : a.WellFormed) (hb : b.WellFormed) (integer : a.isInteger)
    (integer' : b.isInteger) : a.compare b = some (Ord.compare a.value b.value) := by
  cases a with
  | double => cases integer
  | integer m =>
    cases b with
    | double => cases integer'
    | integer n =>
      rw [compare]
      split
      · exact congrArg some (compare_cast m n)
      · next apart =>
        rw [compareDoubles_eq ha hb, compare_rounded ha hb]
        rw [Bool.or_eq_true, Bool.and_eq_true, Bool.and_eq_true, not_or, not_and, not_and,
          fitsSigned_iff, fitsSigned_iff, fitsUnsigned_iff, fitsUnsigned_iff] at apart
        have bounds := wellFormed_integer.mp ha
        have bounds' := wellFormed_integer.mp hb
        rcases lt_or_ge m 0 with negative | nonnegative
        · exact rounded_ne ha hb negative (by omega)
        · exact (rounded_ne hb ha (by omega) (by omega)).symm

/-- Every two numbers are ordered. -/
theorem exists_compare (ha : a.WellFormed) (hb : b.WellFormed) :
    ∃ order, a.compare b = some order := by
  by_cases integers : a.isInteger ∧ b.isInteger
  · exact ⟨_, compare_of_integers ha hb integers.1 integers.2⟩
  · exact ⟨_, compare_of_double ha hb integers⟩

theorem compareDoubles_swap (a b : Number) :
    compare.compareDoubles b a = (compare.compareDoubles a b).map Ordering.swap := by
  rw [compare.compareDoubles, compare.compareDoubles]
  cases a.toDouble with
  | none => cases b.toDouble <;> rfl
  | some x =>
    cases b.toDouble with
    | none => rfl
    | some y =>
      dsimp only
      rw [Option.map_some, Double.compare_eq, Double.compare_eq, swap_compare]

/-- Numbers the other way round have the opposite order. -/
theorem compare_swap (a b : Number) : b.compare a = (a.compare b).map Ordering.swap := by
  cases a with
  | double x =>
    cases b with
    | integer n => exact compareDoubles_swap (.double x) (.integer n)
    | double y => exact compareDoubles_swap (.double x) (.double y)
  | integer m =>
    cases b with
    | double y => exact compareDoubles_swap (.integer m) (.double y)
    | integer n =>
      have same : (fitsSigned n && fitsSigned m || fitsUnsigned n && fitsUnsigned m) =
          (fitsSigned m && fitsSigned n || fitsUnsigned m && fitsUnsigned n) := by
        rw [Bool.and_comm, Bool.and_comm (fitsUnsigned n)]
      rw [compare, compare, same]
      split
      · rw [Option.map_some, compare_cast, compare_cast, swap_compare]
      · exact compareDoubles_swap _ _

/-- Every number equals itself. -/
theorem compare_self (wellFormed : a.WellFormed) : a.compare a = some .eq := by
  cases integer : a.isInteger with
  | true =>
    rw [compare_of_integers wellFormed wellFormed integer integer, compare_eq_iff_eq.mpr rfl]
  | false =>
    rw [compare_of_double wellFormed wellFormed (by simp [integer]), compare_eq_iff_eq.mpr rfl]

/-- What is found less is less, and if one of the numbers is no integer rounding keeps it so. -/
theorem compare_eq_lt (ha : a.WellFormed) (hb : b.WellFormed) :
    a.compare b = some .lt ↔
      a.value < b.value ∧ (a.isInteger ∧ b.isInteger ∨ a.rounded < b.rounded) := by
  by_cases integers : a.isInteger ∧ b.isInteger
  · rw [compare_of_integers ha hb integers.1 integers.2, Option.some.injEq, compare_lt_iff_lt]
    exact (and_iff_left (.inl integers)).symm
  · rw [compare_of_double ha hb integers, Option.some.injEq, compare_lt_iff_lt,
      or_iff_right integers]
    refine (and_iff_right_of_imp fun less => ?_).symm
    by_contra ge
    exact not_lt.mpr (rounded_mono hb ha (not_lt.mp ge)) less

/-- Of three numbers two may be compared exactly and two after rounding; the first is still less
than the last. -/
theorem compare_trans (ha : a.WellFormed) (hb : b.WellFormed) (hc : c.WellFormed)
    (first : a.compare b = some .lt) (second : b.compare c = some .lt) :
    a.compare c = some .lt := by
  rw [compare_eq_lt ha hb] at first
  rw [compare_eq_lt hb hc] at second
  rw [compare_eq_lt ha hc]
  obtain ⟨less, kept⟩ := first
  obtain ⟨less', kept'⟩ := second
  refine ⟨less.trans less', ?_⟩
  rcases kept with ⟨integer, -⟩ | kept
  · rcases kept' with ⟨-, integer'⟩ | kept'
    · exact .inl ⟨integer, integer'⟩
    · exact .inr ((rounded_mono ha hb less.le).trans_lt kept')
  · exact .inr (kept.trans_le (rounded_mono hb hc less'.le))

/-! ## Results -/

/-- Numbers that are rounded alike have one value, unless one of them is rounded to the other. -/
theorem value_eq_of_rounded (mixed : ¬(a.isInteger ∧ b.isInteger))
    (apart : ¬(a.RoundsTo b ∨ b.RoundsTo a)) (same : a.rounded = b.rounded) :
    a.value = b.value := by
  rw [not_or] at apart
  cases a with
  | double x =>
    cases b with
    | double y => exact same
    | integer n => exact not_not.mp fun other => apart.2 (.intro same.symm other)
  | integer m =>
    cases b with
    | integer n => exact absurd ⟨rfl, rfl⟩ mixed
    | double y => exact (not_not.mp fun other => apart.1 (.intro same other)).symm

/-- An integer and the binary64 number that it is rounded to count as equal. -/
theorem compare_of_roundsTo (ha : a.WellFormed) (hb : b.WellFormed) (rounds : a.RoundsTo b) :
    a.compare b = some .eq := by
  cases rounds with
  | intro same other =>
    rw [compare_of_double ha hb (by simp [isInteger])]
    exact congrArg some (compare_eq_iff_eq.mpr same)

/-- Numbers are ordered by their exact values, unless one of them is an integer that binary64 does
not have and the other one is the binary64 number that it is rounded to: these two count as equal.
It takes an integer of more than 53 bits. Rounding is to the nearest number, and a tie goes to the
even one. -/
theorem compare_up_to_rounding (ha : a.WellFormed) (hb : b.WellFormed) :
    (¬(a.RoundsTo b ∨ b.RoundsTo a) → a.compare b = some (Ord.compare a.value b.value)) ∧
    (a.RoundsTo b ∨ b.RoundsTo a → a.compare b = some .eq) ∧
    (a.RoundsTo b → 2 ^ 53 < |a.value|) ∧
    ∃ x, a.toDouble = some x ∧ a.rounded = x.value ∧ x.IsNearest a.value := by
  refine ⟨fun apart => ?_, fun rounds => ?_, fun rounds => ?_, exists_nearest ha⟩
  · by_cases integers : a.isInteger ∧ b.isInteger
    · exact compare_of_integers ha hb integers.1 integers.2
    · rw [compare_of_double ha hb integers]
      by_cases same : a.rounded = b.rounded
      · rw [compare_eq_iff_eq.mpr same,
          compare_eq_iff_eq.mpr (value_eq_of_rounded integers apart same)]
      · rw [compare_rounded ha hb same]
  · rcases rounds with rounds | rounds
    · exact compare_of_roundsTo ha hb rounds
    · rw [compare_swap b a, compare_of_roundsTo hb ha rounds]
      rfl
  · cases rounds with
    | @intro n x same other =>
      by_contra short
      have short : n.natAbs ≤ 2 ^ 53 := by
        rw [not_lt, value] at short
        zify
        exact_mod_cast short
      rw [rounded_integer short] at same
      exact other same.symm

/-- The integer after `2 ^ 53` lies between two binary64 numbers and is rounded down, so the one
above stays above. -/
theorem compare_up_to_rounding_apart :
    let a : Number := .integer 9007199254740993
    let b : Number := .double ⟨false, 4503599627370497, 1⟩
    a.WellFormed ∧ b.WellFormed ∧ ¬(a.RoundsTo b ∨ b.RoundsTo a) ∧
      a.compare b = some (Ord.compare a.value b.value) := by
  intro a b
  have ha : a.WellFormed := .inl (by decide)
  have hb : b.WellFormed := ⟨by decide, by decide, by decide, .inr (by decide)⟩
  have is : a.toDouble = some ⟨false, 4503599627370496, 1⟩ := by decide +kernel
  have apart : ¬(a.RoundsTo b ∨ b.RoundsTo a) := by
    simp only [a, b]
    rintro (⟨same, -⟩ | rounds)
    · rw [rounded, is] at same
      norm_num [Double.value, Double.magnitude, Double.withSign] at same
    · cases rounds
  exact ⟨ha, hb, apart, (compare_up_to_rounding ha hb).1 apart⟩

/-- The same integer and the one below count as equal, although the integer is greater. -/
theorem compare_rounded_away :
    let a : Number := .integer 9007199254740993
    let b : Number := .double ⟨false, 4503599627370496, 1⟩
    a.WellFormed ∧ b.WellFormed ∧ a.compare b = some .eq ∧ b.value < a.value := by
  refine ⟨.inl (by decide), ⟨by decide, by decide, by decide, .inr (by decide)⟩,
    by decide +kernel, ?_⟩
  norm_num [value, Double.value, Double.magnitude, Double.withSign]

end

end JsonPath.Number
