import JsonPath.Proofs.EmbeddedQuery
import JsonPath.Proofs.IntegerReading
import JsonPath.Proofs.NumberOrder
import Mathlib.Data.Nat.Digits.Defs

/-!
# Integers in queries

A literal that is written as an integer is kept exactly if it is a signed integer of 64 bits. Beyond
these it is a binary64 number, although a document keeps integers exactly up to `2 ^ 64`. A
comparison with such a literal therefore cannot tell apart the integers that are rounded alike.

Results:
1. `numberText_signed`, `numberText_unsigned`: what an integer is as a literal.
2. `compile_comparison`: two operands with an operator between them are a filter.
3. `integer_literal_selects`: which integer of a document an integer in a query selects.
4. `integer_literal_rounded_away`: these need not be the same.
-/

namespace JsonPath

open Grammar

/-! ## Integers as literals -/

section

variable {n : Int}

/-- The digits of an integer of 64 bits are too few for any of the bounds on decimal numerals. -/
theorem toDouble_ofInt (bounded : n.natAbs < 2 ^ 64) :
    (Numeral.ofInt n).toDouble = Double.ofInt n := by
  have few : (Nat.toDigits 10 n.natAbs).length ≤ 20 :=
    Nat.toDigits_length 10 n.natAbs 20 (by decide) (by omega)
  have value : digitsValue ((Numeral.ofInt n).whole ++ (Numeral.ofInt n).fraction.getD []) =
      n.natAbs := by
    rw [Numeral.ofInt, Option.getD_none, List.append_nil, digitsValue_toDigits]
  have power : (Numeral.ofInt n).power = 0 := rfl
  rw [Numeral.toDouble, value, power, Double.ofDecimal, Double.ofInt, Double.decimalBound]
  split
  · next zero =>
    rw [zero]
    rfl
  · rw [if_neg (by omega), if_neg (by omega), Numeral.ofInt, Double.powerOfTen]
    exact congrArg (Double.ofRatio _ · 1) (Nat.mul_one _)

/-- A signed integer is a literal of its value. -/
theorem numberText_signed (fits : -2 ^ 63 ≤ n ∧ n < 2 ^ 63) :
    NumberText (decimalText n).toList (.integer n) := by
  have signed : fitsSigned (Numeral.ofInt n).wholeValue := by
    rw [wholeValue_ofInt, fitsSigned_iff]
    omega
  have written := NumberText.integer (numeralText_ofInt n) (toDigits_whole _) rfl signed
  rwa [wholeValue_ofInt] at written

/-- An integer beyond the signed ones is a literal of the binary64 number that it is rounded to. -/
theorem numberText_unsigned (beyond : 2 ^ 63 ≤ n) (fits : n < 2 ^ 64) :
    ∃ x, NumberText (decimalText n).toList (.double x) ∧ Double.ofInt n = some x := by
  obtain ⟨x, made, -⟩ := Number.exists_nearest (Number.wellFormed_integer.mpr ⟨by omega, fits⟩)
  refine ⟨x, .double (numeralText_ofInt n) (toDigits_whole _) ?_ ?_, made⟩
  · rintro ⟨-, signed⟩
    rw [wholeValue_ofInt, fitsSigned_iff] at signed
    omega
  · rw [toDouble_ofInt (by omega)]
    exact made

end

/-! ## Comparisons as filters -/

section

variable {repository : Repository} {levels : Nat}

/-- An expression that is planned as what can be compared is planned as an operand. -/
theorem asComparable_pure (c : AnalysisContext) {e : Expression} {f : Filter}
    {plan : Analysis (Option Filter)} (planned : plan = pure (some f))
    (comparable : f.type.isComparable) : c.asComparable e plan = pure (some f) := by
  rw [AnalysisContext.asComparable, AnalysisContext.placed, planned, Noted.pure_bind_eq]
  dsimp only
  rw [comparable]
  rfl

theorem planned_comparison {operator : ComparisonOperator} {e e' : Expression} {f g : Filter}
    (planned : ∀ source, e.analyse ⟨source, repository⟩ = pure (some f))
    (planned' : ∀ source, e'.analyse ⟨source, repository⟩ = pure (some g))
    (comparable : f.type.isComparable) (comparable' : g.type.isComparable) (span : Span) :
    Planned repository (.comparison operator e e' span) (.comparison operator f g) := by
  intro source
  refine asTest_pure _ ?_ rfl
  rw [Expression.analyse, asComparable_pure _ (planned source) comparable,
    asComparable_pure _ (planned' source) comparable']
  rfl

/-- Two comparables with an operator between spaces are an expression. -/
theorem expressionText_comparison {n : Nat} {place : Position} {first second cs : List Char}
    {operator : ComparisonOperator} {e e' : Expression}
    (written : cs = first ++ ([' '] ++ (operator.text.toList ++ ([' '] ++ second))))
    (left : ComparableText (deeperText n) place first e)
    (right : ComparableText (deeperText n)
      ((place.afterAll (first ++ ([' '] ++ operator.text.toList))).afterAll [' ']) second e') :
    expressionText n place cs (.comparison operator e e' (spanOf place cs)) := by
  have spaced : Blank [' '] := by
    intro c listed
    rw [List.mem_singleton.mp listed]
    rfl
  rw [expressionText_eq, written]
  exact .single (.single (.compared left spaced ⟨[' '], second, spaced, rfl, right⟩))

/-- Two operands with an operator between them are a filter. -/
theorem compile_comparison (settings : CompilerSettings) {left right : String} {f g : Filter}
    (operator : ComparisonOperator) (first : StandsFor repository levels left f)
    (second : StandsFor repository levels right g) (comparable : f.type.isComparable)
    (comparable' : g.type.isComparable) (room : levels < settings.maxNestingDepth) :
    let test := left ++ " " ++ operator.text ++ " " ++ right
    (compile settings repository (filterQuery test)).value =
      some ⟨filterQuery test, [⟨.child, [.filter (.comparison operator f g)]⟩]⟩ := by
  intro test
  have written : test.toList =
      left.toList ++ ([' '] ++ (operator.text.toList ++ ([' '] ++ right.toList))) := by
    simp only [test, String.toList_append, List.append_assoc]
    rfl
  obtain ⟨e, operand, planned⟩ := first levels (Nat.le_refl _) filterPlace
  obtain ⟨e', operand', planned'⟩ := second levels (Nat.le_refl _)
    ((filterPlace.afterAll (left.toList ++ ([' '] ++ operator.text.toList))).afterAll [' '])
  have padded : Padded (expressionText levels) filterPlace test.toList
      (.comparison operator e e' (spanOf filterPlace test.toList)) :=
    ⟨[], _, [], .nil, .nil, (List.append_nil _).symm,
      expressionText_comparison written operand operand'⟩
  obtain ⟨moved, span, parsed⟩ := parse_filterQuery_within padded room
  exact compile_of_planned parsed ((planned_withSpans moved).mpr
    (planned_comparison planned planned' comparable comparable' _))

theorem current_standsFor (repository : Repository) :
    StandsFor repository 0 "@" (.query .current []) := by
  intro n _ place
  exact ⟨_, .query ⟨[], [], rfl, .nil, rfl⟩, fun _ => rfl⟩

theorem number_standsFor (repository : Repository) {text : String} {a : Number}
    (written : NumberText text.toList a) :
    StandsFor repository 0 text (.literal (.number a)) := by
  intro n _ place
  exact ⟨_, .number written, fun _ => rfl⟩

/-- The current value is compared as it is. -/
theorem holds_current (c : EvaluationContext) (operator : ComparisonOperator) (v current : Value) :
    (Filter.comparison operator (.query .current []) (.literal v)).holds c current =
      operator.compare (.value current) (.value v) := rfl

end

/-! ## Results -/

section

variable {m n : Int}

/-- What an integer literal is equal to. -/
theorem exists_literal (bounds : -2 ^ 63 ≤ m ∧ m < 2 ^ 64) :
    ∃ a, NumberText (decimalText m).toList a ∧ ∀ n : Int, -2 ^ 63 ≤ n ∧ n < 2 ^ 64 →
      ((Number.integer n).compare a = some .eq ↔
        m = n ∨ 2 ^ 63 ≤ m ∧ (Number.integer m).rounded = (Number.integer n).rounded) := by
  rcases lt_or_ge m (2 ^ 63) with signed | beyond
  · refine ⟨.integer m, numberText_signed ⟨bounds.1, signed⟩, fun n bounds' => ?_⟩
    rw [Number.compare_of_integers (Number.wellFormed_integer.mpr bounds')
      (Number.wellFormed_integer.mpr bounds) rfl rfl, Option.some.injEq, compare_eq_iff_eq,
      or_iff_left (fun h => absurd h.1 (not_le.mpr signed))]
    exact Int.cast_inj.trans eq_comm
  · obtain ⟨x, written, made⟩ := numberText_unsigned beyond bounds.2
    refine ⟨.double x, written, fun n bounds' => ?_⟩
    have wellFormed : (Number.double x).WellFormed := (Double.ofInt_isNearest made).1
    have is : (Number.integer m).rounded = (Number.double x).rounded := by
      rw [Number.rounded, Number.rounded, Number.toDouble, made]
      rfl
    rw [Number.compare_of_double (Number.wellFormed_integer.mpr bounds') wellFormed
      (by simp [Number.isInteger]), Option.some.injEq, compare_eq_iff_eq, ← is]
    constructor
    · exact fun same => .inr ⟨beyond, same.symm⟩
    · rintro (rfl | ⟨-, same⟩)
      · rfl
      · exact same.symm

/-- The integer `m` in a query selects the integer `n` of a document if they are the same, but also
if `m` is beyond the range of signed integers and the two are rounded to one binary64 number: as a
literal such an integer is only that number, although in a document it is kept exactly. -/
theorem integer_literal_selects (settings : CompilerSettings) (repository : Repository)
    (room : 0 < settings.maxNestingDepth) (hm : -2 ^ 63 ≤ m ∧ m < 2 ^ 64)
    (hn : -2 ^ 63 ≤ n ∧ n < 2 ^ 64) :
    ∃ plan, (compile settings repository (filterQuery ("@ == " ++ decimalText m))).value =
        some plan ∧
      Value.read documentDepth ("[" ++ decimalText n ++ "]") =
        .ok (.array [.number (.integer n)]) ∧
      ∀ limits, (plan.evaluate limits (.array [.number (.integer n)])).value =
        if m = n ∨ 2 ^ 63 ≤ m ∧ (Number.integer m).rounded = (Number.integer n).rounded
        then [⟨.child .root (.index 0), .number (.integer n)⟩] else [] := by
  obtain ⟨a, written, equal⟩ := exists_literal hm
  have compiled := compile_comparison settings .equal (current_standsFor repository)
    (number_standsFor repository written) rfl rfl room
  have test : "@" ++ " " ++ ComparisonOperator.equal.text ++ " " = "@ == " := by decide
  rw [test] at compiled
  refine ⟨_, compiled, Reader.read_singleton hn 126, fun limits => ?_⟩
  have children : (⟨.root, .array [.number (.integer n)]⟩ : Node).children =
      [⟨.child .root (.index 0), .number (.integer n)⟩] := rfl
  have holds : ((Number.integer n).compare a == some .eq) = decide (m = n ∨
      2 ^ 63 ≤ m ∧ (Number.integer m).rounded = (Number.integer n).rounded) := by
    rw [Bool.eq_iff_iff, beq_iff_eq, decide_eq_true_iff]
    exact equal n hn
  rw [value_evaluate_filter, children, List.filter_singleton, holds_current, ← Bool.cond_decide,
    ← holds]
  rfl

/-- The first integer beyond the signed ones is rounded to itself, and the one below to the same
number. -/
theorem integer_literal_selects_other :
    let m : Int := 9223372036854775808
    let n : Int := 9223372036854775807
    ∃ plan, (compile {} .builtins (filterQuery ("@ == " ++ decimalText m))).value = some plan ∧
      Value.read documentDepth ("[" ++ decimalText n ++ "]") =
        .ok (.array [.number (.integer n)]) ∧
      ∀ limits, (plan.evaluate limits (.array [.number (.integer n)])).value =
        [⟨.child .root (.index 0), .number (.integer n)⟩] := by
  intro m n
  have is : (Number.integer m).toDouble = some ⟨false, 4503599627370496, 11⟩ := by decide +kernel
  have is' : (Number.integer n).toDouble = some ⟨false, 4503599627370496, 11⟩ := by decide +kernel
  have same : (Number.integer m).rounded = (Number.integer n).rounded := by
    rw [Number.rounded, Number.rounded, is, is']
  have hm : -2 ^ 63 ≤ m ∧ m < 2 ^ 64 := by decide
  have hn : -2 ^ 63 ≤ n ∧ n < 2 ^ 64 := by decide
  obtain ⟨plan, compiled, read, selects⟩ := integer_literal_selects {} .builtins (by decide) hm hn
  refine ⟨plan, compiled, read, fun limits => ?_⟩
  rw [selects, if_pos (.inr ⟨by decide, same⟩)]

/-- Of two integers that a document tells apart, the one is selected by the other. -/
theorem integer_literal_rounded_away :
    let document : Value := .array [.number (.integer 9223372036854775808)]
    Value.read documentDepth "[9223372036854775808]" = .ok document ∧
      ∃ plan, (compile {} .builtins "$[?@ == 9223372036854775809]").value = some plan ∧
        (plan.evaluate {} document).value.length = 1 := by
  intro document
  have selects : (compile {} .builtins "$[?@ == 9223372036854775809]").value.any
      (fun plan => (plan.evaluate {} document).value.length == 1) := by decide +kernel
  obtain ⟨plan, compiled, one⟩ := (Option.any_eq_true _ _).mp selects
  have text : "[" ++ decimalText 9223372036854775808 ++ "]" = "[9223372036854775808]" := by
    decide +kernel
  refine ⟨?_, plan, compiled, beq_iff_eq.mp one⟩
  rw [← text]
  exact Reader.read_singleton (by decide) 126

end

end JsonPath
