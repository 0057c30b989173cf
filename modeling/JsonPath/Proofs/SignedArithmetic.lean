import JsonPath.Proofs.ArrayPlaces
import JsonPath.Proofs.IndexRange

/-!
# Indices and slices in 64 bits

The places that indices and slices stand for are given over all integers, those of a slice by their
number. A machine computes them with signed 64-bit integers, those of a slice in a loop. The
functions of `Signed` do it that way, step by step: they come to `none` as soon as a number is
beyond 64 bits, or is to be brought between two bounds of which the first is above the second, or as
soon as something in front of the array would be read.

Results:
1. `placesFrom?_eq`: the loop ends, and takes as many steps as are counted.
2. `resolveIndex?_eq`, `indices?_eq`: nothing of this happens for arrays of up to `2 ^ 62` elements.
3. `array_selection_exact`: indices and slices pick what they stand for.
-/

namespace JsonPath

namespace Signed

/-- The number, if it is a signed 64-bit integer. -/
def signed? (n : Int) : Option Int := if fitsSigned n then some n else none

/-- An index or a bound counted from the start. -/
def resolved? (length : Nat) (n : Int) : Option Int :=
  if n < 0 then signed? (length + n) else some n

/-- The place that an index stands for; there is none if the length is beyond 64 bits. -/
def resolveIndex? (length : Nat) (index : Int) : Option (Option Nat) :=
  if fitsSigned length then do
    let resolved ← resolved? length index
    return if 0 ≤ resolved ∧ resolved < length then some resolved.toNat else none
  else some none

/-- The nearest number between two others, of which the first must not be above the second. -/
def clamp? (low high n : Int) : Option Int :=
  if low ≤ high then some (SliceBounds.clamp low high n) else none

/-- A bound of a slice, taken to the nearest end; one that is left out is `absent`. -/
def bound? (length : Nat) (low high absent : Int) (bound : Option Int) : Option Int := do
  clamp? low high (← bound.elim (some absent) (resolved? length))

/-- Whether a slice goes on at a place. -/
def GoesOn (step last index : Int) : Prop :=
  0 < step ∧ index < last ∨ step < 0 ∧ last < index

instance (step last index : Int) : Decidable (GoesOn step last index) :=
  inferInstanceAs (Decidable (_ ∨ _))

/-- The places from one on, in front of the last one. -/
def placesFrom? (step last index : Int) : Option (List Nat) :=
  if GoesOn step last index then
    if 0 ≤ index ∧ fitsSigned (index + step) then
      (placesFrom? step last (index + step)).map (index.toNat :: ·)
    else none
  else some []
termination_by if 0 < step then (last - index).toNat else (index - last).toNat
decreasing_by
  next further _ =>
    unfold GoesOn at further
    split <;> omega

/-- The places of a slice; there are none if the length is beyond 64 bits. -/
def indices? (length : Nat) (b : SliceBounds) : Option (List Nat) :=
  let step := b.step.getD 1
  if fitsSigned length then
    if 0 < step then do
      let lower ← bound? length 0 length 0 b.start
      let upper ← bound? length 0 length length b.stop
      placesFrom? step upper lower
    else if step < 0 then do
      let last ← signed? (length - 1)
      let upper ← bound? length (-1) last last b.start
      let beyond ← signed? ((← signed? (-length)) - 1)
      let lower ← bound? length (-1) last beyond b.stop
      placesFrom? step lower upper
    else some []
  else some []

/-! ## The loop -/

/-- The loop takes as many steps as there are places at which it goes on, if these are in the array
and the place behind each of them fits 64 bits. -/
theorem placesFrom?_eq {step last index : Int} {count : Nat}
    (goesOn : ∀ k : Nat, k < count ↔ GoesOn step last (index + k * step))
    (fits : ∀ k < count, 0 ≤ index + k * step ∧ fitsSigned (index + k * step + step)) :
    placesFrom? step last index =
      some ((SliceBounds.progression index step count).map Int.toNat) := by
  induction count generalizing index with
  | zero =>
    have done : ¬GoesOn step last index := by
      intro further
      have counted := (goesOn 0).mpr (by rwa [Int.natCast_zero, Int.zero_mul, Int.add_zero])
      exact absurd counted (Nat.lt_irrefl 0)
    unfold placesFrom?
    rw [if_neg done]
    rfl
  | succ count ih =>
    -- The places behind the first one are those of a slice that starts a step further.
    have shift (k : Nat) : index + ((k + 1 : Nat) : Int) * step = index + step + k * step := by
      rw [Int.natCast_add, Int.natCast_one, Int.add_mul, Int.one_mul]
      omega
    have further : GoesOn step last index := by
      have first := (goesOn 0).mp (Nat.succ_pos count)
      rwa [Int.natCast_zero, Int.zero_mul, Int.add_zero] at first
    have fitsHere : 0 ≤ index ∧ fitsSigned (index + step) := by
      have first := fits 0 (Nat.succ_pos count)
      rwa [Int.natCast_zero, Int.zero_mul, Int.add_zero] at first
    have rest : placesFrom? step last (index + step) =
        some ((SliceBounds.progression (index + step) step count).map Int.toNat) := by
      apply ih
      · intro k
        rw [← shift k, ← goesOn (k + 1)]
        exact Nat.succ_lt_succ_iff.symm
      · intro k early
        rw [← shift k]
        exact fits (k + 1) (Nat.succ_lt_succ early)
    have places : SliceBounds.progression index step (count + 1) =
        index :: SliceBounds.progression (index + step) step count := by
      unfold SliceBounds.progression
      rw [List.range_succ_eq_map, List.map_cons, List.map_map, Int.natCast_zero, Int.zero_mul,
        Int.add_zero]
      exact congrArg (index :: ·) (List.map_congr_left fun k _ => shift k)
    unfold placesFrom?
    rw [if_pos further, if_pos fitsHere, rest, places, List.map_cons]
    rfl

/-! ## Arrays of up to `2 ^ 62` elements -/

theorem isIndex_step {b : SliceBounds} (inRange : b.Indexed) : IsIndex (b.step.getD 1) := by
  cases given : b.step with
  | none => decide
  | some n => exact inRange.step n given

section

variable {length : Nat} (short : length ≤ 2 ^ 62)

include short

theorem resolved?_eq {n : Int} (inRange : IsIndex n) :
    resolved? length n = some (SliceBounds.resolved length n) := by
  unfold resolved? SliceBounds.resolved
  by_cases negative : n < 0
  · unfold IsIndex Parser.greatestIndex at inRange
    rw [if_pos negative, if_pos negative, signed?, if_pos (fitsSigned_iff.mpr (by omega))]
  · rw [if_neg negative, if_neg negative]

theorem resolveIndex?_eq {index : Int} (inRange : IsIndex index) :
    resolveIndex? length index = some (resolveIndex length index) := by
  unfold resolveIndex?
  rw [if_pos (fitsSigned_iff.mpr (by omega)), resolved?_eq short inRange]
  rfl

/-- A bound is computed as it is defined, if the ends of the array are in order. -/
theorem bound?_eq {low high absent : Int} {bound : Option Int} (inRange : ∀ n ∈ bound, IsIndex n)
    (ordered : low ≤ high) :
    bound? length low high absent bound = some
      (SliceBounds.clamp low high ((bound.map (SliceBounds.resolved length)).getD absent)) := by
  have clamped (n : Int) : clamp? low high n = some (SliceBounds.clamp low high n) := if_pos ordered
  unfold bound?
  cases bound with
  | none => exact clamped absent
  | some n =>
    rw [Option.elim_some, resolved?_eq short (inRange n rfl)]
    exact clamped _

theorem placesFrom?_ascending {b : SliceBounds} (inRange : b.Indexed)
    (forward : 0 < b.step.getD 1) :
    placesFrom? (b.step.getD 1) (b.upper length) (b.lower length) = some (b.indices length) := by
  have ends := b.bounds_ascending length forward
  have stepInRange := isIndex_step inRange
  unfold IsIndex Parser.greatestIndex at stepInRange
  rw [b.indices_ascending length forward]
  apply placesFrom?_eq
  · intro k
    rw [SliceBounds.lt_stepsBetween forward]
    unfold GoesOn
    omega
  · intro k early
    have inside := (SliceBounds.lt_stepsBetween forward).mp early
    have further : 0 ≤ (k : Int) * b.step.getD 1 :=
      Int.mul_nonneg (Int.natCast_nonneg k) (Int.le_of_lt forward)
    rw [fitsSigned_iff]
    omega

theorem placesFrom?_descending {b : SliceBounds} (inRange : b.Indexed)
    (backward : b.step.getD 1 < 0) :
    placesFrom? (b.step.getD 1) (b.lower length) (b.upper length) = some (b.indices length) := by
  have ends := b.bounds_descending length backward
  have stepInRange := isIndex_step inRange
  unfold IsIndex Parser.greatestIndex at stepInRange
  rw [b.indices_descending length backward]
  apply placesFrom?_eq
  · intro k
    rw [SliceBounds.lt_stepsBetween_neg backward]
    unfold GoesOn
    omega
  · intro k early
    have inside := (SliceBounds.lt_stepsBetween_neg backward).mp early
    have further : (k : Int) * b.step.getD 1 ≤ 0 :=
      Int.mul_nonpos_of_nonneg_of_nonpos (Int.natCast_nonneg k) (Int.le_of_lt backward)
    rw [fitsSigned_iff]
    omega

/-- The loop gives the places of a slice, and on the way to it nothing is beyond 64 bits. -/
theorem indices?_eq {b : SliceBounds} (inRange : b.Indexed) :
    indices? length b = some (b.indices length) := by
  have fits {n : Int} (small : -2 ^ 62 - 1 ≤ n ∧ n ≤ 2 ^ 62) : signed? n = some n :=
    if_pos (fitsSigned_iff.mpr (by omega))
  have fitsLength : fitsSigned length := fitsSigned_iff.mpr (by omega)
  unfold indices?
  rcases Int.lt_trichotomy (b.step.getD 1) 0 with backward | zero | forward
  · have notForward : ¬0 < b.step.getD 1 := by omega
    have limits := b.limits_descending length backward
    have upper : bound? length (-1) (length - 1) (length - 1) b.start = some (b.upper length) := by
      rw [bound?_eq short inRange.start (by omega)]
      exact congrArg (some ·.1) limits
    have lower : bound? length (-1) (length - 1) (-length - 1) b.stop = some (b.lower length) := by
      rw [bound?_eq short inRange.stop (by omega)]
      exact congrArg (some ·.2) limits
    simp only [if_pos fitsLength, if_neg notForward, if_pos backward,
      fits (n := length - 1) (by omega), fits (n := -length) (by omega),
      fits (n := -length - 1) (by omega), Option.bind_eq_bind, Option.bind_some, upper, lower]
    exact placesFrom?_descending short inRange backward
  · have same : b.indices length = [] := b.indices_still length zero
    simp only [if_pos fitsLength, zero, Int.lt_irrefl, if_false, same]
  · have limits := b.limits_ascending length forward
    have lower : bound? length 0 length 0 b.start = some (b.lower length) := by
      rw [bound?_eq short inRange.start (by omega)]
      exact congrArg (some ·.1) limits
    have upper : bound? length 0 length length b.stop = some (b.upper length) := by
      rw [bound?_eq short inRange.stop (by omega)]
      exact congrArg (some ·.2) limits
    simp only [if_pos fitsLength, if_pos forward, Option.bind_eq_bind, Option.bind_some, upper,
      lower]
    exact placesFrom?_ascending short inRange forward

end

end Signed

/-! ## Results -/

/-- Indices and slices pick what RFC 9535 says, and nothing goes wrong on the way. Those of a
compiled plan have at most 53 bits. For arrays of up to `2 ^ 62` elements all numbers then stay
within 64 bits and the loop of a slice comes to its end; the places are those of the RFC, each within
the array; and the elements there are what is picked, in the order of the places. -/
theorem array_selection_exact {L : Type} [Location L] :
    (∀ settings repository source plan,
      (compile settings repository source).value = some plan → plan.Indexed) ∧
    (∀ (length : Nat) (index : Int), length ≤ 2 ^ 62 → IsIndex index →
      Signed.resolveIndex? length index = some (resolveIndex length index) ∧
      (resolveIndex length index =
        if 0 ≤ index ∧ index < length then some index.toNat
        else if -length ≤ index ∧ index < 0 then some (length + index).toNat
        else none) ∧
      ∀ place ∈ resolveIndex length index, place < length) ∧
    (∀ (length : Nat) (bounds : SliceBounds), length ≤ 2 ^ 62 → bounds.Indexed →
      Signed.indices? length bounds = some (bounds.indices length) ∧
      bounds.Exact length (bounds.indices length)) ∧
    ∀ (node : Located L) (index : Int) (bounds : SliceBounds),
      List.Forall₂ node.HasElement (resolveIndex node.value.elements.length index).toList
        (Selector.pick node (.index index : Selector Test)).value ∧
      List.Forall₂ node.HasElement (bounds.indices node.value.elements.length)
        (Selector.pick node (.slice bounds : Selector Test)).value := by
  refine ⟨?_, ?_, ?_, ?_⟩
  · intro settings repository source plan compiled
    exact compiled_indexed compiled
  · intro length index short inRange
    exact ⟨Signed.resolveIndex?_eq short inRange, resolveIndex_eq length index,
      fun place resolves => resolveIndex_lt resolves⟩
  · intro length bounds short inRange
    exact ⟨Signed.indices?_eq short inRange, bounds.indices_exact length⟩
  · intro node index bounds
    exact ⟨pick_index node index, pick_slice node bounds⟩

/-- The largest array with the farthest index from its end, a slice that goes backwards to the start
of an array, and a plan with an index inside a filter. -/
theorem array_selection_exact_farthest : ∃ plan,
    (compile {} .builtins "$[?@[-1] == 1][::-9007199254740991]").value = some plan ∧
    plan.Indexed ∧
    Signed.resolveIndex? (2 ^ 62) (-9007199254740991) = some (some 4602678819172646913) ∧
    Signed.indices? 5 ⟨some (-1), none, some (-2)⟩ = some [4, 2, 0] := by
  obtain ⟨plans, indices, slices, -⟩ := array_selection_exact (L := Unit)
  have compiles : (compile {} .builtins "$[?@[-1] == 1][::-9007199254740991]").value.isSome := by
    decide +kernel
  obtain ⟨plan, compiled⟩ := Option.isSome_iff_exists.mp compiles
  have inRange : (⟨some (-1), none, some (-2)⟩ : SliceBounds).Indexed := by
    constructor
    · rintro _ ⟨⟩
      decide
    · nofun
    · rintro _ ⟨⟩
      decide
  have farthest := (indices (2 ^ 62) (-9007199254740991) (Nat.le_refl _) (by decide)).1
  have backwards := (slices 5 _ (by decide) inRange).1
  exact ⟨plan, compiled, plans _ _ _ plan compiled, farthest, backwards⟩

end JsonPath
