import JsonPath.Regex.Matching
import JsonPath.Proofs.CharacterSets
import Mathlib.Computability.Language

/-!
# What a match is

Matching follows sets of places through a text. Here it is compared with languages: an expression
denotes a language if, from whatever places it sets out in whatever text, it gets to the places that
a word of the language leads to.

Results:
1. `Regex.denotes_append`, `denotes_either`, `denotes_set`, `denotes_repetition`: what a compound
   expression denotes follows from its parts.
2. `Regex.isMatch_anchored`: an expression between the conditions for the ends of the text matches
   the words of its language and nothing else.
-/

namespace JsonPath

/-- The words of one character of which `p` holds. -/
def singles (p : Char → Prop) : Language Char := {word | ∃ c, word = [c] ∧ p c}

theorem mem_singles {p : Char → Prop} {word : List Char} :
    word ∈ singles p ↔ ∃ c, word = [c] ∧ p c := Iff.rfl

/-! ## Words between places -/

/-- From place `i` to place `j` of a text runs a word of the language. -/
def RunsBetween (language : Language Char) (cs : List Char) (i j : Nat) : Prop :=
  i ≤ j ∧ j ≤ cs.length ∧ (cs.drop i).take (j - i) ∈ language

section

variable {cs : List Char} {i j : Nat} {l m : Language Char}

theorem runsBetween_one : RunsBetween 1 cs i j ↔ i = j ∧ j ≤ cs.length := by
  simp only [RunsBetween, Language.mem_one, List.take_eq_nil_iff, List.drop_eq_nil_iff]
  omega

theorem runsBetween_add :
    RunsBetween (l + m) cs i j ↔ RunsBetween l cs i j ∨ RunsBetween m cs i j := by
  simp only [RunsBetween, Language.mem_add]
  tauto

theorem runsBetween_mul :
    RunsBetween (l * m) cs i j ↔ ∃ k, RunsBetween l cs i k ∧ RunsBetween m cs k j := by
  constructor
  · rintro ⟨ordered, inside, word⟩
    obtain ⟨first, hfirst, second, hsecond, joined⟩ := Language.mem_mul.mp word
    have lengths := congrArg List.length joined
    simp only [List.length_append, List.length_take, List.length_drop] at lengths
    have split : (cs.drop i).take (j - i)
        = (cs.drop i).take first.length ++ (cs.drop (i + first.length)).take second.length := by
      rw [show j - i = first.length + second.length by omega, List.take_add, List.drop_drop]
    obtain ⟨first_eq, second_eq⟩ :=
      List.append_inj (joined.trans split) (by simp; omega)
    refine ⟨i + first.length, ⟨by omega, by omega, ?_⟩, by omega, inside, ?_⟩
    · rwa [Nat.add_sub_cancel_left, ← first_eq]
    · rwa [show j - (i + first.length) = second.length by omega, ← second_eq]
  · rintro ⟨k, ⟨before, _, first⟩, after, inside, second⟩
    refine ⟨by omega, inside, ?_⟩
    rw [show j - i = (k - i) + (j - k) by omega, List.take_add, List.drop_drop,
      Nat.add_sub_cancel' before]
    exact Language.append_mem_mul first second

theorem runsBetween_singles {p : Char → Prop} :
    RunsBetween (singles p) cs i j ↔
      j = i + 1 ∧ ∃ c, cs[i]? = some c ∧ p c := by
  constructor
  · rintro ⟨_, inside, c, word, holds⟩
    have length := congrArg List.length word
    simp only [List.length_take, List.length_drop, List.length_singleton] at length
    have head := congrArg List.head? word
    rw [List.head?_take, if_neg (by omega), List.head?_drop, List.head?_singleton] at head
    exact ⟨by omega, c, head, holds⟩
  · rintro ⟨rfl, c, here, holds⟩
    obtain ⟨inside, rfl⟩ := List.getElem?_eq_some_iff.mp here
    refine ⟨by omega, by omega, cs[i], ?_, holds⟩
    rw [Nat.add_sub_cancel_left, List.drop_eq_getElem_cons inside]
    rfl

end

/-! ## Sets of places -/

/-- The places are places of the text. -/
def Inside (cs : List Char) (places : Nat) : Prop :=
  ∀ i, places.testBit i = true → i ≤ cs.length

/-- In one text, the way from sets of places to sets of places that words of the language go. -/
def Advances (cs : List Char) (advance : Nat → Nat) (l : Language Char) : Prop :=
  ∀ places, Inside cs places → ∀ j,
    (advance places).testBit j = true ↔
      ∃ i, places.testBit i = true ∧ RunsBetween l cs i j

namespace Advances

variable {cs : List Char} {f g : Nat → Nat} {l m : Language Char} {places : Nat}

theorem inside (hf : Advances cs f l) (start : Inside cs places) : Inside cs (f places) := by
  intro j reached
  obtain ⟨_, _, _, bound, _⟩ := (hf places start j).mp reached
  exact bound

/-- Only words that fit into the text matter. -/
theorem congr (hf : Advances cs f l)
    (same : ∀ word, word.length ≤ cs.length → (word ∈ l ↔ word ∈ m)) : Advances cs f m := by
  intro places start j
  rw [hf places start j]
  refine exists_congr fun i => and_congr_right fun _ => and_congr_right fun _ =>
    and_congr_right fun _ => same _ ?_
  simp only [List.length_take, List.length_drop]
  omega

theorem stay : Advances cs id 1 := by
  intro places start j
  simp only [id, runsBetween_one]
  exact ⟨fun here => ⟨j, here, rfl, start j here⟩, by rintro ⟨_, here, rfl, _⟩; exact here⟩

theorem comp (hf : Advances cs f l) (hg : Advances cs g m) : Advances cs (g ∘ f) (l * m) := by
  intro places start k
  simp only [Function.comp, hg _ (hf.inside start) k, hf places start, runsBetween_mul]
  constructor
  · rintro ⟨j, ⟨i, here, first⟩, second⟩
    exact ⟨i, here, j, first, second⟩
  · rintro ⟨i, here, j, first, second⟩
    exact ⟨j, ⟨i, here, first⟩, second⟩

theorem either (hf : Advances cs f l) (hg : Advances cs g m) :
    Advances cs (fun places => f places ||| g places) (l + m) := by
  intro places start j
  simp only [Nat.testBit_or, Bool.or_eq_true, hf places start j, hg places start j,
    runsBetween_add, and_or_left, exists_or]

theorem iterate (hf : Advances cs f l) (n : Nat) : Advances cs f^[n] (l ^ n) := by
  induction n with
  | zero => simpa using stay
  | succ n ih => simpa only [Function.iterate_succ, pow_succ'] using hf.comp ih

end Advances

/-! ## Repetition -/

/-- The words made of at least `least` and at most `most` words of the language. -/
def repeated (l : Language Char) (least : Nat) (most : Option Nat) : Language Char :=
  {word | ∃ n, least ≤ n ∧ (∀ bound ∈ most, n ≤ bound) ∧ word ∈ l ^ n}

theorem mem_one_add_pow {l : Language Char} {n : Nat} {word : List Char} :
    word ∈ (1 + l) ^ n ↔ ∃ k ≤ n, word ∈ l ^ k := by
  induction n generalizing word with
  | zero => simp
  | succ n ih =>
    rw [pow_succ, mul_add, mul_one, Language.mem_add, ih, Language.mem_mul]
    constructor
    · rintro (⟨k, few, made⟩ | ⟨first, hfirst, last, hlast, rfl⟩)
      · exact ⟨k, by omega, made⟩
      · obtain ⟨k, few, made⟩ := ih.mp hfirst
        exact ⟨k + 1, by omega, pow_succ l k ▸ Language.append_mem_mul made hlast⟩
    · rintro ⟨k, few, made⟩
      rcases Nat.lt_or_ge k (n + 1) with fewer | all
      · exact .inl ⟨k, by omega, made⟩
      · obtain rfl : k = n + 1 := by omega
        obtain ⟨first, hfirst, last, hlast, joined⟩ := Language.mem_mul.mp (pow_succ l n ▸ made)
        exact .inr ⟨first, ih.mpr ⟨n, le_rfl, hfirst⟩, last, hlast, joined⟩

/-- Empty words can be left out of a repetition, so it needs no more of them than characters. -/
theorem exists_pow_le_length {l : Language Char} {n : Nat} {word : List Char}
    (made : word ∈ l ^ n) : ∃ k ≤ n, k ≤ word.length ∧ word ∈ l ^ k := by
  induction n generalizing word with
  | zero => exact ⟨0, le_rfl, Nat.zero_le _, made⟩
  | succ n ih =>
    rw [pow_succ'] at made
    obtain ⟨first, hfirst, others, hothers, rfl⟩ := Language.mem_mul.mp made
    obtain ⟨k, few, short, hk⟩ := ih hothers
    cases first with
    | nil => exact ⟨k, by omega, by simpa using short, by simpa using hk⟩
    | cons c cs =>
      refine ⟨k + 1, by omega, by simp; omega, ?_⟩
      rw [pow_succ']
      exact Language.append_mem_mul hfirst hk

theorem iterated_eq_iterate (f : Nat → Nat) (n places : Nat) :
    iterated f n places = f^[n] places := by
  induction n generalizing places with
  | zero => rfl
  | succ n ih =>
    simp only [iterated, Function.iterate_succ_apply, ih, beq_iff_eq]
    split
    · next fixed => rw [fixed, Function.iterate_fixed fixed]
    · rfl

/-- The repetitions that are counted, and then as many more as the text has places: the words in
the text are those of the unbounded language. -/
theorem Advances.repetition {cs : List Char} {f : Nat → Nat} {l : Language Char}
    (hf : Advances cs f l) {least : Nat} {most : Option Nat} (ordered : ∀ n ∈ most, least ≤ n) :
    Advances cs
      (fun places =>
        iterated (fun reached => reached ||| f reached)
          (most.elim (cs.length + 1) fun n => min (cs.length + 1) (n - least))
          (iterated f least places))
      (repeated l least most) := by
  have further : Advances cs (fun reached => reached ||| f reached) (1 + l) :=
    Advances.stay.either hf
  simp only [iterated_eq_iterate]
  refine ((hf.iterate least).comp (further.iterate _)).congr fun word short => ?_
  rw [Language.mem_mul]
  constructor
  · rintro ⟨first, hfirst, others, hothers, rfl⟩
    obtain ⟨k, few, hk⟩ := mem_one_add_pow.mp hothers
    refine ⟨least + k, by omega, ?_, pow_add l least k ▸ Language.append_mem_mul hfirst hk⟩
    rintro n rfl
    have := ordered n rfl
    simp only [Option.elim_some] at few
    omega
  · rintro ⟨n, enough, bounded, made⟩
    rw [show n = least + (n - least) by omega, pow_add] at made
    obtain ⟨first, hfirst, others, hothers, rfl⟩ := Language.mem_mul.mp made
    obtain ⟨k, few, fits, hk⟩ := exists_pow_le_length hothers
    refine ⟨first, hfirst, others, mem_one_add_pow.mpr ⟨k, ?_, hk⟩, rfl⟩
    simp only [List.length_append] at short
    cases most with
    | none => simp only [Option.elim_none]; omega
    | some m =>
      have := bounded m rfl
      simp only [Option.elim_some]
      omega

/-! ## Places by what stands around them -/

theorem testBit_bit (b : Bool) (n i : Nat) :
    ((if b then 1 else 0) + 2 * n).testBit i = if i = 0 then b else n.testBit (i - 1) := by
  cases i with
  | zero => cases b <;> simp [Nat.testBit_zero]
  | succ i =>
    have half : ((if b then 1 else 0) + 2 * n) / 2 = n := by cases b <;> simp; omega
    rw [Nat.testBit_succ, half, if_neg (Nat.succ_ne_zero i), Nat.add_sub_cancel]

theorem testBit_placesBefore (p : Char → Bool) (cs : List Char) (i : Nat) :
    (placesBefore p cs).testBit i = true ↔ ∃ c, cs[i]? = some c ∧ p c = true := by
  induction cs generalizing i with
  | nil => simp [placesBefore]
  | cons c cs ih =>
    rw [placesBefore, testBit_bit]
    cases i with
    | zero => simp
    | succ i => simpa using ih i

theorem testBit_placesBetween (p : Option Char → Option Char → Bool) (before : Option Char)
    (cs : List Char) (i : Nat) :
    (placesBetween p before cs).testBit i = true ↔
      i ≤ cs.length ∧ p (if i = 0 then before else cs[i - 1]?) cs[i]? = true := by
  induction cs generalizing before i with
  | nil =>
    have alone := testBit_bit (p before none) 0 i
    rw [Nat.mul_zero, Nat.add_zero] at alone
    rw [placesBetween, alone]
    cases i <;> simp
  | cons c cs ih =>
    rw [placesBetween, testBit_bit]
    cases i with
    | zero => simp
    | succ i =>
      have further := ih (some c) i
      cases i <;> simpa using further

theorem testBit_allPlaces (cs : List Char) (i : Nat) :
    (allPlaces cs).testBit i = true ↔ i ≤ cs.length := by
  rw [allPlaces, Nat.one_shiftLeft, Nat.testBit_two_pow_sub_one, decide_eq_true_iff]
  omega

theorem testBit_textStart (cs : List Char) (i : Nat) :
    (placesBetween (fun before after => Look.textStart.holds before after) none cs).testBit i
      = true ↔ i = 0 := by
  rw [testBit_placesBetween]
  cases i with
  | zero => simp [Look.holds]
  | succ i =>
    rw [if_neg (Nat.succ_ne_zero i), Nat.add_sub_cancel]
    simp only [Look.holds, Option.isNone_iff_eq_none, List.getElem?_eq_none_iff]
    omega

theorem testBit_textEnd (cs : List Char) (i : Nat) :
    (placesBetween (fun before after => Look.textEnd.holds before after) none cs).testBit i
      = true ↔ i = cs.length := by
  rw [testBit_placesBetween]
  simp only [Look.holds, Option.isNone_iff_eq_none, List.getElem?_eq_none_iff]
  omega

/-! ## Expressions -/

namespace Regex

/-- Wherever the expression is tried, it matches the words of the language and nothing else. -/
def Denotes (r : Regex) (l : Language Char) : Prop :=
  ∀ cs, Advances cs ((r.within cs).ends (cs.length + 1)) l

variable {r s : Regex} {l m : Language Char}

theorem denotes_empty : empty.Denotes 1 := by
  intro cs places start j
  have stayed : (empty.within cs).ends (cs.length + 1) places = places := by
    apply Nat.eq_of_testBit_eq
    intro i
    rw [within, Walk.ends, Nat.testBit_and, Bool.and_eq_left_iff_imp, testBit_allPlaces]
    exact start i
  rw [stayed]
  exact Advances.stay places start j

theorem denotes_set {s : CharSet} {p : Char → Prop} (contents : ∀ c, s.contains c = true ↔ p c) :
    (set s).Denotes (singles p) := by
  intro cs places start j
  simp only [within, Walk.ends, Nat.testBit_shiftLeft, Nat.testBit_and, Bool.and_eq_true,
    decide_eq_true_eq, testBit_placesBefore, runsBetween_singles, contents]
  constructor
  · rintro ⟨behind, here, c, is, holds⟩
    exact ⟨j - 1, here, by omega, c, is, holds⟩
  · rintro ⟨i, here, rfl, c, is, holds⟩
    exact ⟨by omega, by simpa using here, c, by simpa using is, holds⟩

theorem denotes_append (hr : r.Denotes l) (hs : s.Denotes m) : (append r s).Denotes (l * m) :=
  fun cs => (hr cs).comp (hs cs)

theorem denotes_either (hr : r.Denotes l) (hs : s.Denotes m) : (either r s).Denotes (l + m) :=
  fun cs => (hr cs).either (hs cs)

theorem denotes_capture (hr : r.Denotes l) : (capture r).Denotes l := hr

theorem denotes_repetition (hr : r.Denotes l) {least : Nat} {most : Option Nat}
    (ordered : ∀ n ∈ most, least ≤ n) :
    (repetition r least most).Denotes (repeated l least most) := by
  intro cs
  cases most with
  | none => exact (hr cs).repetition ordered
  | some n => exact (hr cs).repetition ordered

/-- An expression denotes one language only: the text that is a word can be tried alone. -/
theorem Denotes.unique (hl : r.Denotes l) (hm : r.Denotes m) : l = m := by
  have alone {l : Language Char} (hl : r.Denotes l) (word : List Char) :
      ((r.within word).ends (word.length + 1) 1).testBit word.length = true ↔ word ∈ l := by
    have start : Inside word 1 := fun i here => by
      rw [Nat.testBit_one_eq_true_iff_self_eq_zero] at here
      omega
    rw [hl word 1 start]
    simp [Nat.testBit_one_eq_true_iff_self_eq_zero, RunsBetween]
  ext word
  rw [← alone hl, ← alone hm]

theorem denotes_concat_cons {rs : List Regex} (hr : r.Denotes l) (hrs : (concat rs).Denotes m) :
    (concat (r :: rs)).Denotes (l * m) := by
  cases rs with
  | nil =>
    rw [hrs.unique denotes_empty, mul_one]
    exact hr
  | cons s rs => exact denotes_append hr hrs

theorem denotes_oneOf_cons {rs : List Regex} (hr : r.Denotes l) (hrs : (oneOf rs).Denotes m) :
    (oneOf (r :: rs)).Denotes (l + m) := by
  cases rs with
  | nil =>
    have none (c : Char) : CharSet.empty.contains c = true ↔ False := by
      simp [CharSet.empty, CharSet.contains, Runs.value?, CharSet.toNat_lt_codePoints c]
    have nothing : singles (fun _ => False) = 0 := by
      ext word
      simp [mem_singles]
    rw [hrs.unique (denotes_set none), nothing, add_zero]
    exact hr
  | cons s rs => exact denotes_either hr hrs

/-- The expression for one whole text: it stands between the conditions for the two ends. -/
def anchored (r : Regex) : Regex := concat [look .textStart, r, look .textEnd]

theorem isMatch_anchored (hr : r.Denotes l) (text : String) :
    (anchored r).isMatch text = true ↔ text.toList ∈ l := by
  let first := ((look .textStart).within text.toList).ends (text.toList.length + 1)
    (allPlaces text.toList)
  have starts (i : Nat) : first.testBit i = true ↔ i = 0 := by
    simp only [first, within, Walk.ends, Nat.testBit_and, Bool.and_eq_true, testBit_allPlaces,
      testBit_textStart]
    omega
  have start : Inside text.toList first := fun i here => by simp [(starts i).mp here]
  have reached (j : Nat) :
      (((anchored r).within text.toList).ends (text.toList.length + 1)
        (allPlaces text.toList)).testBit j = true ↔
        RunsBetween l text.toList 0 j ∧ j = text.toList.length := by
    show Nat.testBit (_ &&& _) j = true ↔ _
    rw [Nat.testBit_and, Bool.and_eq_true, testBit_textEnd, hr _ first start j]
    simp [starts]
  rw [isMatch, bne_iff_ne]
  constructor
  · intro some
    obtain ⟨j, bit⟩ := Nat.exists_testBit_of_ne_zero some
    obtain ⟨⟨_, _, word⟩, rfl⟩ := (reached j).mp bit
    simpa using word
  · intro word none
    have bit := (reached text.toList.length).mpr
      ⟨⟨Nat.zero_le _, le_rfl, by simpa using word⟩, rfl⟩
    simp [none] at bit

end Regex

end JsonPath
