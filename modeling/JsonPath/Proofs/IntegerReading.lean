import JsonPath.Json.Reader
import JsonPath.Proofs.PathRoundTrip

/-!
# Integers in documents

An integer is written as its decimal digits, and a document is read so that each integer of 64 bits,
with a sign or without, comes back as it was.

A `Reader` is run on the head of a text. `Reader.run_bind` leads from one step of it to the next,
and `EndsInteger` says of the text behind an integer that none of it can belong to the integer.

Results:
1. `numeralText_ofInt`: the digits of an integer are a numeral of its value.
2. `Reader.run_numeral`, `Reader.run_integer`: a reader takes this numeral and no more.
3. `Reader.read_singleton`: the document that holds the integer alone in an array.
-/

namespace JsonPath

open Grammar

/-! ## Integers as numerals -/

/-- The numeral that an integer is written as. -/
def Numeral.ofInt (n : Int) : Numeral := ⟨decide (n < 0), Nat.toDigits 10 n.natAbs, none, none⟩

/-- The digits, behind a minus sign where it takes one. -/
theorem toList_decimalText (n : Int) :
    (decimalText n).toList = signText (decide (n < 0)) ++ Nat.toDigits 10 n.natAbs := by
  rw [decimalText, String.toList_ofList]
  by_cases negative : n < 0
  · rw [if_pos negative, decide_eq_true negative]
    rfl
  · rw [if_neg negative, decide_eq_false negative]
    rfl

theorem numeralText_ofInt (n : Int) : NumeralText (decimalText n).toList (Numeral.ofInt n) := by
  refine ⟨[], [], (toDigits_whole _).1, .absent, .absent, ?_⟩
  rw [toList_decimalText, List.append_nil, List.append_nil]
  rfl

theorem wholeValue_ofInt (n : Int) : (Numeral.ofInt n).wholeValue = n := by
  rw [Numeral.wholeValue, Numeral.ofInt, digitsValue_toDigits]
  by_cases negative : n < 0
  · rw [decide_eq_true negative, if_pos rfl]
    omega
  · rw [decide_eq_false negative, if_neg Bool.false_ne_true]
    omega

/-! ## Readers -/

/-- Nothing at the head of the text can belong to an integer in front of it. -/
def EndsInteger (rest : List Char) : Prop :=
  ∀ c, rest.head? = some c → c.isDigit = false ∧ c ∉ ['.', 'e', 'E']

namespace Reader

variable {α β : Type} {bound : Nat}

/-- A reader goes on where the one before it stopped. -/
theorem run_bind {reader : Reader α} {next : α → Reader β} {cs rest : List Char} {x : α}
    (first : reader bound cs = .ok (x, rest)) : (reader >>= next) bound cs = next x bound rest := by
  show (reader bound cs >>= fun p => next p.1 bound p.2) = _
  rw [first]
  rfl

theorem run_pure {x : α} {cs : List Char} : (pure x : Reader α) bound cs = .ok (x, cs) := rfl

theorem run_get {cs : List Char} : (get : Reader (List Char)) bound cs = .ok (cs, cs) := rfl

theorem run_read {cs : List Char} : (read : Reader Nat) bound cs = .ok (bound, cs) := rfl

theorem run_peek {c : Char} {cs : List Char} (bare : isBlank c = false) :
    peek bound (c :: cs) = .ok (c, c :: cs) := by
  have passed : skipBlank bound (c :: cs) = .ok ((), c :: cs) := by
    show Except.ok ((), (c :: cs).dropWhile isBlank) = _
    rw [List.dropWhile_cons_of_neg (by rw [bare]; exact Bool.false_ne_true)]
  rw [peek, run_bind passed, run_bind run_get]
  rfl

theorem run_drop {c : Char} {cs : List Char} : drop bound (c :: cs) = .ok ((), cs) := rfl

theorem not_isBlank {c : Char} (starts : c = '-' ∨ c.isDigit) : isBlank c = false := by
  rcases starts with rfl | digit
  · rfl
  · exact not_blank_of_isDigit digit

theorem ne_of_starts {c d : Char} (starts : c = '-' ∨ c.isDigit)
    (other : d ≠ '-' ∧ d.isDigit = false) : c ≠ d := by
  rintro rfl
  rcases starts with minus | digit
  · exact other.1 minus
  · exact Bool.false_ne_true (other.2.symm.trans digit)

theorem run_digits {ended : ReadError} {ds rest : List Char} (digits : Digits ds)
    (stops : ∀ c, rest.head? = some c → c.isDigit = false) :
    Reader.digits ended bound (ds ++ rest) = .ok (ds, rest) := by
  rw [Reader.digits, run_bind run_get, scanDigits_complete digits stops]
  dsimp only
  rw [if_neg (by simpa using digits.1)]
  rfl

/-- The minus sign, if there is one, is passed over. -/
theorem run_sign {negative : Bool} {next : Unit → Reader β} {cs : List Char} :
    (if negative = true then drop >>= next else next ()) bound (signText negative ++ cs) =
      next () bound cs := by
  cases negative <;> rfl

theorem isMinus_signText {negative : Bool} {ds rest : List Char} (digits : Digits ds) :
    ((signText negative ++ (ds ++ rest)).head? == some '-') = negative := by
  cases negative with
  | true => rfl
  | false =>
    obtain ⟨d, ds, rfl⟩ := List.exists_cons_of_ne_nil digits.1
    have other : d ≠ '-' := by
      rintro rfl
      exact absurd (digits.2 '-' List.mem_cons_self) (by decide)
    exact beq_false_of_ne fun same => other (Option.some.inj same)

theorem not_leadingZero {ds : List Char} (whole : Whole ds) :
    ¬(decide (ds.length > 1) && ds.head? == some '0') = true := by
  rw [Bool.and_eq_true, decide_eq_true_iff, beq_iff_eq]
  rintro ⟨several, zero⟩
  rw [whole.2 zero] at several
  exact absurd several (by decide)

/-- The numeral of an integer ends where something stands that cannot belong to it. -/
theorem run_numeral (ended : ReadError) (n : Int) {rest : List Char} (ends : EndsInteger rest) :
    numeral ended bound ((decimalText n).toList ++ rest) = .ok (Numeral.ofInt n, rest) := by
  have whole := toDigits_whole n.natAbs
  have taken : Reader.digits ended bound (Nat.toDigits 10 n.natAbs ++ rest) =
      .ok (Nat.toDigits 10 n.natAbs, rest) := run_digits whole.1 fun c first => (ends c first).1
  rw [toList_decimalText, List.append_assoc, numeral, run_bind run_get, isMinus_signText whole.1,
    run_sign]
  dsimp only
  rw [run_bind taken, if_neg (not_leadingZero whole), run_bind run_get]
  cases rest with
  | nil => rfl
  | cons c cs =>
    have other := (ends c rfl).2
    rw [List.mem_cons, List.mem_cons, List.mem_singleton, not_or] at other
    -- Neither a fraction nor an exponent begins at `c`.
    simp only [List.cons.injEq, other.1, false_and, imp_self, implies_true]
    rw [run_bind run_pure, run_bind run_get]
    dsimp only
    rw [if_neg other.2]
    rfl

section

variable {n : Int} (bounds : -2 ^ 63 ≤ n ∧ n < 2 ^ 64)

include bounds

theorem ofNumeral_ofInt : Number.ofNumeral (Numeral.ofInt n) = some (.integer n) := by
  have fits :
      (if decide (n < 0) then decide (n < 0) && fitsSigned n else fitsUnsigned n) = true := by
    split
    · next negative =>
      rw [negative, Bool.true_and, fitsSigned_iff]
      have := of_decide_eq_true negative
      omega
    · next negative =>
      rw [decide_eq_true_iff] at negative
      rw [fitsUnsigned_iff]
      omega
  have sign : (Numeral.ofInt n).negative = decide (n < 0) := rfl
  rw [Number.ofNumeral, wholeValue_ofInt, sign, fits]
  rfl

theorem run_number {rest : List Char} (ends : EndsInteger rest) :
    number bound ((decimalText n).toList ++ rest) = .ok (.integer n, rest) := by
  rw [number, run_bind (run_numeral .truncated n ends), ofNumeral_ofInt bounds]
  rfl

/-- An integer as a value, whatever may be a container there. -/
theorem run_integer (container : Reader Value) {rest : List Char} (ends : EndsInteger rest) :
    valueOr container bound ((decimalText n).toList ++ rest) =
      .ok (.number (.integer n), rest) := by
  obtain ⟨c, cs, written, starts⟩ := (numeralText_ofInt n).head
  have taken : number bound ((decimalText n).toList ++ rest) = .ok (.integer n, rest) :=
    run_number bounds ends
  rw [written, List.cons_append] at taken ⊢
  rw [valueOr, run_bind (run_peek (not_isBlank starts)), if_neg (ne_of_starts starts (by decide)),
    if_neg (ne_of_starts starts (by decide)), if_neg (ne_of_starts starts (by decide)),
    if_neg (ne_of_starts starts (by decide)), if_pos starts, run_bind taken]
  rfl

/-- An integer alone between brackets. -/
theorem run_elements {k depth : Nat} :
    elements (value depth) (k + 1) ((decimalText n).toList ++ [']']) =
      .ok ([.number (.integer n)], []) := by
  have item : value depth (k + 1) ((decimalText n).toList ++ [']']) =
      .ok (.number (.integer n), [']']) := by
    have ends : EndsInteger [']'] := by
      rintro c ⟨⟩
      decide
    cases depth <;> exact run_integer bounds _ ends
  have behind : elementsUpTo (value depth) (k + 1) (k + 1) [']'] = .ok ([], []) := rfl
  obtain ⟨c, cs, written, starts⟩ := (numeralText_ofInt n).head
  rw [written, List.cons_append] at item ⊢
  rw [elements, run_bind (run_peek (not_isBlank starts)),
    if_neg (ne_of_starts starts (by decide)), run_bind item, run_bind run_read,
    run_bind behind]
  rfl

/-- An array of one integer. -/
theorem run_array {k depth : Nat} :
    value (depth + 1) (k + 1) ('[' :: ((decimalText n).toList ++ [']'])) =
      .ok (.array [.number (.integer n)], []) := by
  have inside : container (value depth) (k + 1) ('[' :: ((decimalText n).toList ++ [']'])) =
      .ok (.array [.number (.integer n)], []) := by
    rw [container, run_bind (run_peek rfl), run_bind run_drop, if_pos rfl,
      run_bind (run_elements bounds)]
    rfl
  rw [value, valueOr, run_bind (run_peek rfl), if_neg (by decide), if_neg (by decide),
    if_neg (by decide), if_neg (by decide), if_neg (by decide), if_pos (.inl rfl), inside]

/-- Reading gives the number back that was written. -/
theorem read_singleton (depth : Nat) :
    Value.read (depth + 1) ("[" ++ decimalText n ++ "]") = .ok (.array [.number (.integer n)]) := by
  have text : ("[" ++ decimalText n ++ "]").toList = '[' :: ((decimalText n).toList ++ [']']) := by
    rw [String.toList_append, String.toList_append]
    rfl
  have run (k : Nat) : ((value (depth + 1)).run (k + 1)).run ("[" ++ decimalText n ++ "]").toList =
      .ok (.array [.number (.integer n)], []) := by
    rw [text]
    exact run_array bounds
  rw [Value.read, Reader.whole, run]
  rfl

end

end Reader

end JsonPath
