import JsonPath.Proofs.SourceTokens
import Mathlib.Data.List.Forall2

/-!
# Spellings of a string

A string can be written in many ways: every character as itself, by a short escape or by its number.
All of them are read, and as that string; nothing else is.

Results:
1. `hexDigit?_eq_some`, `hexText_iff`: digits in either case, and the numbers of four of them.
2. `charText_iff`: the ways to write one character.
3. `string_tokens_spelled`: tokens that are strings are read from exactly their spellings.
-/

namespace JsonPath

open Grammar

/-! ## Numbers -/

/-- The hexadecimal digits in either case, with their values. -/
def hexDigits : List (Char × Nat) :=
  [('0', 0), ('1', 1), ('2', 2), ('3', 3), ('4', 4), ('5', 5), ('6', 6), ('7', 7), ('8', 8),
    ('9', 9), ('a', 10), ('b', 11), ('c', 12), ('d', 13), ('e', 14), ('f', 15), ('A', 10),
    ('B', 11), ('C', 12), ('D', 13), ('E', 14), ('F', 15)]

/-- Four hexadecimal digits and the number that they are. -/
def FourDigits (text : List Char) (n : Nat) : Prop :=
  ∃ a b c d, List.Forall₂ (fun digit value => (digit, value) ∈ hexDigits) text [a, b, c, d] ∧
    n = a * 16 ^ 3 + b * 16 ^ 2 + c * 16 + d

theorem hexDigit?_eq_some {c : Char} {n : Nat} : hexDigit? c = some n ↔ (c, n) ∈ hexDigits := by
  constructor
  · intro read
    have small : c.toNat < 128 := by
      by_contra large
      have le_iff (a b : Char) : a ≤ b ↔ a.toNat ≤ b.toNat := Iff.rfl
      have bounds : '9'.toNat = 57 ∧ 'f'.toNat = 102 ∧ 'F'.toNat = 70 := by decide
      have none : hexDigit? c = none := by
        rw [hexDigit?, if_neg, if_neg, if_neg] <;> (simp only [le_iff]; omega)
      rw [none] at read
      cases read
    have every : ∀ k < 128, (hexDigit? (Char.ofNat k)).all
        (fun value => (Char.ofNat k, value) ∈ hexDigits) = true := by decide
    have listed := every c.toNat small
    rw [Char.ofNat_toNat, read] at listed
    exact of_decide_eq_true listed
  · intro listed
    have every : ∀ digit ∈ hexDigits, hexDigit? digit.1 = some digit.2 := by decide
    exact every (c, n) listed

theorem hexText_iff {text : List Char} {n : Nat} : HexText text n ↔ FourDigits text n := by
  have digits (values : List Nat) : text.map hexDigit? = values.map some ↔
      List.Forall₂ (fun digit value => (digit, value) ∈ hexDigits) text values := by
    rw [← List.forall₂_eq_eq_eq, List.forall₂_map_left_iff, List.forall₂_map_right_iff]
    simp only [hexDigit?_eq_some]
  have number (a b c d : Nat) : ((a * 16 + b) * 16 + c) * 16 + d =
      a * 16 ^ 3 + b * 16 ^ 2 + c * 16 + d := by omega
  simp only [HexText, FourDigits, ← digits, number, List.map_cons, List.map_nil]

/-! ## Characters -/

/-- The ways to write a character between quotes: as itself unless it is the quote, a backslash or a
control character; by a backslash and the mark of a short escape; by its number, or by those of two
surrogates if it is beyond the basic plane. -/
inductive Spelling (quote : Char) (c : Char) : List Char → Prop where
  | plain (printed : 0x20 ≤ c.toNat) (inside : c ≠ quote) (bare : c ≠ '\\') : Spelling quote c [c]
  | short {mark : Char} (listed : (mark, c) ∈ (quote, quote) :: shortEscapes) :
      Spelling quote c ['\\', mark]
  | number {digits : List Char} (named : FourDigits digits c.toNat) :
      Spelling quote c ('\\' :: 'u' :: digits)
  | surrogates {high low : List Char} (beyond : 0x10000 ≤ c.toNat)
      (opened : FourDigits high (0xD800 + (c.toNat - 0x10000) / 0x400))
      (closed : FourDigits low (0xDC00 + (c.toNat - 0x10000) % 0x400)) :
      Spelling quote c ('\\' :: 'u' :: (high ++ '\\' :: 'u' :: low))

/-- The grammar has the same spellings. -/
theorem charText_iff {quote c : Char} {text : List Char} :
    CharText quote text c ↔ Spelling quote c text := by
  constructor
  · intro spelled
    cases spelled with
    | plain printed inside bare => exact .plain printed inside bare
    | quote => exact .short List.mem_cons_self
    | short listed => exact .short (List.mem_cons_of_mem _ listed)
    | unit named => exact .number (hexText_iff.mp named)
    | @pair first second high low _ opened closed isHigh isLow named =>
      simp only [isHighSurrogate, isLowSurrogate, Bool.and_eq_true, decide_eq_true_eq]
        at isHigh isLow
      have high_eq : high = 0xD800 + (c.toNat - 0x10000) / 0x400 := by omega
      have low_eq : low = 0xDC00 + (c.toNat - 0x10000) % 0x400 := by omega
      rw [hexText_iff, high_eq] at opened
      rw [hexText_iff, low_eq] at closed
      exact .surrogates (by omega) opened closed
  · intro spelled
    cases spelled with
    | plain printed inside bare => exact .plain printed inside bare
    | short listed =>
      rcases List.mem_cons.mp listed with same | listed
      · cases same
        exact .quote
      · exact .short listed
    | number named => exact .unit (hexText_iff.mpr named)
    | surrogates beyond opened closed =>
      have last : c.toNat < 0x110000 := by
        rcases c.valid with low | ⟨-, high⟩
        · exact Nat.lt_trans low (by decide)
        · exact high
      refine .pair (hexText_iff.mpr opened) (hexText_iff.mpr closed) ?_ ?_ (by omega)
      · simp only [isHighSurrogate, Bool.and_eq_true, decide_eq_true_eq]
        omega
      · simp only [isLowSurrogate, Bool.and_eq_true, decide_eq_true_eq]
        omega

/-! ## Strings -/

/-- The spellings of a string: quotes of one kind, and a way to write each character between
them. -/
def Quoted (text value : List Char) : Prop :=
  ∃ quote ∈ ['\'', '"'], ∃ spellings, List.Forall₂ (Spelling quote) value spellings ∧
    text = quote :: (spellings.flatten ++ [quote])

theorem insideText_iff {quote : Char} {inside value : List Char} :
    InsideText quote inside value ↔
      ∃ spellings, List.Forall₂ (Spelling quote) value spellings ∧
        inside = spellings.flatten := by
  constructor
  · intro spelled
    induction spelled with
    | nil => exact ⟨[], .nil, rfl⟩
    | cons head _ ih =>
      obtain ⟨spellings, each, rfl⟩ := ih
      exact ⟨_ :: spellings, .cons (charText_iff.mp head) each, rfl⟩
  · rintro ⟨spellings, each, rfl⟩
    induction each with
    | nil => exact .nil
    | cons head _ ih => exact .cons (charText_iff.mpr head) ih

theorem stringText_iff {text : List Char} {value : String} :
    StringText text value ↔ Quoted text value.toList := by
  simp only [StringText, Quoted, insideText_iff, List.mem_cons, List.not_mem_nil, or_false]
  constructor
  · rintro ⟨quote, inside, quoted, ⟨spellings, each, rfl⟩, rfl⟩
    exact ⟨quote, quoted, spellings, each, rfl⟩
  · rintro ⟨quote, quoted, spellings, each, rfl⟩
    exact ⟨quote, _, quoted, ⟨spellings, each, rfl⟩, rfl⟩

/-- Whichever way is chosen to write each character of a string, the text is read as the one token
that is the string. Where a token of a text is a string, what it was read from is such a choice. -/
theorem string_tokens_spelled :
    (∀ text value, Quoted text value → Lexemes.read (String.ofList text) =
      .ok ⟨[⟨.string (String.ofList value), text, .start⟩], Position.start.afterAll text⟩) ∧
    ∀ source lexemes, Lexemes.read source = .ok lexemes → ∀ l ∈ lexemes.lexemes, ∀ value,
      l.token = .string value → Quoted (l.span.slice source.toList) value.toList := by
  constructor
  · intro text value quoted
    rw [← String.toList_ofList (l := value), ← stringText_iff] at quoted
    have stands : Lexeme.StandsIn ⟨.string (String.ofList value), text, .start⟩ text :=
      ⟨.string quoted, [], [], by simp, rfl⟩
    exact stands.read_alone
  · intro source lexemes read l member value is
    have stands := standsIn_of_read read l member
    have spelled := stands.1
    rw [is] at spelled
    rw [stands.covers.slice_eq]
    cases spelled with
    | string spelled => exact stringText_iff.mp spelled

/-- A string in double quotes, with one character by its number, one by two surrogates, one by a
short escape, a quote of the other kind as itself, and a double quote. -/
theorem string_tokens_spelled_mixed :
    let text := "\"\\u00E9\\uD83d\\uDe00\\/'\\\"\"".toList
    Lexemes.read (String.ofList text) =
      .ok ⟨[⟨.string "é😀/'\"", text, .start⟩], Position.start.afterAll text⟩ := by
  intro text
  have accent : Spelling '"' 'é' ['\\', 'u', '0', '0', 'E', '9'] :=
    .number ⟨0, 0, 14, 9, by simp [hexDigits], by decide⟩
  have face : Spelling '"' '😀'
      ('\\' :: 'u' :: (['D', '8', '3', 'd'] ++ '\\' :: 'u' :: ['D', 'e', '0', '0'])) :=
    .surrogates (by decide)
      ⟨13, 8, 3, 13, by simp [hexDigits], by decide⟩
      ⟨13, 14, 0, 0, by simp [hexDigits], by decide⟩
  have others : List.Forall₂ (Spelling '"') ['/', '\'', '"']
      [['\\', '/'], ['\''], ['\\', '"']] :=
    .cons (.short (by decide)) (.cons (.plain (by decide) (by decide) (by decide))
      (.cons (.short (by decide)) .nil))
  exact string_tokens_spelled.1 text "é😀/'\"".toList
    ⟨'"', by decide, _, .cons accent (.cons face others), by decide⟩

end JsonPath
