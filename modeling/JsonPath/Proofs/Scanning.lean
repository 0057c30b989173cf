import JsonPath.Proofs.Grammar

/-!
# Scanning one token

The scanner reads the token at the head of a text and no more than its spelling. It is sound: what
it takes is a spelling of the token it gives. It is complete: a spelling is taken whole if what
follows could not be part of it.

Results:
1. `scan_sound`, `scan_complete`: numerals.
2. `scanQuoted_sound`, `scanQuoted_complete`: the inside of a quoted string.
3. `scanToken_sound`, `scanToken_complete`: tokens, by `Spells` and `Apart`.
-/

namespace JsonPath

open Grammar

theorem map_eq_ok {ε α β : Type} {f : α → β} {x : Except ε α} {y : β} :
    x.map f = .ok y ↔ ∃ z, x = .ok z ∧ f z = y := by
  cases x <;> simp [Except.map]

/-- A run of characters ends where the next one is of another kind. -/
theorem run_ends {p : Char → Bool} {run rest : List Char} (inside : ∀ c ∈ run, p c)
    (outside : ∀ c, rest.head? = some c → p c = false) :
    (run ++ rest).takeWhile p = run ∧ (run ++ rest).dropWhile p = rest := by
  induction run with
  | nil =>
    cases rest with
    | nil => exact ⟨rfl, rfl⟩
    | cons c cs => simp [outside c rfl]
  | cons c run ih =>
    obtain ⟨taken, dropped⟩ := ih fun d member => inside d (List.mem_cons_of_mem c member)
    simp [inside c List.mem_cons_self, taken, dropped]

theorem mem_takeWhile {p : Char → Bool} {cs : List Char} {c : Char}
    (member : c ∈ cs.takeWhile p) : p c :=
  List.all_eq_true.mp List.all_takeWhile c member

/-! ## Numerals -/

theorem Grammar.Digits.head_isDigit {ds : List Char} (digits : Digits ds) :
    ∃ d rest, ds = d :: rest ∧ d.isDigit := by
  obtain ⟨nonempty, all⟩ := digits
  cases ds with
  | nil => exact absurd rfl nonempty
  | cons d rest => exact ⟨d, rest, rfl, all d List.mem_cons_self⟩

theorem scanDigits_sound {cs : List Char} (found : (Numeral.scanDigits cs).1.isEmpty = false) :
    Digits (Numeral.scanDigits cs).1 ∧
      cs = (Numeral.scanDigits cs).1 ++ (Numeral.scanDigits cs).2 := by
  refine ⟨⟨?_, fun c member => mem_takeWhile member⟩, List.takeWhile_append_dropWhile.symm⟩
  intro empty
  simp [empty] at found

theorem scanDigits_complete {ds rest : List Char} (digits : Digits ds)
    (ends : ∀ c, rest.head? = some c → c.isDigit = false) :
    Numeral.scanDigits (ds ++ rest) = (ds, rest) := by
  obtain ⟨taken, dropped⟩ := run_ends digits.2 ends
  rw [Numeral.scanDigits, taken, dropped]

theorem scanFraction_sound (cs : List Char) :
    ∃ text, FractionText text (Numeral.scanFraction cs).1 ∧
      cs = text ++ (Numeral.scanFraction cs).2 := by
  unfold Numeral.scanFraction
  split
  · next rest =>
    cases found : (Numeral.scanDigits rest).1.isEmpty with
    | true =>
      simp only [found, if_true]
      exact ⟨[], .absent, rfl⟩
    | false =>
      obtain ⟨digits, whole⟩ := scanDigits_sound found
      simp only [found, Bool.false_eq_true, if_false]
      exact ⟨_, .present digits, by rw [List.cons_append, ← whole]⟩
  · exact ⟨[], .absent, rfl⟩

theorem scanFraction_complete {text rest : List Char} {fraction : Option (List Char)}
    (spelled : FractionText text fraction)
    (ends : ∀ c, rest.head? = some c → c.isDigit = false ∧ c ≠ '.') :
    Numeral.scanFraction (text ++ rest) = (fraction, rest) := by
  cases spelled with
  | absent =>
    cases rest with
    | nil => rfl
    | cons c cs => simp [Numeral.scanFraction, (ends c rfl).2]
  | @present ds digits =>
    have scanned := scanDigits_complete digits fun c first => (ends c first).1
    simp [Numeral.scanFraction, scanned, digits.1]

theorem scanSign_sound (cs : List Char) :
    ∃ sign, (sign, (Numeral.scanSign cs).1) ∈ [([], false), (['+'], false), (['-'], true)] ∧
      cs = sign ++ (Numeral.scanSign cs).2 := by
  unfold Numeral.scanSign
  split
  · exact ⟨['-'], by simp, rfl⟩
  · exact ⟨['+'], by simp, rfl⟩
  · exact ⟨[], by simp, rfl⟩

theorem scanSign_complete {sign ds : List Char} {negative : Bool}
    (signed : (sign, negative) ∈ [([], false), (['+'], false), (['-'], true)])
    (digits : Digits ds) (rest : List Char) :
    Numeral.scanSign (sign ++ (ds ++ rest)) = (negative, ds ++ rest) := by
  obtain ⟨d, tail, rfl, isDigit⟩ := digits.head_isDigit
  simp only [List.mem_cons, Prod.mk.injEq, List.not_mem_nil, or_false] at signed
  rcases signed with ⟨rfl, rfl⟩ | ⟨rfl, rfl⟩ | ⟨rfl, rfl⟩
  · unfold Numeral.scanSign
    split
    · next first => simp_all [Char.isDigit]
    · next first => simp_all [Char.isDigit]
    · rfl
  · rfl
  · rfl

theorem scanExponent_sound (cs : List Char) :
    ∃ text, ExponentText text (Numeral.scanExponent cs).1 ∧
      cs = text ++ (Numeral.scanExponent cs).2 := by
  unfold Numeral.scanExponent
  split
  · next mark rest =>
    split
    · next marked =>
      cases found : (Numeral.scanDigits (Numeral.scanSign rest).2).1.isEmpty with
      | true =>
        simp only [found, if_true]
        exact ⟨[], .absent, rfl⟩
      | false =>
        obtain ⟨digits, whole⟩ := scanDigits_sound found
        obtain ⟨sign, signed, signWhole⟩ := scanSign_sound rest
        simp only [found, Bool.false_eq_true, if_false]
        refine ⟨_, .present marked signed digits, ?_⟩
        rw [List.cons_append, List.append_assoc, ← whole, ← signWhole]
    · exact ⟨[], .absent, rfl⟩
  · exact ⟨[], .absent, rfl⟩

theorem scanExponent_complete {text rest : List Char} {exponent : Option (Bool × List Char)}
    (spelled : ExponentText text exponent)
    (ends : ∀ c, rest.head? = some c → c.isDigit = false ∧ c ≠ 'e' ∧ c ≠ 'E') :
    Numeral.scanExponent (text ++ rest) = (exponent, rest) := by
  cases spelled with
  | absent =>
    cases rest with
    | nil => rfl
    | cons c cs =>
      obtain ⟨-, lower, upper⟩ := ends c rfl
      simp [Numeral.scanExponent, lower, upper]
  | @present mark sign ds negative marked signed digits =>
    have scannedSign := scanSign_complete signed digits rest
    have scanned := scanDigits_complete digits fun c first => (ends c first).1
    simp [Numeral.scanExponent, marked, scannedSign, scanned, digits.1]

/-- Behind the sign of a numeral come its digits. -/
theorem scan_signText (negative : Bool) {cs : List Char}
    (unsigned : negative = false → cs.head? ≠ some '-') :
    Numeral.scan (signText negative ++ cs) =
      if (Numeral.scanDigits cs).1.isEmpty then none
      else
        let fraction := Numeral.scanFraction (Numeral.scanDigits cs).2
        let exponent := Numeral.scanExponent fraction.2
        some (⟨negative, (Numeral.scanDigits cs).1, fraction.1, exponent.1⟩, exponent.2) := by
  cases negative with
  | true => rfl
  | false =>
    have none : (cs.head? == some '-') = false := by simpa using unsigned rfl
    simp [Numeral.scan, signText, none]

theorem exists_signText (cs : List Char) :
    ∃ negative body, cs = signText negative ++ body ∧
      (negative = false → body.head? ≠ some '-') := by
  by_cases minus : cs.head? = some '-'
  · obtain ⟨tail, rfl⟩ := List.head?_eq_some_iff.mp minus
    exact ⟨true, tail, rfl, nofun⟩
  · exact ⟨false, cs, rfl, fun _ => minus⟩

/-- What is scanned as a numeral is spelled as one. -/
theorem scan_sound {cs rest : List Char} {n : Numeral}
    (scanned : Numeral.scan cs = some (n, rest)) :
    ∃ text, NumeralText text n ∧ cs = text ++ rest := by
  obtain ⟨negative, body, rfl, unsigned⟩ := exists_signText cs
  rw [scan_signText negative unsigned] at scanned
  split at scanned
  · cases scanned
  · next found =>
    obtain ⟨digits, whole⟩ := scanDigits_sound (Bool.eq_false_iff.mpr found)
    obtain ⟨fraction, fractionSpelled, fractionWhole⟩ :=
      scanFraction_sound (Numeral.scanDigits body).2
    obtain ⟨exponent, exponentSpelled, exponentWhole⟩ :=
      scanExponent_sound (Numeral.scanFraction (Numeral.scanDigits body).2).2
    cases scanned
    refine ⟨_, ⟨fraction, exponent, digits, fractionSpelled, exponentSpelled, rfl⟩, ?_⟩
    simp only [List.append_assoc, ← exponentWhole, ← fractionWhole, ← whole]

/-- A numeral is scanned whole in front of what can be no part of it. -/
theorem scan_complete {text rest : List Char} {n : Numeral} (spelled : NumeralText text n)
    (ends : ∀ c, rest.head? = some c → isNameChar c = false ∧ c ≠ '.') :
    Numeral.scan (text ++ rest) = some (n, rest) := by
  obtain ⟨negative, digits, fraction, exponent⟩ := n
  obtain ⟨fractionText, exponentText, spelledWhole, spelledFraction, spelledExponent, rfl⟩ :=
    spelled
  have noDigit : ∀ c, rest.head? = some c → c.isDigit = false := by
    intro c first
    have other := (ends c first).1
    simp only [isNameChar, Bool.or_eq_false_iff] at other
    exact other.2
  have noMark : ∀ c, rest.head? = some c → c.isDigit = false ∧ c ≠ 'e' ∧ c ≠ 'E' := by
    intro c first
    refine ⟨noDigit c first, ?_, ?_⟩
    all_goals
      rintro rfl
      exact absurd (ends _ first).1 (by decide)
  -- What follows the whole digits is a point, an exponent mark or what follows the numeral.
  have exponentEnds : ∀ c, (exponentText ++ rest).head? = some c → c.isDigit = false ∧ c ≠ '.' := by
    intro c first
    cases spelledExponent with
    | absent => exact ⟨noDigit c first, (ends c first).2⟩
    | present marked signed ds =>
      cases first
      rcases marked with rfl | rfl <;> decide
  have wholeEnds : ∀ c, (fractionText ++ (exponentText ++ rest)).head? = some c →
      c.isDigit = false := by
    intro c first
    cases spelledFraction with
    | absent => exact (exponentEnds c first).1
    | present ds =>
      cases first
      decide
  have unsigned : (digits ++ (fractionText ++ (exponentText ++ rest))).head? ≠ some '-' := by
    obtain ⟨d, tail, rfl, isDigit⟩ := spelledWhole.head_isDigit
    rintro first
    cases first
    exact absurd isDigit (by decide)
  simp only [List.append_assoc]
  rw [scan_signText negative fun _ => unsigned, scanDigits_complete spelledWhole wholeEnds]
  simp [scanFraction_complete spelledFraction exponentEnds,
    scanExponent_complete spelledExponent noMark, spelledWhole.1]

/-! ## Strings -/

theorem hexDigit?_lt {c : Char} {n : Nat} (read : hexDigit? c = some n) : n < 16 := by
  have le_iff : ∀ a b : Char, a ≤ b ↔ a.toNat ≤ b.toNat := fun _ _ => Iff.rfl
  have bounds : '0'.toNat = 48 ∧ '9'.toNat = 57 ∧ 'a'.toNat = 97 ∧ 'f'.toNat = 102 ∧
      'A'.toNat = 65 ∧ 'F'.toNat = 70 := by decide
  simp only [hexDigit?, le_iff] at read
  split at read
  · cases read
    omega
  · split at read
    · cases read
      omega
    · split at read
      · cases read
        omega
      · cases read

theorem Grammar.HexText.lt {cs : List Char} {unit : Nat} (named : HexText cs unit) :
    unit < 0x10000 := by
  obtain ⟨a, b, c, d, digits, rfl⟩ := named
  have bounded : ∀ n, some n ∈ cs.map hexDigit? → n < 16 := by
    intro n member
    obtain ⟨digit, -, read⟩ := List.mem_map.mp member
    exact hexDigit?_lt read
  rw [digits] at bounded
  have := bounded a (by simp)
  have := bounded b (by simp)
  have := bounded c (by simp)
  have := bounded d (by simp)
  omega

theorem hexUnit?_sound {cs rest : List Char} {unit : Nat}
    (read : hexUnit? cs = some (unit, rest)) : ∃ text, HexText text unit ∧ cs = text ++ rest := by
  unfold hexUnit? at read
  split at read
  · next p q r s tail =>
    simp only [Option.bind_eq_bind, Option.bind_eq_some_iff] at read
    obtain ⟨a, first, b, second, c, third, d, fourth, whole⟩ := read
    cases whole
    exact ⟨[p, q, r, s], ⟨a, b, c, d, by simp [first, second, third, fourth], rfl⟩, rfl⟩
  · cases read

theorem hexUnit?_complete {text : List Char} {unit : Nat} (named : HexText text unit)
    (rest : List Char) : hexUnit? (text ++ rest) = some (unit, rest) := by
  obtain ⟨a, b, c, d, digits, rfl⟩ := named
  obtain ⟨p, text, rfl, first, digits⟩ := List.map_eq_cons_iff.mp digits
  obtain ⟨q, text, rfl, second, digits⟩ := List.map_eq_cons_iff.mp digits
  obtain ⟨r, text, rfl, third, digits⟩ := List.map_eq_cons_iff.mp digits
  obtain ⟨s, text, rfl, fourth, digits⟩ := List.map_eq_cons_iff.mp digits
  cases List.map_eq_nil_iff.mp digits
  simp [hexUnit?, first, second, third, fourth]

theorem simpleEscape?_eq_some {quote mark c : Char} :
    simpleEscape? quote mark = some c ↔
      mark = quote ∧ c = quote ∨ mark ≠ quote ∧ (mark, c) ∈ shortEscapes := by
  unfold simpleEscape?
  by_cases same : mark = quote
  · simp [same, eq_comm]
  · simp only [same, if_false, false_and, false_or, ne_eq, not_false_eq_true, true_and]
    split <;> simp_all [shortEscapes, eq_comm]

theorem toNat_ofNat_of_isValidChar {n : Nat} (valid : n.isValidChar) :
    (Char.ofNat n).toNat = n := by
  rw [Char.ofNat, dif_pos valid]
  rfl

/-- What is read behind `\u` is spelled as the character. -/
theorem unicodeEscape?_sound {quote c : Char} {cs rest : List Char}
    (read : unicodeEscape? cs = some (c, rest)) :
    ∃ text, CharText quote ('\\' :: 'u' :: text) c ∧ cs = text ++ rest := by
  unfold unicodeEscape? at read
  split at read
  · cases read
  · next unit behind first =>
    obtain ⟨text, named, rfl⟩ := hexUnit?_sound first
    split at read
    · cases read
    · next notLow =>
      split at read
      · next isHigh =>
        split at read
        · next behind =>
          split at read
          · cases read
          · next low last second =>
            obtain ⟨lowText, lowNamed, rfl⟩ := hexUnit?_sound second
            split at read
            · next isLow =>
              obtain ⟨rfl, rfl⟩ := Prod.mk.inj (Option.some.inj read)
              refine ⟨_, .pair named lowNamed isHigh isLow (toNat_ofNat_of_isValidChar ?_), ?_⟩
              · simp only [isHighSurrogate, isLowSurrogate, Bool.and_eq_true,
                  decide_eq_true_eq] at isHigh isLow
                simp only [Nat.isValidChar]
                omega
              · simp only [List.append_assoc, List.cons_append]
            · cases read
        · cases read
      · next notHigh =>
        obtain ⟨rfl, rfl⟩ := Prod.mk.inj (Option.some.inj read)
        -- A unit that is half of no pair is a character.
        have same : (Char.ofNat unit).toNat = unit := by
          have bounded := named.lt
          simp [isHighSurrogate, isLowSurrogate] at notHigh notLow
          refine toNat_ofNat_of_isValidChar ?_
          simp only [Nat.isValidChar]
          omega
        exact ⟨text, .unit (same.symm ▸ named), rfl⟩

/-- What is read behind a backslash is spelled as the character. -/
theorem unescape?_sound {quote c : Char} {cs rest : List Char}
    (read : unescape? quote cs = some (c, rest)) :
    ∃ text, CharText quote ('\\' :: text) c ∧ cs = text ++ rest := by
  unfold unescape? at read
  split at read
  · cases read
  · next mark tail =>
    split at read
    · next decoded short =>
      cases read
      rcases simpleEscape?_eq_some.mp short with ⟨rfl, rfl⟩ | ⟨-, listed⟩
      · exact ⟨_, .quote, rfl⟩
      · exact ⟨[mark], .short listed, rfl⟩
    · split at read
      · next unicode =>
        subst unicode
        obtain ⟨text, spelled, rfl⟩ := unicodeEscape?_sound read
        exact ⟨'u' :: text, spelled, rfl⟩
      · cases read

/-- The unit of a character is half of no pair. -/
theorem not_surrogate (c : Char) :
    isHighSurrogate c.toNat = false ∧ isLowSurrogate c.toNat = false := by
  have valid : c.toNat.isValidChar := c.valid
  simp only [Nat.isValidChar] at valid
  simp only [isHighSurrogate, isLowSurrogate, Bool.and_eq_false_iff, decide_eq_false_iff_not]
  omega

/-- A spelling with a backslash is read whole. -/
theorem unescape?_complete {quote c : Char} {text : List Char} (quoted : quote = '\'' ∨ quote = '"')
    (spelled : CharText quote ('\\' :: text) c) (rest : List Char) :
    unescape? quote (text ++ rest) = some (c, rest) := by
  have noMark : simpleEscape? quote 'u' = none := by
    rcases quoted with rfl | rfl <;> decide
  cases spelled with
  | plain printed inside bare => exact absurd rfl bare
  | quote =>
    have short := simpleEscape?_eq_some.mpr (.inl ⟨rfl, rfl⟩ : quote = quote ∧ quote = quote ∨ _)
    simp [unescape?, short]
  | @short mark _ listed =>
    -- No quote is among the marks of short escapes, so the reader gets as far as their list.
    have other : mark ≠ quote := by
      rintro rfl
      rcases quoted with rfl | rfl <;> simp [shortEscapes] at listed
    have short := simpleEscape?_eq_some.mpr (.inr ⟨other, listed⟩)
    simp [unescape?, short]
  | @unit digits _ named =>
    have read := hexUnit?_complete named rest
    obtain ⟨notHigh, notLow⟩ := not_surrogate c
    simp [unescape?, noMark, unicodeEscape?, read, notHigh, notLow]
  | @pair first second high low _ opened closed isHigh isLow named =>
    have readHigh := hexUnit?_complete opened ('\\' :: 'u' :: (second ++ rest))
    have readLow := hexUnit?_complete closed rest
    have notLow : isLowSurrogate high = false := by
      simp only [isHighSurrogate, Bool.and_eq_true, decide_eq_true_eq] at isHigh
      simp only [isLowSurrogate, Bool.and_eq_false_iff, decide_eq_false_iff_not]
      omega
    have paired : pairedChar high low = c := by
      rw [pairedChar, ← named, Char.ofNat_toNat]
    simp [unescape?, noMark, unicodeEscape?, readHigh, readLow, notLow, isHigh, isLow, paired]

/-- The inside of a string, up to the first quote that belongs to no escape, is spelled as the value
that is read. -/
theorem scanQuoted_sound {quote : Char} {unterminated : ScanError} {cs value rest : List Char}
    (scanned : scanQuoted quote unterminated cs = .ok (value, rest)) :
    ∃ inside, InsideText quote inside value ∧ cs = inside ++ quote :: rest := by
  fun_induction scanQuoted quote unterminated cs generalizing value with
  | case1 => cases scanned
  | case2 tail =>
    cases scanned
    exact ⟨[], .nil, rfl⟩
  | case3 => cases scanned
  | case4 tail decoded behind read other ih =>
    obtain ⟨⟨inner, left⟩, found, same⟩ := map_eq_ok.mp scanned
    cases same
    obtain ⟨text, spelled, rfl⟩ := unescape?_sound read
    obtain ⟨inside, within, rfl⟩ := ih found
    exact ⟨'\\' :: text ++ inside, .cons spelled within, by simp⟩
  | case5 => cases scanned
  | case6 c tail other bare printed ih =>
    obtain ⟨⟨inner, left⟩, found, same⟩ := map_eq_ok.mp scanned
    cases same
    obtain ⟨inside, within, rfl⟩ := ih found
    exact ⟨[c] ++ inside, .cons (.plain (Nat.not_lt.mp printed) other bare) within, by simp⟩

/-- The inside of a string is read up to its closing quote. -/
theorem scanQuoted_complete {quote : Char} (quoted : quote = '\'' ∨ quote = '"')
    (unterminated : ScanError) {inside value : List Char} (spelled : InsideText quote inside value)
    (rest : List Char) :
    scanQuoted quote unterminated (inside ++ quote :: rest) = .ok (value, rest) := by
  induction spelled with
  | nil =>
    rw [List.nil_append, scanQuoted]
    simp
  | @cons text tail cs c head _ ih =>
    -- All spellings but a plain character are escapes, and the reader takes those in one step.
    have escape : ∀ body, text = '\\' :: body →
        scanQuoted quote unterminated (text ++ tail ++ quote :: rest) = .ok (c :: cs, rest) := by
      rintro body rfl
      have noQuote : '\\' ≠ quote := by
        rcases quoted with rfl | rfl <;> decide
      have read := unescape?_complete quoted head (tail ++ quote :: rest)
      rw [List.cons_append, List.cons_append, scanQuoted, if_neg noQuote, if_pos rfl]
      split
      · next failed => simp [read] at failed
      · next decoded behind other =>
        simp only [List.append_assoc, read, Option.some.injEq, Prod.mk.injEq] at other
        obtain ⟨rfl, rfl⟩ := other
        simp [ih, Except.map]
    cases head with
    | plain printed other bare =>
      rw [List.append_assoc, List.singleton_append, scanQuoted, if_neg other, if_neg bare,
        if_neg (Nat.not_lt.mpr printed), ih]
      rfl
    | _ => exact escape _ rfl

/-! ## Symbols -/

/-- The characters of a symbol. -/
def Symbol.chars : Symbol → List Char
  | .dollar => ['$']
  | .at => ['@']
  | .dot => ['.']
  | .dots => ['.', '.']
  | .star => ['*']
  | .question => ['?']
  | .comma => [',']
  | .colon => [':']
  | .openBracket => ['[']
  | .closeBracket => [']']
  | .openParen => ['(']
  | .closeParen => [')']
  | .comparison .equal => ['=', '=']
  | .comparison .notEqual => ['!', '=']
  | .comparison .less => ['<']
  | .comparison .lessOrEqual => ['<', '=']
  | .comparison .greater => ['>']
  | .comparison .greaterOrEqual => ['>', '=']
  | .both => ['&', '&']
  | .either => ['|', '|']
  | .bang => ['!']

theorem Symbol.toList_text (s : Symbol) : s.text.toList = s.chars := by
  cases s with
  | comparison operator => cases operator <;> rfl
  | _ => rfl

/-- Whether a longer symbol begins with the symbol and the character. -/
def Symbol.absorbs : Symbol → Char → Bool
  | .dot, c => c = '.'
  | .bang, c | .comparison .less, c | .comparison .greater, c => c = '='
  | _, _ => false

theorem scanSymbol?_sound {cs rest : List Char} {s : Symbol}
    (scanned : scanSymbol? cs = some (s, rest)) : cs = s.chars ++ rest := by
  unfold scanSymbol? at scanned
  split at scanned <;> cases scanned <;> rfl

theorem scanSymbol?_complete {s : Symbol} {rest : List Char}
    (ends : ∀ c, rest.head? = some c → s.absorbs c = false) :
    scanSymbol? (s.chars ++ rest) = some (s, rest) := by
  cases rest with
  | nil =>
    cases s with
    | comparison operator => cases operator <;> rfl
    | _ => rfl
  | cons c cs =>
    have other := ends c rfl
    cases s with
    | comparison operator => cases operator <;> simp_all [Symbol.chars, scanSymbol?, Symbol.absorbs]
    | _ => simp_all [Symbol.chars, scanSymbol?, Symbol.absorbs]

/-! ## Tokens -/

/-- The spellings of a token. -/
inductive Spells : Token → List Char → Prop where
  | number {cs : List Char} {n : Numeral} (spelled : NumeralText cs n) : Spells (.number n) cs
  | string {cs : List Char} {value : String} (spelled : StringText cs value) :
      Spells (.string value) cs
  | name {cs : List Char} (named : IsName cs) : Spells (.name (String.ofList cs)) cs
  | symbol {s : Symbol} : Spells (.symbol s) s.chars

/-- Whether the character, right behind a token, might belong to it. -/
def Token.absorbs : Token → Char → Bool
  | .number _, c => isNameChar c || c = '.'
  | .string _, _ => false
  | .name _, c => isNameChar c
  | .symbol s, c => s.absorbs c

/-- Nothing of what follows a token might belong to it. -/
def Apart (token : Token) (rest : List Char) : Prop :=
  ∀ c, rest.head? = some c → token.absorbs c = false

theorem scan_eq_none {c : Char} {cs : List Char} (noDigit : c.isDigit = false) (noMinus : c ≠ '-') :
    Numeral.scan (c :: cs) = none := by
  have unsigned : (c :: cs).head? ≠ some '-' := by simpa using noMinus
  simpa [signText, Numeral.scanDigits, noDigit] using scan_signText false fun _ => unsigned

theorem not_isDigit_of_isNameFirst {c : Char} (first : isNameFirst c) :
    c.isDigit = false ∧ c ≠ '-' ∧ c ≠ '\'' ∧ c ≠ '"' := by
  refine ⟨?_, ?_, ?_, ?_⟩
  · rw [Bool.eq_false_iff]
    intro digit
    unfold isNameFirst Char.isAlpha Char.isUpper Char.isLower at first
    unfold Char.isDigit at digit
    simp only [Bool.or_eq_true, Bool.and_eq_true, decide_eq_true_eq, ge_iff_le,
      UInt32.le_iff_toNat_le, Char.toNat, ← Char.toNat_inj] at first digit
    have bounds : '9'.val.toNat = 57 ∧ 'A'.val.toNat = 65 ∧ 'a'.val.toNat = 97 ∧
        '_'.val.toNat = 95 := by decide
    omega
  all_goals
    rintro rfl
    exact absurd first (by decide)

/-- Whether no number, no string and no name begins with the character. -/
def beginsNoWord (c : Char) : Bool :=
  !c.isDigit && c != '-' && c != '\'' && c != '"' && !isNameFirst c

theorem beginsNoWord_iff {c : Char} : beginsNoWord c = true ↔
    c.isDigit = false ∧ c ≠ '-' ∧ c ≠ '\'' ∧ c ≠ '"' ∧ isNameFirst c = false := by
  simp [beginsNoWord, and_assoc]

theorem Symbol.beginsNoWord_chars (s : Symbol) : s.chars.all beginsNoWord = true := by
  cases s with
  | comparison operator => cases operator <;> decide
  | _ => decide

/-- What is scanned as a token is a spelling of it. -/
theorem scanToken_sound {c : Char} {cs rest : List Char} {token : Token}
    (scanned : scanToken c cs = .ok (token, rest)) :
    ∃ text, Spells token text ∧ c :: cs = text ++ rest := by
  unfold scanToken at scanned
  split at scanned
  · next numeral behind found =>
    cases scanned
    obtain ⟨text, spelled, whole⟩ := scan_sound found
    exact ⟨text, .number spelled, whole⟩
  · split at scanned
    · next quoted =>
      obtain ⟨⟨value, behind⟩, found, same⟩ := map_eq_ok.mp scanned
      cases same
      obtain ⟨inside, spelled, rfl⟩ := scanQuoted_sound found
      refine ⟨c :: (inside ++ [c]), .string ⟨c, inside, quoted, ?_, rfl⟩, by simp⟩
      rwa [String.toList_ofList]
    · split at scanned
      · next first =>
        cases scanned
        refine ⟨c :: cs.takeWhile isNameChar,
          .name ⟨c, _, rfl, first, fun d member => mem_takeWhile member⟩, ?_⟩
        rw [List.cons_append, List.takeWhile_append_dropWhile]
      · split at scanned
        · next symbol behind found =>
          cases scanned
          exact ⟨symbol.chars, .symbol, scanSymbol?_sound found⟩
        · cases scanned

/-- A token is scanned whole where nothing behind it might belong to it. -/
theorem scanToken_complete {c : Char} {cs text rest : List Char} {token : Token}
    (spelled : Spells token text) (apart : Apart token rest) (whole : c :: cs = text ++ rest) :
    scanToken c cs = .ok (token, rest) := by
  unfold scanToken
  cases spelled with
  | number spelled =>
    have scanned := scan_complete spelled fun d first => by
      simpa [Token.absorbs] using apart d first
    rw [whole, scanned]
  | @string _ value spelled =>
    obtain ⟨quote, inside, quoted, within, rfl⟩ := spelled
    rw [List.cons_append, List.append_assoc, List.singleton_append, List.cons.injEq] at whole
    obtain ⟨rfl, rfl⟩ := whole
    have noNumber : Numeral.scan (c :: (inside ++ c :: rest)) = none := by
      rcases quoted with rfl | rfl <;> exact scan_eq_none (by decide) (by decide)
    simp only [noNumber, quoted, if_true, scanQuoted_complete quoted _ within, Except.map,
      String.ofList_toList]
  | name named =>
    obtain ⟨first, tail, rfl, isFirst, others⟩ := named
    rw [List.cons_append, List.cons.injEq] at whole
    obtain ⟨rfl, rfl⟩ := whole
    obtain ⟨noDigit, noMinus, noSingle, noDouble⟩ := not_isDigit_of_isNameFirst isFirst
    obtain ⟨taken, dropped⟩ := run_ends others apart
    simp only [scan_eq_none noDigit noMinus, noSingle, noDouble, or_self, if_false, isFirst,
      if_true, taken, dropped]
  | @symbol s =>
    have scanned := scanSymbol?_complete (s := s) apart
    rw [← whole] at scanned
    have first : c ∈ s.chars := by
      cases s with
      | comparison operator => cases operator <;> (cases whole; decide)
      | _ =>
        cases whole
        decide
    obtain ⟨noDigit, noMinus, noSingle, noDouble, noName⟩ :=
      beginsNoWord_iff.mp (List.all_eq_true.mp s.beginsNoWord_chars c first)
    simp only [scan_eq_none noDigit noMinus, noSingle, noDouble, or_self, if_false, noName,
      Bool.false_eq_true, scanned]

end JsonPath
