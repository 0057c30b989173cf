import JsonPath.Query.SyntaxError
import JsonPath.Text.Escape

/-!
# Reading tokens

`Lexemes.read` cuts a query text into lexemes. Blank space between them is passed over; whether it
was allowed there shows in the places of the lexemes.

* `scanQuoted` reads the inside of a quoted string.
* `scanToken` reads the token at the head of a text: a number, a string, a name or a symbol, in that
  order, and of each kind the longest.
-/

namespace JsonPath

/-- Whether queries have the character as blank space. -/
def isQueryBlank (c : Char) : Bool :=
  c = ' ' || c = '\t' || c = '\n' || c = '\r'

/-- Whether a name may begin with the character. -/
def isNameFirst (c : Char) : Bool :=
  c.isAlpha || c = '_' || 0x80 ≤ c.toNat

/-- Whether the character may stand in a name. -/
def isNameChar (c : Char) : Bool :=
  isNameFirst c || c.isDigit

/-! ## Quoted strings -/

/-- The character that a backslash and `c` stand for between quotes `quote`. -/
def simpleEscape? (quote c : Char) : Option Char :=
  if c = quote then some quote
  else match c with
    | 'b' => some '\x08'
    | 'f' => some '\x0c'
    | 'n' => some '\n'
    | 'r' => some '\r'
    | 't' => some '\t'
    | '/' => some '/'
    | '\\' => some '\\'
    | _ => none

/-- The character that the hexadecimal digits behind `\u` name, and the rest. The first half of a
pair needs the second behind it. -/
def unicodeEscape? (cs : List Char) : Option (Char × List Char) :=
  match hexUnit? cs with
  | none => none
  | some (unit, rest) =>
    if isLowSurrogate unit then none
    else if isHighSurrogate unit then
      match rest with
      | '\\' :: 'u' :: rest =>
        match hexUnit? rest with
        | none => none
        | some (low, rest) => if isLowSurrogate low then some (pairedChar unit low, rest) else none
      | _ => none
    else some (Char.ofNat unit, rest)

/-- The character that an escape stands for, and the rest; `cs` is what follows the backslash. -/
def unescape? (quote : Char) (cs : List Char) : Option (Char × List Char) :=
  match cs with
  | [] => none
  | c :: rest =>
    match simpleEscape? quote c with
    | some decoded => some (decoded, rest)
    | none => if c = 'u' then unicodeEscape? rest else none

theorem hexUnit?_length {cs rest : List Char} {unit : Nat}
    (read : hexUnit? cs = some (unit, rest)) : rest.length + 4 = cs.length := by
  match cs with
  | a :: b :: c :: d :: tail =>
    simp only [hexUnit?] at read
    cases ha : hexDigit? a <;> cases hb : hexDigit? b <;> cases hc : hexDigit? c <;>
      cases hd : hexDigit? d <;> simp_all
  | [] | [_] | [_, _] | [_, _, _] => simp [hexUnit?] at read

theorem unicodeEscape?_length {cs rest : List Char} {c : Char}
    (read : unicodeEscape? cs = some (c, rest)) : rest.length < cs.length := by
  simp only [unicodeEscape?] at read
  split at read
  · simp at read
  · rename_i unit tail first
    have firstLength := hexUnit?_length first
    split at read
    · simp at read
    · split at read
      · split at read
        · split at read
          · simp at read
          · rename_i low last second
            have secondLength := hexUnit?_length second
            split at read
            · simp only [Option.some.injEq, Prod.mk.injEq] at read
              obtain ⟨_, rfl⟩ := read
              simp only [List.length_cons] at firstLength
              omega
            · simp at read
        · simp at read
      · simp only [Option.some.injEq, Prod.mk.injEq] at read
        obtain ⟨_, rfl⟩ := read
        omega

theorem unescape?_length {quote c : Char} {cs rest : List Char}
    (read : unescape? quote cs = some (c, rest)) : rest.length < cs.length := by
  match cs with
  | [] => simp [unescape?] at read
  | d :: tail =>
    simp only [unescape?] at read
    split at read
    · simp only [Option.some.injEq, Prod.mk.injEq] at read
      obtain ⟨_, rfl⟩ := read
      simp
    · split at read
      · have shorter := unicodeEscape?_length read
        simp only [List.length_cons]
        omega
      · simp at read

/-- A cause and what is left of the text from the place where it was found. -/
structure ScanError where
  fault : SyntaxFault
  rest : List Char

/-- The value of a string whose inside is at the head of the text, and what follows its closing
quote. The error for a text that ends first is `unterminated`. -/
def scanQuoted (quote : Char) (unterminated : ScanError) (cs : List Char) :
    Except ScanError (List Char × List Char) :=
  match cs with
  | [] => .error unterminated
  | c :: rest =>
    if c = quote then .ok ([], rest)
    else if c = '\\' then
      match _decoded : unescape? quote rest with
      | none => .error ⟨.invalidEscape, c :: rest⟩
      | some (decoded, rest) =>
        (scanQuoted quote unterminated rest).map fun scanned => (decoded :: scanned.1, scanned.2)
    else if c.toNat < 0x20 then .error ⟨.controlCharacter, c :: rest⟩
    else (scanQuoted quote unterminated rest).map fun scanned => (c :: scanned.1, scanned.2)
termination_by cs.length
decreasing_by
  · have := unescape?_length _decoded
    simp only [List.length_cons]
    omega
  · simp

/-! ## Tokens -/

/-- The symbol at the head of a text, the longest that stands there, and the rest. -/
def scanSymbol? (cs : List Char) : Option (Symbol × List Char) :=
  match cs with
  | '.' :: '.' :: rest => some (.dots, rest)
  | '=' :: '=' :: rest => some (.comparison .equal, rest)
  | '!' :: '=' :: rest => some (.comparison .notEqual, rest)
  | '<' :: '=' :: rest => some (.comparison .lessOrEqual, rest)
  | '>' :: '=' :: rest => some (.comparison .greaterOrEqual, rest)
  | '&' :: '&' :: rest => some (.both, rest)
  | '|' :: '|' :: rest => some (.either, rest)
  | '$' :: rest => some (.dollar, rest)
  | '@' :: rest => some (.at, rest)
  | '.' :: rest => some (.dot, rest)
  | '*' :: rest => some (.star, rest)
  | '?' :: rest => some (.question, rest)
  | ',' :: rest => some (.comma, rest)
  | ':' :: rest => some (.colon, rest)
  | '[' :: rest => some (.openBracket, rest)
  | ']' :: rest => some (.closeBracket, rest)
  | '(' :: rest => some (.openParen, rest)
  | ')' :: rest => some (.closeParen, rest)
  | '<' :: rest => some (.comparison .less, rest)
  | '>' :: rest => some (.comparison .greater, rest)
  | '!' :: rest => some (.bang, rest)
  | _ => none

/-- The token that begins with the character `c`, and what follows it. -/
def scanToken (c : Char) (cs : List Char) : Except ScanError (Token × List Char) :=
  match Numeral.scan (c :: cs) with
  | some (numeral, rest) => .ok (.number numeral, rest)
  | none =>
    if c = '\'' ∨ c = '"' then
      (scanQuoted c ⟨.unterminatedString, c :: cs⟩ cs).map fun scanned =>
        (.string (String.ofList scanned.1), scanned.2)
    else if isNameFirst c then
      .ok (.name (String.ofList (c :: cs.takeWhile isNameChar)), cs.dropWhile isNameChar)
    else match scanSymbol? (c :: cs) with
      | some (symbol, rest) => .ok (.symbol symbol, rest)
      | none => .error ⟨.unexpectedCharacter c, c :: cs⟩

/-- What was read of `cs` when `rest` is left of it. -/
def readPart (cs rest : List Char) : List Char :=
  cs.take (cs.length - rest.length)

namespace Lexemes

/-- The error at the place that is `rest` away from the end, where `cs` begins at `place`. -/
def errorAt (place : Position) (cs : List Char) (e : ScanError) : SyntaxError :=
  ⟨e.fault, place.afterAll (readPart cs e.rest), e.rest.head?.map fun c => String.ofList [c]⟩

/-- The lexemes of a text that begins at `place`. A lexeme is never empty, so the number of
characters bounds how many there are. -/
def readFrom : Nat → Position → List Char → Except SyntaxError Lexemes
  | 0, place, _ => .ok ⟨[], place⟩
  | n + 1, place, cs =>
    let blank := cs.takeWhile isQueryBlank
    let start := place.afterAll blank
    match cs.dropWhile isQueryBlank with
    | [] => .ok ⟨[], start⟩
    | c :: tail =>
      match scanToken c tail with
      | .error e => .error (errorAt start (c :: tail) e)
      | .ok (token, rest) =>
        let lexeme : Lexeme := ⟨token, readPart (c :: tail) rest, start⟩
        (readFrom n lexeme.stop rest).map fun others =>
          ⟨lexeme :: others.lexemes, others.finish⟩

/-- The lexemes of a text. -/
def read (source : String) : Except SyntaxError Lexemes :=
  readFrom (source.toList.length + 1) .start source.toList

end Lexemes

end JsonPath
