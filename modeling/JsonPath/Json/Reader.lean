import JsonPath.Json.Value
import JsonPath.Text.Escape
import JsonPath.Text.Position

/-!
# Reading JSON text

A `Reader` takes what it reads off the head of a text. Reading stops at the first thing that is
wrong, and `ReadError` says of what kind that is.

* `Value.read` reads a whole text as one value, containers nested no deeper than a limit.
* `Reader.skipValue` reads a value only to pass over it: it sets no limit on nesting, and neither
  the pairing of surrogates nor the size of a number matters to it.
-/

namespace JsonPath

/-- What was wrong with a text. -/
inductive ReadError where
  /-- A character that cannot stand where it does. -/
  | malformed
  /-- The text ended where more of it was needed. -/
  | truncated
  /-- JSON, but not of the shape that was asked for. -/
  | mistyped
deriving DecidableEq, Repr

/-- Reading from the head of a text. The number that goes with it is greater than that of the
characters of the whole text, and bounds every loop. -/
abbrev Reader := ReaderT Nat (StateT (List Char) (Except ReadError))

/-- Whether JSON has the character as blank space. -/
def isBlank (c : Char) : Bool :=
  c = ' ' || c = '\t' || c = '\n' || c = '\r'

/-- The character that a backslash and `c` stand for. -/
def shortEscape? (c : Char) : Option Char :=
  match c with
  | 'b' => some '\x08'
  | 'f' => some '\x0c'
  | 'n' => some '\n'
  | 'r' => some '\r'
  | 't' => some '\t'
  | '/' => some '/'
  | '\\' => some '\\'
  | _ => none

namespace Reader

/-- Passes over blank space. -/
def skipBlank : Reader Unit :=
  modify (·.dropWhile isBlank)

/-- The next character that is not blank, left unread. -/
def peek : Reader Char := do
  skipBlank
  match ← get with
  | [] => throw .truncated
  | c :: _ => return c

/-- Passes over one character. -/
def drop : Reader Unit :=
  modify List.tail

/-- Reads the character `c` past blank space. -/
def expect (c : Char) : Reader Unit := do
  if (← peek) = c then drop else throw .malformed

/-- Reads exactly the characters of `word`. -/
def exactly : List Char → Reader Unit
  | [] => return
  | c :: word => do
    match ← get with
    | [] => throw .truncated
    | d :: rest => if c = d then do set rest; exactly word else throw .malformed

/-- A unit of four hexadecimal digits. -/
def unit : Reader Nat := do
  let cs ← get
  match hexUnit? cs with
  | some (n, rest) => do
    set rest
    return n
  | none => throw (if byteLength cs < 4 then .truncated else .malformed)

/-- Reads the characters of the second half of an escaped pair. -/
def pairMark : Reader Unit := exactly ['\\', 'u']

/-- The character behind `\u`; a surrogate must come as half of a pair. -/
def escapedUnit : Reader Char := do
  let high ← unit
  if isLowSurrogate high then throw .malformed
  else if isHighSurrogate high then
    pairMark
    let low ← unit
    if isLowSurrogate low then return pairedChar high low else throw .malformed
  else return Char.ofNat high

/-- The character behind a backslash. -/
def escaped : Reader Char := do
  match ← get with
  | [] => throw .truncated
  | c :: rest => do
    set rest
    if c = 'u' then escapedUnit
    else if c = '"' then return '"'
    else match shortEscape? c with
      | some d => return d
      | none => throw .malformed

/-- Passes over what stands behind a backslash. -/
def skipEscaped : Reader Unit := do
  match ← get with
  | [] => throw .truncated
  | c :: rest => do
    set rest
    if c = 'u' then do let _ ← unit; return
    else if c = '"' || (shortEscape? c).isSome then return
    else throw .malformed

/-- The characters of a string up to its closing quote, each escape read by `escape`. The count is
at least that of the characters left. -/
def stringUpTo (escape : Reader α) (plain : Char → α) : Nat → Reader (List α)
  | 0 => throw .truncated
  | n + 1 => do
    match ← get with
    | [] => throw .truncated
    | c :: rest => do
      set rest
      if c = '"' then return []
      else if c = '\\' then do
        let x ← escape
        return x :: (← stringUpTo escape plain n)
      else if c.toNat < 0x20 then throw .malformed
      else return plain c :: (← stringUpTo escape plain n)

/-- A string behind its opening quote. -/
def string : Reader String := do
  return String.ofList (← stringUpTo escaped id (← read))

/-- Passes over a string behind its opening quote. -/
def skipString : Reader Unit := do
  let _ ← stringUpTo skipEscaped (fun _ => ()) (← read)
  return

/-- At least one decimal digit; `ended` is the error of a text that ends instead. -/
def digits (ended : ReadError) : Reader (List Char) := do
  let scanned := Numeral.scanDigits (← get)
  if scanned.1.isEmpty then
    throw (if scanned.2.isEmpty then ended else .malformed)
  else do
    set scanned.2
    return scanned.1

/-- A numeral in the form JSON allows: no zero in front of the whole part. -/
def numeral (ended : ReadError) : Reader Numeral := do
  let negative := (← get).head? == some '-'
  if negative then drop
  let whole ← digits ended
  if whole.length > 1 && whole.head? == some '0' then throw .malformed
  let fraction ←
    match ← get with
    | '.' :: rest => do
      set rest
      pure (some (← digits ended))
    | _ => pure none
  let exponent ←
    match ← get with
    | mark :: rest =>
      if mark = 'e' ∨ mark = 'E' then do
        let sign := Numeral.scanSign rest
        set sign.2
        pure (some (sign.1, ← digits ended))
      else pure none
    | [] => pure none
  return ⟨negative, whole, fraction, exponent⟩

/-- A number of a document. -/
def number : Reader Number := do
  match Number.ofNumeral (← numeral .truncated) with
  | some n => return n
  | none => throw .malformed

/-- The elements of an array behind the first, up to its closing bracket. -/
def elementsUpTo (item : Reader α) : Nat → Reader (List α)
  | 0 => throw .truncated
  | n + 1 => do
    let c ← peek
    if c = ']' then do drop; return []
    else if c = ',' then do
      drop
      if (← peek) = ']' then throw .malformed
      let x ← item
      return x :: (← elementsUpTo item n)
    else throw .malformed

/-- The elements of an array behind its opening bracket. -/
def elements (item : Reader α) : Reader (List α) := do
  if (← peek) = ']' then do drop; return []
  else do
    let x ← item
    return x :: (← elementsUpTo item (← read))

/-- The name of a member, behind its opening quote, and the colon. -/
def memberName (name : Reader α) : Reader α := do
  drop
  let x ← name
  expect ':'
  return x

/-- The members of an object behind the first, up to its closing brace. -/
def membersUpTo (name : Reader α) (item : Reader β) : Nat → Reader (List (α × β))
  | 0 => throw .truncated
  | n + 1 => do
    let c ← peek
    if c = '\x7d' then do drop; return []
    else if c = ',' then do
      drop
      if (← peek) = '"' then do
        let x ← memberName name
        let y ← item
        return (x, y) :: (← membersUpTo name item n)
      else throw .malformed
    else throw .malformed

/-- The members of an object behind its opening brace. -/
def members (name : Reader α) (item : Reader β) : Reader (List (α × β)) := do
  let c ← peek
  if c = '\x7d' then do drop; return []
  else if c = '"' then do
    let x ← memberName name
    let y ← item
    return (x, y) :: (← membersUpTo name item (← read))
  else throw .malformed

/-- A value that is no container, or what `container` reads. -/
def valueOr (container : Reader Value) : Reader Value := do
  let c ← peek
  if c = 'n' then do exactly "null".toList; return .null
  else if c = 't' then do exactly "true".toList; return .bool true
  else if c = 'f' then do exactly "false".toList; return .bool false
  else if c = '"' then do drop; return .string (← string)
  else if c = '-' ∨ c.isDigit then return .number (← number)
  else if c = '[' ∨ c = '\x7b' then container
  else throw .malformed

/-- An array or an object whose parts are read by `item`. -/
def container (item : Reader Value) : Reader Value := do
  let c ← peek
  drop
  if c = '[' then return .array (← elements item)
  else return .object ((← members string item).foldl (fun ms m => Value.put m.1 m.2 ms) [])

/-- A value with no more than `depth` containers inside one another. -/
def value : Nat → Reader Value
  | 0 => valueOr (throw .malformed)
  | depth + 1 => valueOr (container (value depth))

/-- Passes over a value whose containers are at most so many inside one another. -/
def skipUpTo : Nat → Reader Unit
  | 0 => throw .truncated
  | n + 1 => do
    let c ← peek
    if c = 'n' then exactly "null".toList
    else if c = 't' then exactly "true".toList
    else if c = 'f' then exactly "false".toList
    else if c = '"' then do drop; skipString
    else if c = '-' ∨ c.isDigit then do let _ ← numeral .malformed; return
    else if c = '[' then do drop; let _ ← elements (skipUpTo n); return
    else if c = '\x7b' then do drop; let _ ← members skipString (skipUpTo n); return
    else throw .malformed

/-- Passes over a value. -/
def skipValue : Reader Unit := do
  skipUpTo (← read)

/-- What `reader` makes of a whole text, blank space around it aside. -/
def whole (reader : Reader α) (text : String) : Except ReadError α := do
  let cs := text.toList
  let (x, rest) ← (reader.run (cs.length + 1)).run cs
  if (rest.dropWhile isBlank).isEmpty then return x else throw .malformed

end Reader

/-- How many containers of a document may stand inside one another. -/
def documentDepth : Nat := 127

/-- The value that a text holds. -/
def Value.read (depth : Nat) (text : String) : Except ReadError Value :=
  (Reader.value depth).whole text

end JsonPath
