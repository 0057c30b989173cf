import JsonPath.Regex.CharSet
import JsonPath.Regex.Pattern
import JsonPath.Text.Escape

/-!
# Reading regular expressions

`Pattern.read?` reads the text of a regular expression. In verbose mode, which a flag switches on,
blank space and comments between the parts are passed over.

Every step takes at least one character, so the number of characters bounds the recursion.
-/

namespace JsonPath

/-- Where reading a pattern stands: the text ahead, whether verbose mode is on, and the names that
groups have been given. -/
structure PatternState where
  ahead : List Char
  verbose : Bool
  names : List String

/-- Reading from the text of a pattern; it fails where the text is no pattern. -/
abbrev PatternReader := StateT PatternState Option

namespace PatternReader

/-! ## Characters -/

/-- Whether the character is blank space, of any script. -/
def isSpace (c : Char) : Bool := Property.whiteSpace.holds c

/-- A text without the blank space and the comments at its head. No text is longer than the
count. -/
def withoutSpace : Nat → List Char → List Char
  | 0, cs => cs
  | n + 1, cs =>
    match cs.dropWhile isSpace with
    | '#' :: rest => withoutSpace n ((rest.dropWhile (· != '\n')).drop 1)
    | rest => rest

/-- In verbose mode, passes over blank space and comments. -/
def skipSpace : PatternReader Unit :=
  modify fun s =>
    if s.verbose then { s with ahead := withoutSpace (s.ahead.length + 1) s.ahead } else s

/-- The next character, left unread. -/
def peek? : PatternReader (Option Char) :=
  return (← get).ahead.head?

/-- The next character, left unread; there must be one. -/
def peek : PatternReader Char := do
  match (← get).ahead with
  | [] => failure
  | c :: _ => return c

/-- Passes over one character. -/
def drop : PatternReader Unit :=
  modify fun s => { s with ahead := s.ahead.tail }

/-- Passes over one character and, in verbose mode, over the space behind it. -/
def dropSpaced : PatternReader Unit := do
  drop
  skipSpace

/-- Passes over `word` if it is ahead. -/
def dropWord (word : List Char) : PatternReader Bool := do
  let s ← get
  if word.isPrefixOf s.ahead then
    set { s with ahead := s.ahead.drop word.length }
    return true
  else return false

/-- What follows the next character. In verbose mode blank space is left out, and the mark of a
comment with the blank space behind it. -/
def peekSpaced? : PatternReader (Option Char) := do
  let s ← get
  let rest := s.ahead.tail
  if s.verbose then
    match rest.dropWhile isSpace with
    | '#' :: comment => return (comment.dropWhile isSpace).head?
    | visible => return visible.head?
  else return rest.head?

/-! ## Numbers -/

/-- The greatest number of repetitions that can be written. -/
def greatestCount : Nat := UInt32.size - 1

/-- Digits at the head of the text, blank space among them aside in verbose mode. -/
def digitsUpTo : Nat → PatternReader (List Char)
  | 0 => return []
  | n + 1 => do
    match ← peek? with
    | some c =>
      if c.isDigit then do
        dropSpaced
        return c :: (← digitsUpTo n)
      else return []
    | none => return []

/-- A decimal number with blank space around it. -/
def count : PatternReader Nat := do
  modify fun s => { s with ahead := s.ahead.dropWhile isSpace }
  let digits ← digitsUpTo (← get).ahead.length
  modify fun s => { s with ahead := s.ahead.dropWhile isSpace }
  skipSpace
  let n := digits.foldl (fun n d => n * 10 + (d.toNat - '0'.toNat)) 0
  if digits.isEmpty || n > greatestCount then failure else return n

/-- The character of a code point. -/
def ofCodePoint (n : Nat) : PatternReader Char :=
  if n.isValidChar then return Char.ofNat n else failure

/-- So many hexadecimal digits. -/
def hexDigits : Nat → Nat → PatternReader Nat
  | 0, value => return value
  | n + 1, value => do
    match hexDigit? (← peek) with
    | some d => do
      dropSpaced
      hexDigits n (value * 16 + d)
    | none => failure

/-- Hexadecimal digits up to a closing brace. -/
def hexUpToBrace : Nat → Bool → Nat → PatternReader Nat
  | 0, _, _ => failure
  | n + 1, some?, value => do
    let c ← peek
    if c = '\x7d' then
      if some? then do dropSpaced; return value else failure
    else match hexDigit? c with
      | some d => do
        dropSpaced
        hexUpToBrace n true (value * 16 + d)
      | none => failure

/-- The character behind `\x`, `\u` or `\U`, whose own number of digits is `width`. -/
def hexChar (width : Nat) : PatternReader PatternChar := do
  dropSpaced
  if (← peek) = '\x7b' then
    dropSpaced
    let n ← hexUpToBrace ((← get).ahead.length + 1) false 0
    return ⟨← ofCodePoint n, false⟩
  else return ⟨← ofCodePoint (← hexDigits width 0), width == 2⟩

/-! ## Escapes -/

/-- What an escape may be. -/
inductive Escape where
  | char (c : PatternChar)
  | assertion (a : Assertion)
  | property (named : PropertyClass)
  | letter (named : LetterClass) (negated : Bool)

/-- The letters up to a closing brace, which is passed over. -/
def nameUpToBrace : Nat → PatternReader (List Char)
  | 0 => failure
  | n + 1 => do
    let c ← peek
    if c = '\x7d' then do drop; return []
    else do
      dropSpaced
      return c :: (← nameUpToBrace n)

/-- Splits at the first place where `mark` stands. -/
def splitAt? (mark : List Char) : List Char → Option (List Char × List Char)
  | [] => none
  | c :: cs =>
    if mark.isPrefixOf (c :: cs) then some ([], (c :: cs).drop mark.length)
    else (splitAt? mark cs).map fun parts => (c :: parts.1, parts.2)

/-- The signs that may stand between a property and its value, the first of which is looked for
first; each with whether the class is that of all other values. -/
def valueSigns : List (List Char × Bool) :=
  [(['!', '='], true), ([':'], false), (['='], false)]

/-- The class that the text between braces names. -/
def propertyOf (negated : Bool) (name : List Char) : PropertyClass :=
  let split := valueSigns.findSome? fun sign =>
    (splitAt? sign.1 name).map fun parts => (parts.1, parts.2, sign.2)
  match split with
  | some (property, value, others) =>
    ⟨xor negated others, String.ofList property, some (String.ofList value)⟩
  | none => ⟨negated, String.ofList name, none⟩

/-- The class behind `\p` or `\P`. -/
def propertyClass (negated : Bool) : PatternReader PropertyClass := do
  dropSpaced
  let c ← peek
  if c = '\x7b' then
    dropSpaced
    return propertyOf negated (← nameUpToBrace ((← get).ahead.length + 1))
  else if c = '\\' then failure
  else do
    dropSpaced
    return ⟨negated, String.ofList [c], none⟩

/-- Whether the character may stand in the name of an assertion on words. -/
def isAssertionChar (c : Char) : Bool := c.isAlpha || c = '-'

/-- The letters of the name of an assertion. -/
def assertionName : Nat → PatternReader (List Char)
  | 0 => return []
  | n + 1 => do
    match ← peek? with
    | some c =>
      if isAssertionChar c then do
        dropSpaced
        return c :: (← assertionName n)
      else return []
    | none => return []

/-- The assertion behind `\b`: a name between braces may follow. Braces that do not begin with a
letter are left for a repetition. -/
def wordAssertion : PatternReader Assertion := do
  if (← peek?) ≠ some '\x7b' then return .wordBoundary
  let before ← get
  dropSpaced
  if !isAssertionChar (← peek) then
    set before
    return .wordBoundary
  let name ← assertionName (← get).ahead.length
  if (← peek) ≠ '\x7d' then failure
  drop
  match String.ofList name with
  | "start" => return .wordStart
  | "end" => return .wordEnd
  | "start-half" => return .wordStartHalf
  | "end-half" => return .wordEndHalf
  | _ => failure

/-- Whether the character may be escaped to stand for itself: any of ASCII but letters, digits and
angle brackets. -/
def isEscapable (c : Char) : Bool :=
  c.toNat < 0x80 && !c.isAlphanum && c ≠ '<' && c ≠ '>'

/-- What follows a backslash. -/
def escape : PatternReader Escape := do
  let c ← peek
  match c with
  | 'x' => return .char (← hexChar 2)
  | 'u' => return .char (← hexChar 4)
  | 'U' => return .char (← hexChar 8)
  | 'p' => return .property (← propertyClass false)
  | 'P' => return .property (← propertyClass true)
  | _ =>
    drop
    match c with
    | 'd' => return .letter .digit false
    | 'D' => return .letter .digit true
    | 's' => return .letter .space false
    | 'S' => return .letter .space true
    | 'w' => return .letter .word false
    | 'W' => return .letter .word true
    | 'a' => return .char ⟨'\x07', false⟩
    | 'f' => return .char ⟨'\x0c', false⟩
    | 't' => return .char ⟨'\t', false⟩
    | 'n' => return .char ⟨'\n', false⟩
    | 'r' => return .char ⟨'\r', false⟩
    | 'v' => return .char ⟨'\x0b', false⟩
    | 'A' => return .assertion .startOfText
    | 'z' => return .assertion .endOfText
    | 'b' => return .assertion (← wordAssertion)
    | 'B' => return .assertion .noWordBoundary
    | '<' => return .assertion .wordStart
    | '>' => return .assertion .wordEnd
    | _ => if isEscapable c then return .char ⟨c, false⟩ else failure

/-! ## Brackets -/

/-- The name of a class between `[:` and `:]` at the head of a text, whether it is negated, and the
rest. -/
def posixName? (cs : List Char) : Option (String × Bool × List Char) :=
  match cs with
  | '[' :: ':' :: rest =>
    let negated := rest.head? == some '^'
    let rest := if negated then rest.tail else rest
    let name := String.ofList (rest.takeWhile (· != ':'))
    match rest.dropWhile (· != ':') with
    | ':' :: ']' :: rest =>
      if (CharSet.posix? name).isSome then some (name, negated, rest) else none
    | _ => none
  | _ => none

/-- A character or a class between brackets. -/
def setItem : PatternReader Escape := do
  let c ← peek
  drop
  if c = '\\' then escape else return .char ⟨c, false⟩

/-- What an item stands for alone. -/
def itemSet : Escape → PatternReader ClassSet
  | .char c => return .char c
  | .property named => return .property named
  | .letter named negated => return .letter named negated
  | .assertion _ => failure

/-- An end of a range. -/
def itemChar : Escape → PatternReader PatternChar
  | .char c => return c
  | _ => failure

/-- A range, or an item alone. A dash in front of the closing bracket or of another dash makes no
range. -/
def setRange : PatternReader ClassSet := do
  let low ← setItem
  skipSpace
  let c ← peek
  let next ← peekSpaced?
  if c ≠ '-' || next == some ']' || next == some '-' then itemSet low
  else do
    dropSpaced
    let _ ← peek
    let high ← setItem
    let low ← itemChar low
    let high ← itemChar high
    if low.char ≤ high.char then return .range low high else failure

/-- The dashes that stand at the head of a set, which are characters of it. -/
def leadingDashes : Nat → PatternReader (List ClassSet)
  | 0 => return []
  | n + 1 => do
    if (← peek) = '-' then do
      dropSpaced
      return .char ⟨'-', false⟩ :: (← leadingDashes n)
    else return []

/-- The head of a set, behind its opening bracket: whether it is negated, and the characters that
stand for themselves only there. -/
def setHead : PatternReader (Bool × List ClassSet) := do
  dropSpaced
  let negated := (← peek) = '^'
  if negated then dropSpaced
  let _ ← peek
  let dashes ← leadingDashes (← get).ahead.length
  if dashes.isEmpty && (← peek) = ']' then do
    dropSpaced
    let _ ← peek
    return (negated, [.char ⟨']', false⟩])
  else return (negated, dashes)

/-- Joins what is left of an operator with the items to the right of it. -/
def joinSet (left : Option (ClassSet × SetOperator)) (items : List ClassSet) : ClassSet :=
  match left with
  | none => .ofItems items.reverse
  | some (set, operator) => .joined operator set (.ofItems items.reverse)

/-- The set at an opening bracket. `setRest` goes on behind the head: `left` is what stands in front
of the last operator, and `items`, in reverse, what has been read behind it. -/
def setAt : Nat → PatternReader (Bool × ClassSet)
  | 0 => failure
  | n + 1 => do
    let (negated, items) ← setHead
    return (negated, ← setRest n none items.reverse)
where
  /-- The rest of a set up to its closing bracket. -/
  setRest : Nat → Option (ClassSet × SetOperator) → List ClassSet → PatternReader ClassSet
    | 0, _, _ => failure
    | n + 1, left, items => do
      skipSpace
      match (← get).ahead with
      | [] => failure
      | ']' :: _ => do
        drop
        return joinSet left items
      | '&' :: '&' :: _ => do
        drop
        drop
        setRest n (some (joinSet left items, .inter)) []
      | '-' :: '-' :: _ => do
        drop
        drop
        setRest n (some (joinSet left items, .minus)) []
      | '~' :: '~' :: _ => do
        drop
        drop
        setRest n (some (joinSet left items, .symmetric)) []
      | '[' :: rest =>
        match posixName? ('[' :: rest) with
        | some (name, negated, rest) => do
          modify fun s => { s with ahead := rest }
          setRest n left (.posix name negated :: items)
        | none => do
          let (negated, inner) ← setHead
          let set ← setRest n none inner.reverse
          setRest n left (.bracketed negated set :: items)
      | _ => do
        let item ← setRange
        setRest n left (item :: items)

/-! ## Groups -/

/-- The flag of a letter. -/
def flagOf? (c : Char) : Option RegexFlag :=
  match c with
  | 'i' => some .caseInsensitive
  | 'm' => some .multiLine
  | 's' => some .dotMatchesLineFeed
  | 'U' => some .swapGreed
  | 'u' => some .unicode
  | 'R' => some .carriageReturn
  | 'x' => some .verbose
  | _ => none

/-- The settings of flags up to a colon or a closing parenthesis. A flag is set once at most, and
there is at most one minus, which turns off what follows it. -/
def flagsUpTo : Nat → Bool → Bool → List FlagSetting → PatternReader (List FlagSetting)
  | 0, _, _, _ => failure
  | n + 1, on, dangling, settings => do
    let c ← peek
    if c = ':' ∨ c = ')' then
      if dangling then failure else return settings.reverse
    else if c = '-' then
      if on then do
        drop
        flagsUpTo n false true settings
      else failure
    else match flagOf? c with
      | none => failure
      | some flag =>
        if settings.any (·.flag == flag) then failure
        else do
          drop
          flagsUpTo n on false (⟨flag, on⟩ :: settings)

/-- The last setting of verbose mode. -/
def verboseSetting? (settings : List FlagSetting) : Option Bool :=
  (settings.find? (·.flag == .verbose)).map (·.on)

/-- Whether a character may stand in the name of a group; fewer may begin it. -/
def isGroupNameChar (first : Bool) (c : Char) : Bool :=
  if first then c = '_' || Property.alphabetic.holds c
  else c = '_' || c = '.' || c = '[' || c = ']' || Property.alphabetic.holds c
    || [GeneralCategory.decimalNumber, .letterNumber, .otherNumber].contains (.of c)

/-- The name of a group up to a closing angle bracket. -/
def groupName : PatternReader Unit := do
  let s ← get
  let name := s.ahead.takeWhile (· != '>')
  match s.ahead.drop name.length with
  | [] => failure
  | _ :: rest =>
    match name with
    | [] => failure
    | first :: others =>
      let text := String.ofList name
      if isGroupNameChar true first && others.all (isGroupNameChar false)
          && !s.names.contains text then
        set { s with ahead := rest, names := text :: s.names }
      else failure

/-- What stands behind an opening parenthesis: settings of flags alone, or the head of a group. -/
inductive GroupHead where
  | settings (settings : List FlagSetting)
  | group (captures : Bool) (settings : List FlagSetting)

/-- Reads what stands behind an opening parenthesis. Looking ahead and behind is not supported. -/
def groupHead : PatternReader GroupHead := do
  drop
  skipSpace
  let ahead := (← get).ahead
  if [['?', '='], ['?', '!'], ['?', '<', '='], ['?', '<', '!']].any (·.isPrefixOf ahead) then
    failure
  if ← dropWord ['?', 'P', '<'] then
    groupName
    return .group true []
  else if ← dropWord ['?', '<'] then
    groupName
    return .group true []
  else if ← dropWord ['?'] then
    let settings ← flagsUpTo ((← get).ahead.length + 1) true false []
    let c ← peek
    drop
    if c = ')' then
      if settings.isEmpty then failure else return .settings settings
    else return .group false settings
  else return .group true []

/-! ## Patterns -/

/-- Whether the part may be repeated. -/
def isRepeatable : Pattern → Bool
  | .empty | .flags _ => false
  | _ => true

/-- Repeats the last of the parts read, which are given in reverse. -/
def repeatLast (least : Nat) (most : Option Nat) : List Pattern → PatternReader (List Pattern)
  | [] => failure
  | last :: parts =>
    if isRepeatable last then return .repetition last least most :: parts else failure

/-- Passes over the question mark that makes a repetition reluctant. -/
def dropReluctant : PatternReader Unit := do
  if (← peek?) == some '?' then drop

/-- The counts of a repetition between braces. -/
def counts : PatternReader (Nat × Option Nat) := do
  dropSpaced
  let _ ← peek
  let least ← count
  let c ← peek
  let most ←
    if c = ',' then do
      dropSpaced
      if (← peek) = '\x7d' then pure none
      else pure (some (← count))
    else pure (some least)
  if (← peek) ≠ '\x7d' then failure
  dropSpaced
  dropReluctant
  match most with
  | some m => if least ≤ m then return (least, most) else failure
  | none => return (least, none)

/-- A part that is neither group nor brackets nor repetition. -/
def primitive : PatternReader Pattern := do
  let c ← peek
  drop
  match c with
  | '\\' =>
    match ← escape with
    | .char c => return .char c
    | .assertion a => return .assertion a
    | .property named => return .property named
    | .letter named negated => return .letter named negated
  | '.' => return .dot
  | '^' => return .assertion .startOfLine
  | '$' => return .assertion .endOfLine
  | c => return .char ⟨c, false⟩

/-- A pattern up to a closing parenthesis or the end of the text. The branches and the parts of the
last branch that have been read are given in reverse. -/
def patternUpTo : Nat → List Pattern → List Pattern → PatternReader Pattern
  | 0, _, _ => failure
  | n + 1, branches, parts => do
    skipSpace
    match ← peek? with
    | none | some ')' =>
      return .ofBranches ((Pattern.ofParts parts.reverse :: branches).reverse)
    | some '|' => do
      drop
      patternUpTo n (.ofParts parts.reverse :: branches) []
    | some '(' => do
      match ← groupHead with
      | .settings settings => do
        match verboseSetting? settings with
        | some on => modify fun s => { s with verbose := on }
        | none => pure ()
        patternUpTo n branches (.flags settings :: parts)
      | .group captures settings => do
        let outer := (← get).verbose
        modify fun s => { s with verbose := (verboseSetting? settings).getD outer }
        let inner ← patternUpTo n [] []
        if (← peek) ≠ ')' then failure
        drop
        modify fun s => { s with verbose := outer }
        patternUpTo n branches (.group captures settings inner :: parts)
    | some '[' => do
      let (negated, set) ← setAt ((← get).ahead.length + 1)
      patternUpTo n branches (.bracketed negated set :: parts)
    | some '?' => do
      drop
      dropReluctant
      patternUpTo n branches (← repeatLast 0 (some 1) parts)
    | some '*' => do
      drop
      dropReluctant
      patternUpTo n branches (← repeatLast 0 none parts)
    | some '+' => do
      drop
      dropReluctant
      patternUpTo n branches (← repeatLast 1 none parts)
    | some '\x7b' => do
      let (least, most) ← counts
      patternUpTo n branches (← repeatLast least most parts)
    | some _ => do
      let part ← primitive
      patternUpTo n branches (part :: parts)

end PatternReader

/-- How deep the parts of a pattern may stand inside one another. -/
def Pattern.greatestDepth : Nat := 250

/-- The pattern that a text is. -/
def Pattern.read? (text : String) : Option Pattern := do
  let cs := text.toList
  let (pattern, s) ← (PatternReader.patternUpTo (cs.length + 1) [] []).run ⟨cs, false, []⟩
  if s.ahead.isEmpty && pattern.depth ≤ greatestDepth then return pattern else none

end JsonPath
