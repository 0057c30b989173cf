import JsonPath.Regex.Basic
import JsonPath.Regex.Pattern

/-!
# What a pattern means

`Pattern.regex?` settles a pattern under the flags in force. Flags set within a group hold up to its
end, and then those in front of it hold again.

Without the Unicode flag a pattern speaks of bytes. It has a meaning only as far as it can tell no
character outside ASCII apart into bytes: sets must stay within ASCII.
-/

namespace JsonPath

/-- The flags that decide what the parts of a pattern mean. -/
structure PatternFlags where
  caseInsensitive : Bool := false
  multiLine : Bool := false
  dotMatchesLineFeed : Bool := false
  unicode : Bool := true
  carriageReturn : Bool := false
deriving DecidableEq, Repr

namespace PatternFlags

/-- The flags after one setting. Greed and verbose mode do not change what a pattern matches. -/
def set (flags : PatternFlags) (setting : FlagSetting) : PatternFlags :=
  match setting.flag with
  | .caseInsensitive => { flags with caseInsensitive := setting.on }
  | .multiLine => { flags with multiLine := setting.on }
  | .dotMatchesLineFeed => { flags with dotMatchesLineFeed := setting.on }
  | .unicode => { flags with unicode := setting.on }
  | .carriageReturn => { flags with carriageReturn := setting.on }
  | .swapGreed | .verbose => flags

/-- The flags after all settings. -/
def setAll (flags : PatternFlags) (settings : List FlagSetting) : PatternFlags :=
  settings.foldl set flags

/-- Adds what differs only in case, if case does not matter. -/
def closeCase (flags : PatternFlags) (s : CharSet) : CharSet :=
  if flags.caseInsensitive then
    if flags.unicode then s.closeCase else s.closeAsciiCase
  else s

/-- A set as it was named, or what it leaves out; only the Unicode flag allows the latter. -/
def negateIf? (flags : PatternFlags) (negated : Bool) (s : CharSet) : Option CharSet :=
  if negated then
    if flags.unicode then some s.complement else none
  else some s

/-- The set of the characters that words are made of. -/
def words (flags : PatternFlags) : CharSet :=
  if flags.unicode then CharSet.words else CharSet.asciiWords

/-- The set that a letter behind a backslash names. -/
def letterSet (flags : PatternFlags) : LetterClass → CharSet
  | .digit => if flags.unicode then CharSet.digits else CharSet.asciiDigits
  | .space => if flags.unicode then CharSet.spaces else CharSet.asciiSpaces
  | .word => flags.words

/-- The condition that an assertion is. -/
def look (flags : PatternFlags) : Assertion → Look
  | .startOfLine => if flags.multiLine then .lineStart flags.carriageReturn else .textStart
  | .endOfLine => if flags.multiLine then .lineEnd flags.carriageReturn else .textEnd
  | .startOfText => .textStart
  | .endOfText => .textEnd
  | .wordBoundary => .wordBoundary flags.words
  | .noWordBoundary => .noWordBoundary flags.words
  | .wordStart => .wordStart flags.words
  | .wordEnd => .wordEnd flags.words
  | .wordStartHalf => .wordStartHalf flags.words
  | .wordEndHalf => .wordEndHalf flags.words

/-- The characters that a dot stands for. Without the Unicode flag it would stand for a byte. -/
def dotSet? (flags : PatternFlags) : Option CharSet :=
  if !flags.unicode then none
  else if flags.dotMatchesLineFeed then some .full
  else if flags.carriageReturn then
    some (CharSet.union (.single '\n') (.single '\r')).complement
  else some (CharSet.single '\n').complement

end PatternFlags

/-- Whether the character stands for itself and not for a byte that is no character. -/
def PatternChar.isCharacter (flags : PatternFlags) (c : PatternChar) : Bool :=
  flags.unicode || !c.byteEscape || c.char.toNat < 0x80

/-- The set of a character outside brackets. -/
def PatternChar.set? (flags : PatternFlags) (c : PatternChar) : Option CharSet :=
  if c.isCharacter flags then some (flags.closeCase (.single c.char)) else none

/-- A character between brackets. Without the Unicode flag it must be one of ASCII. -/
def PatternChar.member? (flags : PatternFlags) (c : PatternChar) : Option Nat :=
  if flags.unicode || c.char.toNat < 0x80 then some c.char.toNat else none

/-- The set that a property names; bytes have no properties. -/
def PropertyClass.set? (flags : PatternFlags) (p : PropertyClass) : Option CharSet :=
  if flags.unicode then
    (match p.value with
      | none => CharSet.named? p.name
      | some value => CharSet.valued? p.name value).map fun s =>
        let closed := flags.closeCase s
        if p.negated then closed.complement else closed
  else none

/-- Joins two sets. -/
def SetOperator.apply : SetOperator → CharSet → CharSet → CharSet
  | .inter => CharSet.inter
  | .minus => CharSet.minus
  | .symmetric => CharSet.symmetric

namespace ClassSet

mutual

/-- The characters of a set between brackets. -/
def set? (flags : PatternFlags) : ClassSet → Option CharSet
  | .char c => (c.member? flags).map fun n => .range n n
  | .range low high =>
    match low.member? flags, high.member? flags with
    | some m, some n => some (.range m n)
    | _, _ => none
  | .posix name negated =>
    (CharSet.posix? name).bind fun s => flags.negateIf? negated (flags.closeCase s)
  | .property named => named.set? flags
  | .letter named negated => flags.negateIf? negated (flags.letterSet named)
  | .bracketed negated set =>
    (set.set? flags).bind fun s => flags.negateIf? negated (flags.closeCase s)
  | .union items => (setsOf? flags items).map CharSet.unions
  | .joined operator left right =>
    match left.set? flags, right.set? flags with
    | some s, some t => some (operator.apply (flags.closeCase s) (flags.closeCase t))
    | _, _ => none
termination_by structural s => s

/-- The characters of each of the sets. -/
def setsOf? (flags : PatternFlags) : List ClassSet → Option (List CharSet)
  | [] => some []
  | s :: ss =>
    match s.set? flags, setsOf? flags ss with
    | some t, some ts => some (t :: ts)
    | _, _ => none
termination_by structural ss => ss

end

end ClassSet

namespace Pattern

mutual

/-- What a pattern means under the flags in front of it, and the flags behind it. -/
def meaning? (flags : PatternFlags) : Pattern → Option (Regex × PatternFlags)
  | .empty => some (.empty, flags)
  | .flags settings => some (.empty, flags.setAll settings)
  | .char c => (c.set? flags).map fun s => (.set s, flags)
  | .dot => flags.dotSet?.map fun s => (.set s, flags)
  | .assertion a => some (.look (flags.look a), flags)
  | .property named => (named.set? flags).map fun s => (.set s, flags)
  | .letter named negated =>
    (flags.negateIf? negated (flags.letterSet named)).map fun s => (.set s, flags)
  | .bracketed negated set =>
    ((ClassSet.bracketed negated set).set? flags).map fun s => (.set s, flags)
  | .repetition inner least most =>
    (inner.meaning? flags).map fun m => (.repetition m.1 least most, m.2)
  | .group captures settings inner =>
    (inner.meaning? (flags.setAll settings)).map fun m =>
      (if captures then .capture m.1 else m.1, flags)
  | .alternation branches => (meanings? flags branches).map fun m => (Regex.oneOf m.1, m.2)
  | .concat parts => (meanings? flags parts).map fun m => (Regex.concat m.1, m.2)
termination_by structural p => p

/-- What each pattern means under the flags behind the one before it. -/
def meanings? (flags : PatternFlags) : List Pattern → Option (List Regex × PatternFlags)
  | [] => some ([], flags)
  | p :: ps =>
    match p.meaning? flags with
    | none => none
    | some (r, flags) => (meanings? flags ps).map fun m => (r :: m.1, m.2)
termination_by structural ps => ps

end

/-- The regular expression that a pattern stands for. -/
def regex? (p : Pattern) : Option Regex :=
  (p.meaning? {}).map (·.1)

end Pattern

end JsonPath
