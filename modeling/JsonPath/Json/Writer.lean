import JsonPath.Json.Value
import JsonPath.Text.Escape

/-!
# JSON text of a value

* `Value.compact` writes a value without blank space.
* `Value.pretty` writes every element and member on a line of its own, two blanks deeper than what
  holds it; empty containers stay on their line.
* `asciiText` writes the characters outside ASCII as escapes of UTF-16 units.
-/

namespace JsonPath

/-- How a character is written inside a JSON string. -/
def jsonEscaped (c : Char) : List Char :=
  if c = '"' then ['\\', '"']
  else if c = '\\' then ['\\', '\\']
  else if c = '\x08' then ['\\', 'b']
  else if c = '\x0c' then ['\\', 'f']
  else if c = '\n' then ['\\', 'n']
  else if c = '\r' then ['\\', 'r']
  else if c = '\t' then ['\\', 't']
  else if c.toNat < 0x20 then '\\' :: 'u' :: hexText 4 c.toNat
  else [c]

/-- A JSON string, quotes included. -/
def jsonQuoted (s : String) : String :=
  String.ofList ('"' :: (s.toList.flatMap jsonEscaped ++ ['"']))

/-- How a character is written where only ASCII may stand. -/
def asciiEscaped (c : Char) : List Char :=
  let n := c.toNat
  if n < 0x80 then [c]
  else if n < 0x10000 then '\\' :: 'u' :: hexText 4 n
  else
    let high := 0xD800 + (n - 0x10000) / 0x400
    let low := 0xDC00 + (n - 0x10000) % 0x400
    '\\' :: 'u' :: hexText 4 high ++ '\\' :: 'u' :: hexText 4 low

/-- JSON text with every character outside ASCII escaped. -/
def asciiText (text : String) : String :=
  String.ofList (text.toList.flatMap asciiEscaped)

namespace Value

mutual

/-- The value without blank space. -/
def compact : Value → String
  | .null => "null"
  | .bool true => "true"
  | .bool false => "false"
  | .number n => n.text
  | .string s => jsonQuoted s
  | .array elements => "[" ++ ",".intercalate (compactAll elements) ++ "]"
  | .object members => "\x7b" ++ ",".intercalate (compactMembers members) ++ "\x7d"
termination_by structural v => v

/-- Each value without blank space. -/
def compactAll : List Value → List String
  | [] => []
  | v :: vs => v.compact :: compactAll vs
termination_by structural vs => vs

/-- Each member without blank space. -/
def compactMembers : List (String × Value) → List String
  | [] => []
  | m :: ms => compactMember m :: compactMembers ms
termination_by structural ms => ms

/-- A member without blank space. -/
def compactMember : String × Value → String
  | (name, v) => jsonQuoted name ++ ":" ++ v.compact
termination_by structural m => m

end

/-- The blank space in front of a line at the given depth. -/
def indentation (depth : Nat) : String :=
  String.ofList ('\n' :: List.replicate (2 * depth) ' ')

/-- Lays out the items of a container at the given depth between its two brackets. -/
def block (opening closing : String) (depth : Nat) (items : List String) : String :=
  match items with
  | [] => opening ++ closing
  | _ =>
    opening ++ indentation (depth + 1)
      ++ ("," ++ indentation (depth + 1)).intercalate items
      ++ indentation depth ++ closing

mutual

/-- The value on several lines, standing at the given depth. -/
def prettyAt : Value → Nat → String
  | .array elements, depth => block "[" "]" depth (prettyAll elements (depth + 1))
  | .object members, depth => block "\x7b" "\x7d" depth (prettyMembers members (depth + 1))
  | .null, _ => compact .null
  | .bool b, _ => compact (.bool b)
  | .number n, _ => compact (.number n)
  | .string s, _ => compact (.string s)
termination_by structural v => v

/-- Each value on several lines. -/
def prettyAll : List Value → Nat → List String
  | [], _ => []
  | v :: vs, depth => v.prettyAt depth :: prettyAll vs depth
termination_by structural vs => vs

/-- Each member on several lines. -/
def prettyMembers : List (String × Value) → Nat → List String
  | [], _ => []
  | m :: ms, depth => prettyMember m depth :: prettyMembers ms depth
termination_by structural ms => ms

/-- A member on several lines. -/
def prettyMember : String × Value → Nat → String
  | (name, v), depth => jsonQuoted name ++ ": " ++ v.prettyAt depth
termination_by structural m => m

end

/-- The value on several lines. -/
def pretty (v : Value) : String := v.prettyAt 0

end Value

end JsonPath
