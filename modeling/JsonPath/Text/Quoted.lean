import JsonPath.Unicode.Category
import JsonPath.Unicode.Property

/-!
# Texts quoted for a reader

`quoted` shows a text on one line between double quotes, so that every character in it can be told:
what would not show, or would merge with its neighbour, is written by its number.
-/

namespace JsonPath

/-- Whether a character shows by itself. -/
def isPrinted (c : Char) : Bool :=
  match GeneralCategory.of c with
  | .spaceSeparator => c = ' '
  | .lineSeparator | .paragraphSeparator => false
  | .control | .format | .surrogate | .privateUse | .unassigned => false
  | _ => true

/-- How a character is written between the quotes. -/
def quotedChar (c : Char) : List Char :=
  if c = '\x00' then ['\\', '0']
  else if c = '\t' then ['\\', 't']
  else if c = '\n' then ['\\', 'n']
  else if c = '\r' then ['\\', 'r']
  else if c = '"' then ['\\', '"']
  else if c = '\\' then ['\\', '\\']
  else if isPrinted c && !Property.graphemeExtend.holds c then [c]
  else '\\' :: 'u' :: '\x7b' :: (Nat.toDigits 16 c.toNat ++ ['\x7d'])

/-- A text between double quotes. -/
def quoted (s : String) : String :=
  String.ofList ('"' :: (s.toList.flatMap quotedChar ++ ['"']))

end JsonPath
