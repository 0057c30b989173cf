import JsonPath.Log
import JsonPath.Noted
import JsonPath.Query.Parser
import JsonPath.Text.Quoted

/-!
# What reading a query tells the log

Once a text has been cut into lexemes, the log says how many there are, the end of the text
included.
-/

namespace JsonPath

/-- The line that tells how many lexemes a text has. -/
def Lexemes.logLine (source : String) (lexemes : Lexemes) : LogLine :=
  ⟨.trace, "tokenized " ++ decimalText (lexemes.lexemes.length + 1) ++ " tokens from "
    ++ quoted source⟩

/-- The lexemes of a text, with what the log is told. -/
def Lexemes.readLogged (source : String) : Noted LogLine (Except SyntaxError Lexemes) :=
  match Lexemes.read source with
  | .error e => return .error e
  | .ok lexemes => do
    Noted.note (lexemes.logLine source)
    return .ok lexemes

/-- The tree of a query text, with what the log is told. -/
def parseLogged (limit : Nat) (source : String) :
    Noted LogLine (Except SyntaxError (Query Expression)) := do
  match ← Lexemes.readLogged source with
  | .error e => return .error e
  | .ok lexemes => return lexemes.parse limit

end JsonPath
