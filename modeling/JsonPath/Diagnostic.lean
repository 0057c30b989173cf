import JsonPath.ExpressionType
import JsonPath.Query.SyntaxError

/-!
# Diagnostics

A `Diagnostic` is one finding about a query text. `Diagnostic.message` holds the wording.
-/

namespace JsonPath

/-- An argument of a call as the check of the argument list sees it. -/
structure CoercedArgument where
  /-- The type it has once converted to the declared one, if it can be. -/
  type : Option ExpressionType
  /-- The text of the argument. -/
  text : String
deriving DecidableEq, Repr

/-- A finding about a query text. -/
inductive Diagnostic where
  /-- A call names no function that is known. -/
  | unknownFunction (name : String)
  /-- A call that gives a value stands as a test. -/
  | functionIsNoTest (name : String)
  /-- A call that gives the outcome of a test is compared. -/
  | functionIsNotComparable (name : String)
  /-- The arguments of a call do not fit those declared. -/
  | badArguments (name : String) (expected : List ExpressionType) (actual : List CoercedArgument)
  /-- Something else that is no test stands as one, or is compared without a value. -/
  | invalidTest (text : String)
  /-- The text is no query. -/
  | malformed (line column : Nat) (message : String) (offending : Option String)
deriving DecidableEq, Repr

namespace Diagnostic

/-- The finding that a syntax error is. -/
def ofSyntaxError (e : SyntaxError) : Diagnostic :=
  .malformed e.place.line e.place.column e.message e.offending

/-- Whether the finding is about the form of the text and not about its meaning. -/
def isSyntaxError : Diagnostic → Bool
  | .malformed .. => true
  | _ => false

/-- The types of arguments in a message. -/
def actualTypes (actual : List CoercedArgument) : String :=
  ", ".intercalate (actual.map fun a => (a.type.map ExpressionType.text).getD "none")

/-- The texts of arguments in a message. -/
def actualTexts (actual : List CoercedArgument) : String :=
  ", ".intercalate (actual.map (·.text))

/-- The wording of a finding. -/
def message : Diagnostic → String
  | .unknownFunction name => "Unknown JSONPath function extension: \"" ++ name ++ "\""
  | .functionIsNoTest name =>
    "Invalid JSONPath function extension return type for test expression: \"" ++ name ++ "\""
  | .functionIsNotComparable name =>
    "Invalid JSONPath function extension return type for comparable expression: \""
      ++ name ++ "\""
  | .badArguments name expected actual =>
    "Invalid arguments for function extension \"" ++ name ++ "\": Expected: <"
      ++ ExpressionType.listText expected ++ ">, but received <" ++ actualTypes actual
      ++ ">: <" ++ actualTexts actual ++ ">"
  | .invalidTest text => "Invalid test expression: " ++ text
  | .malformed line column message _ =>
    "Syntax error " ++ toString line ++ ":" ++ toString column ++ " " ++ message

end Diagnostic

/-- The wording of a syntax error with its place. -/
def SyntaxError.report (e : SyntaxError) : String :=
  (Diagnostic.ofSyntaxError e).message

end JsonPath
