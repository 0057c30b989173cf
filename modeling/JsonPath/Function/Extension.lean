import JsonPath.Function.FilterValue

/-!
# Functions that queries may call

A `FunctionExtension` declares the types of its arguments and of its result. Calls are checked
against the declaration before a query is run; what the function then answers is checked when it is
called.
-/

namespace JsonPath

/-- A function with its declaration. -/
structure FunctionExtension where
  argumentTypes : List ExpressionType
  returnType : ExpressionType
  documentation : String := ""
  /-- The answer for a list of arguments. -/
  evaluate : List FilterValue → FilterValue

namespace FunctionExtension

/-- The declaration in one line. -/
def describe (f : FunctionExtension) : String :=
  "FunctionExtension \x7b argument_types: ["
    ++ ", ".intercalate (f.argumentTypes.map ExpressionType.tag)
    ++ "], return_type: " ++ f.returnType.tag ++ " \x7d"

end FunctionExtension

end JsonPath
