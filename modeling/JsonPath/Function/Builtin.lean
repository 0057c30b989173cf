import JsonPath.Function.Extension
import JsonPath.Regex.Interoperable

/-!
# Functions that are always there

The five functions that every query may call unless they are replaced or removed. Each answers
with the empty value of its type where its arguments are not what it works on.
-/

namespace JsonPath

namespace Builtin

/-- The length of a value that has one. -/
def lengthOf? : Value → Option Nat
  | .string s => some s.length
  | .array elements => some elements.length
  | .object members => some members.length
  | _ => none

/-- Counts characters, elements or members. -/
def length : FunctionExtension where
  argumentTypes := [.value]
  returnType := .value
  documentation := "Returns the number of Unicode scalar values of a string, the number of elements "
    ++ "of an array or the number of members of an object. Any other argument yields Nothing."
  evaluate arguments :=
    .value (((arguments.head?.bind FilterValue.value?).bind lengthOf?).map Value.ofNat)

/-- Counts nodes. -/
def count : FunctionExtension where
  argumentTypes := [.nodes]
  returnType := .value
  documentation := "Returns the number of nodes in the node list argument."
  evaluate arguments :=
    .value ((arguments.head?.bind FilterValue.nodes?).map fun nodes => .ofNat nodes.length)

/-- Matches the first of two strings against the pattern that the second one is. -/
def regexTest (mode : MatchMode) (arguments : List FilterValue) : Bool :=
  match arguments.head?.bind FilterValue.string?, arguments[1]?.bind FilterValue.string? with
  | some text, some pattern =>
    match compileRegex mode pattern with
    | some regex => regex.isMatch text
    | none => false
  | _, _ => false

/-- Asks whether all of a string matches a pattern. -/
def matchAll : FunctionExtension where
  argumentTypes := [.value, .value]
  returnType := .logical
  documentation := "Tests whether the first argument, a string, matches the I-Regexp given as the "
    ++ "second argument in its entirety."
  evaluate arguments := .logical (regexTest .full arguments)

/-- Asks whether some part of a string matches a pattern. -/
def search : FunctionExtension where
  argumentTypes := [.value, .value]
  returnType := .logical
  documentation := "Tests whether the first argument, a string, contains a substring matching the "
    ++ "I-Regexp given as the second argument."
  evaluate arguments := .logical (regexTest .search arguments)

/-- The only one of some nodes, if there is exactly one. -/
def onlyOne? : List Value → Option Value
  | [v] => some v
  | _ => none

/-- Makes a value of a single node. -/
def value : FunctionExtension where
  argumentTypes := [.nodes]
  returnType := .value
  documentation := "Returns the value of the only node in the argument. Empty and multi-node lists "
    ++ "yield Nothing."
  evaluate arguments := .value ((arguments.head?.bind FilterValue.nodes?).bind onlyOne?)

/-- The functions with the names they are called by. -/
def all : List (String × FunctionExtension) :=
  [("length", length), ("count", count), ("match", matchAll), ("search", search),
    ("value", value)]

end Builtin

end JsonPath
