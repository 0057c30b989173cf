import JsonPath.CommandLine

/-!
# The program

Reads what the request needs, prints what comes of it and ends with its code.
-/

namespace JsonPath

/-- The text of a file, if there is one. -/
def readText (name : String) : IO (Option String) := do
  try
    return String.fromUTF8? (← IO.FS.readBinFile name)
  catch _ => return none

/-- All of the input as a text, if it is one. -/
def readInput : IO (Option String) := do
  return String.fromUTF8? (← (← IO.getStdin).readBinToEnd)

/-- Runs the request that the arguments make. -/
def runProgram (arguments : List String) : IO UInt32 := do
  let request := Request.ofArguments arguments
  let texts ← request.files.mapM fun name => return (name, ← readText name)
  let input ← if request.readsInput then readInput else pure none
  let outcome := request.run ⟨fun name => (texts.lookup name).join, input⟩
  (← IO.getStdout).putStr outcome.stdout
  (← IO.getStderr).putStr outcome.stderr
  return outcome.code.toUInt32

end JsonPath

/-- The program. -/
def main (arguments : List String) : IO UInt32 :=
  JsonPath.runProgram arguments
