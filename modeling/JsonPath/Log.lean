/-!
# Log lines

What the library tells beside its results. A reader of the log chooses how severe a line must be to
be shown.
-/

namespace JsonPath

/-- How severe a log line is. -/
inductive LogLevel where
  | error
  | warn
  | debug
  | trace
deriving DecidableEq, Repr

namespace LogLevel

/-- The place of a level from the most severe on. -/
def rank : LogLevel → Nat
  | .error => 0
  | .warn => 1
  | .debug => 2
  | .trace => 3

/-- The word for a level. -/
def name : LogLevel → String
  | .error => "ERROR"
  | .warn => "WARN"
  | .debug => "DEBUG"
  | .trace => "TRACE"

end LogLevel

/-- A line of the log. -/
structure LogLine where
  level : LogLevel
  text : String
deriving DecidableEq, Repr

/-- Whether a reader of the levels up to `threshold` sees the line. -/
def LogLine.shownAt (line : LogLine) (threshold : LogLevel) : Bool :=
  line.level.rank ≤ threshold.rank

end JsonPath
