/-!
# Shape of log lines

Log lines are JSON objects or plain text.  The shape is named by a word, in capitals or not.
-/

namespace ProfilingOperator.Log

/-- The shape of log lines. -/
inductive Format where
  | json
  | text
  deriving DecidableEq, Repr

namespace Format

def word : Format → String
  | .json => "json"
  | .text => "text"

/-- A text with its Latin capitals made small. -/
def lowered (s : String) : String :=
  String.ofList (s.toList.map Char.toLower)

/-- The shape a word names; `pretty` is another word for text. -/
def ofWord? (s : String) : Option Format :=
  let w := lowered s
  if w = "json" then some .json
  else if w = "text" ∨ w = "pretty" then some .text
  else none

/-- What is said of a word that names no shape. -/
def unknown (s : String) : String :=
  "unknown log format '" ++ lowered s ++ "', expected json or text"

end Format

end ProfilingOperator.Log
