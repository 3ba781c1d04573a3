import ProfilingOperator.Json.Printer
import ProfilingOperator.Log.Filter

/-!
# Log lines

What a log line tells, and how it looks in either shape.
-/

namespace ProfilingOperator.Log

/-- A log line. -/
structure Record where
  level : Level
  target : String
  message : String
  /-- What it tells besides its message, by name. -/
  fields : List (String × String)
  deriving DecidableEq, Repr

namespace Record

/-- A line as a JSON object, without its time. -/
def toJson (r : Record) : Json :=
  .object [("level", some (.str r.level.word)), ("target", some (.str r.target)),
    ("fields", some (.object (("message", some (.str r.message)) :: r.fields.map fun f => (f.1, some (.str f.2)))))]

/-- A line as text, without its time. -/
def text (r : Record) : String :=
  r.level.word ++ " " ++ r.target ++ ": " ++ r.message ++ String.join (r.fields.map fun f => " " ++ f.1 ++ "=" ++ f.2)

/-- A line in one of the shapes. -/
def line (r : Record) : Format → String
  | .json => r.toJson.render
  | .text => r.text

/-- The names of all that a line tells. -/
def names (r : Record) : List String :=
  "message" :: r.fields.map (·.1)

end Record

/-- The lines a filter lets through. -/
def Filter.passing (f : Filter) (rs : List Record) : List Record :=
  rs.filter fun r => f.enables r.target r.level r.names

end ProfilingOperator.Log
