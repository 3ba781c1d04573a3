import ProfilingOperator.Duration.Basic
import ProfilingOperator.Text.Quoted

/-!
# Reading durations

A profiling window is written as a sum of numbers with units, `1h30m` or `1.5s`.  A number has digits and at most
one point; the units are `ns`, `us`, `ms`, `s`, `m` and `h`, with both micro signs for `us`.  A bare `0` needs no
unit.  One sign may lead; a negative span is refused unless it is empty.

The text is cut into runs of a number and a unit (`runs`), each run is weighed (`weigh`), and the weights are
added in 128 bits.
-/

namespace ProfilingOperator.Duration

/-- Why a text is no duration. -/
inductive Fault where
  | empty
  | invalid
  | missingUnit
  | unknownUnit (unit : String)
  | negative
  | overflow
  deriving DecidableEq, Repr

def Fault.message (text : String) : Fault → String
  | .empty => "empty duration"
  | .invalid => "invalid duration " ++ Text.quote text
  | .missingUnit => "missing unit in duration " ++ Text.quote text
  | .unknownUnit u => "unknown unit " ++ Text.quote u ++ " in duration " ++ Text.quote text
  | .negative => "negative duration " ++ Text.quote text
  | .overflow => "duration " ++ Text.quote text ++ " overflows"

/-! ## Algorithm -/

/-- Whether a scalar belongs to a number. -/
def isNumeral (c : Char) : Bool :=
  c.isDigit || c = '.'

/-- The runs of a text: a number, then a unit, as long as they go.  Only the first number and the last unit can
be empty. -/
def runs : List Char → List (List Char × List Char)
  | [] => []
  | c :: r =>
    match runs r with
    | [] => [if isNumeral c then ([c], []) else ([], [c])]
    | (number, unit) :: rest =>
      if isNumeral c then (c :: number, unit) :: rest
      else if number.isEmpty then ([], c :: unit) :: rest
      else ([], [c]) :: (number, unit) :: rest

def unitScale? (unit : List Char) : Option Nat :=
  if unit = ['n', 's'] then some 1
  else if unit = ['u', 's'] ∨ unit = ['µ', 's'] ∨ unit = ['μ', 's'] then some 1000
  else if unit = ['m', 's'] then some 1000000
  else if unit = ['s'] then some perSecond
  else if unit = ['m'] then some (60 * perSecond)
  else if unit = ['h'] then some (3600 * perSecond)
  else none

def ofDigits (cs : List Char) : Nat :=
  cs.foldl (fun n c => n * 10 + (c.toNat - '0'.toNat)) 0

/-- The values of 128 bits. -/
def wide : Nat := UInt64.size * UInt64.size

/-- A sum or product, unless it needs more than 128 bits. -/
def withinWide (n : Nat) : Except Fault Nat :=
  if n < wide then .ok n else .error .overflow

/-- How many digits after the point count. -/
def placesKept : Nat := 18

/-- The nanoseconds of a number in a unit: its whole part and what its first 18 places come to, rounded down. -/
def scaled (number : List Char) (scale : Nat) : Except Fault Nat :=
  let whole := number.takeWhile (· ≠ '.')
  let fraction := (number.dropWhile (· ≠ '.')).drop 1
  if fraction.contains '.' then .error .invalid
  else if wide ≤ ofDigits whole then .error .invalid
  else
    match withinWide (ofDigits whole * scale) with
    | .error f => .error f
    | .ok n =>
      let places := fraction.take placesKept
      withinWide (n + ofDigits places * scale / Nat.pow 10 places.length)

/-- The nanoseconds of a run. -/
def weigh (run : List Char × List Char) : Except Fault Nat :=
  let (number, unit) := run
  if number = [] ∨ number = ['.'] then .error .invalid
  else if unit = [] then .error .missingUnit
  else
    match unitScale? unit with
    | none => .error (.unknownUnit (String.ofList unit))
    | some scale => scaled number scale

/-- Adds the weights of runs to a total. -/
def total (sum : Nat) : List (List Char × List Char) → Except Fault Nat
  | [] => .ok sum
  | run :: rest =>
    match weigh run with
    | .error f => .error f
    | .ok n =>
      match withinWide (sum + n) with
      | .error f => .error f
      | .ok sum => total sum rest

/-- Reads a text after its sign. -/
def parseBody (negative : Bool) (body : List Char) : Except Fault Duration :=
  if body = ['0'] then .ok zero
  else if body = [] then .error .invalid
  else
    match total 0 (runs body) with
    | .error f => .error f
    | .ok n =>
      if negative ∧ 0 < n then .error .negative
      else
        match ofNanoseconds? n with
        | some d => .ok d
        | none => .error .overflow

/-- Reads a text as a duration. -/
def parse (text : String) : Except Fault Duration :=
  match text.toList with
  | [] => .error .empty
  | '-' :: body => parseBody true body
  | '+' :: body => parseBody false body
  | body => parseBody false body

end ProfilingOperator.Duration
