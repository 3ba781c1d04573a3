import ProfilingOperator.Json.Basic

/-!
# JSON text

The compact text of a value: no blanks, controls and quotes escaped, every other scalar as it is.
-/

namespace ProfilingOperator.Json

/-- The two lower-case hexadecimal digits of a number below 256. -/
def hexPair (n : Nat) : List Char :=
  [Nat.digitChar (n / 16), Nat.digitChar (n % 16)]

/-- A scalar inside a JSON string. -/
def escapeChar (c : Char) : List Char :=
  if c = '"' then ['\\', '"']
  else if c = '\\' then ['\\', '\\']
  else if c.toNat = 8 then ['\\', 'b']
  else if c.toNat = 12 then ['\\', 'f']
  else if c = '\n' then ['\\', 'n']
  else if c = '\r' then ['\\', 'r']
  else if c = '\t' then ['\\', 't']
  else if c.toNat < 32 then ['\\', 'u', '0', '0'] ++ hexPair c.toNat
  else [c]

/-- A JSON string. -/
def escape (s : String) : String :=
  String.ofList ('"' :: s.toList.flatMap escapeChar ++ ['"'])

/-- A decimal in JSON: positional with at least one place while its point lies from four zeros before the first
digit to sixteen digits after it, and with an exponent otherwise. -/
def decimalText (d : Decimal) : String :=
  let sign := if d.negative then "-" else ""
  if d.digits = 0 then sign ++ "0.0"
  else
    let ds := Nat.toDigits 10 d.digits
    let size : Int := ds.length
    let point := size + d.exponent
    if 0 ≤ d.exponent ∧ point ≤ 16 then
      sign ++ String.ofList (ds ++ List.replicate d.exponent.toNat '0') ++ ".0"
    else if 0 < point ∧ point ≤ 16 then
      sign ++ String.ofList (ds.take point.toNat) ++ "." ++ String.ofList (ds.drop point.toNat)
    else if -5 < point ∧ point ≤ 0 then
      sign ++ "0." ++ String.ofList (List.replicate (-point).toNat '0' ++ ds)
    else if ds.length = 1 then sign ++ String.ofList ds ++ "e" ++ toString (point - 1)
    else
      sign ++ String.ofList (ds.take 1) ++ "." ++ String.ofList (ds.drop 1) ++ "e" ++ toString (point - 1)

def Number.text : Number → String
  | .whole n => toString n
  | .real d => decimalText d

mutual

def render : Json → String
  | .null => "null"
  | .bool true => "true"
  | .bool false => "false"
  | .num n => n.text
  | .str s => escape s
  | .arr xs => "[" ++ renderElements xs ++ "]"
  | .obj ms => "\x7b" ++ renderMembers ms ++ "\x7d"

/-- The elements of an array, with commas between them. -/
def renderElements : List Json → String
  | [] => ""
  | [x] => render x
  | x :: xs => render x ++ "," ++ renderElements xs

/-- The members of an object, with commas between them. -/
def renderMembers : List (String × Json) → String
  | [] => ""
  | [(k, v)] => escape k ++ ":" ++ render v
  | (k, v) :: ms => escape k ++ ":" ++ render v ++ "," ++ renderMembers ms

end

end ProfilingOperator.Json
