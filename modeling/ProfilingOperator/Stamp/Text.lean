import ProfilingOperator.Stamp.Basic
import ProfilingOperator.Text.Blank
import ProfilingOperator.Decode

/-!
# Stamp text

A stamp is written as `2024-01-31T23:59:59.5Z`, always in universal time and with the fewest of 0, 3, 6 or 9 places
that keep it exact.  It is read leniently: blanks may stand before numbers and signs, months and days may have one
digit, a blank or `t` may divide date and time, and any offset below a day is taken off.

    ofJson (toJson t) = .ok t whenever ofText? t.text = .ok t
-/

namespace ProfilingOperator.Stamp

/-! ## Writing -/

/-- A number with at least `width` digits. -/
def padded (width n : Nat) : List Char :=
  let ds := Nat.toDigits 10 n
  List.replicate (width - ds.length) '0' ++ ds

/-- A year: four digits, or a sign and at least four when it is negative or longer. -/
def yearText (y : Int) : List Char :=
  if 0 ≤ y ∧ y ≤ 9999 then padded 4 y.toNat
  else (if y < 0 then '-' else '+') :: padded 4 y.natAbs

/-- The fraction of a second, in 3, 6 or 9 places. -/
def fractionText (nano : Nat) : List Char :=
  if nano = 0 then []
  else if nano % 1000000 = 0 then '.' :: padded 3 (nano / 1000000)
  else if nano % 1000 = 0 then '.' :: padded 6 (nano / 1000)
  else '.' :: padded 9 nano

/-- The text of a stamp down to the second, without its zone. -/
def secondsText (t : Stamp) : List Char :=
  let date := dateOfDay (t.second / 86400)
  let s := (t.second % 86400).toNat
  yearText date.year ++ '-' :: padded 2 date.month ++ '-' :: padded 2 date.day ++
    'T' :: padded 2 (s / 3600) ++ ':' :: padded 2 (s / 60 % 60) ++
    ':' :: padded 2 (s % 60 + t.nano / 1000000000)

def text (t : Stamp) : String :=
  String.ofList (secondsText t ++ fractionText (t.nano % 1000000000) ++ ['Z'])

def wholeText (t : Stamp) : String :=
  String.ofList (secondsText t ++ ['Z'])

def microText (t : Stamp) : String :=
  String.ofList (secondsText t ++ '.' :: padded 6 (t.nano % 1000000000 / 1000) ++ ['Z'])

/-- The nanoseconds from the start of 1970 to a stamp. -/
def nanoseconds (t : Stamp) : Int :=
  t.second * 1000000000 + t.nano

/-! ## Reading -/

/-- Why a text is no stamp. -/
inductive Fault where
  | tooShort
  | invalid
  | outOfRange
  | trailing
  deriving DecidableEq, Repr

def Fault.message : Fault → String
  | .tooShort => "premature end of input"
  | .invalid => "input contains invalid characters"
  | .outOfRange => "input is out of range"
  | .trailing => "trailing input"

/-- What a reader gives: a value and the text after it. -/
abbrev Scan (α : Type) := Except Fault (α × List Char)

def skipBlanks (cs : List Char) : List Char :=
  cs.dropWhile Text.isBlank

def ofDigits (cs : List Char) : Nat :=
  cs.foldl (fun n c => n * 10 + (c.toNat - '0'.toNat)) 0

/-- Reads a number of one to `most` digits; one beyond 63 bits is out of range. -/
def digits (most : Nat) (cs : List Char) : Scan Nat :=
  match cs with
  | [] => .error .tooShort
  | _ =>
    let ds := (cs.takeWhile Char.isDigit).take most
    if ds = [] then .error .invalid
    else if UInt64.size / 2 ≤ ofDigits ds then .error .outOfRange
    else .ok (ofDigits ds, cs.drop ds.length)

/-- Reads a number of at most two digits that lies within bounds. -/
def part (low high : Nat) (cs : List Char) : Scan Nat :=
  match digits 2 (skipBlanks cs) with
  | .error f => .error f
  | .ok (n, r) => if low ≤ n ∧ n ≤ high then .ok (n, r) else .error .outOfRange

/-- Reads a year: up to four digits, or a sign and any number of them. -/
def year (cs : List Char) : Scan Int :=
  let signed : Int → List Char → Scan Int := fun sign r =>
    match digits r.length r with
    | .error f => .error f
    | .ok (n, r) =>
      let y := sign * n
      if -(UInt32.size / 2 : Nat) ≤ y ∧ y < (UInt32.size / 2 : Nat) then .ok (y, r) else .error .outOfRange
  match skipBlanks cs with
  | '-' :: r => signed (-1) r
  | '+' :: r => signed 1 r
  | r => (digits 4 r).map fun p => ((p.1 : Int), p.2)

/-- Reads a sign between the parts of a date or a time. -/
def mark (c : Char) (cs : List Char) : Except Fault (List Char) :=
  match skipBlanks cs with
  | [] => .error .tooShort
  | d :: r => if d = c then .ok r else .error .invalid

/-- Reads a fraction of a second in nanoseconds, if there is one; places after the ninth are dropped. -/
def fraction (cs : List Char) : Scan Nat :=
  match cs with
  | '.' :: r =>
    match digits 9 r with
    | .error f => .error f
    | .ok (n, rest) => .ok (n * Nat.pow 10 (9 - (r.length - rest.length)), rest.dropWhile Char.isDigit)
  | _ => .ok (0, cs)

def pair (cs : List Char) : Scan Nat :=
  match cs with
  | [] => .error .tooShort
  | [c] => if c.utf8Size < 2 then .error .tooShort else .error .invalid
  | a :: b :: r => if a.isDigit ∧ b.isDigit then .ok (ofDigits [a, b], r) else .error .invalid

/-- Reads an offset in seconds: `Z`, `UTC`, or a sign, hours and minutes. -/
def offset (cs : List Char) : Scan Int :=
  let signed : Int → List Char → Scan Int := fun sign r =>
    match pair r with
    | .error f => .error f
    | .ok (hours, r) =>
      match pair (r.dropWhile fun c => c = ':' || Text.isBlank c) with
      | .error f => .error f
      | .ok (minutes, r) =>
        if 60 ≤ minutes then .error .outOfRange else .ok (sign * (hours * 3600 + minutes * 60 : Nat), r)
  match cs with
  | [] => .error .tooShort
  | '+' :: r => signed 1 r
  | '-' :: r => signed (-1) r
  | '−' :: r => signed (-1) r
  | c :: r =>
    if (cs.take 3).map Char.toUpper = ['U', 'T', 'C'] then .ok (0, cs.drop 3)
    else if c = 'Z' ∨ c = 'z' then .ok (0, r)
    else .error .invalid

/-- The stamp of a date, a time and an offset, if there are such a day and such an offset. -/
def ofParts? (y : Int) (mo d h mi s nano : Nat) (off : Int) : Option Stamp :=
  if monthLength y mo < d ∨ y < -262143 ∨ 262142 < y ∨ 86400 ≤ off.natAbs then none
  else
    let leap := s / 60
    some ⟨dayNumber y mo d * 86400 + (h * 3600 + mi * 60 + (s - leap) : Nat) - off,
      nano + leap * 1000000000⟩

def read (cs : List Char) : Except Fault Stamp := do
  let (y, r) ← year cs
  let (mo, r) ← part 1 12 (← mark '-' r)
  let (d, r) ← part 1 31 (← mark '-' r)
  let r ← match r with
    | [] => .error .tooShort
    | c :: r => if c = 't' ∨ c = 'T' ∨ c = ' ' then .ok r else .error .invalid
  let (h, r) ← part 0 23 r
  let (mi, r) ← part 0 59 (← mark ':' r)
  let (s, r) ← part 0 60 (← mark ':' r)
  let (nano, r) ← fraction r
  let (off, r) ← offset (skipBlanks r)
  if skipBlanks r ≠ [] then .error .trailing
  else
    match ofParts? y mo d h mi s nano off with
    | some t => .ok t
    | none => .error .outOfRange

def ofText? (s : String) : Except Fault Stamp :=
  read s.toList

/-! ## JSON -/

def toJson (t : Stamp) : Json :=
  .str t.text

def ofJson : Decode.Reader Stamp
  | .str s =>
    match ofText? s with
    | .ok t => .ok t
    | .error f => .error (.malformed f.message)
  | j => .error (.invalidType (Decode.found j) "an RFC 3339 formatted date and time string")

/-! ## Lemmas -/

/-- A stamp whose text is read as itself is read back from its JSON value. -/
theorem ofJson_toJson {t : Stamp} (h : ofText? t.text = .ok t) : ofJson (toJson t) = .ok t := by
  simp [ofJson, toJson, h]

end ProfilingOperator.Stamp
