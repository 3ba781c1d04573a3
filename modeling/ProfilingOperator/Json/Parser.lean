import ProfilingOperator.Json.Basic
import ProfilingOperator.Json.Fault

/-!
# Reading JSON text

`Json.parse` reads a whole text as one value or says what is wrong with it and where.  Objects come out with
their members in key order; of two members of one name the later stands.  A number with a point, an exponent or
more digits than 64 bits hold is a decimal.  Values nest at most 127 deep.

The readers share one supply of steps, twice the length of the text and two more: a step reads a scalar or
opens the reading of one.
-/

namespace ProfilingOperator.Json

/-- What a reader gives: a value and the text after it, or a fault. -/
abbrev Scan (α : Type) := Except Fault (α × List Char)

/-! ## Words -/

/-- Whether JSON skips a scalar between values. -/
def isGap (c : Char) : Bool :=
  c = ' ' || c = '\n' || c = '\t' || c = '\r'

/-- The text without its leading gap. -/
def skipGap (cs : List Char) : List Char :=
  cs.dropWhile isGap

/-- Reads the rest of a literal word. -/
def literal (v : Json) : List Char → List Char → Scan Json
  | [], cs => .ok (v, cs)
  | _ :: _, [] => .error ⟨.eofValue, [], 0⟩
  | e :: es, c :: cs => if c = e then literal v es cs else .error ⟨.expectedLiteral, c :: cs, 1⟩

/-! ## Strings -/

def hexValue? (c : Char) : Option Nat :=
  if '0' ≤ c ∧ c ≤ '9' then some (c.toNat - '0'.toNat)
  else if 'a' ≤ c ∧ c ≤ 'f' then some (c.toNat - 'a'.toNat + 10)
  else if 'A' ≤ c ∧ c ≤ 'F' then some (c.toNat - 'A'.toNat + 10)
  else none

def byteCount (cs : List Char) : Nat :=
  cs.foldl (fun n c => n + c.utf8Size) 0

/-- Reads four hexadecimal digits; they take four bytes whatever they are. -/
def hexQuad (cs : List Char) : Scan Nat :=
  match cs with
  | a :: b :: c :: d :: r =>
    match hexValue? a, hexValue? b, hexValue? c, hexValue? d with
    | some a, some b, some c, some d => .ok (a * 4096 + b * 256 + c * 16 + d, r)
    | _, _, _, _ => .error ⟨.invalidEscape, cs, 4⟩
  | _ => if 4 ≤ byteCount cs then .error ⟨.invalidEscape, cs, 4⟩ else .error ⟨.eofString, [], 0⟩

/-- Reads the second escape of a scalar whose first one was `high`. -/
def lowSurrogate (high : Nat) (cs : List Char) : Scan Char :=
  match cs with
  | [] => .error ⟨.eofString, [], 0⟩
  | '\\' :: [] => .error ⟨.eofString, [], 0⟩
  | '\\' :: 'u' :: r =>
    match hexQuad r with
    | .error f => .error f
    | .ok (low, r) =>
      if low < 0xDC00 ∨ 0xDFFF < low then .error ⟨.loneSurrogate, r, 0⟩
      else .ok (Char.ofNat ((high - 0xD800) * 1024 + (low - 0xDC00) + 0x10000), r)
  | '\\' :: r => .error ⟨.unexpectedEndOfHexEscape, r, 1⟩
  | _ => .error ⟨.unexpectedEndOfHexEscape, cs, 1⟩

/-- Reads the digits of a numbered escape; a scalar beyond 16 bits takes two escapes. -/
def numberedEscape (cs : List Char) : Scan Char :=
  match hexQuad cs with
  | .error f => .error f
  | .ok (n, r) =>
    if 0xDC00 ≤ n ∧ n ≤ 0xDFFF then .error ⟨.loneSurrogate, r, 0⟩
    else if n < 0xD800 ∨ 0xDBFF < n then .ok (Char.ofNat n, r)
    else lowSurrogate n r

def escapeSequence (cs : List Char) : Scan Char :=
  match cs with
  | [] => .error ⟨.eofString, [], 0⟩
  | c :: r =>
    if c = '"' ∨ c = '\\' ∨ c = '/' then .ok (c, r)
    else if c = 'b' then .ok (Char.ofNat 8, r)
    else if c = 'f' then .ok (Char.ofNat 12, r)
    else if c = 'n' then .ok ('\n', r)
    else if c = 'r' then .ok ('\r', r)
    else if c = 't' then .ok ('\t', r)
    else if c = 'u' then numberedEscape r
    else .error ⟨.invalidEscape, cs, 1⟩

/-- Reads a string from after its opening quote. -/
def stringBody : Nat → List Char → List Char → Scan String
  | 0, _, cs => .error ⟨.eofString, cs, 0⟩
  | _ + 1, _, [] => .error ⟨.eofString, [], 0⟩
  | fuel + 1, acc, c :: r =>
    if c = '"' then .ok (String.ofList acc.reverse, r)
    else if c = '\\' then
      match escapeSequence r with
      | .error f => .error f
      | .ok (e, r) => stringBody fuel (e :: acc) r
    else if c.toNat < 32 then .error ⟨.controlCharacter, c :: r, 1⟩
    else stringBody fuel (c :: acc) r

/-! ## Numbers -/

/-- The value of a decimal digit. -/
def digitValue (c : Char) : Nat :=
  c.toNat - '0'.toNat

/-- Takes digits onto a number for as long as it stays below `2 ^ 64`: the number, how many were taken, and the
text after them. -/
def takeDigits (n count : Nat) : List Char → Nat × Nat × List Char
  | [] => (n, count, [])
  | c :: r =>
    if c.isDigit ∧ n * 10 + digitValue c < UInt64.size then takeDigits (n * 10 + digitValue c) (count + 1) r
    else (n, count, c :: r)

/-- A decimal as a value, or a fault when it is beyond the largest one. -/
def decimal (negative : Bool) (digits : Nat) (exponent : Int) (rest : List Char) : Scan Json :=
  match Decimal.read? negative digits exponent with
  | some d => .ok (.num (.real d), rest)
  | none => .error ⟨.numberOutOfRange, rest, 0⟩

/-- Reads the digits of an exponent after the first. -/
def exponentDigits (negative : Bool) (digits : Nat) (start : Int) (up : Bool) : Nat → List Char → Scan Json
  | e, [] => decimal negative digits (if up then start + e else start - e) []
  | e, c :: r =>
    if c.isDigit then
      if e * 10 + digitValue c < UInt32.size / 2 then exponentDigits negative digits start up (e * 10 + digitValue c) r
      else if digits ≠ 0 ∧ up then .error ⟨.numberOutOfRange, r, 0⟩
      else .ok (.num (.real ⟨negative, 0, 0⟩), r.dropWhile Char.isDigit)
    else decimal negative digits (if up then start + e else start - e) (c :: r)

/-- Reads an exponent from after its letter. -/
def exponent (negative : Bool) (digits : Nat) (start : Int) (cs : List Char) : Scan Json :=
  let up := cs.head? ≠ some '-'
  let cs := match cs with
    | '+' :: r => r
    | '-' :: r => r
    | _ => cs
  match cs with
  | [] => .error ⟨.eofValue, [], 0⟩
  | c :: r =>
    if c.isDigit then exponentDigits negative digits start up (digitValue c) r
    else .error ⟨.invalidNumber, c :: r, 1⟩

/-- Ends a decimal, or reads its exponent. -/
def decimalEnd (negative : Bool) (digits : Nat) (start : Int) (cs : List Char) : Scan Json :=
  match cs with
  | c :: r => if c = 'e' ∨ c = 'E' then exponent negative digits start r else decimal negative digits start cs
  | [] => decimal negative digits start []

/-- Reads the places after a point. -/
def places (negative : Bool) (digits : Nat) (start : Int) (cs : List Char) : Scan Json :=
  let (n, count, r) := takeDigits digits 0 cs
  let after := r.dropWhile Char.isDigit
  if count = 0 ∧ after.length = r.length then
    match cs with
    | [] => .error ⟨.eofValue, [], 1⟩
    | _ => .error ⟨.invalidNumber, cs, 1⟩
  else decimalEnd negative n (start - count) after

/-- Goes on after the whole part of a number, of which `dropped` digits did not fit. -/
def numberTail (negative : Bool) (digits dropped : Nat) (cs : List Char) : Scan Json :=
  match cs with
  | '.' :: r => places negative digits dropped r
  | 'e' :: r => exponent negative digits dropped r
  | 'E' :: r => exponent negative digits dropped r
  | _ =>
    if dropped ≠ 0 then decimal negative digits dropped cs
    else if negative then
      if digits = 0 ∨ UInt64.size / 2 < digits then decimal true digits 0 cs
      else .ok (.num (.whole (-digits)), cs)
    else .ok (.num (.whole digits), cs)

/-- Reads a number from after its sign. -/
def number (negative : Bool) (cs : List Char) : Scan Json :=
  match cs with
  | [] => .error ⟨.eofValue, [], 0⟩
  | '0' :: r =>
    match r with
    | c :: _ => if c.isDigit then .error ⟨.invalidNumber, r, 1⟩ else numberTail negative 0 0 r
    | [] => numberTail negative 0 0 []
  | c :: r =>
    if c.isDigit then
      let (n, _, rest) := takeDigits (digitValue c) 0 r
      let after := rest.dropWhile Char.isDigit
      numberTail negative n (rest.length - after.length) after
    else .error ⟨.invalidNumber, c :: r, 1⟩

/-! ## Values -/

mutual

/-- Reads a value; `depth` more levels may open inside it. -/
def value : Nat → Nat → List Char → Scan Json
  | 0, _, cs => .error ⟨.expectedValue, cs, 0⟩
  | fuel + 1, depth, cs =>
    match skipGap cs with
    | [] => .error ⟨.eofValue, [], 1⟩
    | 'n' :: r => literal .null ['u', 'l', 'l'] r
    | 't' :: r => literal (.bool true) ['r', 'u', 'e'] r
    | 'f' :: r => literal (.bool false) ['a', 'l', 's', 'e'] r
    | '-' :: r => number true r
    | '"' :: r =>
      match stringBody (r.length + 1) [] r with
      | .error f => .error f
      | .ok (s, r) => .ok (.str s, r)
    | '[' :: r =>
      match depth with
      | 0 => .error ⟨.tooDeep, '[' :: r, 1⟩
      | d + 1 =>
        match elements fuel d true r with
        | .error f => .error f
        | .ok (xs, r) => .ok (.arr xs, r)
    | c :: r =>
      if c = Char.ofNat 123 then
        match depth with
        | 0 => .error ⟨.tooDeep, c :: r, 1⟩
        | d + 1 =>
          match fields fuel d true [] r with
          | .error f => .error f
          | .ok (ms, r) => .ok (.obj ms, r)
      else if c.isDigit then number false (c :: r)
      else .error ⟨.expectedValue, c :: r, 1⟩

/-- Reads the elements of an array up to its end; `first` when none was read. -/
def elements : Nat → Nat → Bool → List Char → Scan (List Json)
  | 0, _, _, cs => .error ⟨.expectedValue, cs, 0⟩
  | fuel + 1, depth, first, cs =>
    match skipGap cs with
    | [] => .error ⟨.eofList, [], 1⟩
    | ']' :: r => .ok ([], r)
    | c :: r =>
      let item : List Char → Scan (List Json) := fun cs =>
        match value fuel depth cs with
        | .error f => .error f
        | .ok (x, r) =>
          match elements fuel depth false r with
          | .error f => .error f
          | .ok (xs, r) => .ok (x :: xs, r)
      if first then item (c :: r)
      else if c = ',' then
        match skipGap r with
        | [] => .error ⟨.eofValue, [], 1⟩
        | ']' :: r => .error ⟨.trailingComma, ']' :: r, 1⟩
        | r => item r
      else .error ⟨.expectedListCommaOrEnd, c :: r, 1⟩

/-- Reads the members of an object up to its end onto those read before; `first` when none was read. -/
def fields : Nat → Nat → Bool → List (String × Json) → List Char → Scan (List (String × Json))
  | 0, _, _, _, cs => .error ⟨.expectedValue, cs, 0⟩
  | fuel + 1, depth, first, acc, cs =>
    let item : List Char → Scan (List (String × Json)) := fun cs =>
      match cs with
      | '"' :: r =>
        match stringBody (r.length + 1) [] r with
        | .error f => .error f
        | .ok (k, r) =>
          match skipGap r with
          | [] => .error ⟨.eofObject, [], 1⟩
          | ':' :: r =>
            match value fuel depth r with
            | .error f => .error f
            | .ok (v, r) => fields fuel depth false (StringMap.place k v acc) r
          | r => .error ⟨.expectedColon, r, 1⟩
      | _ => .error ⟨.keyNotString, cs, 1⟩
    match skipGap cs with
    | [] => .error ⟨.eofObject, [], 1⟩
    | c :: r =>
      if c = Char.ofNat 125 then .ok (acc, r)
      else if first then item (c :: r)
      else if c = ',' then
        match skipGap r with
        | [] => .error ⟨.eofValue, [], 1⟩
        | d :: r =>
          if d = Char.ofNat 125 then .error ⟨.trailingComma, d :: r, 1⟩ else item (d :: r)
      else .error ⟨.expectedObjectCommaOrEnd, c :: r, 1⟩

end

/-- The deepest nesting of a value. -/
def maxDepth : Nat := 127

def parseScalars (cs : List Char) : Except Fault Json :=
  match value (2 * cs.length + 2) maxDepth cs with
  | .error f => .error f
  | .ok (v, r) =>
    match skipGap r with
    | [] => .ok v
    | c :: r => .error ⟨.trailingCharacters, c :: r, 1⟩

/-- Reads a text that is one value, or gives the message of what is wrong with it. -/
def parse (s : String) : Except String Json :=
  match parseScalars s.toList with
  | .ok v => .ok v
  | .error f => .error (f.message s.toList)

end ProfilingOperator.Json
