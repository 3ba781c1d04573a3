import ProfilingOperator.Text.Bytes

/-!
# Query strings

The parameters of a request as its query carries them: `name=value` parts between ampersands.  Letters, digits and
`*`, `-`, `.`, `_` stand for themselves, a space is a plus sign, and every other byte is written as two hexadecimal
digits behind a percent sign.
-/

namespace ProfilingOperator.Http.Form

/-! ## Writing -/

/-- A hexadecimal digit; letters are capital. -/
def hexDigit (n : Nat) : Char :=
  Char.ofNat (if n < 10 then 0x30 + n else 0x37 + n)

/-- Whether a byte stands for itself. -/
def isPlain (n : Nat) : Bool :=
  (0x30 ≤ n && n ≤ 0x39) || (0x41 ≤ n && n ≤ 0x5A) || (0x61 ≤ n && n ≤ 0x7A) || n = 0x2A || n = 0x2D || n = 0x2E ||
    n = 0x5F

def encodeByte (b : UInt8) : List Char :=
  if b = 0x20 then ['+']
  else if isPlain b.toNat then [Char.ofNat b.toNat]
  else ['%', hexDigit (b.toNat / 16), hexDigit (b.toNat % 16)]

def encodeBytes (bs : List UInt8) : List Char :=
  bs.flatMap encodeByte

def bytes (s : String) : List UInt8 :=
  s.toList.flatMap String.utf8EncodeChar

def encodeField (field : String × String) : String :=
  String.ofList (encodeBytes (bytes field.1) ++ '=' :: encodeBytes (bytes field.2))

/-- Parameters as a query. -/
def encode (fields : List (String × String)) : String :=
  String.intercalate "&" (fields.map encodeField)

/-! ## Reading -/

def hexValue? (c : Char) : Option Nat :=
  if c.isDigit then some (c.toNat - 0x30)
  else if 'A' ≤ c ∧ c ≤ 'F' then some (c.toNat - 0x37)
  else if 'a' ≤ c ∧ c ≤ 'f' then some (c.toNat - 0x57)
  else none

/-- The byte two hexadecimal digits stand for. -/
def hexByte? (high low : Char) : Option UInt8 :=
  match hexValue? high, hexValue? low with
  | some h, some l => some (UInt8.ofNat (h * 16 + l))
  | _, _ => none

/-- The bytes a text stands for; a percent sign without two hexadecimal digits stands for itself. -/
def decodeBytes (s : List Char) : List UInt8 :=
  match s with
  | [] => []
  | '+' :: rest => 0x20 :: decodeBytes rest
  | '%' :: high :: low :: rest =>
    match hexByte? high low with
    | some b => b :: decodeBytes rest
    | none => 0x25 :: decodeBytes (high :: low :: rest)
  | c :: rest => String.utf8EncodeChar c ++ decodeBytes rest

/-- The text some characters of a query stand for. -/
def decodeText (s : List Char) : String :=
  Text.ofBytes (decodeBytes s)

/-- The parts of a text between the places of a character. -/
def parts (separator : Char) : List Char → List (List Char)
  | [] => [[]]
  | c :: rest =>
    if c = separator then [] :: parts separator rest
    else
      match parts separator rest with
      | [] => [[c]]
      | p :: ps => (c :: p) :: ps

/-- One parameter; one without an equals sign has an empty value. -/
def decodeField (s : List Char) : String × String :=
  (decodeText (s.takeWhile fun c => c ≠ '='), decodeText ((s.dropWhile fun c => c ≠ '=').drop 1))

/-- The parameters of a query; empty parts are none. -/
def decode (query : String) : List (String × String) :=
  ((parts '&' query.toList).filter fun p => !p.isEmpty).map decodeField

end ProfilingOperator.Http.Form
