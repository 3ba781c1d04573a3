/-!
# Syntax faults of JSON text

What can be wrong with a JSON text and where.  A fault keeps what is left of the text, from which its line and
its column in bytes are found.
-/

namespace ProfilingOperator.Json

/-- What is wrong with a text. -/
inductive Fault.Cause where
  | eofList
  | eofObject
  | eofString
  | eofValue
  | expectedColon
  | expectedListCommaOrEnd
  | expectedObjectCommaOrEnd
  | expectedLiteral
  | expectedValue
  | invalidEscape
  | invalidNumber
  | numberOutOfRange
  | controlCharacter
  | keyNotString
  | loneSurrogate
  | trailingComma
  | trailingCharacters
  | unexpectedEndOfHexEscape
  | tooDeep
  deriving DecidableEq, Repr

/-- The grave accent that surrounds a sign in a message. -/
def tick : String :=
  String.ofList [Char.ofNat 96]

/-- A sign between grave accents. -/
def ticked (s : String) : String :=
  tick ++ s ++ tick

def Fault.Cause.text : Fault.Cause → String
  | .eofList => "EOF while parsing a list"
  | .eofObject => "EOF while parsing an object"
  | .eofString => "EOF while parsing a string"
  | .eofValue => "EOF while parsing a value"
  | .expectedColon => "expected " ++ ticked ":"
  | .expectedListCommaOrEnd => "expected " ++ ticked "," ++ " or " ++ ticked "]"
  | .expectedObjectCommaOrEnd => "expected " ++ ticked "," ++ " or " ++ ticked "\x7d"
  | .expectedLiteral => "expected ident"
  | .expectedValue => "expected value"
  | .invalidEscape => "invalid escape"
  | .invalidNumber => "invalid number"
  | .numberOutOfRange => "number out of range"
  | .controlCharacter => "control character (\\u0000-\\u001F) found while parsing a string"
  | .keyNotString => "key must be a string"
  | .loneSurrogate => "lone leading surrogate in hex escape"
  | .trailingComma => "trailing comma"
  | .trailingCharacters => "trailing characters"
  | .unexpectedEndOfHexEscape => "unexpected end of hex escape"
  | .tooDeep => "recursion limit exceeded"

/-- A fault: its cause, the text from the scalar it was found at, and how many bytes further it is placed. -/
structure Fault where
  /-- What is wrong. -/
  cause : Fault.Cause
  /-- The text that is left. -/
  rest : List Char
  /-- The bytes of `rest` that are counted as read. -/
  ahead : Nat
  deriving DecidableEq, Repr

/-- A place in a text: the line, from one, and the bytes since it began. -/
structure Place where
  line : Nat
  column : Nat
  deriving DecidableEq, Repr

/-- The place after one more scalar. -/
def Place.step (p : Place) (c : Char) : Place :=
  if c = '\n' then ⟨p.line + 1, 0⟩ else ⟨p.line, p.column + c.utf8Size⟩

/-- The place after `n` more bytes of a text, or at its end. -/
def Place.advance (p : Place) : Nat → List Char → Place
  | _, [] => p
  | n, c :: r =>
    if c.utf8Size ≤ n then (p.step c).advance (n - c.utf8Size) r else ⟨p.line, p.column + n⟩

/-- The place of a fault in the text it was found in. -/
def Fault.place (f : Fault) (text : List Char) : Place :=
  let read := text.take (text.length - f.rest.length)
  (read.foldl Place.step ⟨1, 0⟩).advance f.ahead f.rest

/-- The message of a fault: cause, line and column. -/
def Fault.message (f : Fault) (text : List Char) : String :=
  let p := f.place text
  f.cause.text ++ " at line " ++ toString p.line ++ " column " ++ toString p.column

end ProfilingOperator.Json
