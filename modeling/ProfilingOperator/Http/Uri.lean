/-!
# Addresses

The addresses requests and exporters are given: `scheme://authority/path?query`, a path alone, or an authority alone.
An address is read byte by byte; a byte that no part may hold is refused, and so is an authority that names no host.
-/

namespace ProfilingOperator.Http

/-- Why a text is no address. -/
inductive Uri.Fault where
  | empty
  | tooLong
  | badCharacter
  | badAuthority
  | badFormat
  | schemeTooLong
  deriving DecidableEq, Repr

def Uri.Fault.message : Uri.Fault → String
  | .empty => "empty string"
  | .tooLong => "uri too long"
  | .badCharacter => "invalid uri character"
  | .badAuthority => "invalid authority"
  | .badFormat => "invalid format"
  | .schemeTooLong => "scheme too long"

/-- A path with the query behind it, if there is one. -/
structure Path where
  path : String
  query : Option String
  deriving DecidableEq, Repr

/-- An address. -/
structure Uri where
  scheme : Option String
  authority : String
  target : Path
  deriving DecidableEq, Repr

/-! ## Paths -/

namespace Path

/-- Whether a path may hold a character. -/
def allowed (c : Char) : Bool :=
  let n := c.toNat
  n = 0x21 || n = 0x22 || (0x24 ≤ n && n ≤ 0x3B) || n = 0x3D || (0x40 ≤ n && n ≤ 0x5F) || (0x61 ≤ n && n ≤ 0x7E) ||
    0x7F ≤ n

def allowedInQuery (c : Char) : Bool :=
  let n := c.toNat
  n = 0x21 || (0x24 ≤ n && n ≤ 0x3B) || n = 0x3D || 0x3F ≤ n

/-- Cuts what a number sign introduces. -/
def withoutFragment (s : List Char) : List Char :=
  s.takeWhile fun c => c ≠ '#'

/-- Reads a path and its query; what a number sign introduces is dropped. -/
def ofChars (s : List Char) : Except Uri.Fault Path :=
  let s := withoutFragment s
  let path := s.takeWhile fun c => c ≠ '?'
  if path.all allowed then
    match s.dropWhile fun c => c ≠ '?' with
    | [] => .ok ⟨String.ofList path, none⟩
    | _ :: query =>
      if query.all allowedInQuery then .ok ⟨String.ofList path, some (String.ofList query)⟩
      else .error .badCharacter
  else .error .badCharacter

end Path

/-! ## Authorities -/

namespace Authority

/-- Whether an authority may hold a character. -/
def allowed (c : Char) : Bool :=
  c.isAlphanum || "!#$&'()*+,-./:;=?@[]_~".toList.contains c

/-- What has been seen of an authority. -/
structure Seen where
  /-- The colons since the last part that may hold any number of them. -/
  colons : Nat
  opened : Bool
  closed : Bool
  percent : Bool
  /-- Whether the last character was an at sign. -/
  afterAt : Bool

/-- Takes in one more character. -/
def Seen.step (s : Seen) (c : Char) : Except Uri.Fault Seen :=
  let next : Seen := { s with afterAt := false }
  if c = ':' then
    if 8 ≤ s.colons then .error .badAuthority else .ok { next with colons := s.colons + 1 }
  else if c = '[' then
    if s.percent || s.opened then .error .badAuthority else .ok { next with opened := true }
  else if c = ']' then
    if !s.opened || s.closed then .error .badAuthority
    else .ok { next with closed := true, colons := 0, percent := false }
  else if c = '@' then .ok { next with colons := 0, percent := false, afterAt := true }
  else if c = '%' then .ok { next with percent := true }
  else if allowed c then .ok next
  else .error .badCharacter

/-- Whether an authority may end here. -/
def Seen.complete (s : Seen) : Bool :=
  s.opened = s.closed && s.colons ≤ 1 && !s.afterAt && !s.percent

/-- Whether a character ends an authority. -/
def ends (c : Char) : Bool :=
  c = '/' || c = '?' || c = '#'

/-- Reads the authority a text starts with: it, and what follows. -/
def split (s : List Char) : Except Uri.Fault (List Char × List Char) := do
  let authority := s.takeWhile fun c => !ends c
  let seen ← authority.foldlM Seen.step ⟨0, false, false, false, false⟩
  if seen.complete then .ok (authority, s.dropWhile fun c => !ends c) else .error .badAuthority

end Authority

/-! ## Schemes -/

namespace Scheme

/-- Whether a scheme may hold a character. -/
def allowed (c : Char) : Bool :=
  c.isAlphanum || c = '+' || c = '-' || c = '.' || c = '~'

/-- Whether a text starts with another, whatever the case of its letters. -/
def startsWith (s start : List Char) : Bool :=
  (s.take start.length).map Char.toLower = start

/-- Reads the scheme a text starts with, if it starts with one: it, and what follows. -/
def split (s : List Char) : Except Uri.Fault (Option (String × List Char)) :=
  if startsWith s "http://".toList then .ok (some ("http", s.drop 7))
  else if startsWith s "https://".toList then .ok (some ("https", s.drop 8))
  else
    let scheme := s.takeWhile allowed
    match s.drop scheme.length with
    | ':' :: '/' :: '/' :: rest =>
      if scheme.length ≤ 64 then .ok (some (String.ofList scheme, rest)) else .error .schemeTooLong
    | _ => .ok none

end Scheme

/-! ## Addresses -/

namespace Uri

/-- The longest address, in bytes. -/
def limit : Nat := 65534

def noPath : Path := ⟨"", none⟩

/-- Reads an address that starts with no slash. -/
def ofChars (s : List Char) : Except Fault Uri := do
  match ← Scheme.split s with
  | none =>
    let (authority, rest) ← Authority.split s
    if rest.isEmpty then .ok ⟨none, String.ofList authority, noPath⟩ else .error .badFormat
  | some (scheme, rest) =>
    let (authority, rest) ← Authority.split rest
    if authority.isEmpty then .error .badFormat
    else return ⟨some scheme, String.ofList authority, ← Path.ofChars rest⟩

def parse (text : String) : Except Fault Uri :=
  if limit < text.utf8ByteSize then .error .tooLong
  else
    match text.toList with
    | [] => .error .empty
    | ['*'] => .ok ⟨none, "", ⟨"*", none⟩⟩
    | '/' :: rest => (Path.ofChars ('/' :: rest)).map fun p => ⟨none, "", p⟩
    | [c] => if Authority.ends c then .error .badCharacter else ofChars [c]
    | s => ofChars s

end Uri

end ProfilingOperator.Http
