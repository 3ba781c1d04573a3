/-!
# Text of bytes

UTF-8 read without refusing any bytes.  What begins as the bytes of a scalar do and does not go on as they do is
one replacement character, and so is a byte that no scalar begins with; reading goes on at the byte that did not
fit.
-/

namespace ProfilingOperator.Text

/-- A scalar of which some bytes are read. -/
structure Begun where
  /-- How many bytes are to come behind the next one. -/
  more : Nat
  /-- The least byte that may come next. -/
  low : Nat
  /-- The greatest byte that may come next. -/
  high : Nat
  /-- The number the bytes come to so far. -/
  sum : Nat
  deriving DecidableEq, Repr

/-- What stands for bytes that are no text. -/
def replacement : Char := Char.ofNat 0xFFFD

/-- What a byte at the beginning of a scalar gives: characters, and the scalar it begins. -/
def start (b : UInt8) : List Char × Option Begun :=
  let n := b.toNat
  if n < 0x80 then ([Char.ofNat n], none)
  else if n < 0xC2 then ([replacement], none)
  else if n < 0xE0 then ([], some ⟨0, 0x80, 0xBF, n - 0xC0⟩)
  else if n < 0xF0 then
    ([], some ⟨1, if n = 0xE0 then 0xA0 else 0x80, if n = 0xED then 0x9F else 0xBF, n - 0xE0⟩)
  else if n < 0xF5 then
    ([], some ⟨2, if n = 0xF0 then 0x90 else 0x80, if n = 0xF4 then 0x8F else 0xBF, n - 0xF0⟩)
  else ([replacement], none)

/-- What a byte gives after those of a scalar that is not ended. -/
def Begun.next (s : Begun) (b : UInt8) : List Char × Option Begun :=
  let n := b.toNat
  if s.low ≤ n ∧ n ≤ s.high then
    let sum := s.sum * 64 + (n - 0x80)
    match s.more with
    | 0 => ([Char.ofNat sum], none)
    | m + 1 => ([], some ⟨m, 0x80, 0xBF, sum⟩)
  else (replacement :: (start b).1, (start b).2)

/-- The scalars of some bytes, which follow those of a scalar that is not ended, if there is one. -/
def scalars : Option Begun → List UInt8 → List Char
  | none, [] => []
  | some _, [] => [replacement]
  | none, b :: rest => (start b).1 ++ scalars (start b).2 rest
  | some s, b :: rest => (s.next b).1 ++ scalars (s.next b).2 rest

def ofBytes (bs : List UInt8) : String :=
  match String.fromUTF8? ⟨bs.toArray⟩ with
  | some s => s
  | none => String.ofList (scalars none bs)

end ProfilingOperator.Text
