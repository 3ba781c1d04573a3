import ProfilingOperator.Json.Basic
import ProfilingOperator.Json.Fault
import ProfilingOperator.Json.Printer
import ProfilingOperator.Text.Quoted

/-!
# Typed reading of JSON values

How the fields of a resource are read out of a JSON value, and what is said when they do not fit.

A record is an object, or an array of its fields in the order they are declared.  Of an object the malformed
member with the least name is reported; only when no member is malformed the first missing one is.  Of an array
the first element that is malformed or missing is reported.
-/

namespace ProfilingOperator

/-- What a reader found in place of what it expects. -/
inductive Decode.Found where
  | null
  | bool (b : Bool)
  | number (n : Json.Number)
  | text (s : String)
  | sequence
  | map
  deriving DecidableEq, Repr

/-- Why a value does not read as a type. -/
inductive Decode.Error where
  | missingField (name : String)
  | unknownVariant (given : String) (known : List String)
  | invalidType (found : Decode.Found) (expected : String)
  | invalidValue (found : Decode.Found) (expected : String)
  | invalidLength (size : Nat) (expected : String)
  | malformed (message : String)
  deriving DecidableEq, Repr

namespace Decode

open Json (ticked)

/-! ## Messages -/

def Found.words : Found → String
  | .null => "null"
  | .bool b => "boolean " ++ ticked (if b then "true" else "false")
  | .number (.whole n) => "integer " ++ ticked (toString n)
  | .number (.real d) => "floating point " ++ ticked (Json.decimalText d)
  | .text s => "string " ++ Text.quote s
  | .sequence => "sequence"
  | .map => "map"

/-- A list of accepted words. -/
def alternatives : List String → String
  | [] => "there are no variants"
  | [a] => "expected " ++ ticked a
  | [a, b] => "expected " ++ ticked a ++ " or " ++ ticked b
  | l => "expected one of " ++ ", ".intercalate (l.map ticked)

def Error.message : Error → String
  | .missingField name => "missing field " ++ ticked name
  | .unknownVariant given known => "unknown variant " ++ ticked given ++ ", " ++ alternatives known
  | .invalidType found expected => "invalid type: " ++ found.words ++ ", expected " ++ expected
  | .invalidValue found expected => "invalid value: " ++ found.words ++ ", expected " ++ expected
  | .invalidLength size expected => "invalid length " ++ toString size ++ ", expected " ++ expected
  | .malformed message => message

/-- What a value is, for a message. -/
def found : Json → Found
  | .null => .null
  | .bool b => .bool b
  | .num n => .number n
  | .str s => .text s
  | .arr _ => .sequence
  | .obj _ => .map

/-! ## Single values -/

abbrev Reader (α : Type) := Json → Except Error α

def string : Reader String
  | .str s => .ok s
  | j => .error (.invalidType (found j) "a string")

def fixed (word : String) : Reader Unit
  | .str s => if s = word then .ok () else .error (.invalidValue (.text s) word)
  | j => .error (.invalidType (found j) "a string")

/-- Reads a truth value. -/
def boolean : Reader Bool
  | .bool b => .ok b
  | j => .error (.invalidType (found j) "a boolean")

/-- Reads a whole number from `low` up to below `high`; `name` is the type's name in messages. -/
def whole (name : String) (low high : Int) : Reader Int
  | .num (.whole n) =>
    if low ≤ n ∧ n < high then .ok n else .error (.invalidValue (.number (.whole n)) name)
  | j => .error (.invalidType (found j) name)

/-- Reads a whole number of 32 bits without sign. -/
def word32 : Reader Nat :=
  fun j => (whole "u32" 0 UInt32.size j).map Int.toNat

/-- Reads a whole number of 16 bits without sign. -/
def word16 : Reader Nat :=
  fun j => (whole "u16" 0 UInt16.size j).map Int.toNat

/-- Reads a signed whole number of 64 bits. -/
def int64 : Reader Int :=
  whole "i64" (-(UInt64.size / 2 : Nat)) (UInt64.size / 2 : Nat)

/-- Reads a signed whole number of 32 bits. -/
def int32 : Reader Int :=
  whole "i32" (-(UInt32.size / 2 : Nat)) (UInt32.size / 2 : Nat)

/-- Reads each value of a list, up to the first that does not fit. -/
def each {α : Type} (read : Reader α) : List Json → Except Error (List α)
  | [] => .ok []
  | x :: xs =>
    match read x with
    | .error e => .error e
    | .ok a =>
      match each read xs with
      | .error e => .error e
      | .ok as => .ok (a :: as)

/-- Reads an array of values. -/
def list {α : Type} (read : Reader α) : Reader (List α)
  | .arr xs => each read xs
  | j => .error (.invalidType (found j) "a sequence")

/-- Reads the values of an object, in key order. -/
def entries {α : Type} (read : Reader α) : List (String × Json) → Except Error (List (String × α))
  | [] => .ok []
  | (k, x) :: xs =>
    match read x with
    | .error e => .error e
    | .ok a =>
      match entries read xs with
      | .error e => .error e
      | .ok as => .ok ((k, a) :: as)

/-- Reads an object whose members are values of one type. -/
def map {α : Type} (read : Reader α) : Reader (StringMap α)
  | .obj ms => (entries read ms).map StringMap.ofList
  | j => .error (.invalidType (found j) "a map")

/-- Reads a value that may be `null`. -/
def nullable {α : Type} (read : Reader α) : Reader (Option α)
  | .null => .ok none
  | j => (read j).map some

/-- Reads one of some words, given as a text or as an object with that one member and no value. -/
def variant {α : Type} (known : List (String × α)) : Reader α := fun j =>
  let pick : String → Except Error α := fun w =>
    match known.lookup w with
    | some a => .ok a
    | none => .error (.unknownVariant w (known.map (·.1)))
  match j with
  | .str w => pick w
  | .obj [(w, v)] =>
    match pick w, v with
    | .error e, _ => .error e
    | .ok a, .null => .ok a
    | .ok _, v => .error (.invalidType (found v) "unit")
  | .obj _ => .error (.invalidValue .map "map with a single key")
  | j => .error (.invalidType (found j) "string or map")

/-! ## Records -/

/-- Where the fields of a record come from: members by name, or elements by place. -/
inductive Source where
  | members (ms : List (String × Json))
  | elements (xs : List Json) (expected : String)

/-- What the reading of some fields has come to. -/
inductive Reading (α : Type) where
  | ok (a : α)
  | missing (field : String)
  | bad (field : String) (e : Error)

/-- The malformed field with the lesser name wins, then the first missing one. -/
def Reading.and {α β : Type} (f : Reading (α → β)) (x : Reading α) : Reading β :=
  match f, x with
  | .ok f, .ok a => .ok (f a)
  | .ok _, .missing n => .missing n
  | .ok _, .bad k e => .bad k e
  | .missing _, .bad k e => .bad k e
  | .missing n, _ => .missing n
  | .bad k e, .bad k' e' => if k' < k then .bad k' e' else .bad k e
  | .bad k e, _ => .bad k e

/-- The record, or the error to report. -/
def Reading.result {α : Type} : Reading α → Except Error α
  | .ok a => .ok a
  | .missing n => .error (.missingField n)
  | .bad _ e => .error e

/-- Reads the `i`-th field, of name `name`; `absent` stands for it where an object has no such member, `short`
where an array ends before it. -/
def Source.field {α : Type} (s : Source) (i : Nat) (name : String) (read : Reader α)
    (absent short : Option α) : Reading α :=
  match s with
  | .members ms =>
    match StringMap.find name ms with
    | some j => match read j with | .ok a => .ok a | .error e => .bad name e
    | none => match absent with | some a => .ok a | none => .missing name
  | .elements xs expected =>
    match xs[i]? with
    | some j => match read j with | .ok a => .ok a | .error e => .bad "" e
    | none => match short with | some a => .ok a | none => .bad "" (.invalidLength i expected)

/-- A field that has to be there. -/
def Source.required {α : Type} (s : Source) (i : Nat) (name : String) (read : Reader α) : Reading α :=
  s.field i name read none none

/-- A field with a value of its own for when it is not there. -/
def Source.defaulted {α : Type} (s : Source) (i : Nat) (name : String) (read : Reader α) (a : α) :
    Reading α :=
  s.field i name read (some a) (some a)

/-- A field that may be `null` or not be there. -/
def Source.optional {α : Type} (s : Source) (i : Nat) (name : String) (read : Reader α) :
    Reading (Option α) :=
  s.field i name (nullable read) (some none) (some none)

/-- Reads a record of `size` fields. -/
def record {α : Type} (title : String) (size : Nat) (build : Source → Reading α) : Reader α
  | .obj ms => (build (.members ms)).result
  | .arr xs =>
    let expected := "struct " ++ title ++ " with " ++ toString size ++ (if size = 1 then " element" else " elements")
    match (build (.elements xs expected)).result with
    | .error e => .error e
    | .ok a =>
      if size < xs.length then .error (.invalidLength xs.length "fewer elements in array") else .ok a
  | j => .error (.invalidType (found j) ("struct " ++ title))

/-- Reads a record that is an object and no array. -/
def object {α : Type} (title : String) (build : Source → Reading α) : Reader α
  | .obj ms => (build (.members ms)).result
  | j => .error (.invalidType (found j) ("struct " ++ title))

/-- Reads a record of the platform: an object only, in which a member that is `null` counts as absent. -/
def platform {α : Type} (title : String) (build : Source → Reading α) : Reader α
  | .obj ms =>
    (build (.members (ms.filter fun m => match m.2 with | .null => false | _ => true))).result
  | j => .error (.invalidType (found j) title)

/-! ## Lemmas -/

@[simp] theorem Reading.result_ok {α : Type} (a : α) : (Reading.ok a).result = .ok a := rfl

@[simp] theorem Reading.ok_and_ok {α β : Type} (f : α → β) (a : α) :
    (Reading.ok f).and (.ok a) = .ok (f a) := rfl

/-- A member that is there and reads well is the field. -/
theorem Source.field_of_find {α : Type} {ms : List (String × Json)} {i : Nat} {name : String}
    {read : Reader α} {absent short : Option α} {j : Json} {a : α}
    (hf : StringMap.find name ms = some j) (hr : read j = .ok a) :
    (Source.members ms).field i name read absent short = .ok a := by
  simp [Source.field, hf, hr]

/-- A member that is not there gives the field its own value. -/
theorem Source.field_of_find_none {α : Type} {ms : List (String × Json)} {i : Nat} {name : String}
    {read : Reader α} {a : α} {short : Option α} (hf : StringMap.find name ms = none) :
    (Source.members ms).field i name read (some a) short = .ok a := by
  simp [Source.field, hf]

/-- Reading a list of written values gives the values back. -/
theorem each_map {α : Type} {read : Reader α} {write : α → Json} {l : List α}
    (h : ∀ a ∈ l, read (write a) = .ok a) : each read (l.map write) = .ok l := by
  induction l with
  | nil => rfl
  | cons a l ih =>
    rw [List.map_cons, each, h a List.mem_cons_self, ih fun b hb => h b (List.mem_cons_of_mem _ hb)]

/-- Reading written entries gives the entries back. -/
theorem entries_map {α : Type} {read : Reader α} {write : α → Json} {l : List (String × α)}
    (h : ∀ e ∈ l, read (write e.2) = .ok e.2) :
    entries read (l.map fun e => (e.1, write e.2)) = .ok l := by
  induction l with
  | nil => rfl
  | cons a l ih =>
    rw [List.map_cons, entries, h a List.mem_cons_self, ih fun b hb => h b (List.mem_cons_of_mem _ hb)]

/-- A map of texts reads back as itself. -/
theorem map_stringMap (m : StringMap String) : map string (Json.stringMap m) = .ok m := by
  have h : entries string (m.entries.map fun e => (e.1, Json.str e.2)) = .ok m.entries :=
    entries_map fun _ _ => rfl
  show (entries string (m.entries.map fun e => (e.1, Json.str e.2))).map StringMap.ofList = .ok m
  rw [h, Except.map, StringMap.ofList_entries]

/-- A list of texts reads back as itself. -/
theorem list_strings (l : List String) : list string (Json.strings l) = .ok l :=
  each_map fun _ _ => rfl

end Decode

end ProfilingOperator
