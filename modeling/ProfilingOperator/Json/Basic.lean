import ProfilingOperator.Decimal.Shortest
import ProfilingOperator.StringMap

/-!
# JSON values

The value type of the documents the operator reads and writes.  A number is whole or a decimal; the members of
an object stand in ascending key order, one a key, when the object is built by `Json.object`.

    member?_object : (object fields).member? k = lastGiven k none fields
-/

namespace ProfilingOperator

/-- A JSON number: whole, or held as a decimal. -/
inductive Json.Number where
  | whole (n : Int)
  | real (d : Decimal)
  deriving DecidableEq, Repr

/-- A JSON value. -/
inductive Json where
  | null
  | bool (b : Bool)
  | num (n : Json.Number)
  | str (s : String)
  | arr (elements : List Json)
  | obj (members : List (String × Json))
  deriving Repr

namespace Json

instance : Inhabited Json := ⟨null⟩

/-! ## Building -/

def nat (n : Nat) : Json :=
  .num (.whole n)

/-- The members that are present, in key order; of two with one key the later stands. -/
def members (fields : List (String × Option Json)) : List (String × Json) :=
  fields.foldl (fun l f => match f.2 with | some v => StringMap.place f.1 v l | none => l) []

/-- An object with the members that are present. -/
def object (fields : List (String × Option Json)) : Json :=
  .obj (members fields)

def strings (l : List String) : Json :=
  .arr (l.map .str)

def stringMap (m : StringMap String) : Json :=
  .obj (m.entries.map fun e => (e.1, .str e.2))

/-! ## Looking in -/

/-- The member of a name, if the value is an object that has one. -/
def member? (j : Json) (name : String) : Option Json :=
  match j with
  | .obj ms => StringMap.find name ms
  | _ => none

/-- A member that is present and not `null`. -/
def given? (j : Json) (name : String) : Option Json :=
  match j.member? name with
  | some .null => none
  | other => other

/-! ## Lemmas -/

/-- The value a list of fields gives to a name: that of its last present field, or else `start`. -/
def lastGiven (k : String) (start : Option Json) : List (String × Option Json) → Option Json
  | [] => start
  | f :: r => lastGiven k (if k = f.1 then f.2.or start else start) r

theorem find_foldl_members (k : String) (fields : List (String × Option Json)) (l : List (String × Json)) :
    StringMap.find k
        (fields.foldl (fun l f => match f.2 with | some v => StringMap.place f.1 v l | none => l) l) =
      lastGiven k (StringMap.find k l) fields := by
  induction fields generalizing l with
  | nil => rfl
  | cons f r ih =>
    rw [List.foldl_cons, ih, lastGiven]
    congr 1
    cases hf : f.2 with
    | none => simp
    | some v =>
      by_cases hk : k = f.1
      · simp [hk, StringMap.find_place_self]
      · simp [hk, StringMap.find_place_of_ne v l hk]

/-- A member of a built object is the last present field of its name. -/
theorem member?_object (k : String) (fields : List (String × Option Json)) :
    (object fields).member? k = lastGiven k none fields :=
  find_foldl_members k fields []

end Json

end ProfilingOperator
