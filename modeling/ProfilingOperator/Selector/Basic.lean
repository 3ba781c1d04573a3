import ProfilingOperator.Decode

/-!
# Label selectors

A selector picks pods by their labels: pairs a pod must carry and expressions over one label each.  An expression
keeps its operator as it was written, so that a misspelt one is reported on the job.  A selector without pairs and
expressions picks every pod.

    Operator.ofWord?_word : ofWord? op.word = some op
-/

namespace ProfilingOperator

/-- One expression over a label, as it was written. -/
structure Selector.Expression where
  key : String
  operator : String
  values : List String
  deriving DecidableEq

/-- A label selector, as it was written. -/
structure Selector where
  /-- Pairs a pod must carry. -/
  matchLabels : StringMap String
  /-- Expressions a pod must satisfy. -/
  matchExpressions : List Selector.Expression
  deriving DecidableEq

/-- The operators of expressions. -/
inductive Selector.Operator where
  | isIn
  | notIn
  | present
  | absent
  deriving DecidableEq, Repr

namespace Selector

/-! ## Operators -/

def Operator.word : Operator → String
  | .isIn => "In"
  | .notIn => "NotIn"
  | .present => "Exists"
  | .absent => "DoesNotExist"

def Operator.ofWord? (w : String) : Option Operator :=
  if w = "In" then some .isIn
  else if w = "NotIn" then some .notIn
  else if w = "Exists" then some .present
  else if w = "DoesNotExist" then some .absent
  else none

/-- What is said of a word that is no operator. -/
def Operator.unknown (w : String) : String :=
  "unknown label selector operator " ++ Text.quote w

/-- Whether an operator goes with a list of values. -/
def Operator.takesValues : Operator → Bool
  | .isIn | .notIn => true
  | .present | .absent => false

/-- Whether a label, absent or with a value, satisfies an operator with its values. -/
def Operator.accepts (op : Operator) (label : Option String) (values : List String) : Bool :=
  match op, label with
  | .isIn, some v => values.contains v
  | .isIn, none => false
  | .notIn, some v => !values.contains v
  | .notIn, none => true
  | .present, l => l.isSome
  | .absent, l => l.isNone

/-! ## JSON -/

def Expression.toJson (e : Expression) : Json :=
  .object [("key", some (.str e.key)), ("operator", some (.str e.operator)),
    ("values", if e.values.isEmpty then none else some (Json.strings e.values))]

def Expression.ofJson : Decode.Reader Expression :=
  Decode.record "LabelSelectorRequirement" 3 fun s =>
    (Decode.Reading.ok Expression.mk)
      |>.and (s.required 0 "key" Decode.string)
      |>.and (s.required 1 "operator" Decode.string)
      |>.and (s.defaulted 2 "values" (Decode.list Decode.string) [])

def toJson (s : Selector) : Json :=
  .object [("matchLabels", if s.matchLabels.isEmpty then none else some (Json.stringMap s.matchLabels)),
    ("matchExpressions",
      if s.matchExpressions.isEmpty then none else some (.arr (s.matchExpressions.map Expression.toJson)))]

def ofJson : Decode.Reader Selector :=
  Decode.record "LabelSelector" 2 fun s =>
    (Decode.Reading.ok Selector.mk)
      |>.and (s.defaulted 0 "matchLabels" (Decode.map Decode.string) .empty)
      |>.and (s.defaulted 1 "matchExpressions" (Decode.list Expression.ofJson) [])

/-! ## Lemmas -/

@[simp] theorem Operator.ofWord?_word (op : Operator) : Operator.ofWord? op.word = some op := by
  cases op <;> decide

theorem Operator.ofWord?_eq_some_iff {w : String} {op : Operator} :
    Operator.ofWord? w = some op ↔ w = op.word := by
  constructor
  · intro h
    simp only [ofWord?] at h
    split at h
    · next hw => rw [hw, ← Option.some.inj h]; rfl
    · split at h
      · next hw => rw [hw, ← Option.some.inj h]; rfl
      · split at h
        · next hw => rw [hw, ← Option.some.inj h]; rfl
        · split at h
          · next hw => rw [hw, ← Option.some.inj h]; rfl
          · cases h
  · rintro rfl
    exact ofWord?_word op

end Selector

end ProfilingOperator
