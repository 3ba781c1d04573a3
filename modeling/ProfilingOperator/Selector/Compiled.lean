import ProfilingOperator.Selector.Basic

/-!
# Compiled selectors

A selector that passed its checks is a list of requirements, one for each pair in key order and one for each
expression.  It decides on label maps, and it is written in the platform's query syntax.

    accepts_eq_true_iff : c.accepts labels = true ↔ ∀ r ∈ c.requirements, r.accepts labels = true
-/

namespace ProfilingOperator.Selector

/-- A checked requirement on one label. -/
structure Requirement where
  key : String
  operator : Operator
  values : List String
  deriving DecidableEq

/-- A checked selector. -/
structure Compiled where
  requirements : List Requirement
  deriving DecidableEq

/-- Why a selector does not compile. -/
inductive Fault where
  | emptyPairKey
  | emptyExpressionKey
  | unknownOperator (word : String)
  | valuesRequired (op : Operator) (key : String)
  | valuesRefused (op : Operator) (key : String)
  deriving DecidableEq

def Fault.message : Fault → String
  | .emptyPairKey => "matchLabels key must not be empty"
  | .emptyExpressionKey => "matchExpressions key must not be empty"
  | .unknownOperator w => Operator.unknown w
  | .valuesRequired op key => "operator " ++ op.word ++ " on key " ++ key ++ " requires values"
  | .valuesRefused op key => "operator " ++ op.word ++ " on key " ++ key ++ " takes no values"

/-! ## Compiling -/

def compilePair (pair : String × String) : Except Fault Requirement :=
  if pair.1 = "" then .error .emptyPairKey else .ok ⟨pair.1, .isIn, [pair.2]⟩

def compileExpression (e : Expression) : Except Fault Requirement :=
  if e.key = "" then .error .emptyExpressionKey
  else
    match Operator.ofWord? e.operator with
    | none => .error (.unknownOperator e.operator)
    | some op =>
      if op.takesValues && e.values.isEmpty then .error (.valuesRequired op e.key)
      else if !op.takesValues && !e.values.isEmpty then .error (.valuesRefused op e.key)
      else .ok ⟨e.key, op, e.values⟩

/-- The requirements of a list, up to the first one at fault. -/
def compileAll {α : Type} (compile : α → Except Fault Requirement) : List α → Except Fault (List Requirement)
  | [] => .ok []
  | a :: r =>
    match compile a with
    | .error f => .error f
    | .ok q =>
      match compileAll compile r with
      | .error f => .error f
      | .ok qs => .ok (q :: qs)

/-- Checks a selector: pairs in key order, then expressions as they stand. -/
def compile (s : Selector) : Except Fault Compiled :=
  match compileAll compilePair s.matchLabels.entries with
  | .error f => .error f
  | .ok pairs =>
    match compileAll compileExpression s.matchExpressions with
    | .error f => .error f
    | .ok expressions => .ok ⟨pairs ++ expressions⟩

/-! ## Deciding -/

def Requirement.accepts (r : Requirement) (labels : StringMap String) : Bool :=
  r.operator.accepts (labels.get? r.key) r.values

/-- Whether labels satisfy every requirement. -/
def Compiled.accepts (c : Compiled) (labels : StringMap String) : Bool :=
  c.requirements.all fun r => r.accepts labels

/-! ## Writing -/

def Requirement.query (r : Requirement) : String :=
  match r.operator, r.values with
  | .isIn, [v] => r.key ++ "=" ++ v
  | .isIn, vs => r.key ++ " in (" ++ ",".intercalate vs ++ ")"
  | .notIn, vs => r.key ++ " notin (" ++ ",".intercalate vs ++ ")"
  | .present, _ => r.key
  | .absent, _ => "!" ++ r.key

/-- A selector in query syntax. -/
def Compiled.query (c : Compiled) : String :=
  ",".intercalate (c.requirements.map Requirement.query)

/-! ## Matching labels -/

/-- What stands for the matching label when no pair of the selector is among the labels. -/
def unknownLabel : String := "unknown"

/-- The first pair of a selector, in key order, that labels carry, as `key-value`. -/
def matchingLabel (s : Option Selector) (labels : StringMap String) : String :=
  let pair := s.bind fun s => s.matchLabels.entries.find? fun e => labels.get? e.1 = some e.2
  match pair with
  | some e => e.1 ++ "-" ++ e.2
  | none => unknownLabel

/-! ## Lemmas -/

theorem Compiled.accepts_eq_true_iff {c : Compiled} {labels : StringMap String} :
    c.accepts labels = true ↔ ∀ r ∈ c.requirements, r.accepts labels = true := by
  simp [accepts]

theorem compileAll_eq_ok_iff {α : Type} {f : α → Except Fault Requirement} {l : List α}
    {qs : List Requirement} : compileAll f l = .ok qs ↔ l.map f = qs.map .ok := by
  induction l generalizing qs with
  | nil =>
    cases qs <;> simp [compileAll]
  | cons a r ih =>
    rw [compileAll]
    cases ha : f a with
    | error e => cases qs <;> simp [ha]
    | ok q =>
      cases hr : compileAll f r with
      | error e =>
        cases qs with
        | nil => simp
        | cons p ps =>
          have : ¬ r.map f = ps.map .ok := fun h => by rw [ih.2 h] at hr; cases hr
          simp [ha, this]
      | ok rs =>
        have hrs := ih.1 hr
        cases qs with
        | nil => simp
        | cons p ps =>
          simp only [Except.ok.injEq, List.cons.injEq, List.map_cons, ha, hrs]
          constructor
          · rintro ⟨rfl, rfl⟩; simp
          · rintro ⟨rfl, h⟩
            exact ⟨rfl, (List.map_inj_right fun _ _ h => Except.ok.inj h).1 h⟩

end ProfilingOperator.Selector
