import Mathlib.Tactic.SplitIfs
import ProfilingOperator.Proofs.Ending

/-!
# Which pods a selector picks

A selector is lowered to one list of requirements before it is used.  Here is said without that list which selectors
there are and which labels one picks: `WellFormed` and `Selects` follow the selector as it was written, and the
operators are the words they are written with.

    WellFormed s : keys that are not empty, known operators, and values where there have to be some
    Selects s labels : every pair is among the labels and every expression holds of them

Lowering loses nothing of it, and a job's targets are what its selector picks of the pods that are listed:

    exists_compile_iff : (∃ c, compile s = .ok c) ↔ s.WellFormed
    accepts_iff_selects : compile s = .ok c → (c.accepts labels = true ↔ s.Selects labels)
    resolution_exact : pods are asked for exactly with a well-formed selector, and those it selects are kept in order
-/

namespace ProfilingOperator

namespace Selector

/-! ## What a selector says -/

/-- An expression of a selector that can be used. -/
def Expression.WellFormed (e : Expression) : Prop :=
  e.key ≠ "" ∧
    ((e.operator = "In" ∨ e.operator = "NotIn") ∧ e.values ≠ [] ∨
      (e.operator = "Exists" ∨ e.operator = "DoesNotExist") ∧ e.values = [])

/-- A selector that can be used. -/
def WellFormed (s : Selector) : Prop :=
  (∀ pair ∈ s.matchLabels.entries, pair.1 ≠ "") ∧ ∀ e ∈ s.matchExpressions, e.WellFormed

/-- An expression that holds of labels. -/
inductive Expression.Holds (labels : StringMap String) : Expression → Prop where
  | isIn {key value : String} {values : List String} (carried : labels.get? key = some value)
      (listed : value ∈ values) :
      Holds labels ⟨key, "In", values⟩
  | notIn {key value : String} {values : List String} (carried : labels.get? key = some value)
      (unlisted : value ∉ values) :
      Holds labels ⟨key, "NotIn", values⟩
  | notCarried {key : String} {values : List String} (lacking : labels.get? key = none) :
      Holds labels ⟨key, "NotIn", values⟩
  | present {key value : String} {values : List String} (carried : labels.get? key = some value) :
      Holds labels ⟨key, "Exists", values⟩
  | absent {key : String} {values : List String} (lacking : labels.get? key = none) :
      Holds labels ⟨key, "DoesNotExist", values⟩

/-- Labels that a selector picks. -/
def Selects (s : Selector) (labels : StringMap String) : Prop :=
  (∀ pair ∈ s.matchLabels.entries, labels.get? pair.1 = some pair.2) ∧ ∀ e ∈ s.matchExpressions, e.Holds labels

/-! ## Lemmas -/

/-! ### Lists of requirements -/

section
variable {α : Type} {lower : α → Except Fault Requirement} {l : List α}

theorem exists_compileAll_iff : (∃ qs, compileAll lower l = .ok qs) ↔ ∀ a ∈ l, ∃ q, lower a = .ok q := by
  simp only [compileAll_eq_ok_iff]
  constructor
  · rintro ⟨qs, hqs⟩ a ha
    have hmem : lower a ∈ qs.map Except.ok := hqs ▸ List.mem_map_of_mem ha
    obtain ⟨q, -, hq⟩ := List.mem_map.1 hmem
    exact ⟨q, hq.symm⟩
  · intro h
    induction l with
    | nil => exact ⟨[], rfl⟩
    | cons a l ih =>
      obtain ⟨ha, hl⟩ := List.forall_mem_cons.1 h
      obtain ⟨q, hq⟩ := ha
      obtain ⟨qs, hqs⟩ := ih hl
      exact ⟨q :: qs, by rw [List.map_cons, List.map_cons, hq, hqs]⟩

/-- Every requirement was lowered from something. -/
theorem exists_of_compileAll {qs : List Requirement} (h : compileAll lower l = .ok qs) :
    ∀ q ∈ qs, ∃ a ∈ l, lower a = .ok q := by
  rw [compileAll_eq_ok_iff] at h
  intro q hq
  have hmem : Except.ok q ∈ l.map lower := h ▸ List.mem_map_of_mem hq
  exact List.mem_map.1 hmem

/-- What holds of each requirement is what holds of each thing it was lowered from. -/
theorem forall_of_compileAll {qs : List Requirement} {P : Requirement → Prop} {Q : α → Prop}
    (h : compileAll lower l = .ok qs) (hlower : ∀ a q, lower a = .ok q → (P q ↔ Q a)) :
    (∀ q ∈ qs, P q) ↔ ∀ a ∈ l, Q a := by
  constructor
  · intro hqs a ha
    have hmem : lower a ∈ qs.map Except.ok := compileAll_eq_ok_iff.1 h ▸ List.mem_map_of_mem ha
    obtain ⟨q, hq, hok⟩ := List.mem_map.1 hmem
    exact (hlower a q hok.symm).1 (hqs q hq)
  · intro hl q hq
    obtain ⟨a, ha, hok⟩ := exists_of_compileAll h q hq
    exact (hlower a q hok).2 (hl a ha)

end

/-! ### Pairs and expressions -/

theorem Operator.word_injective {op op' : Operator} (h : op.word = op'.word) : op = op' := by
  have hread := congrArg Operator.ofWord? h
  rwa [Operator.ofWord?_word, Operator.ofWord?_word, Option.some.injEq] at hread

theorem compilePair_eq_ok_iff {pair : String × String} {q : Requirement} :
    compilePair pair = .ok q ↔ pair.1 ≠ "" ∧ q = ⟨pair.1, .isIn, [pair.2]⟩ := by
  unfold compilePair
  split
  · next hempty => simp [hempty]
  · next hkey => simp [hkey, eq_comm]

theorem compileExpression_eq_ok_iff {e : Expression} {q : Requirement} :
    compileExpression e = .ok q ↔
      e.key ≠ "" ∧ ∃ op : Operator, e.operator = op.word ∧ (op.takesValues = true ↔ e.values ≠ []) ∧
        q = ⟨e.key, op, e.values⟩ := by
  unfold compileExpression
  split
  · next hempty => simp [hempty]
  · next hkey =>
    constructor
    · intro h
      refine ⟨hkey, ?_⟩
      cases hop : Operator.ofWord? e.operator with
      | none =>
        rw [hop] at h
        cases h
      | some op =>
        rw [hop] at h
        dsimp only at h
        split_ifs at h with hrequired hrefused
        refine ⟨op, Operator.ofWord?_eq_some_iff.1 hop, ?_, (Except.ok.inj h).symm⟩
        cases htakes : op.takesValues <;> simp_all
    · rintro ⟨-, op, hword, hvalues, rfl⟩
      rw [Operator.ofWord?_eq_some_iff.2 hword]
      dsimp only
      cases htakes : op.takesValues <;> simp_all

theorem wellFormed_iff {e : Expression} :
    e.WellFormed ↔ e.key ≠ "" ∧ ∃ op : Operator, e.operator = op.word ∧ (op.takesValues = true ↔ e.values ≠ []) := by
  refine and_congr_right fun _ => ⟨?_, ?_⟩
  · rintro (⟨hword | hword, hvalues⟩ | ⟨hword | hword, hvalues⟩)
    · exact ⟨.isIn, hword, by simp [Operator.takesValues, hvalues]⟩
    · exact ⟨.notIn, hword, by simp [Operator.takesValues, hvalues]⟩
    · exact ⟨.present, hword, by simp [Operator.takesValues, hvalues]⟩
    · exact ⟨.absent, hword, by simp [Operator.takesValues, hvalues]⟩
  · rintro ⟨op, hword, hvalues⟩
    cases op with
    | isIn => exact .inl ⟨.inl hword, hvalues.1 rfl⟩
    | notIn => exact .inl ⟨.inr hword, hvalues.1 rfl⟩
    | present => exact .inr ⟨.inl hword, by simpa [Operator.takesValues] using hvalues⟩
    | absent => exact .inr ⟨.inr hword, by simpa [Operator.takesValues] using hvalues⟩

theorem exists_compileExpression_iff {e : Expression} : (∃ q, compileExpression e = .ok q) ↔ e.WellFormed := by
  simp only [compileExpression_eq_ok_iff, wellFormed_iff]
  constructor
  · rintro ⟨q, hkey, op, hword, hvalues, -⟩
    exact ⟨hkey, op, hword, hvalues⟩
  · rintro ⟨hkey, op, hword, hvalues⟩
    exact ⟨_, hkey, op, hword, hvalues, rfl⟩

theorem accepts_pair_iff {pair : String × String} {q : Requirement} {labels : StringMap String}
    (h : compilePair pair = .ok q) : q.accepts labels = true ↔ labels.get? pair.1 = some pair.2 := by
  obtain ⟨-, rfl⟩ := compilePair_eq_ok_iff.1 h
  unfold Requirement.accepts
  cases hvalue : labels.get? pair.1 with
  | none => simp [Operator.accepts]
  | some value => simp [Operator.accepts]

/-- An operator decides on a label as the expression that is written with its word. -/
theorem accepts_expression_iff {e : Expression} {q : Requirement} {labels : StringMap String}
    (h : compileExpression e = .ok q) : q.accepts labels = true ↔ e.Holds labels := by
  obtain ⟨-, op, hword, -, rfl⟩ := compileExpression_eq_ok_iff.1 h
  obtain ⟨key, operator, values⟩ := e
  subst hword
  unfold Requirement.accepts
  constructor
  · intro haccepts
    cases hvalue : labels.get? key with
    | none =>
      rw [hvalue] at haccepts
      cases op with
      | isIn => cases haccepts
      | notIn => exact .notCarried hvalue
      | present => cases haccepts
      | absent => exact .absent hvalue
    | some value =>
      rw [hvalue] at haccepts
      cases op with
      | isIn => exact .isIn hvalue (by simpa [Operator.accepts] using haccepts)
      | notIn => exact .notIn hvalue (by simpa [Operator.accepts] using haccepts)
      | present => exact .present hvalue
      | absent => cases haccepts
  · intro hholds
    generalize hword : op.word = word at hholds
    cases hholds with
    | isIn carried listed =>
      obtain rfl : op = .isIn := Operator.word_injective hword
      simpa [carried, Operator.accepts] using listed
    | notIn carried unlisted =>
      obtain rfl : op = .notIn := Operator.word_injective hword
      simpa [carried, Operator.accepts] using unlisted
    | notCarried lacking =>
      obtain rfl : op = .notIn := Operator.word_injective hword
      simp [lacking, Operator.accepts]
    | present carried =>
      obtain rfl : op = .present := Operator.word_injective hword
      simp [carried, Operator.accepts]
    | absent lacking =>
      obtain rfl : op = .absent := Operator.word_injective hword
      simp [lacking, Operator.accepts]

/-! ### Selectors -/

theorem compile_eq_ok_iff {s : Selector} {c : Compiled} :
    compile s = .ok c ↔ ∃ pairs expressions, compileAll compilePair s.matchLabels.entries = .ok pairs ∧
      compileAll compileExpression s.matchExpressions = .ok expressions ∧ c = ⟨pairs ++ expressions⟩ := by
  unfold compile
  cases compileAll compilePair s.matchLabels.entries with
  | error f => simp
  | ok pairs =>
    cases compileAll compileExpression s.matchExpressions with
    | error f => simp
    | ok expressions => simp [eq_comm]

/-- A selector is compiled exactly if it is well-formed. -/
theorem exists_compile_iff {s : Selector} : (∃ c, compile s = .ok c) ↔ s.WellFormed := by
  have hpairs : (∃ pairs, compileAll compilePair s.matchLabels.entries = .ok pairs) ↔
      ∀ pair ∈ s.matchLabels.entries, pair.1 ≠ "" := by
    simp [exists_compileAll_iff, compilePair_eq_ok_iff]
  have hexpressions : (∃ expressions, compileAll compileExpression s.matchExpressions = .ok expressions) ↔
      ∀ e ∈ s.matchExpressions, e.WellFormed := by
    simp only [exists_compileAll_iff, exists_compileExpression_iff]
  unfold WellFormed
  rw [← hpairs, ← hexpressions]
  constructor
  · rintro ⟨c, hc⟩
    obtain ⟨pairs, expressions, hp, he, -⟩ := compile_eq_ok_iff.1 hc
    exact ⟨⟨pairs, hp⟩, ⟨expressions, he⟩⟩
  · rintro ⟨⟨pairs, hp⟩, ⟨expressions, he⟩⟩
    exact ⟨_, compile_eq_ok_iff.2 ⟨pairs, expressions, hp, he, rfl⟩⟩

theorem accepts_iff_selects {s : Selector} {c : Compiled} {labels : StringMap String} (h : compile s = .ok c) :
    c.accepts labels = true ↔ s.Selects labels := by
  obtain ⟨pairs, expressions, hp, he, rfl⟩ := compile_eq_ok_iff.1 h
  have hpairs := forall_of_compileAll hp fun pair q hq => @accepts_pair_iff pair q labels hq
  have hexpressions := forall_of_compileAll he fun e q hq => @accepts_expression_iff e q labels hq
  rw [Compiled.accepts_eq_true_iff, List.forall_mem_append, hpairs, hexpressions]
  rfl

theorem not_wellFormed_of_error {s : Selector} {fault : Fault} (h : compile s = .error fault) : ¬s.WellFormed := by
  rw [← exists_compile_iff]
  rintro ⟨c, hc⟩
  rw [h] at hc
  cases hc

/-! ## Targets -/

/-- A selector compiles if it is well-formed, and then decides on labels as it says.  The targets of a selector that
is not there are none, and one that is not well-formed fails, both without a list of pods; else one list is asked for,
and of it those that are selected are kept in their order. -/
theorem resolution_exact :
    (∀ s : Selector, s.WellFormed ↔
      ∃ c, compile s = .ok c ∧ ∀ labels, c.accepts labels = true ↔ s.Selects labels) ∧
    ∀ (space : String) (selector : Option Selector) (log : List Answered) (o : Pass.Outcome (List Pod)),
      (Targets.resolve space selector).Ends log o ↔
        (selector = none ∧ log = [] ∧ o = .done []) ∨
        (∃ s fault, selector = some s ∧ ¬s.WellFormed ∧ compile s = .error fault ∧ log = [] ∧
          o = .failed (.invalidSelector fault.message)) ∨
        ∃ (s : Selector) (c : Compiled) (reply : Except Pass.Failure (List Pod)) (picks : Pod → Bool),
          selector = some s ∧ s.WellFormed ∧ compile s = .ok c ∧ log = [⟨.listPods space c.query, reply⟩] ∧
            (∀ p, picks p = true ↔ s.Selects p.labels) ∧ o = .ofReply (reply.map fun pods => pods.filter picks) := by
  refine ⟨fun s => ?_, fun space selector log o => ?_⟩
  · rw [← exists_compile_iff]
    exact exists_congr fun c => ⟨fun hc => ⟨hc, fun labels => accepts_iff_selects hc⟩, And.left⟩
  · rw [Pass.ends_resolve]
    refine or_congr_right (or_congr ⟨?_, ?_⟩ ⟨?_, ?_⟩)
    · rintro ⟨s, fault, hs, hfault, hlog, ho⟩
      exact ⟨s, fault, hs, not_wellFormed_of_error hfault, hfault, hlog, ho⟩
    · rintro ⟨s, fault, hs, -, hfault, hlog, ho⟩
      exact ⟨s, fault, hs, hfault, hlog, ho⟩
    · rintro ⟨s, c, reply, hs, hc, hlog, ho⟩
      exact ⟨s, c, reply, fun p => c.accepts p.labels, hs, exists_compile_iff.1 ⟨c, hc⟩, hc, hlog,
        fun p => accepts_iff_selects hc, ho⟩
    · rintro ⟨s, c, reply, picks, hs, -, hc, hlog, hpicks, ho⟩
      have hsame : picks = fun p => c.accepts p.labels :=
        funext fun p => Bool.eq_iff_iff.2 ((hpicks p).trans (accepts_iff_selects hc).symm)
      subst hsame
      exact ⟨s, c, reply, hs, hc, hlog, ho⟩

end Selector

end ProfilingOperator
