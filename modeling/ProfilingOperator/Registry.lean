/-!
# Where a tool is looked for

The registry is searched through an ordered list of scopes, each a fixed namespace or the one of the job.  A
namespace that two scopes come to is looked into once, at the place of the first.

    search_nodup : (search order own).Nodup
    mem_search_iff : n ∈ search order own ↔ ∃ s ∈ order, s.resolve own = n
-/

namespace ProfilingOperator.Registry

/-- One scope of the search. -/
inductive Scope where
  | space (name : String)
  | ofJob
  deriving DecidableEq, Repr

/-- The namespace of a scope for a job of namespace `own`. -/
def Scope.resolve (own : String) : Scope → String
  | .space n => n
  | .ofJob => own

/-- Adds a name to a list that does not have it. -/
def addNew (names : List String) (n : String) : List String :=
  if names.contains n then names else names ++ [n]

/-- The namespaces to look into, in order and without repeats. -/
def search (order : List Scope) (own : String) : List String :=
  (order.map (Scope.resolve own)).foldl addNew []

/-- The usual order: the operator's own namespace, then the job's. -/
def usual (system : String) : List Scope :=
  [.space system, .ofJob]

/-- What the first of some namespaces that has it gives; none is looked into after it. -/
def firstFound {m : Type → Type} [Monad m] {α : Type} (look : String → m (Option α)) :
    List String → m (Option α)
  | [] => pure none
  | n :: rest => do
    match ← look n with
    | some a => pure (some a)
    | none => firstFound look rest

/-! ## Lemmas -/

theorem mem_addNew {names : List String} {n m : String} : m ∈ addNew names n ↔ m ∈ names ∨ m = n := by
  unfold addNew
  split
  · next h =>
    have hn : n ∈ names := by simpa using h
    constructor
    · exact .inl
    · rintro (h | rfl)
      · exact h
      · exact hn
  · simp

theorem mem_foldl_addNew {names rest : List String} {m : String} :
    m ∈ rest.foldl addNew names ↔ m ∈ names ∨ m ∈ rest := by
  induction rest generalizing names with
  | nil => simp
  | cons n rest ih => rw [List.foldl_cons, ih, mem_addNew, List.mem_cons, or_assoc]

theorem nodup_addNew {names : List String} (h : names.Nodup) (n : String) : (addNew names n).Nodup := by
  unfold addNew
  split
  · exact h
  · next hn =>
    refine List.nodup_append.2 ⟨h, by simp, ?_⟩
    intro a ha b hb
    rw [List.mem_singleton.1 hb]
    rintro rfl
    exact hn (by simpa using ha)

theorem nodup_foldl_addNew {names : List String} (h : names.Nodup) (rest : List String) :
    (rest.foldl addNew names).Nodup := by
  induction rest generalizing names with
  | nil => exact h
  | cons n rest ih => exact ih (nodup_addNew h n)

/-- No namespace is looked into twice. -/
theorem search_nodup (order : List Scope) (own : String) : (search order own).Nodup :=
  nodup_foldl_addNew List.nodup_nil _

/-- Every namespace of the order is looked into, and no other. -/
theorem mem_search_iff {order : List Scope} {own n : String} :
    n ∈ search order own ↔ ∃ s ∈ order, s.resolve own = n := by
  simp [search, mem_foldl_addNew]

end ProfilingOperator.Registry
