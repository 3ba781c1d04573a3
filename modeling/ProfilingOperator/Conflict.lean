import ProfilingOperator.Job.Basic

/-!
# Conflicts between jobs

A pod claimed by another job of the namespace that is not done with may not be claimed again.  The check sees what
is stored: two jobs looked at before either has stored its claim both pass it.

    detect_eq_none_iff : no rival among the jobs claims a target
-/

namespace ProfilingOperator

/-- A target pod that another job claims. -/
structure Conflict where
  /-- The contested pod. -/
  pod : String
  /-- The job that holds the claim. -/
  owner : String
  deriving DecidableEq

namespace Conflict

def message (c : Conflict) : String :=
  "Pod " ++ c.pod ++ " is already being profiled by PowerTool " ++ c.owner

/-- Whether two jobs are the same: by unique id where both have one, by name and namespace otherwise. -/
def sameJob (a b : Job) : Bool :=
  match a.metadata.uid, b.metadata.uid with
  | some x, some y => x = y
  | _, _ => a.name = b.name && a.space = b.space

/-- Whether a job can stand in the way of another: it is a different one of the same namespace and not done with. -/
def rivals (job other : Job) : Bool :=
  !sameJob job other && other.space = job.space && !other.isTerminal

/-- The conflict with one job: the first target, in target order, that it claims. -/
def withJob (targets : List String) (other : Job) : Option Conflict :=
  (targets.find? fun t => other.claims.contains t).map fun t => ⟨t, other.name⟩

/-- The first conflict, in the order of the jobs. -/
def detect (job : Job) (targets : List String) (others : List Job) : Option Conflict :=
  (others.filter (rivals job)).findSome? (withJob targets)

/-! ## Lemmas -/

/-- Jobs of different names and ids are different ones. -/
theorem sameJob_eq_false {a b : Job} (hname : a.name ≠ b.name)
    (hid : ∀ u, a.metadata.uid = some u → b.metadata.uid ≠ some u) : sameJob a b = false := by
  unfold sameJob
  split
  · next x y hx hy =>
    apply decide_eq_false
    rintro rfl
    exact hid x hx hy
  · rw [Bool.and_eq_false_iff]
    exact .inl (decide_eq_false hname)

theorem rivals_iff {job other : Job} :
    rivals job other = true ↔ sameJob job other = false ∧ other.space = job.space ∧ other.isTerminal = false := by
  simp [rivals, and_assoc]

theorem withJob_eq_none_iff {targets : List String} {other : Job} :
    withJob targets other = none ↔ ∀ t ∈ targets, t ∉ other.claims := by
  simp [withJob]

/-- There is no conflict exactly if no rival among the jobs claims a target. -/
theorem detect_eq_none_iff {job : Job} {targets : List String} {others : List Job} :
    detect job targets others = none ↔
      ∀ other ∈ others, rivals job other = true → ∀ t ∈ targets, t ∉ other.claims := by
  rw [detect, List.findSome?_eq_none_iff]
  constructor
  · intro h other ho hr
    exact withJob_eq_none_iff.1 (h other (List.mem_filter.2 ⟨ho, hr⟩))
  · intro h other ho
    obtain ⟨ho, hr⟩ := List.mem_filter.1 ho
    exact withJob_eq_none_iff.2 (h other ho hr)

end Conflict

end ProfilingOperator
