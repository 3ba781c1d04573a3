import ProfilingOperator.Pod.Basic
import ProfilingOperator.Job.Basic

/-!
# Lifecycle of diagnostic containers

A job has one container in each of its pods, of a name that identifies the job.  What is to be done for a pod follows
from whether the job claims it and from the state of the container there; a plan does this for all resolved pods.

    observe_eq_absent_iff : p.observe c = .absent ↔ p.declares c = false
    decide_eq_create_iff : Decision.decide tracked o = .create ↔ o = .absent
-/

namespace ProfilingOperator

/-- The first eight scalars of a unique id. -/
def Job.shortUid (uid : String) : String :=
  String.ofList (uid.toList.take 8)

def Job.containerName (job uid : String) : String :=
  "powertool-" ++ job ++ "-" ++ shortUid uid

/-- The state of a named ephemeral container in a pod. -/
inductive Observation where
  /-- The pod does not declare it. -/
  | absent
  /-- It runs, waits, or was not reported yet. -/
  | running
  /-- It has ended. -/
  | finished
  deriving DecidableEq, Repr

/-- What is to be done for a pod. -/
inductive Decision where
  /-- The claimed container still runs. -/
  | keep
  /-- The claimed container has ended: drop the claim. -/
  | release
  /-- The container runs without a claim: claim it. -/
  | adopt
  /-- The container ended without a claim: leave the pod alone. -/
  | alreadyFinished
  /-- There is no container: create one. -/
  | create
  deriving DecidableEq, Repr

/-- What a pass does to the pods: the claims it goes on with, and the pods to create a container in, with their
places. -/
structure Plan where
  active : StringMap String
  create : List (Pod × Nat)

/-! ## Observing -/

/-- Whether a report says that a container runs or waits. -/
def ContainerReport.isLive (r : ContainerReport) : Bool :=
  r.running.isSome || r.waiting.isSome

/-- The state of an ephemeral container: as declared, and then as its first report says. -/
def Pod.observe (p : Pod) (container : String) : Observation :=
  if p.declares container then
    match p.ephemeralStatuses.find? fun s => s.name = container with
    | none => .running
    | some s => if s.state.any ContainerReport.isLive then .running else .finished
  else .absent

/-! ## Deciding -/

/-- The decision for a pod, claimed or not, in whose container a state is observed. -/
def Decision.decide (tracked : Bool) (o : Observation) : Decision :=
  match tracked, o with
  | true, .running => .keep
  | true, .finished => .release
  | _, .absent => .create
  | false, .running => .adopt
  | false, .finished => .alreadyFinished

/-! ## Planning -/

/-- The plan with one more pod.  A claimed pod is looked at under the container name of its claim. -/
def Plan.step (prior : StringMap String) (container : String) (plan : Plan) (entry : Pod × Nat) : Plan :=
  let name := entry.1.name
  let claim := prior.get? name
  let observed := claim.getD container
  match Decision.decide claim.isSome (entry.1.observe observed) with
  | .keep => ⟨plan.active.insert name observed, plan.create⟩
  | .adopt => ⟨plan.active.insert name container, plan.create⟩
  | .create => ⟨plan.active, plan.create ++ [entry]⟩
  | .release | .alreadyFinished => plan

/-- The plan for resolved pods, from the claims before.  Claims on other pods are dropped. -/
def Plan.of (prior : StringMap String) (pods : List Pod) (container : String) : Plan :=
  pods.zipIdx.foldl (Plan.step prior container) ⟨.empty, []⟩

/-! ## Lemmas -/

theorem Pod.observe_eq_absent_iff {p : Pod} {container : String} :
    p.observe container = .absent ↔ p.declares container = false := by
  unfold observe
  split
  · next h =>
    simp only [h, Bool.true_eq_false, iff_false]
    split
    · simp
    · split <;> simp
  · next h => simpa using h

theorem Decision.decide_eq_create_iff {tracked : Bool} {o : Observation} :
    decide tracked o = .create ↔ o = .absent := by
  cases tracked <;> cases o <;> simp [decide]

end ProfilingOperator
