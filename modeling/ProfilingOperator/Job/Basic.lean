import ProfilingOperator.Condition
import ProfilingOperator.Resources
import ProfilingOperator.Selector.Basic

/-!
# Profiling jobs

A job asks for a tool to be attached to every pod its selector picks, for a bounded time, and reports its progress
pod by pod in its status.

    isTerminal_iff : j.isTerminal = true ↔ j.phase = some .completed ∨ j.phase = some .failed
-/

namespace ProfilingOperator

/-- Where a job stands. -/
inductive Job.Phase where
  | pending
  | running
  | conflicted
  | completed
  | failed
  deriving DecidableEq, Repr

/-- Where the results of a tool go. -/
inductive Job.OutputMode where
  | ephemeral
  | volume
  | collector
  deriving DecidableEq, Repr

/-- The volume results are written to, by the name of its volume claim, and the directory in it. -/
structure Job.VolumeOutput where
  claimName : String
  path : Option String
  deriving DecidableEq

/-- The collector results are uploaded to. -/
structure Job.CollectorOutput where
  endpoint : String
  deriving DecidableEq

/-- Where results go, with the section each mode needs. -/
structure Job.Output where
  mode : Job.OutputMode
  volume : Option Job.VolumeOutput
  collector : Option Job.CollectorOutput
  deriving DecidableEq

/-- Which pods are targets, and which container of them. -/
structure Job.Targets where
  selector : Option Selector
  container : Option String
  deriving DecidableEq

/-- Which tool to run, for how long and how. -/
structure Job.ToolRequest where
  name : String
  duration : String
  args : Option (List String)
  resources : Option Resources
  deriving DecidableEq

/-- What a job asks for. -/
structure Job.Spec where
  targets : Job.Targets
  tool : Job.ToolRequest
  output : Job.Output
  deriving DecidableEq

/-- What is reported of a job. -/
structure Job.Status where
  /-- Unset until the first pass. -/
  phase : Option Job.Phase
  /-- Pods picked in the last pass. -/
  selectedPods : Nat
  /-- Picked pods without a claim. -/
  completedPods : Nat
  /-- The claims: pod name to the name of its diagnostic container. -/
  activePods : StringMap String
  conditions : List Condition
  startedAt : Option Stamp
  finishedAt : Option Stamp
  lastError : Option String
  deriving DecidableEq

/-- A profiling job. -/
structure Job where
  metadata : Metadata
  spec : Job.Spec
  status : Option Job.Status
  deriving DecidableEq

namespace Job

/-- Completed and failed jobs are done with. -/
def Phase.isTerminal : Phase → Bool
  | .completed | .failed => true
  | .pending | .running | .conflicted => false

def Phase.word : Phase → String
  | .pending => "Pending"
  | .running => "Running"
  | .conflicted => "Conflicted"
  | .completed => "Completed"
  | .failed => "Failed"

def OutputMode.word : OutputMode → String
  | .ephemeral => "ephemeral"
  | .volume => "pvc"
  | .collector => "collector"

/-- Output that stays in the container. -/
def Output.stay : Output := ⟨.ephemeral, none, none⟩

/-- The status of a job no pass has seen. -/
def Status.initial : Status := ⟨none, 0, 0, .empty, [], none, none, none⟩

/-- The phase of a job, unset before its first pass. -/
def phase (j : Job) : Option Phase :=
  j.status.bind (·.phase)

/-- The pods a job claims, in order. -/
def claims (j : Job) : List String :=
  match j.status with
  | some s => s.activePods.keys
  | none => []

/-- Whether a job is done with. -/
def isTerminal (j : Job) : Bool :=
  j.phase.any Phase.isTerminal

def name (j : Job) : String :=
  j.metadata.displayName

def space (j : Job) : Option String :=
  j.metadata.space

def withStatus (j : Job) (s : Status) : Job :=
  ⟨j.metadata, j.spec, some s⟩

/-! ## Lemmas -/

theorem isTerminal_iff {j : Job} :
    j.isTerminal = true ↔ j.phase = some .completed ∨ j.phase = some .failed := by
  unfold isTerminal
  cases h : j.phase with
  | none => simp
  | some p => cases p <;> simp [Phase.isTerminal]

@[simp] theorem phase_withStatus (j : Job) (s : Status) : (j.withStatus s).phase = s.phase := rfl

end Job

end ProfilingOperator
