import ProfilingOperator.Attachment
import ProfilingOperator.Lifecycle
import ProfilingOperator.Pass.Targets
import ProfilingOperator.Progress
import ProfilingOperator.Requeue

/-!
# A pass over a job

One pass reads the job again, looks up its tool, resolves its pods, makes way when another job claims one of them,
adds a diagnostic container to each pod that has none, and stores what came of it.

    unset → Pending → Running → Completed
                    ↘ Conflicted, until the other job is done with

A configuration error is recorded on the job and ends the pass.  A container that could not be added is told of and
tried again in the next pass, unless the job counts as completed by then.  A job that is done with gets no new
containers.
-/

namespace ProfilingOperator.Pass

/-! ## Steps of a pass -/

/-- What an upload to a collector needs: its endpoint, and a token that outlives the window. -/
def credentials (name : String) (output : Job.CollectorOutput) (window : Duration) : Pass (Option Collector) :=
  match Token.lifetime? window with
  | none => .crash Token.overflowMessage
  | some lifetime => do
    let token ← issueToken name lifetime
    return some ⟨output.endpoint, token⟩

/-- What a container of a job needs to upload results: nothing, unless results go to the collector. -/
def collector (job : Job) (name : String) : Pass (Option Collector) :=
  match job.spec.output.mode with
  | .ephemeral | .volume => .done none
  | .collector =>
    match job.spec.output.collector with
    | none => .fail (.invalidOutput "collector mode requires spec.output.collector")
    | some output =>
      match Duration.parse job.spec.tool.duration with
      | .error f => .fail (.invalidDuration job.spec.tool.duration f)
      | .ok window => credentials name output window

/-- Adds the container of a job to one pod. -/
def inject (job : Job) (tool : Tool.Spec) (container : String) (pod : Pod) : Pass Unit := do
  let access ← collector job job.name
  addContainer pod (Attachment.container job tool pod container access)
  publish ⟨.normal, "ContainerInjected", Event.inject,
    some ("Added " ++ container ++ " to pod " ++ pod.name), job.reference⟩

/-- What is said when the container of a pod could not be added. -/
def injectionMessage (pod : Pod) (f : Failure) : String :=
  "failed to add diagnostic container to pod " ++ pod.name ++ ": " ++ f.message

/-- Adds the container of a job to each of some pods.  A pod that gets it is claimed; of those that do not, the last
is remembered. -/
def injectAll (job : Job) (tool : Tool.Spec) (container : String) :
    List (Pod × Nat) → StringMap String → Option String → Pass (StringMap String × Option String)
  | [], active, trouble => .done (active, trouble)
  | entry :: rest, active, trouble => do
    match ← (inject job tool container entry.1).attempt with
    | .ok () => injectAll job tool container rest (active.insert entry.1.name container) trouble
    | .error f =>
      let message := injectionMessage entry.1 f
      publish ⟨.warning, "InjectionFailed", Event.inject, some message, job.reference⟩
      injectAll job tool container rest active (some message)

/-- The registry entry of a job's tool, if its namespace may use it. -/
def resolveTool (job : Job) (space : String) : Pass Tool.Spec := do
  let name := job.spec.tool.name
  match ← findTool name space with
  | none => .fail (.toolNotFound name (Tool.entryName name))
  | some tool =>
    if tool.spec.allows space then return tool.spec
    else .fail (.namespaceNotAllowed space name)

/-- Sets up a job that no pass has seen. -/
def initialized (now : Stamp) (job : Job) : Pass Job :=
  if job.phase.isNone then replaceStatus (job.withStatus ((job.status.getD .initial).initialized now))
  else .done job

/-- Ends a pass with a failure.  A configuration error is recorded on the job first, as far as that succeeds. -/
def abandon (now : Stamp) (job : Job) (f : Failure) : Pass Next :=
  if f.isConfiguration then do
    let failed := job.withStatus ((job.status.getD .initial).markFailed f.message now)
    let _ ← (replaceStatus failed).attempt
    publish ⟨.warning, "ReconcileFailed", Event.reconcile, some f.message, failed.reference⟩
    .fail f
  else .fail f

/-- The names of target pods that claims are compared with. -/
def targetNames (pods : List Pod) : List String :=
  pods.map fun p => p.metadata.name.getD ""

/-- The conflict a job is in over its pods.  A job that is done with is in none, and asks for no list. -/
def conflict? (job : Job) (space : String) (pods : List Pod) : Pass (Option Conflict) :=
  if job.isTerminal then .done none
  else do
    let others ← listJobs space
    return Conflict.detect job (targetNames pods) others

/-- Makes way for the job that claims a pod. -/
def makeWay (now : Stamp) (job : Job) (next : Job.Status) (c : Conflict) : Pass Next := do
  let job := job.withStatus (next.markConflicted c now)
  let _ ← replaceStatus job
  publish ⟨.warning, "ConflictDetected", Event.reconcile, some c.message, job.reference⟩
  return .after Requeue.conflict

/-- Stores a status unless it is the one that was read. -/
def store (job : Job) (next : Job.Status) : Pass Unit :=
  if job.status = some next then .done ()
  else do
    let _ ← replaceStatus (job.withStatus next)
    return ()

/-- Tells of a job that has just been completed. -/
def tellCompleted (job : Job) (next : Job.Status) : Pass Unit :=
  if next.phase = some .completed ∧ job.phase ≠ some .completed then
    publish ⟨.normal, "ProfilingCompleted", Event.reconcile,
      some ("Profiling finished on " ++ toString next.selectedPods ++ " pods"), job.reference⟩
  else .done ()

/-- The status the management of containers starts from. -/
def settled (now : Stamp) (job : Job) (next : Job.Status) : Job.Status :=
  let next := if job.isTerminal then next else next.clearConflict now
  { next with lastError := none }

/-- Manages the containers of a job in its pods, under the name its containers have. -/
def manage (now : Stamp) (job : Job) (tool : Tool.Spec) (pods : List Pod) (container : String)
    (next : Job.Status) : Pass Next := do
  let next := settled now job next
  let plan := Plan.of next.activePods pods container
  let create := if job.isTerminal then [] else plan.create
  let (active, trouble) ← injectAll job tool container create plan.active none
  let next := { next with lastError := trouble }.project next.selectedPods active now
  store job next
  tellCompleted job next
  return .after (Requeue.interval next.phase)

/-! ## The pass -/

/-- A pass over the job of a namespace and a name. -/
def reconcile (now : Stamp) (space name : String) : Pass Next := do
  match ← getJob space name with
  | none => return .onChange
  | some job =>
    if job.metadata.isDeleting then return .onChange
    else
      match job.metadata.uid with
      | none => .fail (.missingUid name)
      | some uid =>
        let job ← initialized now job
        match ← (resolveTool job space).attempt with
        | .error f => abandon now job f
        | .ok tool =>
          match ← (Targets.resolve space job.spec.targets.selector).attempt with
          | .error f => abandon now job f
          | .ok pods =>
            let next := { job.status.getD .initial with selectedPods := Progress.count pods.length }
            match ← conflict? job space pods with
            | some c => makeWay now job next c
            | none => manage now job tool pods (Job.containerName name uid) next

/-- A pass over a job as it was seen to change. -/
def reconcileSeen (now : Stamp) (job : Job) : Pass Next :=
  match job.space with
  | none => .fail .missingNamespace
  | some space => reconcile now space job.name

end ProfilingOperator.Pass
