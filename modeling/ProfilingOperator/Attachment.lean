import ProfilingOperator.Environment
import ProfilingOperator.Security

/-!
# Attaching a diagnostic container

What is added to a pod for a job: an ephemeral container with the tool's image, attached to one of the pod's
containers, with its environment, its identity, its resources and, for results in a volume, a mount of that.
-/

namespace ProfilingOperator.Attachment

/-- The first container of a name that is not empty. -/
def hinted? (p : Pod) (hint : String) : Option Container :=
  if hint = "" then none else p.containers.find? fun c => c.name = hint

/-- The container to attach to: the first of the hinted name, else the first of the pod.  An empty hint is none. -/
def target? (p : Pod) (hint : Option String) : Option Container :=
  match hint.bind (hinted? p) with
  | some c => some c
  | none => p.containers.head?

/-- The volume that stands for a volume claim behind none of the pod's volumes. -/
def defaultVolume : String := "profiling-storage"

/-- The first volume of the pod with a volume claim behind it. -/
def volumeName (p : Pod) (claim : String) : String :=
  match p.volumes.find? fun v => v.claim = some claim with
  | some v => v.name
  | none => defaultVolume

/-- The mounts of the container: one for results in a volume, none otherwise. -/
def mounts (output : Job.Output) (p : Pod) : Option (List VolumeMount) :=
  match output.mode, output.volume with
  | .volume, some c => some [⟨volumeName p c.claimName, Environment.mountPath, []⟩]
  | _, _ => none

/-- The tool's resources with the job's laid over them. -/
def resources (spec : Job.Spec) (tool : Tool.Spec) : Option Requirements :=
  let base := tool.resources.getD .none
  match spec.tool.resources with
  | some own => (base.overlay own).requirements?
  | none => base.requirements?

/-- The container added to a pod for a job. -/
def container (job : Job) (tool : Tool.Spec) (p : Pod) (name : String) (collector : Option Collector) :
    EphemeralContainer :=
  let target := target? p job.spec.targets.container
  let env := Environment.build job p (Environment.arguments job.spec tool) collector
  ⟨name, some tool.image, some "Always", some (env.map fun v => ⟨v.1, some v.2, []⟩),
    some (Security.context tool.policy p target), resources job.spec tool, mounts job.spec.output p,
    target.map (·.name), []⟩

end ProfilingOperator.Attachment
