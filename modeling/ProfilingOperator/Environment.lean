import ProfilingOperator.Pod.Basic
import ProfilingOperator.Selector.Compiled
import ProfilingOperator.Token
import ProfilingOperator.Tool.Basic

/-!
# Environment of diagnostic containers

The variables a diagnostic image is started with.  Their names are a contract with the images.
-/

namespace ProfilingOperator.Environment

/-- Where the output volume is mounted. -/
def mountPath : String := "/mnt/profiling-storage"

/-- The arguments of a run: the job's own, or the tool's when the job gives none. -/
def arguments (spec : Job.Spec) (tool : Tool.Spec) : List String :=
  match spec.tool.args with
  | some [] | none => tool.defaultArgs
  | some args => args

/-- The namespace a container works in: its pod's, else the job's. -/
def space (job : Job) (pod : Pod) : String :=
  (pod.metadata.space.or job.space).getD ""

/-- The variables every container has. -/
def base (job : Job) (pod : Pod) : List (String × String) :=
  [("PROFILER_TOOL", job.spec.tool.name), ("PROFILER_DURATION", job.spec.tool.duration),
    ("TARGET_POD_NAME", pod.name), ("TARGET_NAMESPACE", space job pod),
    ("OUTPUT_MODE", job.spec.output.mode.word),
    ("POD_MATCHING_LABELS", Selector.matchingLabel job.spec.targets.selector pod.labels)]

/-- The arguments, together and one by one; nothing when there is none. -/
def ofArguments (args : List String) : List (String × String) :=
  if args.isEmpty then []
  else ("TOOL_ARGS", " ".intercalate args) :: args.zipIdx.map fun a => ("TOOL_ARG_" ++ toString a.2, a.1)

/-- Where results go in a mounted volume. -/
def ofOutput (output : Job.Output) : List (String × String) :=
  match output.mode, output.volume with
  | .volume, some c => [("PVC_PATH", c.path.getD mountPath)]
  | _, _ => []

/-- Where results are uploaded, and by what right. -/
def ofCollector (job : Job) (collector : Option Collector) : List (String × String) :=
  match collector with
  | some c => [("COLLECTOR_ENDPOINT", c.endpoint), ("COLLECTOR_TOKEN", c.token), ("POWERTOOL_JOB_ID", job.name)]
  | none => []

/-- The variables of a container of a job in a pod. -/
def build (job : Job) (pod : Pod) (args : List String) (collector : Option Collector) :
    List (String × String) :=
  base job pod ++ ofArguments args ++ ofOutput job.spec.output ++ ofCollector job collector

end ProfilingOperator.Environment
