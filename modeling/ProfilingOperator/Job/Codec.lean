import ProfilingOperator.Job.Basic

/-!
# Jobs as JSON

The document form of a job: group `codriverlabs.ai.toe.run`, version `v1alpha1`, kind `PowerTool`.  Lists, maps and
options that are empty are left out, except the output section and the two counts of the status.
-/

namespace ProfilingOperator

/-- The group of the operator's resources. -/
def Api.group : String := "codriverlabs.ai.toe.run"

/-- The version of the operator's resources. -/
def Api.version : String := "v1alpha1"

/-- Group and version, as documents carry them. -/
def Api.groupVersion : String := Api.group ++ "/" ++ Api.version

/-- A list that is left out when it is empty. -/
def Json.nonEmpty {α : Type} (write : α → Json) (l : List α) : Option Json :=
  if l.isEmpty then none else some (Json.list write l)

namespace Job

def kind : String := "PowerTool"

/-! ## Sections of the specification -/

def VolumeOutput.toJson (o : VolumeOutput) : Json :=
  .object [("claimName", some (.str o.claimName)), ("path", o.path.map .str)]

def VolumeOutput.ofJson : Decode.Reader VolumeOutput :=
  Decode.record "PvcOutput" 2 fun s =>
    (Decode.Reading.ok VolumeOutput.mk)
      |>.and (s.required 0 "claimName" Decode.string)
      |>.and (s.optional 1 "path" Decode.string)

def CollectorOutput.toJson (o : CollectorOutput) : Json :=
  .object [("endpoint", some (.str o.endpoint))]

def CollectorOutput.ofJson : Decode.Reader CollectorOutput :=
  Decode.record "CollectorOutput" 1 fun s =>
    (Decode.Reading.ok CollectorOutput.mk) |>.and (s.required 0 "endpoint" Decode.string)

def OutputMode.known : List (String × OutputMode) :=
  [("ephemeral", .ephemeral), ("pvc", .volume), ("collector", .collector)]

def Output.toJson (o : Output) : Json :=
  .object [("mode", some (.str o.mode.word)), ("pvc", o.volume.map VolumeOutput.toJson),
    ("collector", o.collector.map CollectorOutput.toJson)]

def Output.ofJson : Decode.Reader Output :=
  Decode.record "OutputSpec" 3 fun s =>
    (Decode.Reading.ok Output.mk)
      |>.and (s.defaulted 0 "mode" (Decode.variant OutputMode.known) .ephemeral)
      |>.and (s.optional 1 "pvc" VolumeOutput.ofJson)
      |>.and (s.optional 2 "collector" CollectorOutput.ofJson)

def Targets.toJson (t : Targets) : Json :=
  .object [("labelSelector", t.selector.map Selector.toJson), ("container", t.container.map .str)]

def Targets.ofJson : Decode.Reader Targets :=
  Decode.record "TargetSpec" 2 fun s =>
    (Decode.Reading.ok Targets.mk)
      |>.and (s.optional 0 "labelSelector" Selector.ofJson)
      |>.and (s.optional 1 "container" Decode.string)

def ToolRequest.toJson (t : ToolRequest) : Json :=
  .object [("name", some (.str t.name)), ("duration", some (.str t.duration)), ("args", t.args.map Json.strings),
    ("resources", t.resources.map Resources.toJson)]

def ToolRequest.ofJson : Decode.Reader ToolRequest :=
  Decode.record "ToolSpec" 4 fun s =>
    (Decode.Reading.ok ToolRequest.mk)
      |>.and (s.required 0 "name" Decode.string)
      |>.and (s.required 1 "duration" Decode.string)
      |>.and (s.optional 2 "args" (Decode.list Decode.string))
      |>.and (s.optional 3 "resources" Resources.ofJson)

def Spec.toJson (j : Spec) : Json :=
  .object [("targets", some j.targets.toJson), ("tool", some j.tool.toJson), ("output", some j.output.toJson)]

def Spec.ofJson : Decode.Reader Spec :=
  Decode.record "PowerToolSpec" 3 fun s =>
    (Decode.Reading.ok Spec.mk)
      |>.and (s.required 0 "targets" Targets.ofJson)
      |>.and (s.required 1 "tool" ToolRequest.ofJson)
      |>.and (s.defaulted 2 "output" Output.ofJson .stay)

/-! ## Status -/

def Phase.known : List (String × Phase) :=
  [("Pending", .pending), ("Running", .running), ("Conflicted", .conflicted), ("Completed", .completed),
    ("Failed", .failed)]

def Status.toJson (s : Status) : Json :=
  .object [("phase", s.phase.map fun p => .str p.word), ("selectedPods", some (.nat s.selectedPods)),
    ("completedPods", some (.nat s.completedPods)),
    ("activePods", if s.activePods.isEmpty then none else some (Json.stringMap s.activePods)),
    ("conditions", Json.nonEmpty Condition.toJson s.conditions), ("startedAt", s.startedAt.map Stamp.toJson),
    ("finishedAt", s.finishedAt.map Stamp.toJson), ("lastError", s.lastError.map .str)]

def Status.ofJson : Decode.Reader Status :=
  Decode.record "PowerToolStatus" 8 fun s =>
    (Decode.Reading.ok Status.mk)
      |>.and (s.optional 0 "phase" (Decode.variant Phase.known))
      |>.and (s.defaulted 1 "selectedPods" Decode.word32 0)
      |>.and (s.defaulted 2 "completedPods" Decode.word32 0)
      |>.and (s.defaulted 3 "activePods" (Decode.map Decode.string) .empty)
      |>.and (s.defaulted 4 "conditions" (Decode.list Condition.ofJson) [])
      |>.and (s.optional 5 "startedAt" Stamp.ofJson)
      |>.and (s.optional 6 "finishedAt" Stamp.ofJson)
      |>.and (s.optional 7 "lastError" Decode.string)

/-! ## Jobs -/

def toJson (j : Job) : Json :=
  .object [("apiVersion", some (.str Api.groupVersion)), ("kind", some (.str kind)),
    ("metadata", some j.metadata.toJson), ("spec", some j.spec.toJson), ("status", j.status.map Status.toJson)]

/-- Reads a job; its kind and version are not looked at. -/
def ofJson : Decode.Reader Job :=
  Decode.record "PowerTool" 3 fun s =>
    (Decode.Reading.ok Job.mk)
      |>.and (s.required 0 "metadata" Metadata.ofJson)
      |>.and (s.required 1 "spec" Spec.ofJson)
      |>.and (s.field 2 "status" (Decode.nullable Status.ofJson) (some none) none)

def reference (j : Job) : Reference :=
  ⟨some Api.groupVersion, none, some kind, j.metadata.name, j.metadata.space, none, j.metadata.uid⟩

end Job

end ProfilingOperator
