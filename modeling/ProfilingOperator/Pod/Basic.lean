import ProfilingOperator.Pod.Container

/-!
# Pods

A pod as the operator sees it: its metadata, its containers and volumes, and the states its node reports for its
ephemeral containers.
-/

namespace ProfilingOperator

/-- The reported state of a container: at most one of the three is usually given, with its details. -/
structure ContainerReport where
  running : Option Json
  waiting : Option Json
  terminated : Option Json

/-- The status a node reports for a container. -/
structure ContainerStatus where
  name : String
  state : Option ContainerReport
  others : List (String × Json)

/-- A volume of a pod, and the volume claim behind it if there is one. -/
structure Volume where
  name : String
  claim : Option String
  others : List (String × Json)

/-- What a pod declares. -/
structure PodSpec where
  containers : List Container
  ephemeral : Option (List EphemeralContainer)
  security : Option PodSecurityContext
  volumes : Option (List Volume)
  others : List (String × Json)

/-- What is reported of a pod. -/
structure PodStatus where
  ephemeral : Option (List ContainerStatus)
  others : List (String × Json)

/-- A pod. -/
structure Pod where
  metadata : Metadata
  spec : Option PodSpec
  status : Option PodStatus

namespace Pod

def name (p : Pod) : String :=
  p.metadata.displayName

def labels (p : Pod) : StringMap String :=
  p.metadata.labelMap

def containers (p : Pod) : List Container :=
  match p.spec with
  | some s => s.containers
  | none => []

def ephemeralContainers (p : Pod) : List EphemeralContainer :=
  match p.spec with
  | some s => s.ephemeral.getD []
  | none => []

def ephemeralStatuses (p : Pod) : List ContainerStatus :=
  match p.status with
  | some s => s.ephemeral.getD []
  | none => []

def volumes (p : Pod) : List Volume :=
  match p.spec with
  | some s => s.volumes.getD []
  | none => []

/-- Whether a pod declares an ephemeral container of a name. -/
def declares (p : Pod) (container : String) : Bool :=
  p.ephemeralContainers.any fun c => c.name = container

/-- The pod with one more ephemeral container; a pod without a specification stays as it is. -/
def addEphemeral (p : Pod) (c : EphemeralContainer) : Pod :=
  match p.spec with
  | none => p
  | some s =>
    ⟨p.metadata, some ⟨s.containers, some (s.ephemeral.getD [] ++ [c]), s.security, s.volumes, s.others⟩,
      p.status⟩

end Pod

/-! ## JSON -/

namespace ContainerReport

/-- The details of a state: any object. -/
def detail (title : String) : Decode.Reader Json :=
  Decode.platform title fun s => (Decode.Reading.ok Json.obj).and (s.others [])

/-- The details of an ended state always tell the exit code. -/
def ended : Decode.Reader Json :=
  Decode.platform "ContainerStateTerminated" fun s =>
    (Decode.Reading.ok fun code rest =>
        Json.object (("exitCode", some (.num (.whole code))) :: Json.present rest))
      |>.and (s.defaulted 0 "exitCode" Decode.int32 0)
      |>.and (s.others ["exitCode"])

def toJson (r : ContainerReport) : Json :=
  .object [("running", r.running), ("waiting", r.waiting), ("terminated", r.terminated)]

def ofJson : Decode.Reader ContainerReport :=
  Decode.platform "ContainerState" fun s =>
    (Decode.Reading.ok ContainerReport.mk)
      |>.and (s.optional 0 "running" (detail "ContainerStateRunning"))
      |>.and (s.optional 1 "waiting" (detail "ContainerStateWaiting"))
      |>.and (s.optional 2 "terminated" ended)

end ContainerReport

namespace ContainerStatus

/-- A status is written with its image, readiness and restarts, which are empty where none were reported. -/
def toJson (c : ContainerStatus) : Json :=
  .object ([("image", some (.str "")), ("imageID", some (.str "")), ("ready", some (.bool false)),
    ("restartCount", some (.nat 0))] ++ Json.present c.others ++
    [("name", some (.str c.name)), ("state", c.state.map ContainerReport.toJson)])

def ofJson : Decode.Reader ContainerStatus :=
  Decode.platform "ContainerStatus" fun s =>
    (Decode.Reading.ok ContainerStatus.mk)
      |>.and (s.defaulted 0 "name" Decode.string "")
      |>.and (s.optional 1 "state" ContainerReport.ofJson)
      |>.and (s.others ["name", "state"])

end ContainerStatus

namespace Volume

def claimName : Decode.Reader String :=
  Decode.platform "PersistentVolumeClaimVolumeSource" fun s => s.defaulted 0 "claimName" Decode.string ""

def toJson (v : Volume) : Json :=
  .object (("persistentVolumeClaim", v.claim.map fun c => .object [("claimName", some (.str c))]) ::
    Json.present v.others ++ [("name", some (.str v.name))])

def ofJson : Decode.Reader Volume :=
  Decode.platform "Volume" fun s =>
    (Decode.Reading.ok Volume.mk)
      |>.and (s.defaulted 0 "name" Decode.string "")
      |>.and (s.optional 1 "persistentVolumeClaim" claimName)
      |>.and (s.others ["name", "persistentVolumeClaim"])

end Volume

namespace PodSpec

def toJson (p : PodSpec) : Json :=
  .object (Json.present p.others ++
    [("containers", some (Json.list Container.toJson p.containers)),
      ("ephemeralContainers", p.ephemeral.map (Json.list EphemeralContainer.toJson)),
      ("securityContext", p.security.map PodSecurityContext.toJson),
      ("volumes", p.volumes.map (Json.list Volume.toJson))])

def ofJson : Decode.Reader PodSpec :=
  Decode.platform "PodSpec" fun s =>
    (Decode.Reading.ok PodSpec.mk)
      |>.and (s.defaulted 0 "containers" (Decode.list Container.ofJson) [])
      |>.and (s.optional 1 "ephemeralContainers" (Decode.list EphemeralContainer.ofJson))
      |>.and (s.optional 2 "securityContext" PodSecurityContext.ofJson)
      |>.and (s.optional 3 "volumes" (Decode.list Volume.ofJson))
      |>.and (s.others ["containers", "ephemeralContainers", "securityContext", "volumes"])

end PodSpec

namespace PodStatus

def toJson (p : PodStatus) : Json :=
  .object (Json.present p.others ++
    [("ephemeralContainerStatuses", p.ephemeral.map (Json.list ContainerStatus.toJson))])

def ofJson : Decode.Reader PodStatus :=
  Decode.platform "PodStatus" fun s =>
    (Decode.Reading.ok PodStatus.mk)
      |>.and (s.optional 0 "ephemeralContainerStatuses" (Decode.list ContainerStatus.ofJson))
      |>.and (s.others ["ephemeralContainerStatuses"])

end PodStatus

namespace Pod

def toJson (p : Pod) : Json :=
  .object [("apiVersion", some (.str "v1")), ("kind", some (.str "Pod")), ("metadata", some p.metadata.toJson),
    ("spec", p.spec.map PodSpec.toJson), ("status", p.status.map PodStatus.toJson)]

def ofJson : Decode.Reader Pod :=
  Decode.platform "Pod" fun s =>
    (Decode.Reading.ok fun _ _ m spec status => Pod.mk m spec status)
      |>.and (s.defaulted 0 "apiVersion" (Decode.fixed "v1") ())
      |>.and (s.defaulted 1 "kind" (Decode.fixed "Pod") ())
      |>.and (s.defaulted 2 "metadata" Metadata.ofJson .empty)
      |>.and (s.optional 3 "spec" PodSpec.ofJson)
      |>.and (s.optional 4 "status" PodStatus.ofJson)

end Pod

end ProfilingOperator
