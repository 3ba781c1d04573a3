import ProfilingOperator.Resources

/-!
# Containers

The parts of containers the operator reads and writes: identity and privileges, environment, mounts, resources.
Members it does not look into are kept as they came, so that a pod is written back whole.
-/

namespace ProfilingOperator

/-- The members of a platform object that are not among those looked into. -/
def Decode.Source.others (s : Decode.Source) (known : List String) : Decode.Reading (List (String × Json)) :=
  match s with
  | .members ms => .ok (ms.filter fun m => !known.contains m.1)
  | .elements _ _ => .ok []

/-- Members to be written beside named fields. -/
def Json.present (ms : List (String × Json)) : List (String × Option Json) :=
  ms.map fun m => (m.1, some m.2)

/-- Who the processes of a container run as. -/
structure Identity where
  user : Option Int
  group : Option Int
  nonRoot : Option Bool
  deriving DecidableEq

/-- Linux capabilities given and taken. -/
structure Capabilities where
  add : Option (List String)
  drop : Option (List String)
  deriving DecidableEq

/-- The security context of a container. -/
structure SecurityContext where
  identity : Identity
  privileged : Option Bool
  capabilities : Option Capabilities
  others : List (String × Json)

/-- The security context of a pod. -/
structure PodSecurityContext where
  identity : Identity
  others : List (String × Json)

/-- A variable of a container's environment. -/
structure EnvVar where
  name : String
  value : Option String
  others : List (String × Json)

/-- A volume mounted in a container. -/
structure VolumeMount where
  name : String
  path : String
  others : List (String × Json)

/-- A container of a pod. -/
structure Container where
  name : String
  security : Option SecurityContext
  others : List (String × Json)

/-- An ephemeral container of a pod. -/
structure EphemeralContainer where
  name : String
  image : Option String
  imagePullPolicy : Option String
  env : Option (List EnvVar)
  security : Option SecurityContext
  resources : Option Requirements
  mounts : Option (List VolumeMount)
  /-- The container whose processes it sees. -/
  target : Option String
  others : List (String × Json)

/-- Nobody in particular. -/
def Identity.none : Identity := ⟨.none, .none, .none⟩

/-- An identity, and what it leaves open taken from another. -/
def Identity.orElse (own inherited : Identity) : Identity :=
  ⟨own.user.or inherited.user, own.group.or inherited.group, own.nonRoot.or inherited.nonRoot⟩

/-! ## JSON -/

def Identity.fields (i : Identity) : List (String × Option Json) :=
  [("runAsUser", i.user.map fun n => .num (.whole n)), ("runAsGroup", i.group.map fun n => .num (.whole n)),
    ("runAsNonRoot", i.nonRoot.map .bool)]

/-- Reads the members of an identity onto a record. -/
def Identity.read {α : Type} (s : Decode.Source) (build : Decode.Reading (Identity → α)) : Decode.Reading α :=
  ((Decode.Reading.ok fun f u g n => f ⟨u, g, n⟩).and build)
    |>.and (s.optional 0 "runAsUser" Decode.int64)
    |>.and (s.optional 1 "runAsGroup" Decode.int64)
    |>.and (s.optional 2 "runAsNonRoot" Decode.boolean)

def Capabilities.toJson (c : Capabilities) : Json :=
  .object [("add", c.add.map Json.strings), ("drop", c.drop.map Json.strings)]

def Capabilities.ofJson : Decode.Reader Capabilities :=
  Decode.platform "Capabilities" fun s =>
    (Decode.Reading.ok Capabilities.mk)
      |>.and (s.optional 0 "add" (Decode.list Decode.string))
      |>.and (s.optional 1 "drop" (Decode.list Decode.string))

def SecurityContext.toJson (c : SecurityContext) : Json :=
  .object (Json.present c.others ++ c.identity.fields ++
    [("privileged", c.privileged.map .bool), ("capabilities", c.capabilities.map Capabilities.toJson)])

def SecurityContext.ofJson : Decode.Reader SecurityContext :=
  Decode.platform "SecurityContext" fun s =>
    (Identity.read s (.ok SecurityContext.mk))
      |>.and (s.optional 3 "privileged" Decode.boolean)
      |>.and (s.optional 4 "capabilities" Capabilities.ofJson)
      |>.and (s.others ["runAsUser", "runAsGroup", "runAsNonRoot", "privileged", "capabilities"])

def PodSecurityContext.toJson (c : PodSecurityContext) : Json :=
  .object (Json.present c.others ++ c.identity.fields)

def PodSecurityContext.ofJson : Decode.Reader PodSecurityContext :=
  Decode.platform "PodSecurityContext" fun s =>
    (Identity.read s (.ok PodSecurityContext.mk)) |>.and (s.others ["runAsUser", "runAsGroup", "runAsNonRoot"])

def EnvVar.toJson (v : EnvVar) : Json :=
  .object (Json.present v.others ++ [("name", some (.str v.name)), ("value", v.value.map .str)])

def EnvVar.ofJson : Decode.Reader EnvVar :=
  Decode.platform "EnvVar" fun s =>
    (Decode.Reading.ok EnvVar.mk)
      |>.and (s.defaulted 0 "name" Decode.string "")
      |>.and (s.optional 1 "value" Decode.string)
      |>.and (s.others ["name", "value"])

def VolumeMount.toJson (m : VolumeMount) : Json :=
  .object (Json.present m.others ++ [("name", some (.str m.name)), ("mountPath", some (.str m.path))])

def VolumeMount.ofJson : Decode.Reader VolumeMount :=
  Decode.platform "VolumeMount" fun s =>
    (Decode.Reading.ok VolumeMount.mk)
      |>.and (s.defaulted 0 "name" Decode.string "")
      |>.and (s.defaulted 1 "mountPath" Decode.string "")
      |>.and (s.others ["name", "mountPath"])

def Container.toJson (c : Container) : Json :=
  .object (Json.present c.others ++
    [("name", some (.str c.name)), ("securityContext", c.security.map SecurityContext.toJson)])

def Container.ofJson : Decode.Reader Container :=
  Decode.platform "Container" fun s =>
    (Decode.Reading.ok Container.mk)
      |>.and (s.defaulted 0 "name" Decode.string "")
      |>.and (s.optional 1 "securityContext" SecurityContext.ofJson)
      |>.and (s.others ["name", "securityContext"])

def EphemeralContainer.toJson (c : EphemeralContainer) : Json :=
  .object (Json.present c.others ++
    [("name", some (.str c.name)), ("image", c.image.map .str),
      ("imagePullPolicy", c.imagePullPolicy.map .str), ("env", c.env.map (Json.list EnvVar.toJson)),
      ("securityContext", c.security.map SecurityContext.toJson),
      ("resources", c.resources.map Requirements.toJson),
      ("volumeMounts", c.mounts.map (Json.list VolumeMount.toJson)), ("targetContainerName", c.target.map .str)])

def EphemeralContainer.ofJson : Decode.Reader EphemeralContainer :=
  Decode.platform "EphemeralContainer" fun s =>
    (Decode.Reading.ok EphemeralContainer.mk)
      |>.and (s.defaulted 0 "name" Decode.string "")
      |>.and (s.optional 1 "image" Decode.string)
      |>.and (s.optional 2 "imagePullPolicy" Decode.string)
      |>.and (s.optional 3 "env" (Decode.list EnvVar.ofJson))
      |>.and (s.optional 4 "securityContext" SecurityContext.ofJson)
      |>.and (s.optional 5 "resources" Requirements.ofJson)
      |>.and (s.optional 6 "volumeMounts" (Decode.list VolumeMount.ofJson))
      |>.and (s.optional 7 "targetContainerName" Decode.string)
      |>.and (s.others ["name", "image", "imagePullPolicy", "env", "securityContext", "resources",
        "volumeMounts", "targetContainerName"])

end ProfilingOperator
