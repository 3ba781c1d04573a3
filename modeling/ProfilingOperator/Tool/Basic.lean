import ProfilingOperator.Condition
import ProfilingOperator.Resources
import ProfilingOperator.Job.Codec

/-!
# Registered tools

The registry entry of a diagnostic tool: the image that runs it, the privileges it needs, the namespaces that may
use it, and whether the entry was found valid.  The entry of a tool is named after it (`entryName`).
-/

namespace ProfilingOperator

/-- Capabilities a tool wants added and dropped. -/
structure Tool.Capabilities where
  add : List String
  drop : List String
  deriving DecidableEq

/-- The privileges a tool needs. -/
structure Tool.Policy where
  privileged : Option Bool
  hostPid : Option Bool
  capabilities : Option Tool.Capabilities
  runAsRoot : Option Bool
  deriving DecidableEq

/-- What a registry entry says of a tool. -/
structure Tool.Spec where
  name : String
  image : String
  policy : Tool.Policy
  /-- The namespaces that may use the tool; all of them when none is named. -/
  allowedNamespaces : List String
  description : Option String
  version : Option String
  /-- Arguments for jobs that give none. -/
  defaultArgs : List String
  resources : Option Resources
  deriving DecidableEq

/-- Whether an entry was found valid. -/
inductive Tool.Phase where
  | ready
  | invalid
  deriving DecidableEq, Repr

/-- What is reported of an entry. -/
structure Tool.Status where
  phase : Option Tool.Phase
  lastValidated : Option Stamp
  conditions : List Condition
  deriving DecidableEq

/-- A registry entry. -/
structure Tool where
  metadata : Metadata
  spec : Tool.Spec
  status : Option Tool.Status
  deriving DecidableEq

namespace Tool

def kind : String := "PowerToolConfig"

/-- The name of the entry of a tool. -/
def entryName (tool : String) : String :=
  tool ++ "-config"

def Policy.none : Policy := ⟨.none, .none, .none, .none⟩

/-- The status of an entry that was never validated. -/
def Status.initial : Status := ⟨.none, .none, []⟩

def Phase.word : Phase → String
  | .ready => "Ready"
  | .invalid => "Invalid"

/-- Whether jobs of a namespace may use the tool. -/
def Spec.allows (t : Spec) (space : String) : Bool :=
  t.allowedNamespaces.isEmpty || t.allowedNamespaces.contains space

def name (t : Tool) : String :=
  t.metadata.displayName

/-! ## JSON -/

def Capabilities.toJson (c : Capabilities) : Json :=
  .object [("add", Json.nonEmpty .str c.add), ("drop", Json.nonEmpty .str c.drop)]

def Capabilities.ofJson : Decode.Reader Capabilities :=
  Decode.record "CapabilitiesSpec" 2 fun s =>
    (Decode.Reading.ok Capabilities.mk)
      |>.and (s.defaulted 0 "add" (Decode.list Decode.string) [])
      |>.and (s.defaulted 1 "drop" (Decode.list Decode.string) [])

def Policy.toJson (p : Policy) : Json :=
  .object [("allowPrivileged", p.privileged.map .bool), ("allowHostPID", p.hostPid.map .bool),
    ("capabilities", p.capabilities.map Capabilities.toJson), ("runAsRoot", p.runAsRoot.map .bool)]

def Policy.ofJson : Decode.Reader Policy :=
  Decode.record "SecuritySpec" 4 fun s =>
    (Decode.Reading.ok Policy.mk)
      |>.and (s.optional 0 "allowPrivileged" Decode.boolean)
      |>.and (s.optional 1 "allowHostPID" Decode.boolean)
      |>.and (s.optional 2 "capabilities" Capabilities.ofJson)
      |>.and (s.optional 3 "runAsRoot" Decode.boolean)

/-- The entry's content as JSON; the security section is always written. -/
def Spec.toJson (t : Spec) : Json :=
  .object [("name", some (.str t.name)), ("image", some (.str t.image)), ("securityContext", some t.policy.toJson),
    ("allowedNamespaces", Json.nonEmpty .str t.allowedNamespaces), ("description", t.description.map .str),
    ("version", t.version.map .str), ("defaultArgs", Json.nonEmpty .str t.defaultArgs),
    ("resources", t.resources.map Resources.toJson)]

/-- Reads the entry's content. -/
def Spec.ofJson : Decode.Reader Spec :=
  Decode.record "PowerToolConfigSpec" 8 fun s =>
    (Decode.Reading.ok Spec.mk)
      |>.and (s.required 0 "name" Decode.string)
      |>.and (s.required 1 "image" Decode.string)
      |>.and (s.defaulted 2 "securityContext" Policy.ofJson .none)
      |>.and (s.defaulted 3 "allowedNamespaces" (Decode.list Decode.string) [])
      |>.and (s.optional 4 "description" Decode.string)
      |>.and (s.optional 5 "version" Decode.string)
      |>.and (s.defaulted 6 "defaultArgs" (Decode.list Decode.string) [])
      |>.and (s.optional 7 "resources" Resources.ofJson)

def Phase.known : List (String × Phase) :=
  [("Ready", .ready), ("Invalid", .invalid)]

def Status.toJson (s : Status) : Json :=
  .object [("phase", s.phase.map fun p => .str p.word), ("lastValidated", s.lastValidated.map Stamp.toJson),
    ("conditions", Json.nonEmpty Condition.toJson s.conditions)]

def Status.ofJson : Decode.Reader Status :=
  Decode.record "PowerToolConfigStatus" 3 fun s =>
    (Decode.Reading.ok Status.mk)
      |>.and (s.optional 0 "phase" (Decode.variant Phase.known))
      |>.and (s.optional 1 "lastValidated" Stamp.ofJson)
      |>.and (s.defaulted 2 "conditions" (Decode.list Condition.ofJson) [])

def toJson (t : Tool) : Json :=
  .object [("apiVersion", some (.str Api.groupVersion)), ("kind", some (.str kind)),
    ("metadata", some t.metadata.toJson), ("spec", some t.spec.toJson), ("status", t.status.map Status.toJson)]

/-- Reads an entry; its kind and version are not looked at. -/
def ofJson : Decode.Reader Tool :=
  Decode.record "PowerToolConfig" 3 fun s =>
    (Decode.Reading.ok Tool.mk)
      |>.and (s.required 0 "metadata" Metadata.ofJson)
      |>.and (s.required 1 "spec" Spec.ofJson)
      |>.and (s.field 2 "status" (Decode.nullable Status.ofJson) (some .none) .none)

end Tool

end ProfilingOperator
