import ProfilingOperator.Stamp.Text

/-!
# Object metadata

The metadata every object of the platform carries: its name and namespace, its identity, its version and its
labels, and references to objects in events.

    displayName_of_name : m.name = some n → m.displayName = n
-/

namespace ProfilingOperator

/-- An object that owns another. -/
structure OwnerReference where
  apiVersion : String
  blockOwnerDeletion : Option Bool
  controller : Option Bool
  kind : String
  name : String
  uid : String
  deriving DecidableEq

/-- The metadata of an object. -/
structure Metadata where
  annotations : Option (StringMap String)
  creationTimestamp : Option Stamp
  deletionGracePeriodSeconds : Option Int
  deletionTimestamp : Option Stamp
  finalizers : Option (List String)
  generateName : Option String
  generation : Option Int
  labels : Option (StringMap String)
  name : Option String
  space : Option String
  ownerReferences : Option (List OwnerReference)
  resourceVersion : Option String
  selfLink : Option String
  uid : Option String
  deriving DecidableEq

/-- A reference to an object, as events carry it. -/
structure Reference where
  apiVersion : Option String
  fieldPath : Option String
  kind : Option String
  name : Option String
  space : Option String
  resourceVersion : Option String
  uid : Option String
  deriving DecidableEq

namespace Metadata

def empty : Metadata :=
  ⟨none, none, none, none, none, none, none, none, none, none, none, none, none, none⟩

/-- The name of an object: its own, else the stem its name is generated from, else nothing. -/
def displayName (m : Metadata) : String :=
  (m.name.or m.generateName).getD ""

/-- The labels, none when no labels are declared. -/
def labelMap (m : Metadata) : StringMap String :=
  m.labels.getD .empty

/-- Whether deletion was asked for. -/
def isDeleting (m : Metadata) : Bool :=
  m.deletionTimestamp.isSome

/-! ## Lemmas -/

theorem displayName_of_name {m : Metadata} {n : String} (h : m.name = some n) : m.displayName = n := by
  simp [displayName, h]

end Metadata

/-! ## JSON -/

/-- A list of values, written with one writer. -/
def Json.list {α : Type} (write : α → Json) (l : List α) : Json :=
  .arr (l.map write)

namespace OwnerReference

def toJson (o : OwnerReference) : Json :=
  .object [("apiVersion", some (.str o.apiVersion)), ("blockOwnerDeletion", o.blockOwnerDeletion.map .bool),
    ("controller", o.controller.map .bool), ("kind", some (.str o.kind)), ("name", some (.str o.name)),
    ("uid", some (.str o.uid))]

def ofJson : Decode.Reader OwnerReference :=
  Decode.platform "OwnerReference" fun s =>
    (Decode.Reading.ok OwnerReference.mk)
      |>.and (s.defaulted 0 "apiVersion" Decode.string "")
      |>.and (s.optional 1 "blockOwnerDeletion" Decode.boolean)
      |>.and (s.optional 2 "controller" Decode.boolean)
      |>.and (s.defaulted 3 "kind" Decode.string "")
      |>.and (s.defaulted 4 "name" Decode.string "")
      |>.and (s.defaulted 5 "uid" Decode.string "")

end OwnerReference

namespace Metadata

/-- Metadata as JSON; its stamps are cut to the second. -/
def toJson (m : Metadata) : Json :=
  .object [("annotations", m.annotations.map Json.stringMap),
    ("creationTimestamp", m.creationTimestamp.map fun t => .str t.wholeText),
    ("deletionGracePeriodSeconds", m.deletionGracePeriodSeconds.map fun n => .num (.whole n)),
    ("deletionTimestamp", m.deletionTimestamp.map fun t => .str t.wholeText),
    ("finalizers", m.finalizers.map Json.strings),
    ("generateName", m.generateName.map .str),
    ("generation", m.generation.map fun n => .num (.whole n)),
    ("labels", m.labels.map Json.stringMap),
    ("name", m.name.map .str),
    ("namespace", m.space.map .str),
    ("ownerReferences", m.ownerReferences.map (Json.list OwnerReference.toJson)),
    ("resourceVersion", m.resourceVersion.map .str),
    ("selfLink", m.selfLink.map .str),
    ("uid", m.uid.map .str)]

def ofJson : Decode.Reader Metadata :=
  Decode.platform "ObjectMeta" fun s =>
    (Decode.Reading.ok Metadata.mk)
      |>.and (s.optional 0 "annotations" (Decode.map Decode.string))
      |>.and (s.optional 1 "creationTimestamp" Stamp.ofJson)
      |>.and (s.optional 2 "deletionGracePeriodSeconds" Decode.int64)
      |>.and (s.optional 3 "deletionTimestamp" Stamp.ofJson)
      |>.and (s.optional 4 "finalizers" (Decode.list Decode.string))
      |>.and (s.optional 5 "generateName" Decode.string)
      |>.and (s.optional 6 "generation" Decode.int64)
      |>.and (s.optional 7 "labels" (Decode.map Decode.string))
      |>.and (s.optional 8 "name" Decode.string)
      |>.and (s.optional 9 "namespace" Decode.string)
      |>.and (s.optional 10 "ownerReferences" (Decode.list OwnerReference.ofJson))
      |>.and (s.optional 11 "resourceVersion" Decode.string)
      |>.and (s.optional 12 "selfLink" Decode.string)
      |>.and (s.optional 13 "uid" Decode.string)

end Metadata

namespace Reference

def toJson (r : Reference) : Json :=
  .object [("apiVersion", r.apiVersion.map .str), ("fieldPath", r.fieldPath.map .str), ("kind", r.kind.map .str),
    ("name", r.name.map .str), ("namespace", r.space.map .str),
    ("resourceVersion", r.resourceVersion.map .str), ("uid", r.uid.map .str)]

def ofJson : Decode.Reader Reference :=
  Decode.platform "ObjectReference" fun s =>
    (Decode.Reading.ok Reference.mk)
      |>.and (s.optional 0 "apiVersion" Decode.string)
      |>.and (s.optional 1 "fieldPath" Decode.string)
      |>.and (s.optional 2 "kind" Decode.string)
      |>.and (s.optional 3 "name" Decode.string)
      |>.and (s.optional 4 "namespace" Decode.string)
      |>.and (s.optional 5 "resourceVersion" Decode.string)
      |>.and (s.optional 6 "uid" Decode.string)

end Reference

end ProfilingOperator
