import ProfilingOperator.Json.Block
import ProfilingOperator.Tool.Basic

/-!
# Definitions of the operator's kinds

What the platform is told of the two kinds the operator adds to it: their names, their version, and the columns they
are listed with.
-/

namespace ProfilingOperator

/-- A column of a listing. -/
structure Definition.Column where
  name : String
  type : String
  /-- Where in an object its value stands. -/
  path : String
  deriving DecidableEq, Repr

/-- The names of a kind. -/
structure Definition.Names where
  kind : String
  plural : String
  singular : String
  short : List String
  categories : List String
  deriving DecidableEq, Repr

/-- A version of a kind. -/
structure Definition.Version where
  name : String
  served : Bool
  stored : Bool
  /-- Whether the status is written apart from the rest. -/
  hasStatus : Bool
  columns : List Definition.Column
  deriving DecidableEq, Repr

/-- The definition of a kind. -/
structure Definition where
  group : String
  scope : String
  names : Definition.Names
  version : Definition.Version
  deriving DecidableEq, Repr

namespace Definition

def name (d : Definition) : String :=
  d.names.plural ++ "." ++ d.group

/-- The version every kind of the operator has. -/
def versionWith (columns : List Column) : Version :=
  ⟨Api.version, true, true, true, columns⟩

def jobs : Definition :=
  ⟨Api.group, "Namespaced", ⟨Job.kind, "powertools", "powertool", ["pt"], []⟩,
    versionWith [⟨"Tool", "string", ".spec.tool.name"⟩, ⟨"Phase", "string", ".status.phase"⟩,
      ⟨"Selected", "integer", ".status.selectedPods"⟩, ⟨"Completed", "integer", ".status.completedPods"⟩,
      ⟨"Age", "date", ".metadata.creationTimestamp"⟩]⟩

def tools : Definition :=
  ⟨Api.group, "Namespaced", ⟨Tool.kind, "powertoolconfigs", "powertoolconfig", ["ptc"], []⟩,
    versionWith [⟨"Tool", "string", ".spec.name"⟩, ⟨"Image", "string", ".spec.image"⟩,
      ⟨"Phase", "string", ".status.phase"⟩]⟩

/-- All definitions, in the order they are installed. -/
def all : List Definition :=
  [jobs, tools]

/-! ## Documents -/

/-- The version of the documents that define kinds. -/
def documentVersion : String := "apiextensions.k8s.io/v1"

/-- The kind of the documents that define kinds. -/
def documentKind : String := "CustomResourceDefinition"

def Column.toJson (c : Column) : Json :=
  .object [("jsonPath", some (.str c.path)), ("name", some (.str c.name)), ("type", some (.str c.type))]

def Names.toJson (n : Names) : Json :=
  .object [("categories", some (.strings n.categories)), ("kind", some (.str n.kind)),
    ("plural", some (.str n.plural)), ("shortNames", some (.strings n.short)),
    ("singular", some (.str n.singular))]

def Version.toJson (v : Version) : Json :=
  .object [("additionalPrinterColumns", some (Json.list Column.toJson v.columns)), ("name", some (.str v.name)),
    ("served", some (.bool v.served)), ("storage", some (.bool v.stored)),
    ("subresources", if v.hasStatus then some (.object [("status", some (.object []))]) else none)]

def toJson (d : Definition) : Json :=
  .object [("apiVersion", some (.str documentVersion)), ("kind", some (.str documentKind)),
    ("metadata", some (.object [("name", some (.str d.name))])),
    ("spec", some (.object [("group", some (.str d.group)), ("names", some d.names.toJson),
      ("scope", some (.str d.scope)), ("versions", some (.arr [d.version.toJson]))]))]

/-- What stands between two documents. -/
def separator : String := "---\n"

def manifests : String :=
  separator.intercalate (all.map fun d => d.toJson.block)

end Definition

end ProfilingOperator
