import ProfilingOperator.Decode
import ProfilingOperator.Http.Uri
import ProfilingOperator.Json.Parser

/-!
# Kubeconfigs

A kubeconfig names clusters and, in contexts, the namespace one works in on them; one of the contexts is the current
one.  Several kubeconfigs make one: of two entries with one name the earlier stands.
-/

namespace ProfilingOperator

/-- A context. -/
structure Kubeconfig.Context where
  cluster : String
  space : Option String
  deriving DecidableEq, Repr

/-- A kubeconfig. -/
structure Kubeconfig where
  /-- The clusters by name, with the address of each one's server. -/
  clusters : List (String × Option (Option String))
  contexts : List (String × Option Kubeconfig.Context)
  current : Option String
  deriving DecidableEq, Repr

/-- A cluster to talk to, and the namespace to work in. -/
structure Kubeconfig.Choice where
  server : Http.Uri
  space : String
  deriving DecidableEq, Repr

namespace Kubeconfig

/-- Why a kubeconfig gives no cluster to talk to. -/
inductive Fault where
  | unreadable (path : String)
  | malformed (message : String)
  | misshapen (message : String)
  | noCurrentContext
  | noContext (name : String)
  | noCluster (name : String)
  | noServer
  | badServer (fault : Http.Uri.Fault)
  deriving DecidableEq, Repr

def Fault.message : Fault → String
  | .unreadable path =>
    "failed to read kubeconfig from '" ++ Text.quote path ++ "': No such file or directory (os error 2)"
  | .malformed m => "failed to parse kubeconfig YAML: " ++ m
  | .misshapen m => "the structure of the parsed kubeconfig is invalid: " ++ m
  | .noCurrentContext => "failed to determine current context"
  | .noContext name => "failed to load current context: " ++ name
  | .noCluster name => "failed to load the cluster of context: " ++ name
  | .noServer => "cluster url is missing on selected cluster"
  | .badServer f => "failed to parse cluster url: " ++ f.message

def empty : Kubeconfig := ⟨[], [], none⟩

/-! ## Reading -/

/-- Reads a list that may be left out or be nothing. -/
def listOrNothing {α : Type} (s : Decode.Source) (i : Nat) (name : String) (read : Decode.Reader α) :
    Decode.Reading (List α) :=
  (Decode.Reading.ok fun l => l.getD []).and (s.optional i name (Decode.list read))

/-- Reads the address of a cluster's server. -/
def readServer : Decode.Reader (Option String) :=
  Decode.object "Cluster" fun s => s.optional 0 "server" Decode.string

def readCluster : Decode.Reader (String × Option (Option String)) :=
  Decode.object "NamedCluster" fun s =>
    (Decode.Reading.ok Prod.mk)
      |>.and (s.required 0 "name" Decode.string)
      |>.and (s.optional 1 "cluster" readServer)

def readContext : Decode.Reader Context :=
  Decode.object "Context" fun s =>
    (Decode.Reading.ok fun cluster _ space => Context.mk cluster space)
      |>.and (s.required 0 "cluster" Decode.string)
      |>.and (s.optional 1 "user" Decode.string)
      |>.and (s.optional 2 "namespace" Decode.string)

def readNamedContext : Decode.Reader (String × Option Context) :=
  Decode.object "NamedContext" fun s =>
    (Decode.Reading.ok Prod.mk)
      |>.and (s.required 0 "name" Decode.string)
      |>.and (s.optional 1 "context" readContext)

def ofJson : Decode.Reader Kubeconfig
  | .null => .ok empty
  | j =>
    Decode.object "Kubeconfig" (fun s =>
      (Decode.Reading.ok Kubeconfig.mk)
        |>.and (listOrNothing s 0 "clusters" readCluster)
        |>.and (listOrNothing s 1 "contexts" readNamedContext)
        |>.and (s.optional 2 "current-context" Decode.string)) j

/-- Reads a kubeconfig from a text; a blank one says nothing. -/
def ofText (text : String) : Except Fault Kubeconfig :=
  if text.toList.all Char.isWhitespace then .ok empty
  else
    match Json.parse text with
    | .error m => .error (.malformed m)
    | .ok j =>
      match ofJson j with
      | .ok k => .ok k
      | .error e => .error (.misshapen e.message)

/-! ## Merging -/

/-- Entries with those of another list that have new names. -/
def addNew {α : Type} (entries more : List (String × α)) : List (String × α) :=
  entries ++ more.filter fun e => !entries.any fun f => f.1 = e.1

/-- One kubeconfig of two. -/
def merge (a b : Kubeconfig) : Kubeconfig :=
  ⟨addNew a.clusters b.clusters, addNew a.contexts b.contexts, a.current.or b.current⟩

/-! ## Choosing -/

/-- The entry of a name, if it is there and says anything. -/
def entry? {α : Type} (entries : List (String × Option α)) (name : String) : Option α :=
  (entries.find? fun e => e.1 = name).bind (·.2)

/-- The namespace of contexts that name none. -/
def defaultSpace : String := "default"

/-- The cluster and the namespace of the current context. -/
def choose (k : Kubeconfig) : Except Fault Choice :=
  match k.current with
  | none => .error .noCurrentContext
  | some name =>
    match entry? k.contexts name with
    | none => .error (.noContext name)
    | some context =>
      match entry? k.clusters context.cluster with
      | none => .error (.noCluster context.cluster)
      | some none => .error .noServer
      | some (some server) =>
        match Http.Uri.parse server with
        | .error f => .error (.badServer f)
        | .ok u => .ok ⟨u, context.space.getD defaultSpace⟩

end Kubeconfig

end ProfilingOperator
