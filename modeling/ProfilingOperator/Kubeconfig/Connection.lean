import ProfilingOperator.Failure
import ProfilingOperator.Kubeconfig.Basic

/-!
# Connecting

The cluster a process talks to is that of the kubeconfig it was given, and of no other.  Where it was given none, the
kubeconfigs the environment names count, or the one in the home directory, and then the cluster it runs in.
-/

namespace ProfilingOperator

/-- What a process finds around it: its environment, and the files it can read. -/
structure Surroundings where
  env : List (String × String)
  files : List (String × String)
  deriving DecidableEq, Repr

namespace Kubeconfig

def read (around : Surroundings) (path : String) : Except Fault Kubeconfig :=
  match around.files.lookup path with
  | none => .error (.unreadable path)
  | some text => ofText text

def pathsVariable : String := "KUBECONFIG"

/-- The parts of a list of paths; empty ones name no file. -/
def splitPaths (s : String) : List String :=
  ((s.toList.foldr
    (fun c parts => if c = ':' then [] :: parts else match parts with | [] => [[c]] | p :: ps => (c :: p) :: ps)
    [[]]).map String.ofList).filter fun p => p ≠ ""

/-- The paths an environment names. -/
def paths (around : Surroundings) : List String :=
  match around.env.lookup pathsVariable with
  | some s => splitPaths s
  | none => []

def homePath (around : Surroundings) : String :=
  (around.env.lookup "HOME").getD "" ++ "/.kube/config"

/-- Merges the kubeconfigs at some paths into one. -/
def readAll (around : Surroundings) : List String → Kubeconfig → Except Fault Kubeconfig
  | [], k => .ok k
  | p :: ps, k =>
    match read around p with
    | .error f => .error f
    | .ok more => readAll around ps (k.merge more)

/-- The kubeconfig of an environment. -/
def find (around : Surroundings) : Except Fault Kubeconfig :=
  match paths around with
  | [] => read around (homePath around)
  | ps => readAll around ps .empty

/-- What is said of a process that runs in no cluster. -/
def outside : String :=
  "failed to read an incluster environment variable: environment variable not found"

/-- The context of failures to connect. -/
def context : String := "create_client"

/-- The cluster to talk to; a failure says what was tried. -/
def connect (around : Surroundings) (path : Option String) : Except Failure Choice :=
  match path with
  | some p =>
    match read around p with
    | .error f => .error (.internal ("failed to read kubeconfig: " ++ f.message) context)
    | .ok k =>
      match k.choose with
      | .error f => .error (.internal ("failed to load kubeconfig: " ++ f.message) context)
      | .ok c => .ok c
  | none =>
    match (find around).bind choose with
    | .error f =>
      .error (.internal ("failed to infer config: failed to infer config: in-cluster: (" ++ outside ++
        "), kubeconfig: (" ++ f.message ++ ")") context)
    | .ok c => .ok c

end Kubeconfig

end ProfilingOperator
