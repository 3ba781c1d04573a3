import ProfilingOperator.CommandLine.Invocation
import ProfilingOperator.Definition
import ProfilingOperator.Kubeconfig.Connection
import ProfilingOperator.Log.Record
import ProfilingOperator.Telemetry

/-!
# Starting the operator

What a process does until it has a cluster to talk to: it reads its command line, prints the definitions if that is
what was asked, sets up its telemetry, says that it starts, and looks for its cluster.
-/

namespace ProfilingOperator.Startup

/-- How far a process came. -/
inductive Outcome where
  /-- Its command line was not followed, or asked for help or for the version. -/
  | refused (fault : CommandLine.Fault)
  /-- It printed the definitions. -/
  | printed
  /-- It logged some lines in a shape and failed with a message. -/
  | failed (format : Log.Format) (logs : List Log.Record) (message : String)
  /-- It logged some lines in a shape and has a cluster to talk to. -/
  | ready (format : Log.Format) (logs : List Log.Record) (arguments : CommandLine.Arguments)
      (cluster : Kubeconfig.Choice)
  deriving DecidableEq, Repr

def program : String := "powertool"

def version : String := "0.1.0"

/-- The line that says that the controllers start. -/
def starting (settings : Settings) : Log.Record :=
  ⟨.info, program, "PowerTool controller starting...", [("system_namespace", settings.system)]⟩

/-- The line that says that spans and metrics are sent. -/
def exporting : Log.Record :=
  ⟨.info, program, "OTLP export enabled", []⟩

/-- What a process does whose command line is followed. -/
def follow (around : Surroundings) (i : CommandLine.Invocation) : Outcome :=
  if i.printsDefinitions then .printed
  else
    let telemetry : Telemetry := ⟨(Telemetry.usual around.env).service, Telemetry.endpoint? around.env, i.format⟩
    match telemetry.start false with
    | .error f => .failed i.format [] ("Failed to initialize telemetry: " ++ f.message)
    | .ok guard =>
      let told := (if guard.exporting then [exporting] else []) ++ [starting i.arguments.settings]
      let logs := (Telemetry.filter around.env).passing told
      match Kubeconfig.connect around i.kubeconfig with
      | .error f => .failed i.format logs ("Failed to create Kubernetes client: " ++ f.message)
      | .ok c => .ready i.format logs i.arguments c

/-- What a process does with a command line, without the name of the program. -/
def run (around : Surroundings) (words : List String) : Outcome :=
  match CommandLine.parse around.env words with
  | .error f => .refused f
  | .ok i => follow around i

/-- The variables of the environment a process looks at. -/
def looksAt : List String :=
  ["HOME", Kubeconfig.pathsVariable, "POWERTOOL_LOG_FORMAT", "POWERTOOL_SYSTEM_NAMESPACE",
    "POWERTOOL_COLLECTOR_SERVICE_ACCOUNT", "POWERTOOL_COLLECTOR_AUDIENCE", Telemetry.endpointVariable,
    Telemetry.filterVariable]

/-- The files a process reads that is started with a command line. -/
def reads (env : List (String × String)) (words : List String) : List String :=
  match CommandLine.parse env words with
  | .error _ => []
  | .ok i =>
    match i.kubeconfig with
    | some path => [path]
    | none =>
      match Kubeconfig.paths ⟨env, []⟩ with
      | [] => [Kubeconfig.homePath ⟨env, []⟩]
      | paths => paths

namespace Outcome

/-- The exit code of a process; one that goes on has none. -/
def exitCode? : Outcome → Option Nat
  | .refused .help => some 0
  | .refused .version => some 0
  | .refused _ => some 2
  | .printed => some 0
  | .failed _ _ _ => some 1
  | .ready _ _ _ _ => none

/-- What a process prints that is no log line. -/
def output : Outcome → String
  | .refused .version => program ++ " " ++ version ++ "\n"
  | .printed => Definition.manifests ++ "\n"
  | _ => ""

def logs : Outcome → List Log.Record
  | .failed _ rs _ => rs
  | .ready _ rs _ _ => rs
  | _ => []

/-- The shape of the lines a process logs. -/
def format : Outcome → Log.Format
  | .failed f _ _ => f
  | .ready f _ _ _ => f
  | _ => .json

/-- What a process says of its failure. -/
def errors : Outcome → String
  | .failed _ _ m => "Error: " ++ m ++ "\n"
  | _ => ""

end Outcome

end ProfilingOperator.Startup
