import ProfilingOperator.Http.Uri
import ProfilingOperator.Log.Filter

/-!
# Telemetry

What a process says of itself: log lines in one of two shapes, and spans and metrics to a collector where one is named.
A process sets its telemetry up once.
-/

namespace ProfilingOperator

/-- What telemetry is set up with. -/
structure Telemetry where
  /-- The name the process goes by. -/
  service : String
  /-- The address of the collector of spans and metrics. -/
  endpoint : Option String
  format : Log.Format
  deriving DecidableEq, Repr

namespace Telemetry

/-- Why telemetry cannot be set up. -/
inductive Fault where
  /-- The collector's address is none. -/
  | badEndpoint (fault : Http.Uri.Fault)
  /-- It was set up before. -/
  | already
  /-- The word for the shape of log lines names none. -/
  | unknownFormat (word : String)
  deriving DecidableEq, Repr

def Fault.message : Fault → String
  | .badEndpoint f =>
    "failed to initialize metrics exporter: Metrics exporter otlp failed with invalid URI " ++ f.message
  | .already =>
    "failed to initialize tracing subscriber: a global default trace dispatcher has already been set"
  | .unknownFormat w => Log.Format.unknown w

def endpointVariable : String := "OTEL_EXPORTER_OTLP_ENDPOINT"

def filterVariable : String := "RUST_LOG"

/-- The collector an environment names. -/
def endpoint? (env : List (String × String)) : Option String :=
  (env.lookup endpointVariable).filter fun e => e ≠ ""

def usual (env : List (String × String)) : Telemetry :=
  ⟨"powertool-operator", endpoint? env, .json⟩

/-- The filter where the environment has none that can be read. -/
def usualFilter : Log.Filter :=
  [⟨none, none, [], .info⟩, ⟨some "powertool", none, [], .debug⟩, ⟨some "kube", none, [], .info⟩,
    ⟨some "tower", none, [], .warn⟩, ⟨some "hyper", none, [], .warn⟩]

def filter (env : List (String × String)) : Log.Filter :=
  Log.Filter.ofText (env.lookup filterVariable) usualFilter

/-- What a process holds on to: whether spans and metrics are sent anywhere. -/
structure Guard where
  exporting : Bool
  deriving DecidableEq, Repr

/-- The guard of a process without telemetry. -/
def Guard.inert : Guard := ⟨false⟩

/-- Sets up telemetry; `before` says whether the process has done so already. -/
def start (t : Telemetry) (before : Bool) : Except Fault Guard :=
  let finish := fun (exporting : Bool) => if before then .error .already else .ok (Guard.mk exporting)
  match t.endpoint with
  | none => finish false
  | some e =>
    match Http.Uri.parse e with
    | .error f => .error (.badEndpoint f)
    | .ok _ => finish true

end Telemetry

end ProfilingOperator
