import ProfilingOperator.Cluster.Basic
import ProfilingOperator.Pass.Basic

/-!
# Answering calls from a cluster in memory

A session answers the calls of a pass from a cluster.  Calls are logged in order; each may be made to fail by a
schedule, which gives for each kind of call what its first, second, … call comes to.  A status is replaced only if it
is of the stored version, and the version counts up.
-/

namespace ProfilingOperator

/-- The kinds of calls a schedule tells apart; adding a container is told apart by pod. -/
inductive Call.Kind where
  | getJob
  | replaceStatus
  | listPods
  | listJobs
  | addContainer (pod : String)
  | findTool
  | issueToken
  | patchToolStatus
  | publish
  deriving DecidableEq, Repr

def Call.kind : Call → Call.Kind
  | .getJob _ _ => .getJob
  | .replaceStatus _ => .replaceStatus
  | .listPods _ _ => .listPods
  | .listJobs _ => .listJobs
  | .addContainer pod _ => .addContainer pod.name
  | .findTool _ _ => .findTool
  | .issueToken _ _ => .issueToken
  | .patchToolStatus _ _ _ => .patchToolStatus
  | .publish _ => .publish

/-- The reply of a call that fails; publishing an event never does. -/
def Call.failed : (c : Call) → Pass.Failure → c.Reply
  | .getJob _ _, f => Except.error f
  | .replaceStatus _, f => Except.error f
  | .listPods _ _, f => Except.error f
  | .listJobs _, f => Except.error f
  | .addContainer _ _, f => Except.error f
  | .findTool _ _, f => Except.error f
  | .issueToken _ _, f => Except.error f
  | .patchToolStatus _ _ _, f => Except.error f
  | .publish _, _ => ()

/-- What the next calls of each kind come to: a failure, or nothing where they go through. -/
abbrev Schedule := List (Call.Kind × List (Option Pass.Failure))

namespace Schedule

/-- What the next call of a kind comes to, and the schedule after it. -/
def take (kind : Call.Kind) : Schedule → Option Pass.Failure × Schedule
  | [] => (none, [])
  | (k, fs) :: rest =>
    if k = kind then
      match fs with
      | [] => (none, (k, []) :: rest)
      | f :: fs => (f, (k, fs) :: rest)
    else
      let (f, rest) := take kind rest
      (f, (k, fs) :: rest)

end Schedule

namespace Cluster

def refusal (code : Nat) (reason : String) : Pass.Failure :=
  .api (.refused ⟨"Failure", "world", reason, code⟩)

/-- The refusal of a call on an object that is not there. -/
def notFound : Pass.Failure := refusal 404 "NotFound"

/-- The refusal of a write to a version that is not the stored one. -/
def staleVersion : Pass.Failure := refusal 409 "Conflict"

/-- The version after a write; objects without one have none. -/
def nextVersion (v : Option String) : Option String :=
  v.map fun s => toString ((s.toNat?).getD 0 + 1)

/-- A stored job after its status was replaced. -/
def restatused (stored : Job) (status : Option Job.Status) : Job :=
  ⟨{ stored.metadata with resourceVersion := nextVersion stored.metadata.resourceVersion }, stored.spec, status⟩

/-- Replaces the status of the job at an address, if the version is the stored one. -/
def replaceStatus (c : Cluster) (job : Job) : Except Pass.Failure Job × Cluster :=
  let test := fun (j : Job) => j.metadata.isAt (job.space.getD "") job.name
  match c.jobs.find? test with
  | none => (.error notFound, c)
  | some stored =>
    if stored.metadata.resourceVersion = job.metadata.resourceVersion then
      (.ok (restatused stored job.status),
        { c with jobs := replaceFirst test (fun j => restatused j job.status) c.jobs })
    else (.error staleVersion, c)

/-- Adds an ephemeral container to the pod at an address. -/
def addContainer (c : Cluster) (pod : Pod) (container : EphemeralContainer) :
    Except Pass.Failure Unit × Cluster :=
  let test := fun (p : Pod) => p.metadata.sameAddress pod.metadata
  if c.pods.any test then
    (.ok (), { c with pods := replaceFirst test (fun p => p.addEphemeral container) c.pods })
  else (.error notFound, c)

/-- Stores the status of the registry entry at an address. -/
def patchToolStatus (c : Cluster) (space name : String) (status : Tool.Status) :
    Except Pass.Failure Unit × Cluster :=
  let test := fun (t : Tool) => t.metadata.isAt space name
  if c.tools.any test then
    (.ok (), { c with tools := replaceFirst test (fun t => ⟨t.metadata, t.spec, some status⟩) c.tools })
  else (.error notFound, c)

def token (job : String) (lifetime : Duration) : String :=
  "token-" ++ job ++ "-" ++ toString lifetime.seconds

/-- Does what a call asks for. -/
def perform : (call : Call) → Cluster → call.Reply × Cluster
  | .getJob space name, c => (.ok (c.job? space name), c)
  | .replaceStatus job, c => c.replaceStatus job
  | .listPods space _, c => (.ok (c.podsIn space), c)
  | .listJobs space, c => (.ok (c.jobsIn space), c)
  | .addContainer pod container, c => c.addContainer pod container
  | .findTool tool space, c => (.ok (c.findTool? tool space), c)
  | .issueToken job lifetime, c => (.ok (token job lifetime), c)
  | .patchToolStatus space name status, c => c.patchToolStatus space name status
  | .publish _, c => ((), c)

end Cluster

/-- A cluster with a schedule of failures, and the calls it has answered. -/
structure Session where
  cluster : Cluster
  schedule : Schedule
  /-- The calls so far, the last one first. -/
  log : List Call

namespace Session

def start (cluster : Cluster) (schedule : Schedule) : Session :=
  ⟨cluster, schedule, []⟩

def calls (s : Session) : List Call :=
  s.log.reverse

/-- Answers a call: by the failure that is due for it, or by doing it. -/
def answer : Pass.Handler Session := fun call s =>
  match s.schedule.take call.kind with
  | (some f, schedule) => (call.failed f, ⟨s.cluster, schedule, call :: s.log⟩)
  | (none, schedule) =>
    let (reply, cluster) := s.cluster.perform call
    (reply, ⟨cluster, schedule, call :: s.log⟩)

end Session

end ProfilingOperator
