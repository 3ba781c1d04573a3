import ProfilingOperator.Event
import ProfilingOperator.Failure
import ProfilingOperator.Job.Codec
import ProfilingOperator.Pod.Basic
import ProfilingOperator.Tool.Basic

/-!
# Passes

A pass over an object is a program that makes calls to the platform and goes on with their replies.  It ends with a
value, with a failure, or by stopping short.  Nothing is said here of what a call does: a pass is run against any
handler of calls (`Pass.run`).
-/

namespace ProfilingOperator

/-- A call to the platform. -/
inductive Call where
  /-- Reads a job. -/
  | getJob (space name : String)
  /-- Replaces the status of a job, if it is still of the version given. -/
  | replaceStatus (job : Job)
  /-- Lists the pods of a namespace that a query picks. -/
  | listPods (space query : String)
  /-- Lists the jobs of a namespace. -/
  | listJobs (space : String)
  /-- Adds an ephemeral container to a pod. -/
  | addContainer (pod : Pod) (container : EphemeralContainer)
  /-- Finds the registry entry of a tool for a job of a namespace. -/
  | findTool (tool space : String)
  /-- Issues a collector token. -/
  | issueToken (job : String) (lifetime : Duration)
  /-- Merges a status into that of a registry entry. -/
  | patchToolStatus (space name : String) (status : Tool.Status)
  /-- Publishes an event; this never fails. -/
  | publish (event : Event)

/-- What a call is answered with. -/
def Call.Reply : Call → Type
  | .getJob _ _ => Except Pass.Failure (Option Job)
  | .replaceStatus _ => Except Pass.Failure Job
  | .listPods _ _ => Except Pass.Failure (List Pod)
  | .listJobs _ => Except Pass.Failure (List Job)
  | .addContainer _ _ => Except Pass.Failure Unit
  | .findTool _ _ => Except Pass.Failure (Option Tool)
  | .issueToken _ _ => Except Pass.Failure String
  | .patchToolStatus _ _ _ => Except Pass.Failure Unit
  | .publish _ => Unit

/-- A program of calls. -/
inductive Pass (α : Type) : Type where
  /-- Ends with a value. -/
  | done (a : α)
  /-- Ends with a failure. -/
  | fail (f : Pass.Failure)
  /-- Stops short, for a reason that is no failure of the pass. -/
  | crash (message : String)
  /-- Makes a call and goes on with its reply. -/
  | call (c : Call) (next : c.Reply → Pass α)

/-- How a pass ended. -/
inductive Pass.Outcome (α : Type) where
  | done (a : α)
  | failed (f : Pass.Failure)
  | crashed (message : String)

namespace Pass

/-! ## Composing -/

/-- Goes on with the value of a pass. -/
def bind {α β : Type} (p : Pass α) (f : α → Pass β) : Pass β :=
  match p with
  | .done a => f a
  | .fail e => .fail e
  | .crash m => .crash m
  | .call c next => .call c fun r => (next r).bind f

instance : Monad Pass where
  pure := Pass.done
  bind := Pass.bind

/-- A pass whose failure is a value. -/
def attempt {α : Type} (p : Pass α) : Pass (Except Failure α) :=
  match p with
  | .done a => .done (.ok a)
  | .fail e => .done (.error e)
  | .crash m => .crash m
  | .call c next => .call c fun r => (next r).attempt

/-- Goes on with a reply, or ends with its failure. -/
def ofReply {α : Type} : Except Failure α → Pass α
  | .ok a => .done a
  | .error f => .fail f

/-! ## Calls -/

def getJob (space name : String) : Pass (Option Job) :=
  .call (.getJob space name) ofReply

def replaceStatus (job : Job) : Pass Job :=
  .call (.replaceStatus job) ofReply

def listPods (space query : String) : Pass (List Pod) :=
  .call (.listPods space query) ofReply

def listJobs (space : String) : Pass (List Job) :=
  .call (.listJobs space) ofReply

def addContainer (pod : Pod) (container : EphemeralContainer) : Pass Unit :=
  .call (.addContainer pod container) ofReply

def findTool (tool space : String) : Pass (Option Tool) :=
  .call (.findTool tool space) ofReply

def issueToken (job : String) (lifetime : Duration) : Pass String :=
  .call (.issueToken job lifetime) ofReply

/-- Merges a status into that of a registry entry. -/
def patchToolStatus (space name : String) (status : Tool.Status) : Pass Unit :=
  .call (.patchToolStatus space name status) ofReply

def publish (event : Event) : Pass Unit :=
  .call (.publish event) fun _ => .done ()

/-! ## Running -/

/-- A handler of calls over a state. -/
abbrev Handler (σ : Type) := (c : Call) → σ → c.Reply × σ

/-- Runs a pass against a handler: how it ended, and the state it left. -/
def run {σ α : Type} (handle : Handler σ) : Pass α → σ → Outcome α × σ
  | .done a, s => (.done a, s)
  | .fail f, s => (.failed f, s)
  | .crash m, s => (.crashed m, s)
  | .call c next, s =>
    let (r, s) := handle c s
    (next r).run handle s

end Pass

end ProfilingOperator
