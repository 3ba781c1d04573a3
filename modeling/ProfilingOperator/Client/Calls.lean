import ProfilingOperator.Client.Recorder
import ProfilingOperator.Pass.Basic
import ProfilingOperator.Registry
import ProfilingOperator.Token

/-!
# Answering calls over a link

Each call of a pass is one exchange with the platform, but for two: a registry entry is looked for in one namespace
after the other, and a job or a pod without a namespace is written nowhere.

    tokenDocument_seconds : what is asked of a token is its lifetime in whole seconds
-/

namespace ProfilingOperator.Client

/-- Work over a link, as a pass fails. -/
abbrev Work (σ α : Type) := ExceptT Pass.Failure (StateM σ) α

/-- An exchange as work of a pass. -/
def Exchange.work {σ α : Type} (e : Exchange σ α) : Work σ α := fun s =>
  let (answer, s) := e s
  (answer.mapError .api, s)

/-! ## Collections -/

/-- The path of the operator's own kinds. -/
def ownRoot : String := "/apis/" ++ Api.groupVersion

/-- The path of the kinds of the platform's core. -/
def coreRoot : String := "/api/v1"

def jobs (space : String) : Collection := .inSpace ownRoot space "powertools"

/-- The registry entries of a namespace. -/
def tools (space : String) : Collection := .inSpace ownRoot space "powertoolconfigs"

def pods (space : String) : Collection := .inSpace coreRoot space "pods"

def accounts (space : String) : Collection := .inSpace coreRoot space "serviceaccounts"

/-! ## Jobs and pods -/

def getJob {σ : Type} (link : Http.Link σ) (space name : String) : Work σ (Option Job) :=
  Exchange.work (get? link Job.ofJson (jobs space) name)

def listJobs {σ : Type} (link : Http.Link σ) (space : String) : Work σ (List Job) :=
  Exchange.work (list link Job.ofJson (jobs space) [])

/-- The parameters of a query by label; the empty query picks everything. -/
def labelParameters (query : String) : List (String × String) :=
  if query = "" then [] else [("labelSelector", query)]

def listPods {σ : Type} (link : Http.Link σ) (space query : String) : Work σ (List Pod) :=
  Exchange.work (list link Pod.ofJson (pods space) (labelParameters query))

def replaceStatus {σ : Type} (link : Http.Link σ) (job : Job) : Work σ Job :=
  match job.space with
  | none => throw .missingNamespace
  | some space => Exchange.work (send link Job.ofJson (replaceRequest (jobs space) job.name "status" job.toJson))

def addContainer {σ : Type} (link : Http.Link σ) (pod : Pod) (container : EphemeralContainer) : Work σ Unit :=
  match pod.metadata.space with
  | none => throw .missingNamespace
  | some space => do
    let _ ← Exchange.work (send link Pod.ofJson
      (replaceRequest (pods space) pod.name "ephemeralcontainers" (pod.addEphemeral container).toJson))
    return ()

/-! ## Registry entries -/

/-- Reads the registry entry of a tool in one namespace. -/
def lookUp {σ : Type} (link : Http.Link σ) (tool space : String) : Work σ (Option Tool) :=
  Exchange.work (get? link Tool.ofJson (tools space) (Tool.entryName tool))

/-- Finds the registry entry of a tool for a job of a namespace. -/
def findTool {σ : Type} (link : Http.Link σ) (order : List Registry.Scope) (tool space : String) :
    Work σ (Option Tool) :=
  Registry.firstFound (lookUp link tool) (Registry.search order space)

/-- The document that changes a status and nothing else. -/
def statusPatch (status : Tool.Status) : Json :=
  .object [("status", some status.toJson)]

/-- Merges a status into that of a registry entry. -/
def patchToolStatus {σ : Type} (link : Http.Link σ) (space name : String) (status : Tool.Status) : Work σ Unit := do
  let _ ← Exchange.work (send link Tool.ofJson
    (patchRequest (tools space) name (some "status") [("fieldManager", Settings.registrar)] mergeType
      (statusPatch status)))
  return ()

/-! ## Tokens -/

/-- The version tokens are asked for in. -/
def tokenVersion : String := "authentication.k8s.io/v1"

def tokenDocument (audience : String) (lifetime : Duration) : Json :=
  .object [("apiVersion", some (.str tokenVersion)), ("kind", some (.str "TokenRequest")),
    ("metadata", some (.object [])),
    ("spec", some (.object [("audiences", some (.strings [audience])),
      ("expirationSeconds", some (.num (.whole (Token.requestedSeconds lifetime))))]))]

def readTokenSpec : Decode.Reader Unit :=
  Decode.platform "TokenRequestSpec" fun s =>
    (Decode.Reading.ok fun _ _ => ())
      |>.and (s.defaulted 0 "audiences" (Decode.list Decode.string) [])
      |>.and (s.optional 1 "expirationSeconds" Decode.int64)

def readIssued : Decode.Reader String :=
  Decode.platform "TokenRequestStatus" fun s =>
    (Decode.Reading.ok fun _ token => token)
      |>.and (s.optional 0 "expirationTimestamp" Stamp.ofJson)
      |>.and (s.defaulted 1 "token" Decode.string "")

/-- Reads the answer to a request for a token; there may be no token in it. -/
def readToken : Decode.Reader (Option String) :=
  Decode.platform "TokenRequest" fun s =>
    (Decode.Reading.ok fun _ _ _ _ token => token)
      |>.and (s.defaulted 0 "apiVersion" (Decode.fixed tokenVersion) ())
      |>.and (s.defaulted 1 "kind" (Decode.fixed "TokenRequest") ())
      |>.and (s.defaulted 2 "metadata" Metadata.ofJson .empty)
      |>.and (s.defaulted 3 "spec" readTokenSpec ())
      |>.and (s.optional 4 "status" readIssued)

/-- The failure of a request that was answered without a token. -/
def emptyToken (job : String) : Pass.Failure :=
  .general (.internal ("empty token issued for PowerTool " ++ job) "token")

def tokenRequest (settings : Settings) (lifetime : Duration) : Except Api.Failure Http.Request :=
  createPartRequest (accounts settings.system) settings.account "token" (tokenDocument settings.audience lifetime)

/-- The token an answer holds. -/
def issued (job : String) : Option String → Except Pass.Failure String
  | some token => if token = "" then .error (emptyToken job) else .ok token
  | none => .error (emptyToken job)

def issueToken {σ : Type} (link : Http.Link σ) (settings : Settings) (job : String) (lifetime : Duration) :
    Work σ String := do
  let token ← Exchange.work (send link readToken (tokenRequest settings lifetime))
  ExceptT.mk (pure (issued job token))

/-! ## All calls -/

/-- Does work beside a recorder. -/
def Work.beside {σ α : Type} (w : Work σ α) (s : Recorder × σ) : Except Pass.Failure α × (Recorder × σ) :=
  let (answer, t) := w s.2
  (answer, (s.1, t))

/-- Answers a call over a link. -/
def perform {σ : Type} (link : Http.Link σ) (settings : Settings) (now : Stamp) :
    (call : Call) → Recorder × σ → call.Reply × (Recorder × σ)
  | .getJob space name, s => (getJob link space name).beside s
  | .replaceStatus job, s => (replaceStatus link job).beside s
  | .listPods space query, s => (listPods link space query).beside s
  | .listJobs space, s => (listJobs link space).beside s
  | .addContainer pod container, s => (addContainer link pod container).beside s
  | .findTool tool space, s => (findTool link (Registry.usual settings.system) tool space).beside s
  | .issueToken job lifetime, s => (issueToken link settings job lifetime).beside s
  | .patchToolStatus space name status, s => (patchToolStatus link space name status).beside s
  | .publish event, s => ((), Recorder.publish link now event s)

/-- The handler that answers calls over a link. -/
def handler {σ : Type} (link : Http.Link σ) (settings : Settings) (now : Stamp) : Pass.Handler (Recorder × σ) :=
  perform link settings now

/-! ## Lemmas -/

/-- What is asked of a token is its lifetime in whole seconds. -/
theorem tokenDocument_seconds (audience : String) (lifetime : Duration) :
    ((tokenDocument audience lifetime).member? "spec").bind (·.member? "expirationSeconds") =
      some (.num (.whole (Token.requestedSeconds lifetime))) := by
  simp [tokenDocument, Json.member?_object, Json.lastGiven]

end ProfilingOperator.Client
