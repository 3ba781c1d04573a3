import ProfilingOperator.Duration.Parser
import ProfilingOperator.Http.Uri
import ProfilingOperator.Text.Quoted

/-!
# Failures

What can go wrong: a request to the platform (`Api.Failure`), work shared by the controllers (`Failure`) and a pass
over a job or a registry entry (`Pass.Failure`).  Each has its message, and says whether trying again can help.
-/

namespace ProfilingOperator

/-- What the platform answers when it refuses a request. -/
structure Api.Refusal where
  status : String
  message : String
  reason : String
  code : Nat
  deriving DecidableEq, Repr

/-- Why a request came to nothing. -/
inductive Api.Failure where
  /-- The platform refused it. -/
  | refused (r : Api.Refusal)
  /-- A line of the answer was too long. -/
  | lineTooLong
  /-- It did not get through. -/
  | transport (text : String)
  /-- It names no object. -/
  | nameless
  /-- Its address cannot be written. -/
  | unwritable (fault : Http.Uri.Fault)
  /-- The answer is not what was asked for. -/
  | undecodable (text : String)
  deriving DecidableEq, Repr

/-- A failure of work that the controllers share. -/
inductive Failure where
  | api (f : Api.Failure)
  | validation (resource message : String) (field : Option String)
  | serialization (message : String) (kind : Option String)
  | internal (message context : String)
  deriving DecidableEq, Repr

/-- Why a pass over an object failed. -/
inductive Pass.Failure where
  | toolNotFound (tool entry : String)
  | namespaceNotAllowed (space tool : String)
  | invalidSelector (detail : String)
  | missingNamespace
  | missingUid (name : String)
  | invalidDuration (duration : String) (fault : Duration.Fault)
  | invalidOutput (detail : String)
  | api (f : Api.Failure)
  | general (f : ProfilingOperator.Failure)
  deriving DecidableEq, Repr

/-! ## Requests -/

namespace Api

/-- The message of a refusal, with all its parts quoted once more. -/
def Refusal.text (r : Refusal) : String :=
  "ApiError: " ++ r.message ++ ": " ++ r.reason ++ " (ErrorResponse \x7b status: " ++ Text.quote r.status ++
    ", message: " ++ Text.quote r.message ++ ", reason: " ++ Text.quote r.reason ++ ", code: " ++
    toString r.code ++ " \x7d)"

/-- The message of a failed request. -/
def Failure.message : Failure → String
  | .refused r => r.text
  | .lineTooLong => "Error finding newline character"
  | .transport text => "ServiceError: " ++ text
  | .nameless => "Failed to build request: failed to validate request: A non-empty name is required"
  | .unwritable fault => "Failed to build request: failed to build request: " ++ fault.message
  | .undecodable text => "Error deserializing response: " ++ text

/-- Whether the platform refused with a code. -/
def Failure.hasCode (code : Nat) : Failure → Bool
  | .refused r => r.code = code
  | _ => false

/-- Whether the object does not exist. -/
def Failure.isNotFound (f : Failure) : Bool :=
  f.hasCode 404

/-- Whether the object changed since it was read, or exists already. -/
def Failure.isConflict (f : Failure) : Bool :=
  f.hasCode 409

/-- Whether the same request may succeed later: not when it was refused with a code from 400 to 499, except for
a conflict. -/
def Failure.isRetryable : Failure → Bool
  | .refused r => r.code = 409 || !(400 ≤ r.code && r.code < 500)
  | _ => true

end Api

/-! ## Shared work -/

namespace Failure

def message : Failure → String
  | .api f => "kubernetes error: " ++ f.message
  | .validation resource m _ => "validation error for " ++ resource ++ ": " ++ m
  | .serialization m _ => "serialization error: " ++ m
  | .internal m context => "internal error [" ++ context ++ "]: " ++ m

/-- Whether trying again can help; what a resource says has to be mended first. -/
def isRetryable : Failure → Bool
  | .api f => f.isRetryable
  | .validation _ _ _ => false
  | .serialization _ _ => false
  | .internal _ _ => true

/-- Where a validation failed when no resource is at hand. -/
def unknownResource : String := "unknown"

end Failure

/-! ## Passes -/

namespace Pass.Failure

def message : Pass.Failure → String
  | .toolNotFound tool entry =>
    "tool configuration error: tool " ++ tool ++ " not found (looked up " ++ entry ++ ")"
  | .namespaceNotAllowed space tool =>
    "namespace access denied: namespace " ++ space ++ " may not use tool " ++ tool
  | .invalidSelector detail => "invalid label selector: " ++ detail
  | .missingNamespace => "resource missing namespace"
  | .missingUid name => "PowerTool " ++ name ++ " has no uid"
  | .invalidDuration duration fault =>
    "invalid duration " ++ Text.quote duration ++ ": " ++ fault.message duration
  | .invalidOutput detail => "invalid output configuration: " ++ detail
  | .api f => "kube error: " ++ f.message
  | .general f => f.message

/-- Whether the object changed since it was read. -/
def isConflict : Pass.Failure → Bool
  | .api f => f.isConflict
  | .general (.api f) => f.isConflict
  | _ => false

/-- Whether trying again can help without a change of the job. -/
def isRetryable : Pass.Failure → Bool
  | .api f => f.isRetryable
  | .general f => f.isRetryable
  | .toolNotFound _ _ | .namespaceNotAllowed _ _ => true
  | .invalidSelector _ | .missingNamespace | .missingUid _ | .invalidDuration _ _ | .invalidOutput _ => false

/-- Whether the failure is one of configuration: it stops the pass and is recorded on the job. -/
def isConfiguration : Pass.Failure → Bool
  | .toolNotFound _ _ | .namespaceNotAllowed _ _ | .invalidSelector _ => true
  | _ => false

/-- The label failures are counted under. -/
def label : Pass.Failure → String
  | .toolNotFound _ _ => "tool_not_found"
  | .namespaceNotAllowed _ _ => "namespace_denied"
  | .invalidSelector _ => "invalid_selector"
  | .missingNamespace | .missingUid _ => "invalid_resource"
  | .invalidDuration _ _ => "invalid_duration"
  | .invalidOutput _ => "invalid_output"
  | .api f => if f.isConflict then "conflict" else "kube"
  | .general _ => "common"

end Pass.Failure

end ProfilingOperator
