import ProfilingOperator.Decode
import ProfilingOperator.Failure
import ProfilingOperator.Http.Message
import ProfilingOperator.Json.Parser

/-!
# Exchanges with the platform

One exchange sends a request and reads the response as what was asked for.  Objects are kept in collections, each
under a path, and are addressed by name; an object without a name is asked for by no request.  A code of failure is a
refusal, whose parts are read from the response if it has them.
-/

namespace ProfilingOperator.Client

/-- Work over a link that may fail. -/
abbrev Exchange (σ α : Type) := ExceptT Api.Failure (StateM σ) α

/-! ## Refusals -/

def readRefusal : Decode.Reader Api.Refusal :=
  Decode.record "ErrorResponse" 4 fun s =>
    (Decode.Reading.ok Api.Refusal.mk)
      |>.and (s.required 0 "status" Decode.string)
      |>.and (s.defaulted 1 "message" Decode.string "")
      |>.and (s.defaulted 2 "reason" Decode.string "")
      |>.and (s.required 3 "code" Decode.word16)

/-- The refusal of a response that does not say why. -/
def bareRefusal (r : Http.Response) : Api.Refusal :=
  ⟨Http.Status.text r.code, Text.quote r.text, "Failed to parse error data", r.code⟩

def refusal (r : Http.Response) : Api.Refusal :=
  match Json.parse r.text with
  | .error _ => bareRefusal r
  | .ok j =>
    match readRefusal j with
    | .ok told => told
    | .error _ => bareRefusal r

/-! ## Sending -/

/-- Reads the text of a response as what was asked for. -/
def readText {α : Type} (read : Decode.Reader α) (text : String) : Except Api.Failure α :=
  match Json.parse text with
  | .error m => .error (.undecodable m)
  | .ok j =>
    match read j with
    | .ok a => .ok a
    | .error e => .error (.undecodable e.message)

/-- What a link's answer comes to. -/
def outcome {α : Type} (read : Decode.Reader α) : Except String Http.Response → Except Api.Failure α
  | .error text => .error (.transport text)
  | .ok r => if Http.Status.isFailure r.code then .error (.refused (refusal r)) else readText read r.text

/-- Sends a request, if it could be made, and reads the response. -/
def send {σ α : Type} (link : Http.Link σ) (read : Decode.Reader α) :
    Except Api.Failure Http.Request → Exchange σ α
  | .error f => throw f
  | .ok request => fun s =>
    let (answer, s) := link request s
    (outcome read answer, s)

/-! ## Addresses -/

/-- Where the objects of a kind are kept. -/
structure Collection where
  path : String
  deriving DecidableEq, Repr

/-- The collection of a kind in a namespace. -/
def Collection.inSpace (root space plural : String) : Collection :=
  ⟨root ++ "/namespaces/" ++ space ++ "/" ++ plural⟩

/-- A path with parameters; without any, an empty query is kept. -/
def withParameters (path : String) (parameters : List (String × String)) : String :=
  path ++ "?" ++ Http.Form.encode parameters

/-- Reads an address as the target of a request. -/
def target (address : String) : Except Api.Failure Http.Path :=
  match Http.Uri.parse address with
  | .ok u => .ok u.target
  | .error f => .error (.unwritable f)

/-- The path of an object, or of a part of it. -/
def Collection.item (c : Collection) (name : String) (part : Option String) : Except Api.Failure String :=
  if name = "" then .error .nameless
  else
    let path := c.path ++ "/" ++ name
    .ok (match part with | some p => path ++ "/" ++ p | none => path)

/-! ## Requests -/

/-- The media type of documents that are written whole. -/
def wholeType : String := "application/json"

/-- The media type of documents that are merged. -/
def mergeType : String := "application/merge-patch+json"

/-- The media type of documents that are applied. -/
def applyType : String := "application/apply-patch+yaml"

def getRequest (c : Collection) (name : String) : Except Api.Failure Http.Request := do
  return ⟨.get, ← target (← c.item name none), none, none⟩

def listRequest (c : Collection) (parameters : List (String × String)) : Except Api.Failure Http.Request := do
  return ⟨.get, ← target (withParameters c.path parameters), none, none⟩

def createRequest (c : Collection) (body : Json) : Except Api.Failure Http.Request := do
  return ⟨.post, ← target (withParameters c.path []), some wholeType, some body⟩

/-- The request that adds a part of an object. -/
def createPartRequest (c : Collection) (name part : String) (body : Json) : Except Api.Failure Http.Request := do
  return ⟨.post, ← target (withParameters (← c.item name part) []), some wholeType, some body⟩

def replaceRequest (c : Collection) (name part : String) (body : Json) : Except Api.Failure Http.Request := do
  return ⟨.put, ← target (withParameters (← c.item name part) []), some wholeType, some body⟩

/-- The request that changes an object, or a part of it. -/
def patchRequest (c : Collection) (name : String) (part : Option String) (parameters : List (String × String))
    (mediaType : String) (body : Json) : Except Api.Failure Http.Request := do
  return ⟨.patch, ← target (withParameters (← c.item name part) parameters), some mediaType, some body⟩

/-! ## Reading objects -/

def readList {α : Type} (read : Decode.Reader α) : Decode.Reader (List α)
  | .obj ms => ((Decode.Source.members ms).required 0 "items" (Decode.list read)).result
  | j => .error (.invalidType (Decode.found j) "struct ObjectList")

def get {σ α : Type} (link : Http.Link σ) (read : Decode.Reader α) (c : Collection) (name : String) : Exchange σ α :=
  send link read (getRequest c name)

def list {σ α : Type} (link : Http.Link σ) (read : Decode.Reader α) (c : Collection)
    (parameters : List (String × String)) : Exchange σ (List α) :=
  send link (readList read) (listRequest c parameters)

/-- Whether a failure says that there is no such object, whatever its code. -/
def saysNotFound : Api.Failure → Bool
  | .refused r => r.reason = "NotFound"
  | _ => false

/-- An answer where a failure may say that there is no such object. -/
def orNone {α : Type} : Except Api.Failure α → Except Api.Failure (Option α)
  | .ok a => .ok (some a)
  | .error f => if saysNotFound f then .ok none else .error f

def get? {σ α : Type} (link : Http.Link σ) (read : Decode.Reader α) (c : Collection) (name : String) :
    Exchange σ (Option α) := fun s =>
  let (answer, s) := get link read c name s
  (orNone answer, s)

end ProfilingOperator.Client
