import ProfilingOperator.Http.Message
import ProfilingOperator.Json.Printer

/-!
# A server that follows a script

A link to a server whose responses are laid down beforehand.  Each request takes the next of them and is logged; when
none is left, the server fails.

    log_link : every request is logged
-/

namespace ProfilingOperator.Http

/-- What a server does with a request. -/
inductive Script.Move where
  /-- Answers with a document. -/
  | document (code : Nat) (body : Json)
  /-- Answers with a text. -/
  | text (code : Nat) (body : String)
  /-- Answers with the body of the request. -/
  | echo (code : Nat)
  /-- Breaks off. -/
  | breakOff (reason : String)

/-- The moves left, and the requests so far, the last one first. -/
structure Script where
  moves : List Script.Move
  log : List Request

namespace Script

/-- The answer of a server that has no moves left. -/
def exhausted : Json :=
  .object [("status", some (.str "Failure")), ("message", some (.str "no more responses")),
    ("reason", some (.str "InternalError")), ("code", some (.nat 500))]

def Move.answer (r : Request) : Move → Except String Response
  | .document code body => .ok ⟨code, body.render⟩
  | .text code body => .ok ⟨code, body⟩
  | .echo code => .ok ⟨code, match r.body with | some b => b.render | none => ""⟩
  | .breakOff reason => .error reason

def start (moves : List Move) : Script :=
  ⟨moves, []⟩

/-- The requests in the order they came. -/
def requests (s : Script) : List Request :=
  s.log.reverse

/-- The link to a server that follows a script. -/
def link : Link Script := fun r s =>
  match s.moves with
  | [] => (.ok ⟨500, exhausted.render⟩, ⟨[], r :: s.log⟩)
  | m :: rest => (m.answer r, ⟨rest, r :: s.log⟩)

/-! ## Lemmas -/

/-- Every request is logged. -/
theorem log_link (r : Request) (s : Script) : (link r s).2.log = r :: s.log := by
  unfold link
  split <;> rfl

end Script

end ProfilingOperator.Http
