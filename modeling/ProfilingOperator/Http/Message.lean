import ProfilingOperator.Http.Form
import ProfilingOperator.Http.Uri
import ProfilingOperator.Json.Basic

/-!
# Requests and responses

What is sent to the platform and what comes back, and the link that carries them.  Nothing is said of the link but
that each request gets a response or does not get through.
-/

namespace ProfilingOperator.Http

/-- The method of a request. -/
inductive Method where
  | get
  | post
  | put
  | patch
  deriving DecidableEq, Repr

def Method.word : Method → String
  | .get => "GET"
  | .post => "POST"
  | .put => "PUT"
  | .patch => "PATCH"

/-- A request. -/
structure Request where
  method : Method
  target : Path
  contentType : Option String
  body : Option Json

/-- A response: the code of its status, and its body as text. -/
structure Response where
  code : Nat
  text : String
  deriving DecidableEq, Repr

/-- What carries requests: a response, or the reason why there is none, and the link as it is afterwards. -/
abbrev Link (σ : Type) := Request → σ → Except String Response × σ

/-! ## Requests -/

def Request.parameters (r : Request) : List (String × String) :=
  match r.target.query with
  | some q => Form.decode q
  | none => []

/-! ## Status -/

namespace Status

/-- The phrases of the codes of failure. -/
def phrases : List (Nat × String) :=
  [(400, "Bad Request"), (401, "Unauthorized"), (402, "Payment Required"), (403, "Forbidden"), (404, "Not Found"),
    (405, "Method Not Allowed"), (406, "Not Acceptable"), (407, "Proxy Authentication Required"),
    (408, "Request Timeout"), (409, "Conflict"), (410, "Gone"), (411, "Length Required"),
    (412, "Precondition Failed"), (413, "Payload Too Large"), (414, "URI Too Long"),
    (415, "Unsupported Media Type"), (416, "Range Not Satisfiable"), (417, "Expectation Failed"),
    (418, "I'm a teapot"), (421, "Misdirected Request"), (422, "Unprocessable Entity"), (423, "Locked"),
    (424, "Failed Dependency"), (425, "Too Early"), (426, "Upgrade Required"), (428, "Precondition Required"),
    (429, "Too Many Requests"), (431, "Request Header Fields Too Large"), (451, "Unavailable For Legal Reasons"),
    (500, "Internal Server Error"), (501, "Not Implemented"), (502, "Bad Gateway"), (503, "Service Unavailable"),
    (504, "Gateway Timeout"), (505, "HTTP Version Not Supported"), (506, "Variant Also Negotiates"),
    (507, "Insufficient Storage"), (508, "Loop Detected"), (510, "Not Extended"),
    (511, "Network Authentication Required")]

/-- The phrase of a code; one that is not in use has none. -/
def phrase (code : Nat) : String :=
  (phrases.lookup code).getD "<unknown status code>"

def text (code : Nat) : String :=
  toString code ++ " " ++ phrase code

def isFailure (code : Nat) : Bool :=
  400 ≤ code && code < 600

end Status

end ProfilingOperator.Http
