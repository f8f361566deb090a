import Reconciler.Error
import Reconciler.Json.Parser
import Reconciler.Json.Reader
import Reconciler.Program

/-!
# Requests and responses

A client reads the clock and sends requests.  It keeps the token that its last exchange with the
identity service brought.
-/

namespace Reconciler.Http

inductive Method where
  | get
  | post
  | delete
deriving DecidableEq, Inhabited

def Method.word : Method → String
  | .get => "GET"
  | .post => "POST"
  | .delete => "DELETE"

/-- What a request carries. -/
inductive Payload where
  | json (document : Json)
  | form (fields : List (String × String))
deriving Inhabited

structure Request where
  method : Method
  url : String
  headers : List (String × String)
  payload : Option Payload
deriving Inhabited

structure Response where
  status : Nat
  body : String
deriving DecidableEq, Inhabited

/-- The codes that tell success. -/
def Response.isSuccess (response : Response) : Bool :=
  200 ≤ response.status && response.status < 300

/-- The reasons that go with status codes. -/
def reasons : List (Nat × String) :=
  [(100, "Continue"), (101, "Switching Protocols"), (102, "Processing"),
    (103, "Early Hints"),
    (200, "OK"), (201, "Created"), (202, "Accepted"), (203, "Non Authoritative Information"),
    (204, "No Content"), (205, "Reset Content"), (206, "Partial Content"), (207, "Multi-Status"),
    (208, "Already Reported"), (226, "IM Used"),
    (300, "Multiple Choices"), (301, "Moved Permanently"), (302, "Found"), (303, "See Other"),
    (304, "Not Modified"), (305, "Use Proxy"), (307, "Temporary Redirect"),
    (308, "Permanent Redirect"),
    (400, "Bad Request"), (401, "Unauthorized"), (402, "Payment Required"), (403, "Forbidden"),
    (404, "Not Found"), (405, "Method Not Allowed"), (406, "Not Acceptable"),
    (407, "Proxy Authentication Required"), (408, "Request Timeout"), (409, "Conflict"),
    (410, "Gone"), (411, "Length Required"), (412, "Precondition Failed"),
    (413, "Payload Too Large"), (414, "URI Too Long"), (415, "Unsupported Media Type"),
    (416, "Range Not Satisfiable"), (417, "Expectation Failed"), (418, "I'm a teapot"),
    (421, "Misdirected Request"), (422, "Unprocessable Entity"), (423, "Locked"),
    (424, "Failed Dependency"), (425, "Too Early"), (426, "Upgrade Required"),
    (428, "Precondition Required"), (429, "Too Many Requests"),
    (431, "Request Header Fields Too Large"), (451, "Unavailable For Legal Reasons"),
    (500, "Internal Server Error"), (501, "Not Implemented"), (502, "Bad Gateway"),
    (503, "Service Unavailable"), (504, "Gateway Timeout"), (505, "HTTP Version Not Supported"),
    (506, "Variant Also Negotiates"), (507, "Insufficient Storage"), (508, "Loop Detected"),
    (510, "Not Extended"), (511, "Network Authentication Required")]

/-- A status code with its reason. -/
def statusLine (status : Nat) : String :=
  toString status ++ " " ++ (reasons.lookup status).getD "<unknown status code>"

/-- What a client asks for. -/
inductive Question where
  /-- The milliseconds on a clock that never goes back. -/
  | now
  /-- What that clock will show so many seconds from now, as far as it can count. -/
  | later (seconds : Nat)
  /-- The response to a request, where one arrives. -/
  | send (request : Request)

abbrev Question.Answer : Question → Type
  | .now => Nat
  | .later _ => Nat
  | .send _ => Option Response

abbrev network : Interface := ⟨Question, Question.Answer⟩

/-- A bearer token and the time from which it is no longer used. -/
structure Token where
  value : String
  refreshAt : Nat
deriving DecidableEq, Inhabited

/-- A step of a client that keeps at most one token. -/
abbrev Call (α : Type) := Action network CloudError (Option Token) α

/-- Sends a request. -/
def send (request : Request) : Call Response := do
  match ← Action.ask (I := network) (.send request) with
  | some response => return response
  | none => throw (.transport (.sending request.url))

/-- Reads the body of a response. -/
def decode (read : Json.Reader α) (response : Response) : Call α :=
  Action.ofExcept <|
    match (Json.parse response.body).bind read with
    | some value => .ok value
    | none => .error (.transport .decoding)

end Reconciler.Http
