import Admission.Json.Print

/-!
# Requests and responses

An HTTP request as the gateway reads it: a method, a target with its path and query, headers
and a body. A response is a status, headers and a body. Header names compare without regard
to ASCII case.

Bodies written by the gateway are JSON values followed by a line feed, under
`Content-Type: application/json`, or plain text under `text/plain; charset=utf-8`; a response
may also have no body and no content type at all.
-/

namespace Admission.Http

/-- The ASCII lower case of a text. -/
def lowerAscii (s : String) : String :=
  String.ofList (s.toList.map fun c => if 'A' ≤ c && c ≤ 'Z' then Char.ofNat (c.toNat + 32) else c)

/-- Whether two header names are the same name. -/
def sameName (a b : String) : Bool := lowerAscii a == lowerAscii b

/-- A request. -/
structure Request where
  /-- The method, as sent. -/
  method : String
  /-- The target, as sent. -/
  target : String
  /-- The path of the target, as written. -/
  path : String
  /-- The query of the target, as written, without its `?`. -/
  query : String
  /-- The headers, in order. -/
  headers : List (String × String)
  /-- The body. -/
  body : String
  deriving Repr

/-- The value of a header: the first one of that name, or empty. -/
def Request.header (r : Request) (name : String) : String :=
  ((r.headers.find? (fun h => sameName h.1 name)).map Prod.snd).getD ""

/-- What a response carries. -/
inductive Body where
  /-- A JSON value. -/
  | json (j : Json)
  /-- Text. -/
  | text (s : String)
  deriving Repr

/-- A response. -/
structure Response where
  /-- The status code. -/
  status : Nat
  /-- The headers, in order; each name at most once. -/
  headers : List (String × String)
  /-- The body. -/
  body : Body
  deriving Repr

namespace Response

/-- The value of a header, or empty. -/
def header (r : Response) (name : String) : String :=
  ((r.headers.find? (fun h => sameName h.1 name)).map Prod.snd).getD ""

/-- The response with a header set, replacing one of the same name. -/
def withHeader (r : Response) (name value : String) : Response :=
  { r with headers := r.headers.filter (fun h => !sameName h.1 name) ++ [(name, value)] }

/-- The text of the body as sent: a JSON value is followed by a line feed. -/
def bodyText (r : Response) : String :=
  match r.body with
  | .json j => Json.render j ++ "\n"
  | .text s => s

/-- A JSON response. -/
def json (status : Nat) (j : Json) : Response :=
  ⟨status, [("Content-Type", "application/json")], .json j⟩

/-- A plain-text error: the message and a line feed. -/
def plainError (status : Nat) (message : String) : Response :=
  ⟨status, [("Content-Type", "text/plain; charset=utf-8"), ("X-Content-Type-Options", "nosniff")],
    .text (message ++ "\n")⟩

/-- A response with a status only. -/
def empty (status : Nat) : Response := ⟨status, [], .text ""⟩

/-- The gateway's JSON error: `{"error": {"message", "type": "error", "code"}}`. -/
def failure (status : Nat) (message : String) : Response :=
  json status (.object [("error", .object [("message", .string message),
    ("type", .string "error"), ("code", .int status)])])

end Response

end Admission.Http
