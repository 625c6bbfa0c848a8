import Admission.Http.Message
import Admission.Text.Stray

/-!
# Routing requests

A mux maps route patterns to handlers. A pattern names a method (or none, for every method) and
a path of literal segments and `{name}` wildcards; a pattern whose path ends with `/` also
matches every path below it. A `GET` pattern answers `HEAD` too.

A path is matched in its escaped form: as sent when that is a valid escaped path, else with
what it stands for escaped again. Before matching, the path is cleaned: empty and `.`
segments are dropped and `..` removes the segment before it, a trailing slash being kept.
Then:

* the request target `*` is answered `400` with no body;
* a request for the root of a subtree without its trailing slash is redirected (307) to it;
* a request whose path is not clean is redirected to the clean path, except a `CONNECT`
  request, which is matched on its path as written;
* a request no pattern matches is `404 page not found`, unless patterns for other methods
  match its path: then it is `405 Method Not Allowed` with `Allow` listing those methods in
  order (`HEAD` joining `GET`).

Segments are compared after percent-decoding, and a wildcard takes one non-empty segment.
-/

namespace Admission.Http

/-- One segment of a pattern's path. -/
inductive Segment where
  /-- This text exactly. -/
  | literal (s : String)
  /-- Any one non-empty segment, given to the handler. -/
  | wildcard
  deriving DecidableEq, Repr

/-- A route pattern. -/
structure Pattern where
  /-- The method, or none for every method. -/
  method : Option String
  /-- The segments of its path. -/
  segments : List Segment
  /-- Whether it matches every path below its own, which ends with `/`. -/
  subtree : Bool
  deriving DecidableEq, Repr

/-- The value of a hexadecimal digit. -/
def hexDigit (c : Char) : Option Nat :=
  if c.isDigit then some (c.toNat - '0'.toNat)
  else if 'a' ≤ c.toLower && c.toLower ≤ 'f' then some (c.toLower.toNat - 'a'.toNat + 10)
  else none

/-- The bytes a percent-encoded text stands for; none at a malformed escape. -/
def unescapeBytes : List Char → Option (List UInt8)
  | [] => some []
  | '%' :: a :: b :: r => do
    let x ← hexDigit a
    let y ← hexDigit b
    let rest ← unescapeBytes r
    pure (UInt8.ofNat (x * 16 + y) :: rest)
  | '%' :: _ => none
  | c :: r => (unescapeBytes r).map fun rest => Text.Stray.charBytes c ++ rest

/-- A percent-decoded segment, its bytes kept as they are (`Text.Stray`); the segment itself
at a malformed escape. -/
def unescape (seg : String) : String :=
  match unescapeBytes seg.toList with
  | some bytes => Text.Stray.ofBytes bytes
  | none => seg

/-- Whether a byte stands for itself in an escaped path: an ASCII letter or digit, one of
`-_.~`, or one of `$&+,/:;=@`. -/
def pathSafe (b : Nat) : Bool :=
  let c := Char.ofNat b
  b < 0x80 && (c.isAlphanum || "-_.~$&+,/:;=@".contains c)

/-- The upper-case hex digit of a number below 16. -/
def hexUpper (n : Nat) : Char :=
  if n < 10 then Char.ofNat (0x30 + n) else Char.ofNat (0x41 + n - 10)

/-- The escaped form of a path given as bytes: each byte that does not stand for itself is
written `%XX`. -/
def escapeBytes (bytes : List Nat) : String :=
  String.join (bytes.map fun b =>
    if pathSafe b then String.singleton (Char.ofNat b)
    else String.ofList ['%', hexUpper (b / 16 % 16), hexUpper (b % 16)])

/-- Whether a path as sent is already a valid escaped path: ASCII only, with every character
one that stands for itself, a sub-delimiter, a bracket or `%`. -/
def validEncoded (raw : String) : Bool :=
  raw.toList.all fun c => pathSafe c.toNat || "!'()*[]%".contains c

/-- The bytes a path stands for; none at a malformed escape. -/
def pathBytes (raw : String) : Option (List Nat) :=
  (unescapeBytes raw.toList).map fun bytes => bytes.map fun b => b.toNat

/-- The escaped form of a path as sent, which the routes are matched against: the path itself
when it is valid as it stands, else what it stands for escaped again. -/
def escapedPath (raw : String) : String :=
  if validEncoded raw then raw
  else
    match pathBytes raw with
    | some bytes => escapeBytes bytes
    | none => raw

/-- The text of a byte list, one character per byte, for cleaning as a path. -/
def byteText (bytes : List Nat) : String := String.ofList (bytes.map Char.ofNat)

/-- The segments of a path, `/`-separated after its leading `/`; a trailing slash gives a
last empty segment. -/
def pathSegments (p : String) : List String :=
  (p.drop 1).toString.splitToList (· == '/')

/-- The lexically cleaned form of a rooted path, as segments. -/
def cleanSegments : List String → List String → List String
  | acc, [] => acc.reverse
  | acc, s :: ss =>
    if s.isEmpty || s == "." then cleanSegments acc ss
    else if s == ".." then cleanSegments acc.tail ss
    else cleanSegments (s :: acc) ss

/-- The clean form of a request path: rooted, without empty, `.` or `..` segments, and with
its trailing slash kept. -/
def cleanPath (p : String) : String :=
  let p := if p.isEmpty then "/" else if p.startsWith "/" then p else "/" ++ p
  let body := "/" ++ "/".intercalate (cleanSegments [] (pathSegments p))
  if p.endsWith "/" && body != "/" then body ++ "/" else body

/-- Whether a pattern's segments match path segments exactly, with the wildcard values. -/
def matchSegments : List Segment → List String → Option (List String)
  | [], [] => some []
  | .literal l :: ps, s :: ss => if unescape s == l then matchSegments ps ss else none
  | .wildcard :: ps, s :: ss =>
    if s.isEmpty then none else (matchSegments ps ss).map (unescape s :: ·)
  | _, _ => none

namespace Pattern

/-- Whether the pattern's path matches a clean path, with the wildcard values. -/
def matchPath (pat : Pattern) (path : String) : Option (List String) :=
  let segs := pathSegments path
  if pat.subtree then
    if pat.segments.length < segs.length then matchSegments pat.segments (segs.take pat.segments.length)
    else none
  else matchSegments pat.segments segs

/-- Whether the pattern accepts a method. -/
def accepts (pat : Pattern) (method : String) : Bool :=
  match pat.method with
  | none => true
  | some m => m == method || (m == "GET" && method == "HEAD")

/-- Whether a path is the root of the pattern's subtree: it ends with `/` right after the
pattern's own segments. -/
def isRoot (pat : Pattern) (path : String) : Bool :=
  pat.subtree && path.endsWith "/" && (pat.matchPath path).isSome &&
    (pathSegments path).length == pat.segments.length + 1

end Pattern

/-- How a mux disposes of a request. -/
inductive Routed (α : Type) where
  /-- The handler, with the wildcard values of its pattern. -/
  | handle (h : α) (params : List String)
  /-- A response of the mux itself. -/
  | respond (r : Response)

/-- The HTML-escaped form of a text. -/
def htmlEscape (s : String) : String :=
  String.join (s.toList.map fun c =>
    if c == '<' then "&lt;" else if c == '>' then "&gt;" else if c == '&' then "&amp;"
    else if c == '\'' then "&#39;" else if c == '"' then "&#34;" else String.singleton c)

/-- A temporary redirect, which keeps the method; a `GET` or `HEAD` gets an HTML content type,
and a `GET` a short HTML body. -/
def redirect (method location : String) : Response :=
  let r : Response := ⟨307, [("Location", location)], .text ""⟩
  if method == "GET" then
    { r with headers := r.headers ++ [("Content-Type", "text/html; charset=utf-8")],
             body := .text ("<a href=\"" ++ htmlEscape location ++ "\">Temporary Redirect</a>.\n\n") }
  else if method == "HEAD" then
    { r with headers := r.headers ++ [("Content-Type", "text/html; charset=utf-8")] }
  else r

/-- Inserts a text into a sorted list without repeating it. -/
def insertSorted (s : String) : List String → List String
  | [] => [s]
  | t :: ts => if s == t then t :: ts else if s < t then s :: t :: ts else t :: insertSorted s ts

/-- The methods of the patterns that name one and match a path, in order. -/
def allowedMethods (mux : List (Pattern × α)) (path : String) : List String :=
  let paths := if path.endsWith "/" then [path] else [path, path ++ "/"]
  let ms := mux.foldl (fun acc (pat, _) =>
    match pat.method with
    | some m => if paths.any (fun p => (pat.matchPath p).isSome) then insertSorted m acc else acc
    | none => acc) []
  if ms.contains "GET" then insertSorted "HEAD" ms else ms

/-- The first pattern that matches a method and a clean path, with its handler and the
wildcard values. -/
def findRoute (mux : List (Pattern × α)) (method path : String) :
    Option (Pattern × α × List String) :=
  mux.findSome? fun (pat, h) =>
    if pat.accepts method then (pat.matchPath path).map fun ps => (pat, h, ps) else none

/-- Whether a match is exact: by a pattern for that path alone, or by a subtree pattern at
the root of its subtree. -/
def exactMatch (found : Option (Pattern × α × List String)) (path : String) : Bool :=
  match found with
  | some (pat, _, _) => !pat.subtree || pat.isRoot path
  | none => false

/-- Routes a request. The path is matched in its escaped form, cleaned, except for a
`CONNECT` request, to which only the redirect to a subtree's root applies. That redirect
names the clean path the request stands for, escaped; the redirect to a clean path escapes
the clean escaped path once more, so an escape in it is written `%25`. The target `*` is a
bad request. -/
def route (mux : List (Pattern × α)) (req : Request) : Routed α :=
  let escaped := escapedPath req.path
  let clean := cleanPath escaped
  let matched := if req.method == "CONNECT" then escaped else clean
  let query := if req.query.isEmpty then "" else "?" ++ req.query
  let found := findRoute mux req.method matched
  let slashed := matched ++ "/"
  if req.target == "*" then .respond ⟨400, [], .text ""⟩
  else if !exactMatch found matched && !matched.endsWith "/" &&
      exactMatch (findRoute mux req.method slashed) slashed then
    let decoded := byteText ((pathBytes req.path).getD [])
    let location := escapeBytes ((cleanPath decoded).toList.map Char.toNat) ++ "/"
    .respond (redirect req.method (location ++ query))
  else if matched != escaped then
    .respond (redirect req.method (escapeBytes (clean.toList.map Char.toNat) ++ query))
  else
    match found with
    | some (_, h, ps) => .handle h ps
    | none =>
      match allowedMethods mux matched with
      | [] => .respond (Response.plainError 404 "404 page not found")
      | ms => .respond ((Response.plainError 405 "Method Not Allowed").withHeader "Allow"
          (", ".intercalate ms))

end Admission.Http
