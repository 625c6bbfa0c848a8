import Admission.Http.Message
import Admission.Text.Url

/-!
# Building a request from its request line

A request is built from a method and a target the way a test client builds one: it writes the
text `<method> <target> HTTP/1.0`, a blank line after it, and reads that text back as a server
would. An empty method is `GET`. Reading stops, and no request is built, when:

* the first line (up to the first line feed, a carriage return before it dropped) does not
  split at its first two spaces into a method, a target and a version:
  `malformed HTTP request "<line>"`;
* the method is not a token: `invalid method "<method>"`;
* the version is not `HTTP/d.d`: `malformed HTTP version "<version>"`. A space in the method or
  in the target always ends here, as the version then runs on to the end of the line;
* the target does not read as a request target (`Url.readBody`):
  `parse "<target>": <reason>`. A `CONNECT` target that does not start with `/` is read as
  the authority of an `http://` URL;
* a line feed in the target starts lines that are not headers: a first one starting with a
  blank, one without a colon, one whose name is not a token or whose value holds a control
  character, or two `Host` headers.

Header lines read from the target come after the headers given with the request, so a
header given both ways has the given value.
-/

namespace Admission.Http

/-- Whether a character may stand in a token, such as a method or a header name. -/
def isTokenChar (c : Char) : Bool :=
  c.toNat < 0x80 && (c.isAlphanum || "!#$%&'*+-.^_`|~".contains c)

/-- Whether a text is `HTTP/d.d`, a version a request line may name. -/
def isVersion (v : String) : Bool :=
  match v.toList with
  | ['H', 'T', 'T', 'P', '/', a, '.', b] => a.isDigit && b.isDigit
  | _ => false

/-- The text split at the first occurrence of a character; none without one. -/
def splitFirst (s : String) (c : Char) : Option (String × String) :=
  if s.contains c then some (Url.cut s c) else none

/-- The lines of a text, each without its line feed and a carriage return before it. -/
def textLines (s : String) : List String :=
  (s.splitOn "\n").map fun l => if l.endsWith "\r" then (l.dropEnd 1).toString else l

/-- Whether a character may stand in a header value: not a control character other than tab. -/
def isValueChar (c : Char) : Bool := c = '\t' || (0x20 ≤ c.toNat && c.toNat ≠ 0x7F)

/-- Headers from lines, up to the first empty one: a line starting with a blank continues the
line before it. -/
def headerLines : List String → List String → List String
  | acc, [] => acc.reverse
  | acc, l :: ls =>
    if l.isEmpty then acc.reverse
    else if l.startsWith " " || l.startsWith "\t" then
      match acc with
      | prev :: rest => headerLines ((prev.trimAsciiEnd.toString ++ " " ++ l.trimAscii.toString) :: rest) ls
      | [] => headerLines [l] ls
    else headerLines (l :: acc) ls

/-- Reads header lines into name and value pairs, or tells why they are refused. -/
def readHeaders (lines : List String) : Except String (List (String × String)) := do
  if let some first := lines.head? then
    if first.startsWith " " || first.startsWith "\t" then
      throw ("malformed MIME header initial line: " ++ first)
  let headers ← (headerLines [] lines).mapM fun l => do
    let some (name, value) := splitFirst l ':'
      | throw ("malformed MIME header: missing colon: " ++ Text.quote l)
    if name.isEmpty || !name.all isTokenChar || !value.all isValueChar then
      throw ("malformed MIME header line: " ++ l)
    pure (name, value.trimAscii.toString)
  if (headers.filter fun h => sameName h.1 "Host").length > 1 then throw "too many Host headers"
  pure headers

/-- Builds a request from a method, a target, headers and a body, or tells why its request
line cannot be read. -/
def Request.build (method target : String) (headers : List (String × String)) (body : String) :
    Except String Request := do
  let method := if method.isEmpty then "GET" else method
  let text := method ++ " " ++ target ++ " HTTP/1.0\r\n\r\n"
  let (line, rest) := match textLines text with
    | l :: ls => (l, ls)
    | [] => ("", [])
  let some (m, afterMethod) := splitFirst line ' '
    | throw ("malformed HTTP request " ++ Text.quote line)
  let some (uri, version) := splitFirst afterMethod ' '
    | throw ("malformed HTTP request " ++ Text.quote line)
  if m.isEmpty || !m.all isTokenChar then throw ("invalid method " ++ Text.quote m)
  if !isVersion version then throw ("malformed HTTP version " ++ Text.quote version)
  let authorityOnly := m = "CONNECT" && !uri.startsWith "/"
  let raw := if authorityOnly then "http://" ++ uri else uri
  let u ← match Url.readBody true raw with
    | .ok u => pure u
    | .error e => throw ("parse " ++ Text.quote raw ++ ": " ++ e)
  let extra ← readHeaders rest
  pure ⟨m, uri, u.rawPath, u.rawQuery, headers ++ extra, body⟩

end Admission.Http
