import Admission.Text.Url

/-!
# The exporter's dial target

Spans are exported to an endpoint, which the exporter dials as a target. Nothing is
connected when tracing starts, so an endpoint where nothing answers does not keep tracing
from starting; only an endpoint that cannot be read as a target does.

The endpoint is first read as a URL. When it reads and its scheme names a resolver
(`resolverSchemes`), that reading stands. Otherwise the target is `dns:///` followed by the
endpoint, and that text must read as a URL. Its authority is empty, so it fails to read only:

* when the text before the first `#` holds a control character (below space, or DEL);
* when the path, the text before the first `?`, holds a `%` not followed by two hex digits;
* when the fragment after the first `#` holds such a `%`.
-/

namespace Admission.Telemetry

/-- The schemes a target may name its resolver by. -/
def resolverSchemes : List String := ["dns", "passthrough", "unix", "unix-abstract"]

/-- The target an endpoint without a resolver scheme stands for. -/
def defaultTarget (endpoint : String) : String := "dns:///" ++ endpoint

/-- Whether a character is a control character, as URLs refuse them. -/
def isControl (c : Char) : Bool := c.toNat < 0x20 || c.toNat = 0x7F

/-- Whether a character is an ASCII hex digit. -/
def isHexDigit (c : Char) : Bool := (Url.hexValue c).isSome

/-- Whether a text holds a `%` not followed by two hex digits. -/
def hasBadEscape : List Char → Bool
  | [] => false
  | [p] => p = '%'
  | [p, a] => p = '%' || hasBadEscape [a]
  | p :: a :: b :: rest =>
    if p = '%' then !(isHexDigit a && isHexDigit b) || hasBadEscape rest
    else hasBadEscape (a :: b :: rest)

/-- Whether a target with an empty authority, such as the default one, reads as a URL. -/
def targetReads (target : String) : Bool :=
  let (beforeFragment, fragment) := Url.cut target '#'
  !beforeFragment.any isControl &&
    !hasBadEscape (Url.cut beforeFragment '?').1.toList &&
    !hasBadEscape fragment.toList

/-- Whether tracing can export to an endpoint: the endpoint reads with a resolver scheme, or
its default target reads. -/
def endpointReads (endpoint : String) : Bool :=
  (Url.read endpoint).any (fun u => resolverSchemes.contains u.scheme) ||
    targetReads (defaultTarget endpoint)

end Admission.Telemetry
