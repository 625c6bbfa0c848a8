import Admission.Text.IpAddress
import Admission.Text.Stray
import Admission.Text.Quoted

/-!
# URLs

Reads a URL into its parts: scheme, user, host, path, query and fragment, or tells why it is
refused.

* The fragment is what follows the first `#`. A control character anywhere (below space, or
  DEL) is refused.
* The scheme is a letter followed by letters, digits, `+`, `-` or `.`, ended by a colon; it
  is lowercased. A text starting with a colon is refused. A text whose leading characters
  cannot form a scheme has none.
* The query is what follows the first `?`; a lone `?` at the end only marks an empty one.
* With a scheme, a rest that does not start with `/` is a rootless URL: it has no host and
  no path. Without a scheme, a first path segment holding a colon is refused.
* `//` starts an authority when there is a scheme, or when the rest does not start with
  `///`: the user information runs up to the last `@` of the authority, then the host. A host
  may end in a colon followed by digits only. A host holding a `[` is an IP literal, and its
  last `[` must start it: up to the last `]` stands an IPv6 address (not an IPv4 one), with an
  optional zone after `%25`, and only a colon and digits may follow it.
* Percent escapes must be two hex digits everywhere. In a host, an escape may only stand for
  a byte from `0x80` up, or for `%` itself (`%25`), and only letters, digits and
  `-_.~!$&'()*+,;=:[]<>"` or non-ASCII characters may stand unescaped. In a zone, an escape
  may stand for a space, for `%`, or for a character that may stand unescaped. User information holds
  only letters, digits and `-._:~!$&'()*+,;=%@`.
* The target of a request is read more strictly: it must not be empty, and without a scheme
  it must be `*` or start with `/`, so that `//` starts a path there.

A query reads as pairs split at `&`, each at its first `=`, with `+` for a space. A pair
holding a `;`, or whose key or value has a bad escape, is skipped; so is an empty pair. A
query split into more than 10000 pieces reads as no pairs at all.
Decoded bytes that are not UTF-8 are kept as stray bytes (`Text.Stray`).
-/

namespace Admission

/-- The user information of a URL. -/
structure Userinfo where
  /-- The user name. -/
  username : String
  /-- The password, when a colon introduced one. -/
  password : Option String
  deriving DecidableEq, Repr

/-- The parts of a URL. -/
structure Url where
  /-- The scheme, lowercased; empty when there is none. -/
  scheme : String
  /-- The rest of a rootless URL such as `mailto:x`. -/
  rootless : String
  /-- The user information, if any. -/
  user : Option Userinfo
  /-- The host, with the number after its colon. -/
  host : String
  /-- The path, decoded. -/
  path : String
  /-- The path as written. -/
  rawPath : String
  /-- The query as written. -/
  rawQuery : String
  /-- The fragment, decoded. -/
  fragment : String
  deriving DecidableEq, Repr

namespace Url

/-- The value of a hex digit. -/
def hexValue (c : Char) : Option Nat :=
  if c.isDigit then some (c.toNat - '0'.toNat)
  else if 'a' ≤ c && c ≤ 'f' then some (c.toNat - 'a'.toNat + 10)
  else if 'A' ≤ c && c ≤ 'F' then some (c.toNat - 'A'.toNat + 10)
  else none

/-- Where percent-decoding happens: it decides which escapes and characters are allowed. -/
inductive Part where
  /-- A path, fragment or user information: any escape of two hex digits. -/
  | plain
  /-- A host. -/
  | host
  /-- The zone of an IPv6 host, from its `%25` on. -/
  | zone
  /-- A query key or value: `+` stands for a space. -/
  | query
  deriving DecidableEq, Repr

/-- Whether an ASCII character may stand unescaped in a host. -/
def hostChar (c : Char) : Bool :=
  c.isAlphanum || "-_.~!$&'()*+,;=:[]<>\"".contains c

/-- The refusal of a malformed or forbidden escape: the escape as written, at most three bytes
of it. -/
def escapeError (escape : List Char) : String :=
  "invalid URL escape " ++
    Text.quote (Text.Stray.ofBytes ((escape.flatMap Text.Stray.charBytes).take 3))

/-- The bytes a percent-encoded text stands for, in one part of a URL, or why it is refused
there. -/
def decodeBytes (part : Part) : List Char → Except String (List UInt8)
  | [] => .ok []
  | '%' :: a :: b :: r =>
    match hexValue a, hexValue b with
    | some x, some y => do
      let v := x * 16 + y
      let percent := a = '2' && b = '5'
      if part = .host && x < 8 && !percent then throw (escapeError ['%', a, b])
      if part = .zone && !percent && v ≠ 0x20 && !(v < 0x80 && hostChar (Char.ofNat v)) then
        throw (escapeError ['%', a, b])
      let rest ← decodeBytes part r
      pure (UInt8.ofNat v :: rest)
    | _, _ => .error (escapeError ('%' :: a :: b :: r))
  | '%' :: r => .error (escapeError ('%' :: r))
  | c :: r =>
    if (part = .host || part = .zone) && c.toNat < 0x80 && !hostChar c then
      .error ("invalid character " ++ Text.quote (String.singleton c) ++ " in host name")
    else
      let c := if part = .query && c = '+' then ' ' else c
      (decodeBytes part r).map fun rest => Text.Stray.charBytes c ++ rest

/-- Percent-decodes a text in one part of a URL, or tells why it is refused there. -/
def decode (part : Part) (s : String) : Except String String :=
  (decodeBytes part s.toList).map Text.Stray.ofBytes

/-- Splits at the first occurrence of a character; the second part is empty without one. -/
def cut (s : String) (c : Char) : String × String :=
  match s.splitOn (String.singleton c) with
  | [] => (s, "")
  | first :: rest => (first, String.intercalate (String.singleton c) rest)

/-- The length of a scheme ending in a colon; none when the text has no scheme, an error
when it starts with a colon. -/
def schemeLength : Nat → List Char → Except Unit (Option Nat)
  | _, [] => .ok none
  | i, c :: cs =>
    if c.isAlpha then schemeLength (i + 1) cs
    else if c.isDigit || c = '+' || c = '-' || c = '.' then
      if i = 0 then .ok none else schemeLength (i + 1) cs
    else if c = ':' then
      if i = 0 then .error () else .ok (some i)
    else .ok none

/-- Whether a host's suffix is empty or a colon with only digits after it. -/
def validHostSuffix (p : String) : Bool :=
  match p.toList with
  | [] => true
  | ':' :: ds => ds.all Char.isDigit
  | _ => false

/-- The text after the last occurrence of a character, with that character; none without
one. -/
def fromLast (s : String) (c : Char) : Option String :=
  match s.splitOn (String.singleton c) with
  | [] | [_] => none
  | parts => some (String.singleton c ++ parts.getLastD "")

/-- The position of the last occurrence of a character. -/
def lastIndex (cs : List Char) (c : Char) : Option Nat :=
  (cs.reverse.findIdx? (· = c)).map fun i => cs.length - 1 - i

/-- The position of the first occurrence of a text in a list of characters. -/
def firstIndexOf (cs pattern : List Char) : Nat → Option Nat
  | 0 => none
  | fuel + 1 =>
    if pattern.isPrefixOf cs then some 0
    else match cs with
      | [] => none
      | _ :: r => (firstIndexOf r pattern fuel).map (· + 1)

/-- The refusal of a port suffix. -/
def portError (suffix : String) : String := "invalid port " ++ Text.quote suffix ++ " after host"

/-- Reads the IP literal between the brackets of a host: an IPv6 address (an IPv4 address
written inside one included), with an optional zone from a `%25` on; its text decoded. -/
def readIpLiteral (name : List Char) : Except String String := do
  let text ← match firstIndexOf name ['%', '2', '5'] (name.length + 1) with
    | some z =>
      let address ← decode .host (String.ofList (name.take z))
      let zone ← decode .zone (String.ofList (name.drop z))
      pure (address ++ zone)
    | none => decode .host (String.ofList name)
  match IpAddress.read text with
  | none => throw ("invalid host: ParseAddr(" ++ Text.quote text ++ "): unable to parse IP")
  | some addr => if addr.isV4 then throw "invalid IP-literal" else pure text

/-- Reads a host with the number after its colon. A `[` opens an IP literal, which must start
the host and runs to the last `]`. -/
def readHost (h : String) : Except String String := do
  let cs := h.toList
  match lastIndex cs '[' with
  | some opening =>
    if opening ≠ 0 then throw "invalid IP-literal"
    let some closing := lastIndex cs ']' | throw "missing ']' in host"
    let port := String.ofList (cs.drop (closing + 1))
    if !validHostSuffix port then throw (portError port)
    let literal ← readIpLiteral ((cs.take closing).drop 1)
    pure ("[" ++ literal ++ "]" ++ port)
  | none =>
    match fromLast h ':' with
    | some p => if !validHostSuffix p then throw (portError p)
    | none => pure ()
    decode .host h

/-- Whether user information holds only the characters it may. -/
def validUserinfo (s : String) : Bool :=
  s.all fun (c : Char) => c.isAlphanum || "-._:~!$&'()*+,;=%@".contains c

/-- Reads an authority: user information up to the last `@`, then the host. -/
def readAuthority (a : String) : Except String (Option Userinfo × String) := do
  match fromLast a '@' with
  | none => pure (none, ← readHost a)
  | some hostPart =>
    let host ← readHost (hostPart.drop 1).toString
    let info := (a.take (a.length - hostPart.length)).toString
    if !validUserinfo info then throw "net/url: invalid userinfo"
    if info.contains ':' then
      let (name, password) := cut info ':'
      pure (some ⟨← decode .plain name, some (← decode .plain password)⟩, host)
    else pure (some ⟨← decode .plain info, none⟩, host)

/-- Reads a URL without its fragment, or tells why it is refused. As the target of a request
(`request`), a URL must not be empty, and without a scheme it must be `*` or start with `/`;
`//` then starts a path, not an authority. -/
def readBody (request : Bool) (raw : String) : Except String Url := do
  if raw.any fun (c : Char) => c.toNat < 0x20 || c.toNat = 0x7f then
    throw "net/url: invalid control character in URL"
  if request && raw.isEmpty then throw "empty url"
  if raw = "*" then return ⟨"", "", none, "", "*", "*", "", ""⟩
  let cs := raw.toList
  let (scheme, rest) ← match schemeLength 0 cs with
    | .error () => throw "missing protocol scheme"
    | .ok none => pure ("", raw)
    | .ok (some n) => pure ((String.ofList (cs.take n)).toLower, String.ofList (cs.drop (n + 1)))
  let (rest, rawQuery) :=
    if rest.endsWith "?" && (rest.toList.filter (· = '?')).length = 1 then
      ((rest.dropEnd 1).toString, "")
    else cut rest '?'
  if !rest.startsWith "/" then
    if scheme ≠ "" then return ⟨scheme, rest, none, "", "", "", rawQuery, ""⟩
    if request then throw "invalid URI for request"
    if (cut rest '/').1.contains ':' then throw "first path segment in URL cannot contain colon"
  let (user, host, rest) ←
    if (scheme ≠ "" || !request && !rest.startsWith "///") && rest.startsWith "//" then
      let a := (rest.drop 2).toString
      let (authority, path) := match a.splitOn "/" with
        | [] => (a, "")
        | first :: more => (first, if more.isEmpty then "" else "/" ++ String.intercalate "/" more)
      let (user, host) ← readAuthority authority
      pure (user, host, path)
    else pure (none, "", rest)
  pure ⟨scheme, "", user, host, ← decode .plain rest, rest, rawQuery, ""⟩

/-- Reads a URL, or tells why it is refused. -/
def parse (raw : String) : Except String Url := do
  let (body, fragment) := cut raw '#'
  let u ← readBody false body
  if fragment.isEmpty then pure u
  else pure { u with fragment := ← decode .plain fragment }

/-- Reads a URL; none when it is refused. -/
def read (raw : String) : Option Url := (parse raw).toOption

/-- The most pairs a query may be split into; a longer query reads as no pairs at all. -/
def maxQueryPairs : Nat := 10000

/-- The pairs of a query, in order. -/
def queryPairs (q : String) : List (String × String) :=
  let pieces := q.splitOn "&"
  if pieces.length > maxQueryPairs then [] else
  pieces.filterMap fun piece =>
    if piece.isEmpty || piece.contains ';' then none
    else
      let (k, v) := cut piece '='
      match decode .query k, decode .query v with
      | .ok k, .ok v => some (k, v)
      | _, _ => none

/-- The values of a key in a query, in order. -/
def queryValues (pairs : List (String × String)) (key : String) : List String :=
  (pairs.filter (·.1 = key)).map (·.2)

end Url

end Admission
