/-!
# IP addresses

Reads an IP address written as text, strictly:

* an IPv4 address is four decimal fields of at most 255, separated by dots, with no leading
  zero and nothing else;
* an IPv6 address is up to eight groups of one to four hex digits separated by colons, where
  one `::` stands for one or more zero groups, and the last two groups may be written as an
  IPv4 address; after a `%` comes a zone, which must not be empty.

Which of the two a text is decides the first dot, colon or percent sign in it: a dot makes it
IPv4, a colon IPv6, and a percent sign (a zone with no address) or none of them nothing.
-/

namespace Admission

/-- An IP address. -/
inductive IpAddress where
  /-- An IPv4 address: its four octets. -/
  | v4 (octets : List Nat)
  /-- An IPv6 address: its sixteen bytes and its zone, empty when it has none. -/
  | v6 (bytes : List Nat) (zone : String)
  deriving DecidableEq, Repr

namespace IpAddress

/-- Reads one field of an IPv4 address: decimal digits without a leading zero, at most 255. -/
def octet (field : List Char) : Option Nat :=
  if field.isEmpty || !field.all Char.isDigit then none
  else if field.length > 1 && field.head? = some '0' then none
  else
    let n := field.foldl (fun n c => n * 10 + (c.toNat - '0'.toNat)) 0
    if n > 255 then none else some n

/-- Reads the four octets of a dotted IPv4 address. -/
def octets (cs : List Char) : Option (List Nat) :=
  match cs.splitOn '.' with
  | [a, b, c, d] => [a, b, c, d].mapM octet
  | _ => none

/-- The value of a hex digit. -/
def hexDigit (c : Char) : Option Nat :=
  if c.isDigit then some (c.toNat - '0'.toNat)
  else if 'a' ≤ c && c ≤ 'f' then some (c.toNat - 'a'.toNat + 10)
  else if 'A' ≤ c && c ≤ 'F' then some (c.toNat - 'A'.toNat + 10)
  else none

/-- Reads a group of one to four hex digits: its value and the text after it. -/
def hexGroup (cs : List Char) : Option (Nat × List Char) :=
  let digits := cs.takeWhile fun c => (hexDigit c).isSome
  if digits.isEmpty || digits.length > 4 then none
  else
    some (digits.foldl (fun n c => n * 16 + (hexDigit c).getD 0) 0, cs.drop digits.length)

/-- The two bytes of a 16-bit group. -/
def groupBytes (g : Nat) : List Nat := [g / 256, g % 256]

/-- Reads the groups of an IPv6 address after any leading `::`: the bytes read so far,
where the `::` stands (as a byte position) if one was met, and the text left. Each step
reads one group, or the embedded IPv4 address that ends the address. -/
def groups : Nat → List Nat → Option Nat → List Char → Option (List Nat × Option Nat)
  | 0, _, _, _ => none
  | fuel + 1, bytes, gap, cs =>
    if bytes.length ≥ 16 then
      if cs.isEmpty then some (bytes, gap) else none
    else do
      let (g, rest) ← hexGroup cs
      match rest with
      | '.' :: _ =>
        if gap.isNone && bytes.length ≠ 12 then none
        if bytes.length + 4 > 16 then none
        let four ← octets cs
        some (bytes ++ four, gap)
      | [] => some (bytes ++ groupBytes g, gap)
      | [':'] => none
      | ':' :: ':' :: r =>
        if gap.isSome then none
        let bytes := bytes ++ groupBytes g
        if r.isEmpty then some (bytes, some bytes.length)
        else groups fuel bytes (some bytes.length) r
      | ':' :: r => groups fuel (bytes ++ groupBytes g) gap r
      | _ => none

/-- Reads an IPv6 address with an optional zone. -/
def readV6 (cs : List Char) : Option IpAddress := do
  let (addr, zone) ← match cs.splitOn '%' with
    | [a] => some (a, [])
    | a :: z =>
      let zone := String.intercalate "%" (z.map String.ofList)
      if zone.isEmpty then none else some (a, zone.toList)
    | [] => some ([], [])
  let (bytes, gap) ← match addr with
    | ':' :: ':' :: [] => some ([], some 0)
    | ':' :: ':' :: r => groups (r.length + 1) [] (some 0) r
    | _ => groups (addr.length + 1) [] none addr
  match gap with
  | none => if bytes.length < 16 then none else pure ()
  | some _ => if bytes.length ≥ 16 then none else pure ()
  let filled := match gap with
    | none => bytes
    | some pos => bytes.take pos ++ List.replicate (16 - bytes.length) 0 ++ bytes.drop pos
  pure (.v6 filled (String.ofList zone))

/-- Reads an IP address; none when the text is not one. -/
def read (s : String) : Option IpAddress :=
  match s.toList.find? fun c => c = '.' || c = ':' || c = '%' with
  | some '.' => (octets s.toList).map IpAddress.v4
  | some ':' => readV6 s.toList
  | _ => none

/-- Whether an address is an IPv4 address (an IPv6 address holding one does not count). -/
def isV4 : IpAddress → Bool
  | .v4 _ => true
  | .v6 _ _ => false

end IpAddress

end Admission
