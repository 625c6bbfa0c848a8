import Admission.Yaml.Cursor

/-!
# Scanning directives, anchors, aliases and tags

* A directive starts with `%` at the start of a line. `%YAML` takes a version `major.minor`
  of at most two digits each; `%TAG` takes a handle (`!`, `!!` or `!name!`) and the text it
  stands for. Any other directive name is an error, and so is anything but a comment after
  the directive on its line.
* An anchor `&name` or alias `*name` takes a name of ASCII letters, digits, `_` and `-`,
  which must be followed by a blank, a break, the end or one of `?:,]}%@` and a backtick.
* A tag is verbatim (`!<text>`), a handle with a suffix (`!!int`, `!e!thing`), or `!` with a
  suffix (`!thing`); `!` alone is the non-specific tag. Tag text may hold `%` escapes of
  UTF-8 bytes, and the flow indicators `,`, `[` and `]` belong to it even inside a flow
  collection (`[!a,b c]` tags `c` with `!a,b`). A tag must be followed by a blank, a break,
  the end, or in flow context a comma.
-/

namespace Admission.Yaml

/-- Reads a run of name characters. -/
def wordRun : Nat → String → Scan String
  | 0, acc => pure acc
  | fuel + 1, acc => do
    need 1
    let c ← current
    if isWordChar c then
      skip
      wordRun fuel (acc.push c)
    else return acc

/-- Reads a version number of a `%YAML` directive starting at `start`: one or two digits. -/
def versionNumber (start : Mark) : Nat → Nat → Nat → Scan Nat
  | 0, _, _ => scanErrorHere "scanner ran out of fuel"
  | fuel + 1, digits, acc => do
    need 1
    let c ← current
    if c.isDigit then
      if digits + 1 > 2 then
        scanError start "found extremely long version number"
      skip
      versionNumber start fuel (digits + 1) (acc * 10 + (c.toNat - '0'.toNat))
    else if digits = 0 then
      scanError start "did not find expected version number"
    else return acc

/-- Reads a tag handle of a tag or directive starting at `start`: `!`, then name characters,
then `!` if there is one. In a `%TAG` directive the handle must be `!` or end with `!`. -/
def tagHandle (directive : Bool) (start : Mark) : Scan String := do
  need 1
  if (← current) ≠ '!' then
    scanError start "did not find expected '!'"
  skip
  let s ← get
  let h ← wordRun s.fuel "!"
  if (← current) = '!' then
    skip
    return h.push '!'
  if directive && h ≠ "!" then
    scanError start "did not find expected '!'"
  return h

/-- The number of bytes a UTF-8 sequence has, from its first byte; 0 for a byte that
cannot start one. -/
def utf8Width (b : Nat) : Nat :=
  if b < 0x80 then 1 else if b / 32 = 6 then 2 else if b / 16 = 14 then 3
  else if b / 8 = 30 then 4 else 0

/-- Reads the `%` escapes of one UTF-8 character in a tag starting at `start`: its bytes. -/
def uriEscapes (start : Mark) : Nat → Nat → List UInt8 → Scan (List UInt8)
  | 0, _, acc => pure acc
  | fuel + 1, left, acc => do
    need 3
    let s ← get
    match s.ahead 0, hexDigit (s.ahead 1), hexDigit (s.ahead 2) with
    | '%', some hi, some lo =>
      let octet := hi * 16 + lo
      let left ← if left = 0 then
          (if utf8Width octet = 0 then
            scanError start "found an incorrect leading UTF-8 octet"
          else pure (utf8Width octet))
        else if octet / 64 ≠ 2 then
          scanError start "found an incorrect trailing UTF-8 octet"
        else pure left
      skip
      skip
      skip
      if left - 1 = 0 then return acc ++ [UInt8.ofNat octet]
      uriEscapes start fuel (left - 1) (acc ++ [UInt8.ofNat octet])
    | _, _, _ => scanError start "did not find URI escaped octet"

/-- Whether a character may appear in tag text. The flow indicators `,`, `[` and `]` are
among them, also in flow context. -/
def isUriChar (c : Char) : Bool :=
  isWordChar c || [';', '/', '?', ':', '@', '&', '=', '+', '$', ',', '.', '!', '~', '*', '\'',
    '(', ')', '[', ']', '%'].contains c

/-- The text of escaped bytes: the characters they encode, or, for bytes that are not UTF-8,
the escapes as written. -/
def bytesText (bytes : List UInt8) : String :=
  match String.fromUTF8? (ByteArray.mk bytes.toArray) with
  | some t => t
  | none => String.join (bytes.map fun b =>
      "%" ++ String.singleton (Nat.digitChar (b.toNat / 16)) ++
        String.singleton (Nat.digitChar (b.toNat % 16)))

/-- Reads tag text of a tag or directive starting at `start`, after `head` (a handle that
turned out to be part of the text, without its `!`); at least one character must be read
unless `head` is not empty. -/
def tagUri (head : String) (start : Mark) : Nat → String → Scan String
  | 0, _ => scanErrorHere "scanner ran out of fuel"
  | fuel + 1, acc => do
    need 1
    let c ← current
    if isUriChar c then
      if c = '%' then
        let bytes ← uriEscapes start fuel 0 []
        tagUri head start fuel (acc ++ bytesText bytes)
      else
        skip
        tagUri head start fuel (acc.push c)
    else if acc.isEmpty && head.isEmpty then
      scanError start "did not find expected tag URI"
    else return (head.drop 1).toString ++ acc

/-- Reads the rest of the line of a directive starting at `start`: blanks, then a comment,
then the line break. -/
def directiveLineEnd (start : Mark) : Scan Unit := do
  let s ← get
  skipBlanks s.fuel
  if (← current) = '#' then skipToBreak s.fuel
  if !isBreakNul (← current) then
    scanError start "did not find expected comment or line break"
  if isBreak (← current) then
    need 2
    skipLine

/-- Scans a directive after checking that a `%` starts the line; adds its token. -/
def scanDirective : Scan Unit := do
  let s ← get
  let start := s.mark
  skip
  let name ← wordRun s.fuel ""
  if name.isEmpty then
    scanError start "could not find expected directive name"
  if !isSpaceNul (← current) then
    scanError start "found unexpected non-alphabetical character"
  let t ← if name = "YAML" then do
      skipBlanks s.fuel
      let major ← versionNumber start s.fuel 0 0
      if (← current) ≠ '.' then
        scanError start "did not find expected digit or '.' character"
      skip
      let minor ← versionNumber start s.fuel 0 0
      pure (Token.versionDirective major minor)
    else if name = "TAG" then do
      skipBlanks s.fuel
      let handle ← tagHandle true start
      need 1
      if !isBlank (← current) then
        scanError start "did not find expected whitespace"
      skipBlanks s.fuel
      let expansion ← tagUri "" start s.fuel ""
      need 1
      if !isSpaceNul (← current) then
        scanError start "did not find expected whitespace or line break"
      pure (Token.tagDirective handle expansion)
    else scanError start "found unknown directive name"
  directiveLineEnd start
  addToken t start

/-- The characters besides blanks, breaks and the end that may follow an anchor's name. -/
def anchorEnds : List Char := ['?', ':', ',', ']', '\x7d', '%', '@', Char.ofNat 96]

/-- Scans an anchor (`isAlias` false) or an alias. -/
def scanAnchor (isAlias : Bool) : Scan Unit := do
  let s ← get
  skip
  let name ← wordRun s.fuel ""
  let c ← current
  if name.isEmpty || !(isSpaceNul c || anchorEnds.contains c) then
    scanError s.mark "did not find expected alphabetic or numeric character"
  addToken (if isAlias then .alias name else .anchor name) s.mark

/-- Scans a tag. -/
def scanTag : Scan Unit := do
  let s ← get
  let start := s.mark
  need 2
  let (handle, suffix) ← if s.ahead 1 = '<' then do
      skip
      skip
      let suffix ← tagUri "" start s.fuel ""
      if (← current) ≠ '>' then
        scanError start "did not find the expected '>'"
      skip
      pure ("", suffix)
    else do
      let handle ← tagHandle false start
      if handle.length > 1 && handle.startsWith "!" && handle.endsWith "!" then
        let suffix ← tagUri "" start s.fuel ""
        pure (handle, suffix)
      else
        let suffix ← tagUri handle start s.fuel ""
        -- the tag is the non-specific one when nothing follows the first `!`
        if suffix.isEmpty then pure ("", "!") else pure ("!", suffix)
  need 1
  let c ← current
  if !isSpaceNul c && !((← get).flowLevel > 0 && c = ',') then
    scanError start "did not find expected whitespace or line break"
  addToken (.tag handle suffix) start

end Admission.Yaml
