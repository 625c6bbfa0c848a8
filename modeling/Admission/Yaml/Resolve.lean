import Admission.Decimal.Read
import Admission.Binary64.Arith
import Admission.Text.Stray

/-!
# What scalars stand for

A scalar is read by its tag. Without one (or with the non-specific tags `!` and `?`) only a
plain scalar is open to reading as something other than text, decided by its first character:

* `~`, `null` and the empty scalar are null; `true` and `false` (in three spellings each) are
  truth values; `.inf`, `-.inf` and `.nan` are the special floats;
* a sign or digit may start a date-and-time (`2001-12-14`, `2001-12-14T21:59:43Z`, …), an
  integer (underscores dropped; `0x`, `0o`, `0b` and a leading `0` choose the base), or a
  float; failing those, a text starting with `0b` or `0o` (or `-0b`, `-0o`) is an integer
  when the rest reads in that base, where after `0b` and `0o` the rest may carry its own
  sign (`0b-1` is -1); a point may start a float;
* anything else is text.

With a tag the same reading is checked against it: `!!str` makes any scalar text, `!!float`
also takes an integer as a float, and `!!int`, `!!bool`, `!!null` and `!!timestamp` must match
what the text reads as; a mismatch is an error. `!!binary` holds base64 text. Other tags leave
the text as it is.
-/

namespace Admission.Yaml

/-- The prefix of the standard tags written out in full. -/
def standardPrefix : String := "tag:yaml.org,2002:"

/-- The short form of a tag: a standard tag becomes `!!name`. -/
def shortTag (t : String) : String :=
  if t.startsWith standardPrefix then "!!" ++ (t.drop standardPrefix.length).toString else t

/-- The tag of text. -/
def strTag : String := "!!str"
/-- The tag of integers. -/
def intTag : String := "!!int"
/-- The tag of floats. -/
def floatTag : String := "!!float"
/-- The tag of truth values. -/
def boolTag : String := "!!bool"
/-- The tag of null. -/
def nullTag : String := "!!null"
/-- The tag of mappings. -/
def mapTag : String := "!!map"
/-- The tag of sequences. -/
def seqTag : String := "!!seq"
/-- The tag of merge keys. -/
def mergeTag : String := "!!merge"
/-- The tag of base64 binary data. -/
def binaryTag : String := "!!binary"
/-- The tag of dates and times. -/
def timestampTag : String := "!!timestamp"

/-- What a scalar stands for. -/
inductive Scalar where
  /-- Null. -/
  | null
  /-- A truth value. -/
  | bool (b : Bool)
  /-- An integer, within 64 bits signed or unsigned. -/
  | int (n : Int)
  /-- A float. -/
  | float (x : Binary64)
  /-- Text. -/
  | text (s : String)
  /-- A date and time. -/
  | timestamp
  deriving Repr, Inhabited

/-- The digits of `cs` in `base`, if all are digits of it. -/
def digitsIn (base : Nat) (cs : List Char) : Option Nat :=
  cs.foldl (fun acc c => acc.bind fun a =>
    let d := if c.isDigit then some (c.toNat - '0'.toNat)
      else if 'a' ≤ c.toLower && c.toLower ≤ 'z' then some (c.toLower.toNat - 'a'.toNat + 10)
      else none
    d.bind fun d => if d < base then some (a * base + d) else none) (some 0)

/-- An unsigned integer with its base chosen by prefix, below `2^64`. -/
def readUnsigned (cs : List Char) : Option Nat :=
  let (base, ds) : Nat × List Char := match cs with
    | '0' :: p :: r =>
      if r.isEmpty then (8, p :: r)
      else if p.toLower == 'b' then (2, r)
      else if p.toLower == 'o' then (8, r)
      else if p.toLower == 'x' then (16, r)
      else (8, p :: r)
    | ['0'] => (8, [])
    | r => (10, r)
  if cs.isEmpty then none
  else (digitsIn base ds).bind fun n => if n < Nat.pow 2 64 then some n else none

/-- A signed integer with its base chosen by prefix, within 64 bits. -/
def readSigned (cs : List Char) : Option Int :=
  let (neg, body) := match cs with
    | '+' :: r => (false, r)
    | '-' :: r => (true, r)
    | r => (false, r)
  (readUnsigned body).bind fun n =>
    if neg then (if n ≤ Nat.pow 2 63 then some (-(n : Int)) else none)
    else if n < Nat.pow 2 63 then some n else none

/-- An integer in `base` written without a prefix, as after `0b` or `0o`: an optional sign
and at least one digit, within 64 bits signed. -/
def readSignedIn (base : Nat) (cs : List Char) : Option Int :=
  let (neg, body) := match cs with
    | '+' :: r => (false, r)
    | '-' :: r => (true, r)
    | r => (false, r)
  if body.isEmpty then none
  else (digitsIn base body).bind fun n =>
    if neg then (if n ≤ Nat.pow 2 63 then some (-(n : Int)) else none)
    else if n < Nat.pow 2 63 then some n else none

/-- An integer in `base` written without a prefix or sign, below `2^64`. -/
def readUnsignedIn (base : Nat) (cs : List Char) : Option Nat :=
  if cs.isEmpty then none
  else (digitsIn base cs).bind fun n => if n < Nat.pow 2 64 then some n else none

/-- The integer of a text that starts with `0b` or `0o` (or `-0b`, `-0o`) and does not read
with its prefix: the rest is read in that base, and after `0b` or `0o` it may carry a sign
of its own. -/
def readAfterPrefix : List Char → Option Int
  | '0' :: 'b' :: r => (readSignedIn 2 r).orElse fun _ => (readUnsignedIn 2 r).map Int.ofNat
  | '-' :: '0' :: 'b' :: r => readSignedIn 2 ('-' :: r)
  | '0' :: 'o' :: r => (readSignedIn 8 r).orElse fun _ => (readUnsignedIn 8 r).map Int.ofNat
  | '-' :: '0' :: 'o' :: r => readSignedIn 8 ('-' :: r)
  | _ => none

/-- Whether a text is a YAML-style float: an optional sign, digits with an optional point and
fraction (or a point and digits), and an optional exponent. -/
def isFloatText (cs : List Char) : Bool :=
  let cs := match cs with
    | '+' :: r => r
    | '-' :: r => r
    | r => r
  let digits := cs.takeWhile Char.isDigit
  let rest := cs.drop digits.length
  let mantissaOk : Option (List Char) :=
    if digits.isEmpty then
      match rest with
      | '.' :: r =>
        let f := r.takeWhile Char.isDigit
        if f.isEmpty then none else some (r.drop f.length)
      | _ => none
    else
      match rest with
      | '.' :: r => some (r.dropWhile Char.isDigit)
      | r => some r
  match mantissaOk with
  | none => false
  | some [] => true
  | some (e :: r) =>
    if e == 'e' || e == 'E' then
      let r := match r with
        | '+' :: r' => r'
        | '-' :: r' => r'
        | r' => r'
      !r.isEmpty && r.all Char.isDigit
    else false

/-- The spelled-out values: truth values, null and the special floats. -/
def spelled (s : String) : Option (String × Scalar) :=
  if s = "true" || s = "True" || s = "TRUE" then some (boolTag, .bool true)
  else if s = "false" || s = "False" || s = "FALSE" then some (boolTag, .bool false)
  else if s = "" || s = "~" || s = "null" || s = "Null" || s = "NULL" then some (nullTag, .null)
  else if s = ".nan" || s = ".NaN" || s = ".NAN" then some (floatTag, .float .nan)
  else if s = ".inf" || s = ".Inf" || s = ".INF" || s = "+.inf" || s = "+.Inf" || s = "+.INF" then
    some (floatTag, .float (.infinite false))
  else if s = "-.inf" || s = "-.Inf" || s = "-.INF" then some (floatTag, .float (.infinite true))
  else none

/-- The value of a decimal digit. -/
def digitValue (c : Char) : Nat := c.toNat - '0'.toNat

/-- One or two digits, and the text after them. -/
def shortNumber : List Char → Option (Nat × List Char)
  | a :: b :: r =>
    if !a.isDigit then none
    else if b.isDigit then some (digitValue a * 10 + digitValue b, r)
    else some (digitValue a, b :: r)
  | [a] => if a.isDigit then some (digitValue a, []) else none
  | [] => none

/-- The text after a literal character, if it is there. -/
def literal (c : Char) : List Char → Option (List Char)
  | d :: r => if c = d then some r else none
  | [] => none

/-- The days of a month in a year. -/
def daysIn (month year : Nat) : Nat :=
  if month = 2 then
    (if year % 4 = 0 && (year % 100 ≠ 0 || year % 400 = 0) then 29 else 28)
  else if month = 4 || month = 6 || month = 9 || month = 11 then 30
  else 31

/-- A date: four digits of year, then month and day of one or two digits; the year and day
and the text after it. -/
def readDate (cs : List Char) : Option (Nat × Nat × Nat × List Char) := do
  let year := cs.take 4
  if year.length < 4 || !year.all Char.isDigit then none
  let r ← literal '-' (cs.drop 4)
  let (month, r) ← shortNumber r
  if month = 0 || 12 < month then none
  let r ← literal '-' r
  let (day, r) ← shortNumber r
  pure (digitsIn 10 year |>.getD 0, month, day, r)

/-- A time `hour:minute:second` with an optional fraction; the text after it. -/
def readClock (cs : List Char) : Option (List Char) := do
  let (hour, r) ← shortNumber cs
  if 24 ≤ hour then none
  let r ← literal ':' r
  let (minute, r) ← shortNumber r
  if 60 ≤ minute then none
  let r ← literal ':' r
  let (second, r) ← shortNumber r
  if 60 ≤ second then none
  match r with
  | p :: d :: rest =>
    if (p = '.' || p = ',') && d.isDigit then pure (rest.dropWhile Char.isDigit) else pure r
  | _ => pure r

/-- A zone: `Z` or a sign with two-digit hours and minutes. -/
def readZone (cs : List Char) : Option (List Char) :=
  match cs with
  | 'Z' :: r => some r
  | s :: h1 :: h2 :: ':' :: m1 :: m2 :: r =>
    if (s = '+' || s = '-') && h1.isDigit && h2.isDigit && m1.isDigit && m2.isDigit &&
        digitValue h1 * 10 + digitValue h2 ≤ 24 && digitValue m1 * 10 + digitValue m2 ≤ 60 then
      some r
    else none
  | _ => none

/-- Whether a text is a date and time in one of the accepted forms: a date alone; a date,
`T` or `t`, a time and a zone; or a date, spaces and a time. -/
def isTimestamp (s : String) : Bool :=
  let cs := s.toList
  let lead := cs.takeWhile Char.isDigit
  if lead.length ≠ 4 || (cs.drop 4).head? ≠ some '-' then false
  else
    match readDate cs with
    | none => false
    | some (year, month, day, rest) =>
      let formOk : Bool := match rest with
        | [] => true
        | t :: r =>
          if t = 'T' || t = 't' then
            match readClock r with
            | some r => (readZone r).any List.isEmpty
            | none => false
          else if t = ' ' then (readClock (r.dropWhile (· = ' '))).any List.isEmpty
          else false
      formOk && 1 ≤ day && day ≤ daysIn month year

/-- What a plain scalar reads as: its tag and value. `tag` is the scalar's tag, which decides
whether dates are looked for. -/
def readPlain (tag s : String) : String × Scalar :=
  match s.toList with
  | [] => (nullTag, .null)
  | c :: _ =>
    let signOrDigit := c == '+' || c == '-' || c.isDigit
    let word := "yYnNtTfFoO~".toList.contains c
    if !(signOrDigit || word || c == '.') then (strTag, .text s)
    else
      match spelled s with
      | some v => v
      | none =>
        if c == '.' then
          match Decimal.readFloat s with
          | some x => (floatTag, .float x)
          | none => (strTag, .text s)
        else if signOrDigit then
          if (tag = "" || tag = timestampTag) && isTimestamp s then (timestampTag, .timestamp)
          else
            let plain := s.toList.filter (· != '_')
            match readSigned plain with
            | some n => (intTag, .int n)
            | none =>
              match readUnsigned plain with
              | some n => (intTag, .int n)
              | none =>
                let float := if isFloatText plain then Decimal.readFloat (String.ofList plain)
                  else none
                match float with
                | some x => (floatTag, .float x)
                | none =>
                  match readAfterPrefix plain with
                  | some n => (intTag, .int n)
                  | none => (strTag, .text s)
        else (strTag, .text s)

/-- Whether a tag is one whose scalars are read by their text. -/
def resolvableTag (tag : String) : Bool :=
  tag = "" || tag = strTag || tag = boolTag || tag = intTag || tag = floatTag ||
    tag = nullTag || tag = timestampTag

/-- The message for a text that reads as `found` but is tagged `tag`; the text is shown
between backticks. -/
def cannotDecode (found text tag : String) : String :=
  let tick := String.singleton (Char.ofNat 96)
  "cannot decode " ++ found ++ " " ++ tick ++ text ++ tick ++ " as a " ++ tag

/-- What a scalar with a tag reads as: the tag found and the value, or an error when the text
does not match the tag. Text of other tags is left as it is. -/
def resolve (tag s : String) : Except String (String × Scalar) :=
  let tag := shortTag tag
  if !resolvableTag tag then .ok (tag, .text s)
  else
    let (found, v) := if tag = strTag then (strTag, .text s) else readPlain tag s
    if tag = "" || tag = found || tag = strTag then .ok (found, v)
    else if tag = floatTag && found = intTag then
      -- only integers within the signed 64-bit range turn into floats
      match v with
      | .int n =>
        if n < (Nat.pow 2 63 : Int) then .ok (floatTag, .float (Binary64.ofInt n))
        else .error (cannotDecode found s tag)
      | _ => .ok (found, v)
    else .error (cannotDecode found s tag)

/-- The value of a base64 letter. -/
def base64Value (c : Char) : Option Nat :=
  if 'A' ≤ c && c ≤ 'Z' then some (c.toNat - 'A'.toNat)
  else if 'a' ≤ c && c ≤ 'z' then some (c.toNat - 'a'.toNat + 26)
  else if c.isDigit then some (c.toNat - '0'.toNat + 52)
  else if c = '+' then some 62
  else if c = '/' then some 63
  else none

/-- Decodes base64 text in groups of four letters, the last of which may end in `=` or
`==`; line breaks are ignored. -/
def base64Bytes : List Char → Option (List UInt8)
  | [] => some []
  | [a, b, '=', '='] => do
    let x := (← base64Value a) * 64 + (← base64Value b)
    pure [UInt8.ofNat (x / 16)]
  | [a, b, c, '='] => do
    let x := ((← base64Value a) * 64 + (← base64Value b)) * 64 + (← base64Value c)
    pure [UInt8.ofNat (x / 1024), UInt8.ofNat (x / 4 % 256)]
  | a :: b :: c :: d :: r => do
    let x := (((← base64Value a) * 64 + (← base64Value b)) * 64 + (← base64Value c)) * 64 +
      (← base64Value d)
    let rest ← base64Bytes r
    pure (UInt8.ofNat (x / 65536) :: UInt8.ofNat (x / 256 % 256) :: UInt8.ofNat (x % 256) :: rest)
  | _ => none

/-- Decodes base64 text into the text of its bytes (`Text.Stray`); none when it is not base64. -/
def decodeBase64 (s : String) : Option String :=
  (base64Bytes (s.toList.filter fun c => c ≠ '\r' && c ≠ '\n')).map Text.Stray.ofBytes

end Admission.Yaml
