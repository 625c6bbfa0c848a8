import Admission.Binary64.Basic
import Admission.Decimal.Shortest

/-!
# Reading numbers from text

* `readInt64`: an optional sign and decimal digits, within 64 bits.
* `readFloat`: the float syntax of configuration values: an optional sign, then `inf`,
  `infinity` or `nan` in any case (no sign before `nan`), or decimal digits with an optional
  point and exponent `e±digits`, or `0x` hexadecimal digits with an optional point and a
  mandatory binary exponent `p±digits`. An underscore may stand between two digits, or
  between `0x` and a digit. The value is the nearest binary64 number; a magnitude past the
  greatest finite number is refused.
* `readJsonFloat`: a JSON number literal, to the nearest binary64 number, refused past range.

An exponent's digits are read only while its value is below 10000 (`scanExponentDigits`), so
a long exponent stops growing there, whatever digits follow; the work stays bounded for any
text.
-/

namespace Admission.Decimal

/-- An optional sign and decimal digits, within 64 bits. -/
def readInt64 (s : String) : Option Int64 :=
  let (neg, ds) := match s.toList with
    | '-' :: r => (true, r)
    | '+' :: r => (false, r)
    | r => (false, r)
  if ds.isEmpty || !ds.all Char.isDigit then none
  else
    let n : Nat := ds.foldl (fun a c => a * 10 + (c.toNat - '0'.toNat)) 0
    let v : Int := if neg then -(n : Int) else n
    if -9223372036854775808 ≤ v ∧ v ≤ 9223372036854775807 then some (Int64.ofInt v) else none

/-- The nearest number to `±D · 10^x`, or none past the greatest finite number. -/
def ofDecimal (neg : Bool) (d : Nat) (x : Int) : Option Binary64 :=
  if d = 0 then some (.finite neg 0 Binary64.minExp)
  else if (digitCount d : Int) + x > 330 then none
  else if (digitCount d : Int) + x < -400 then some (.finite neg 0 Binary64.minExp)
  else
    let r := if 0 ≤ x then Binary64.round neg (d * Nat.pow 10 x.toNat) 1
      else Binary64.round neg d (Nat.pow 10 (-x).toNat)
    match r with
    | .infinite _ => none
    | v => some v

/-- The nearest number to `±H · 2^x`, or none past the greatest finite number. -/
def ofBinary (neg : Bool) (h : Nat) (x : Int) : Option Binary64 :=
  if h = 0 then some (.finite neg 0 Binary64.minExp)
  else if (Binary64.bitLength h : Int) + x > 1100 then none
  else if (Binary64.bitLength h : Int) + x < -1200 then some (.finite neg 0 Binary64.minExp)
  else
    let r := if 0 ≤ x then Binary64.round neg (h * Nat.pow 2 x.toNat) 1
      else Binary64.round neg h (Nat.pow 2 (-x).toNat)
    match r with
    | .infinite _ => none
    | v => some v

/-- The digit value of a character in base 10 or 16. -/
def digitIn (hex : Bool) (c : Char) : Option Nat :=
  if c.isDigit then some (c.toNat - '0'.toNat)
  else if hex && 'a' ≤ c.toLower && c.toLower ≤ 'f' then some (c.toLower.toNat - 'a'.toNat + 10)
  else none

/-- What the significand of a number holds: its digits as one integer, how many digits stand
after the point, whether any digit was seen, and the text after it. -/
structure Significand where
  /-- The digits read, as an integer. -/
  value : Nat
  /-- Digits after the point. -/
  fraction : Nat
  /-- Whether a digit was seen. -/
  sawDigit : Bool
  /-- Whether a point was seen. -/
  sawPoint : Bool

/-- Reads digits, underscores and at most one point. -/
def scanSignificand (hex : Bool) : Significand → List Char → Significand × List Char
  | acc, c :: r =>
    if c == '_' then scanSignificand hex acc r
    else if c == '.' then
      if acc.sawPoint then (acc, c :: r) else scanSignificand hex { acc with sawPoint := true } r
    else
      match digitIn hex c with
      | some v =>
        scanSignificand hex
          { acc with value := acc.value * (if hex then 16 else 10) + v, sawDigit := true,
                     fraction := if acc.sawPoint then acc.fraction + 1 else acc.fraction } r
      | none => (acc, c :: r)
  | acc, [] => (acc, [])

/-- Exponent digits and underscores. A digit is taken into the value only while the value is
below 10000, and later digits are skipped, so the value stays below 100000: `1000000` reads
as 10000, while `10001` reads as itself. -/
def scanExponentDigits : Nat → List Char → Nat × List Char
  | acc, c :: r =>
    if c == '_' then scanExponentDigits acc r
    else if c.isDigit then
      scanExponentDigits (if acc < 10000 then acc * 10 + (c.toNat - '0'.toNat) else acc) r
    else (acc, c :: r)
  | acc, [] => (acc, [])

/-- Whether underscores stand only between digits (or between `0x` and a digit). -/
def underscoresBetweenDigits (cs : List Char) : Bool :=
  let body := match cs with
    | '+' :: r => r
    | '-' :: r => r
    | r => r
  let (hex, start, rest) := match body with
    | '0' :: x :: r => if x == 'x' || x == 'X' then (true, '0', r)
      else if x == 'b' || x == 'B' || x == 'o' || x == 'O' then (false, '0', r) else (false, '^', body)
    | _ => (false, '^', body)
  let step : Option Char → Char → Option Char := fun saw? c =>
    match saw? with
    | none => none
    | some saw =>
      if c.isDigit || (hex && 'a' ≤ c.toLower && c.toLower ≤ 'f') then some '0'
      else if c == '_' then (if saw == '0' then some '_' else none)
      else if saw == '_' then none
      else some '!'
  match rest.foldl step (some start) with
  | some saw => saw != '_'
  | none => false

/-- Whether a text is `inf` or `infinity` in any case. -/
def isInfinityWord (cs : List Char) : Bool :=
  let w := String.ofList (cs.map Char.toLower)
  w == "inf" || w == "infinity"

/-- The float syntax of configuration values, to the nearest binary64 number; none for a text
outside the syntax or a magnitude past the greatest finite number. -/
def readFloat (s : String) : Option Binary64 :=
  let cs := s.toList
  let (neg, signed, body) := match cs with
    | '-' :: r => (true, true, r)
    | '+' :: r => (false, true, r)
    | r => (false, false, r)
  if isInfinityWord body then some (.infinite neg)
  else if !signed && String.ofList (body.map Char.toLower) == "nan" then some .nan
  else
    let (hex, digits) := match body with
      | '0' :: x :: r => if (x == 'x' || x == 'X') && !r.isEmpty then (true, r) else (false, body)
      | _ => (false, body)
    let (sig, rest) := scanSignificand hex ⟨0, 0, false, false⟩ digits
    if !sig.sawDigit then none
    else
      let expMark := if hex then 'p' else 'e'
      -- the exponent, whether one was written, and the text after it; none when malformed
      let exponent : Option (Int × Bool × List Char) := match rest with
        | c :: r =>
          if c.toLower == expMark then
            let (eneg, r') := match r with
              | '-' :: r'' => (true, r'')
              | '+' :: r'' => (false, r'')
              | r'' => (false, r'')
            match r' with
            | d :: _ =>
              if d.isDigit then
                let (e, r'') := scanExponentDigits 0 r'
                some (if eneg then -(e : Int) else e, true, r'')
              else none
            | [] => none
          else some (0, false, c :: r)
        | [] => some (0, false, [])
      match exponent with
      | none => none
      | some (e, written, rest) =>
        let consumed := cs.take (cs.length - rest.length)
        if !rest.isEmpty then none
        else if consumed.contains '_' && !underscoresBetweenDigits consumed then none
        else if hex then
          -- a hexadecimal number needs its binary exponent
          if !written then none else ofBinary neg sig.value (e - 4 * (sig.fraction : Int))
        else ofDecimal neg sig.value (e - (sig.fraction : Int))

/-- A JSON number literal to the nearest binary64 number; none past the greatest finite one. -/
def readJsonFloat (lit : String) : Option Binary64 := readFloat lit

end Admission.Decimal
