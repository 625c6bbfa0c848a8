import Admission.Binary64.Arith
import Admission.Time

/-!
# Duration text

Durations are written as an optional sign and one or more terms, each a decimal number with
an optional fraction and a unit: `ns`, `us` (also with the micro sign or the Greek mu), `ms`,
`s`, `m` or `h`, as in `1h30m`, `1.5s` or `-250ms`. A lone `0` needs no unit.

The value is accumulated in nanoseconds as an unsigned 64-bit integer, exactly as the
reference arithmetic does it:

* a term's integer part is refused past `2^63`, and so is its product with the unit;
* a term's fraction keeps at most the digits that fit below `2^63` and contributes
  `⌊f · (unit / 10^k)⌋`, computed in binary64 (the rounding matters for long fractions);
* each partial sum is refused past `2^63`, the sum itself wrapping modulo `2^64` first;
* a positive total must stay below `2^63`; a negative one is the total negated, wrapping.

`Duration.parse` gives none for any text outside the syntax or out of range.
-/

namespace Admission.Duration

/-- `2^63`. -/
def twoPow63 : Nat := 9223372036854775808

/-- The nanoseconds of a unit name. -/
def unitNs (u : String) : Option Nat :=
  if u = "ns" then some 1
  else if u = "us" || u = "µs" || u = "μs" then some 1000
  else if u = "ms" then some 1000000
  else if u = "s" then some 1000000000
  else if u = "m" then some 60000000000
  else if u = "h" then some 3600000000000
  else none

/-- Whether a character ends a unit: a digit or a point. -/
def endsUnit (c : Char) : Bool := c == '.' || c.isDigit

/-- Reads leading digits: their value, or none past `2^63`, and the text after them. -/
def leadingInt : Nat → List Char → Option Nat × List Char
  | x, c :: r =>
    if c.isDigit then
      if x > twoPow63 / 10 then (none, r)
      else
        let y := x * 10 + (c.toNat - '0'.toNat)
        if y > twoPow63 then (none, r) else leadingInt y r
    else (some x, c :: r)
  | x, [] => (some x, [])

/-- Reads the digits of a fraction: the value of those that fit, `10^k` for the `k` digits
kept, and the text after the digits. -/
def leadingFraction : Nat → Nat → Bool → List Char → Nat × Nat × List Char
  | x, scale, overflow, c :: r =>
    if c.isDigit then
      if overflow then leadingFraction x scale true r
      else if x > (twoPow63 - 1) / 10 then leadingFraction x scale true r
      else
        let y := x * 10 + (c.toNat - '0'.toNat)
        if y > twoPow63 then leadingFraction x scale true r
        else leadingFraction y (scale * 10) false r
    else (x, scale, c :: r)
  | x, scale, _, [] => (x, scale, [])

/-- A non-negative finite binary64 number toward zero. -/
def truncNat : Binary64 → Nat
  | .finite false m e => if 0 ≤ e then m * Nat.pow 2 e.toNat else m / Nat.pow 2 (-e).toNat
  | _ => 0

/-- The nanoseconds a fraction `f / scale` of a unit contributes. -/
def fractionNs (f scale unit : Nat) : Nat :=
  truncNat (Binary64.ofInt f * (Binary64.ofInt unit / Binary64.ofInt scale))

/-- Reads terms after the sign, adding them to `d`; fuel bounds the number of terms. -/
def terms : Nat → Nat → List Char → Option Nat
  | _, d, [] => some d
  | 0, _, _ => none
  | fuel + 1, d, s@(c :: _) =>
    if !endsUnit c then none
    else
      match leadingInt 0 s with
      | (none, _) => none
      | (some v, s1) =>
        let pre := s1.length != s.length
        let (f, scale, s2, post) := match s1 with
          | '.' :: r =>
            let (f, scale, r') := leadingFraction 0 1 false r
            (f, scale, r', r'.length != r.length)
          | r => (0, 1, r, false)
        if !pre && !post then none
        else
          let u := s2.takeWhile (fun c => !endsUnit c)
          let rest := s2.dropWhile (fun c => !endsUnit c)
          if u.isEmpty then none
          else
            match unitNs (String.ofList u) with
            | none => none
            | some unit =>
              if v > twoPow63 / unit then none
              else
                let v := v * unit
                let v := if f > 0 then v + fractionNs f scale unit else v
                if v > twoPow63 then none
                else
                  let d := (d + v) % Nat.pow 2 64
                  if d > twoPow63 then none else terms fuel d rest

/-- A duration text to nanoseconds; none outside the syntax or out of range. -/
def parse (text : String) : Option Span :=
  let cs := text.toList
  let (neg, body) := match cs with
    | '-' :: r => (true, r)
    | '+' :: r => (false, r)
    | r => (false, r)
  if body = ['0'] then some 0
  else if body.isEmpty then none
  else
    match terms body.length 0 body with
    | none => none
    | some d =>
      if neg then some (-(Int64.ofNat d))
      else if d > twoPow63 - 1 then none
      else some (Int64.ofNat d)

end Admission.Duration
