/-!
# Binary64 numbers

IEEE 754 double precision, by value. A finite number is `±m · 2^e` with a 53-bit significand;
every operation computes its exact result as a ratio of integers and rounds it once, to the
nearest representable number, ties to an even significand. Overflow gives an infinity and
results below the normal range are subnormal, so the numbers here are exactly those of the
hardware format, and an operation here agrees with the hardware operation bit for bit.

Main definition: `Binary64.round`, the nearest number to a non-negative ratio.
-/

namespace Admission

/-- A binary64 number. -/
inductive Binary64 where
  /-- `(-1)^neg · m · 2^e`. A normal number has `2^52 ≤ m < 2^53` and `-1074 ≤ e ≤ 971`; a
  subnormal number or a zero has `m < 2^52` and `e = -1074`. -/
  | finite (neg : Bool) (m : Nat) (e : Int)
  /-- An infinity. -/
  | infinite (neg : Bool)
  /-- Not a number. -/
  | nan
  deriving DecidableEq, Repr, Inhabited

namespace Binary64

/-- The least exponent of the format: the unit of the last place of a subnormal number. -/
def minExp : Int := -1074

/-- The greatest exponent of a normal significand. -/
def maxExp : Int := 971

/-- Positive zero. -/
def zero : Binary64 := .finite false 0 minExp

/-- The number of binary digits of a natural number. -/
def bitLength (n : Nat) : Nat := if n = 0 then 0 else Nat.log2 n + 1

/-- The integer part and the remainder of `num / 2^-e` (or `num · 2^e`) divided by `den`:
the significand of the ratio `num/den` in units of `2^e`, before rounding. -/
def scaled (num den : Nat) (e : Int) : Nat × Nat :=
  if 0 ≤ e then (num / (den * Nat.pow 2 e.toNat), num % (den * Nat.pow 2 e.toNat))
  else ((num * Nat.pow 2 (-e).toNat) / den, (num * Nat.pow 2 (-e).toNat) % den)

/-- The denominator `scaled` divides by: `den · 2^e`, or `den` when `e < 0`. -/
def scaledDen (den : Nat) (e : Int) : Nat :=
  if 0 ≤ e then den * Nat.pow 2 e.toNat else den

/-- The exponent that puts the significand of `num/den` in `[2^52, 2^53)`, or `minExp` when
the ratio is below the normal range. -/
def exponentOf (num den : Nat) : Int :=
  let e0 : Int := (bitLength num : Int) - (bitLength den : Int) - 53
  let e1 := if Nat.pow 2 53 ≤ (scaled num den e0).1 then e0 + 1
    else if (scaled num den e0).1 < Nat.pow 2 52 then e0 - 1 else e0
  if e1 < minExp then minExp else e1

/-- The nearest number to `num/den` (for `den > 0`), ties to an even significand, with the sign
`neg`; an infinity past the greatest finite number. -/
def round (neg : Bool) (num den : Nat) : Binary64 :=
  if num = 0 then .finite neg 0 minExp
  else
    let e := exponentOf num den
    let (q, r) := scaled num den e
    let d := scaledDen den e
    let up := 2 * r > d ∨ (2 * r = d ∧ q % 2 = 1)
    let (m, e') := if up then (if q + 1 = Nat.pow 2 53 then (Nat.pow 2 52, e + 1) else (q + 1, e)) else (q, e)
    if maxExp < e' then .infinite neg else .finite neg m e'

/-- The nearest number to an integer. -/
def ofInt (n : Int) : Binary64 := round (n < 0) n.natAbs 1

/-- The nearest number to a ratio of integers with a positive denominator. -/
def ofRatio (num : Int) (den : Nat) : Binary64 := round (num < 0) num.natAbs den

/-- The number with the opposite sign. -/
def neg : Binary64 → Binary64
  | .finite s m e => .finite (!s) m e
  | .infinite s => .infinite (!s)
  | .nan => .nan

/-- Whether the number is not a number. -/
def isNaN : Binary64 → Bool
  | .nan => true
  | _ => false

/-- Whether the number is finite. -/
def isFinite : Binary64 → Bool
  | .finite _ _ _ => true
  | _ => false

/-- Whether the number is a zero of either sign. -/
def isZero : Binary64 → Bool
  | .finite _ 0 _ => true
  | _ => false

/-- A finite number as sign, numerator and denominator: `±num/den`. -/
def ratio (s : Bool) (m : Nat) (e : Int) : Bool × Nat × Nat :=
  if 0 ≤ e then (s, m * Nat.pow 2 e.toNat, 1) else (s, m, Nat.pow 2 (-e).toNat)

end Binary64

end Admission
