import Admission.Binary64.Basic

/-!
# The shortest decimal that reads back

For a positive finite binary64 number `x = m · 2^e`, the reals that round to `x` form an
interval around it: half the gap to each neighbour, the lower gap being half as wide when `m`
is the least normal significand, the ends included exactly when `m` is even. The shortest
decimal of `x` is the decimal with the fewest significant digits in that interval, and among
those the one nearest to `x`; when `x` lies halfway between two, the one with an even last
digit.

`Shortest.digits` tries 1, 2, …, 17 digits. With `n` digits the decimals are the multiples of
`10^k`, `k = ⌊log₁₀ x⌋ - n + 1`, and if one of them lies in the interval so does one of the two
that bracket `x`; so testing those two suffices. Seventeen digits always hit. All arithmetic is
on natural numbers and exact.
-/

namespace Admission.Decimal

/-- The number of decimal digits of a positive natural number (1 for 0). -/
def digitCount (n : Nat) : Nat := (Nat.toDigits 10 n).length

/-- `10^k · a` compared with `2^f · b`, exactly, for integer exponents. -/
def cmpScaled (a : Nat) (k : Int) (b : Nat) (f : Int) : Ordering :=
  compare (a * Nat.pow 10 k.toNat * Nat.pow 2 (-f).toNat) (b * Nat.pow 2 f.toNat * Nat.pow 10 (-k).toNat)

/-- `⌊log₁₀ (m · 2^e)⌋` for `m > 0`. -/
def log10Floor (m : Nat) (e : Int) : Int :=
  let p := m * Nat.pow 2 e.toNat
  let q := Nat.pow 2 (-e).toNat
  let guess : Int := (digitCount p : Int) - (digitCount q : Int)
  -- the value lies in (10^(guess-1), 10^(guess+1)); it is at least 10^guess or not
  if cmpScaled 1 guess m e != .gt then guess else guess - 1

/-- `⌊m · 2^e / 10^k⌋`. -/
def floorScaled (m : Nat) (e k : Int) : Nat :=
  (m * Nat.pow 2 e.toNat * Nat.pow 10 (-k).toNat) / (Nat.pow 2 (-e).toNat * Nat.pow 10 k.toNat)

/-- The rounding interval of `m · 2^e` in units of `2^(e-2)`: its lower and upper ends, and
whether they belong to it. -/
def interval (m : Nat) (e : Int) : Nat × Nat × Bool :=
  let lower := if m = Nat.pow 2 52 ∧ Binary64.minExp < e then 4 * m - 1 else 4 * m - 2
  (lower, 4 * m + 2, m % 2 = 0)

/-- Whether `d · 10^k` lies in the rounding interval of `m · 2^e`. -/
def inInterval (m : Nat) (e : Int) (d : Nat) (k : Int) : Bool :=
  let (lo, hi, closed) := interval m e
  let above := cmpScaled d k lo (e - 2)
  let below := cmpScaled d k hi (e - 2)
  (above == .gt || (closed && above == .eq)) && (below == .lt || (closed && below == .eq))

/-- The `n`-digit decimal of `m · 2^e` that lies in its interval and is nearest to it, as
significand and exponent of ten, if one does. -/
def candidate (m : Nat) (e : Int) (n : Nat) : Option (Nat × Int) :=
  let k := log10Floor m e - n + 1
  let d := floorScaled m e k
  let lowIn := inInterval m e d k
  let highIn := inInterval m e (d + 1) k
  if lowIn && highIn then
    -- the nearer of the two; at the midpoint the even one
    match cmpScaled (2 * d + 1) k m (e + 1) with
    | .lt => some (d + 1, k)
    | .gt => some (d, k)
    | .eq => if d % 2 = 0 then some (d, k) else some (d + 1, k)
  else if lowIn then some (d, k)
  else if highIn then some (d + 1, k)
  else none

/-- The first hit among `n`, `n + 1`, …, `n + fuel - 1` digits. -/
def search (m : Nat) (e : Int) : Nat → Nat → Option (Nat × Int)
  | 0, _ => none
  | fuel + 1, n =>
    match candidate m e n with
    | some r => some r
    | none => search m e fuel (n + 1)

/-- Removes trailing zeros of a significand, raising the exponent. -/
def normalize : Nat → Int → Nat → Nat × Int
  | 0, k, d => (d, k)
  | fuel + 1, k, d =>
    if d ≠ 0 ∧ d % 10 = 0 then normalize fuel (k + 1) (d / 10) else (d, k)

/-- The shortest decimal of the positive number `m · 2^e` (`m > 0`), as significand and
exponent of ten: the value `d · 10^k`, `d` without trailing zeros. -/
def Shortest.digits (m : Nat) (e : Int) : Nat × Int :=
  match search m e 17 1 with
  | some (d, k) => normalize 20 k d
  | none => (m, 0)

end Admission.Decimal
