import Admission.Binary64.Basic

/-!
# Binary64 arithmetic

Addition, subtraction, multiplication and division, each the exact result rounded once
(`Binary64.round`), with the special values of IEEE 754: a NaN operand gives NaN, as do
`∞ - ∞`, `0 · ∞`, `0 / 0` and `∞ / ∞`; a non-zero number over zero is an infinity. An exact
zero sum is `+0` unless both operands are `-0`. Comparisons treat `-0` and `+0` as equal and
are false whenever a NaN takes part.

`Binary64.truncInt64` converts toward zero to a 64-bit integer, and gives `-2^63` for NaN, an
infinity or a value out of range, as the x86-64 conversion instruction does.
-/

namespace Admission.Binary64

/-- The product. -/
def mul : Binary64 → Binary64 → Binary64
  | .nan, _ => .nan
  | _, .nan => .nan
  | .infinite s, .infinite t => .infinite (s != t)
  | .infinite s, .finite t m _ => if m = 0 then .nan else .infinite (s != t)
  | .finite s m _, .infinite t => if m = 0 then .nan else .infinite (s != t)
  | .finite s m e, .finite t n f =>
    let (_, a, b) := ratio s (m * n) (e + f)
    round (s != t) a b

/-- The quotient. -/
def div : Binary64 → Binary64 → Binary64
  | .nan, _ => .nan
  | _, .nan => .nan
  | .infinite _, .infinite _ => .nan
  | .infinite s, .finite t _ _ => .infinite (s != t)
  | .finite s _ _, .infinite t => .finite (s != t) 0 minExp
  | .finite s m e, .finite t n f =>
    if n = 0 then (if m = 0 then .nan else .infinite (s != t))
    else
      -- m·2^e / (n·2^f) = m / n · 2^(e-f)
      let d := e - f
      if 0 ≤ d then round (s != t) (m * Nat.pow 2 d.toNat) n
      else round (s != t) m (n * Nat.pow 2 (-d).toNat)

/-- A signed significand at the exponent `g`, below or equal to the number's own exponent. -/
def signedAt (s : Bool) (m : Nat) (e g : Int) : Int :=
  let v : Int := (m * Nat.pow 2 (e - g).toNat : Nat)
  if s then -v else v

/-- The sum. -/
def add : Binary64 → Binary64 → Binary64
  | .nan, _ => .nan
  | _, .nan => .nan
  | .infinite s, .infinite t => if s = t then .infinite s else .nan
  | .infinite s, .finite _ _ _ => .infinite s
  | .finite _ _ _, .infinite t => .infinite t
  | .finite s m e, .finite t n f =>
    let g := min e f
    let v := signedAt s m e g + signedAt t n f g
    if v = 0 then .finite (s && t) 0 minExp
    else
      let (_, a, b) := ratio false v.natAbs g
      round (v < 0) a b

/-- The difference. -/
def sub (x y : Binary64) : Binary64 := add x y.neg

instance : Add Binary64 := ⟨add⟩
instance : Sub Binary64 := ⟨sub⟩
instance : Mul Binary64 := ⟨mul⟩
instance : Div Binary64 := ⟨div⟩
instance : Neg Binary64 := ⟨neg⟩

/-- A non-NaN number as an extended rational to compare by: `-∞`, a ratio, or `+∞`. -/
inductive Extended where
  | negInf
  | ratio (num : Int) (den : Nat)
  | posInf

/-- The value of a number that is not NaN. -/
def extended : Binary64 → Option Extended
  | .nan => none
  | .infinite true => some .negInf
  | .infinite false => some .posInf
  | .finite s m e =>
    let (_, a, b) := ratio s m e
    some (.ratio (if s then -(a : Int) else a) b)

/-- Strict order of extended values. -/
def Extended.lt : Extended → Extended → Bool
  | .negInf, .negInf => false
  | .negInf, _ => true
  | .ratio _ _, .negInf => false
  | .ratio a b, .ratio c d => a * d < c * b
  | .ratio _ _, .posInf => true
  | .posInf, _ => false

/-- `x < y`; false when either is NaN. -/
def lt (x y : Binary64) : Bool :=
  match extended x, extended y with
  | some a, some b => a.lt b
  | _, _ => false

/-- `x == y` as numbers: `-0` equals `+0`, NaN equals nothing. -/
def eqv (x y : Binary64) : Bool :=
  match extended x, extended y with
  | some a, some b => !a.lt b && !b.lt a
  | _, _ => false

/-- `x ≤ y`; false when either is NaN. -/
def le (x y : Binary64) : Bool := lt x y || eqv x y

/-- The absolute value. -/
def abs : Binary64 → Binary64
  | .finite _ m e => .finite false m e
  | .infinite _ => .infinite false
  | .nan => .nan

/-- Toward zero to a 64-bit integer; `-2^63` for NaN, an infinity or a value out of range. -/
def truncInt64 : Binary64 → Int64
  | .finite s m e =>
    let t : Nat := if 0 ≤ e then m * Nat.pow 2 e.toNat else m / Nat.pow 2 (-e).toNat
    let v : Int := if s then -(t : Int) else t
    if -9223372036854775808 ≤ v ∧ v ≤ 9223372036854775807 then Int64.ofInt v
    else Int64.ofInt (-9223372036854775808)
  | _ => Int64.ofInt (-9223372036854775808)

end Admission.Binary64
