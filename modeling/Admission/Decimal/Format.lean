import Admission.Binary64.Arith
import Admission.Decimal.Shortest

/-!
# Decimal text of binary64 numbers

Every text here starts from the shortest decimal (`Shortest.digits`) and places its digits
in one of two layouts:

* positional: the digits with a decimal point where the value puts it, zeros filled in,
  no point for an integer (`0.5`, `30`, `0.000123`);
* scientific: one digit, the point and the remaining digits if any, then `e`, the exponent's
  sign and at least two exponent digits (`1e+21`, `1.5e-07`).

A `Layout` record says which exponents of ten are written positionally and how the scientific
exponent is written. `Layout.json` is the layout of numbers in JSON documents: positional for
magnitudes in `[1e-6, 1e21)`, and a negative exponent written without a leading zero.
`Layout.plain` is the layout of numbers in messages: positional when the decimal exponent of
the leading digit lies in `[-4, 6)`.
-/

namespace Admission.Decimal

/-- Which numbers a text writes positionally, and how it writes an exponent. -/
structure Layout where
  /-- Whether a positive finite number, given as its binary64 value and the exponent of ten of
  its leading digit, is written positionally. -/
  positional : Binary64 → Int → Bool
  /-- Whether a negative exponent keeps a leading zero (`e-07` rather than `e-7`). -/
  padNegative : Bool

/-- Numbers in JSON documents: positional for magnitudes in `[1e-6, 1e21)`. -/
def Layout.json : Layout where
  positional x _ :=
    !(Binary64.lt x (Binary64.ofRatio 1 1000000)) && Binary64.lt x (Binary64.ofInt (Nat.pow 10 21 : Int))
  padNegative := false

/-- Numbers in messages: positional when the leading digit's exponent is in `[-4, 6)`. -/
def Layout.plain : Layout where
  positional _ lead := -4 ≤ lead ∧ lead < 6
  padNegative := true

/-- `n` zeros. -/
def zeros (n : Nat) : String := String.ofList (List.replicate n '0')

/-- The digits `ds` with the decimal point after `point` of them (`point` may be `≤ 0` or past
the end). -/
def positionalText (ds : String) (point : Int) : String :=
  let n : Int := ds.length
  if point ≤ 0 then "0." ++ zeros (-point).toNat ++ ds
  else if n ≤ point then ds ++ zeros (point - n).toNat
  else
    let cs := ds.toList
    String.ofList (cs.take point.toNat) ++ "." ++ String.ofList (cs.drop point.toNat)

/-- The digits `ds` in scientific layout with the exponent `x` of the leading digit. -/
def scientificText (padNegative : Bool) (ds : String) (x : Int) : String :=
  let cs := ds.toList
  let mant := match cs with
    | [] => "0"
    | [c] => String.singleton c
    | c :: rest => String.singleton c ++ "." ++ String.ofList rest
  let mag := toString x.natAbs
  let mag := if mag.length < 2 && (0 ≤ x || padNegative) then "0" ++ mag else mag
  mant ++ "e" ++ (if x < 0 then "-" else "+") ++ mag

/-- The text of a finite number in a layout. -/
def finiteText (layout : Layout) (s : Bool) (m : Nat) (e : Int) : String :=
  let sign := if s then "-" else ""
  if m = 0 then sign ++ "0"
  else
    let (d, k) := Shortest.digits m e
    let ds := toString d
    let lead : Int := k + ds.length - 1
    if layout.positional (.finite false m e) lead then sign ++ positionalText ds (lead + 1)
    else sign ++ scientificText layout.padNegative ds lead

/-- The text of a number in a layout; `NaN`, `+Inf` and `-Inf` for the special values. -/
def text (layout : Layout) : Binary64 → String
  | .finite s m e => finiteText layout s m e
  | .infinite false => "+Inf"
  | .infinite true => "-Inf"
  | .nan => "NaN"

end Admission.Decimal
