import Admission.Json.Reader
import Admission.Decimal.Format
import Admission.Decimal.Read

/-!
# Binary64 numbers in JSON

A float field takes any number literal, rounded to the nearest binary64 number, and refuses one
past the finite range. A float is written in `Decimal.Layout.json`; JSON has no literal for NaN
or the infinities, so they are written as the strings `"NaN"`, `"+Inf"` and `"-Inf"`.
-/

namespace Admission

/-- A binary64 field. -/
def Reader.float : Reader Binary64
  | .null, old => some old
  | .number lit, _ => Decimal.readJsonFloat lit
  | _, _ => none

namespace Json

/-- A binary64 number as JSON. -/
def float (x : Binary64) : Json :=
  match x with
  | .finite _ _ _ => .number (Decimal.text Decimal.Layout.json x)
  | _ => .string (Decimal.text Decimal.Layout.json x)

/-- A binary64 number, or `null` when absent. -/
def floatOpt : Option Binary64 → Json
  | some x => float x
  | none => .null

end Json

end Admission
