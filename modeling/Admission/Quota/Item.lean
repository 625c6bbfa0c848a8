import Admission.Time
import Admission.Limit

/-!
# Rate-limit items

An item is one quota as a rate: an amount per window, the window being a whole number of
minutes or days. A multiple of zero or less counts as one. The window length wraps at 64 bits
like every span. An item stores its count under `LIMITER/<base>/<amount>/<multiple>/<unit>`,
so two items over one base key never share a counter.
-/

namespace Admission.Quota

/-- The unit of a window. -/
inductive Granularity where
  /-- Sixty seconds. -/
  | minute
  /-- Twenty-four hours. -/
  | day
  deriving DecidableEq, Repr, Inhabited

namespace Granularity

/-- The length of one unit. -/
def span : Granularity → Span
  | .minute => Span.minute
  | .day => Span.day

/-- The unit's name. -/
def name : Granularity → String
  | .minute => "minute"
  | .day => "day"

end Granularity

/-- An amount per window of `multiples` units. -/
structure Item where
  /-- The amount allowed per window. -/
  amount : Int64
  /-- The window length in units; zero or less means one. -/
  multiples : Int64
  /-- The unit. -/
  granularity : Granularity
  deriving DecidableEq, Repr, Inhabited

namespace Item

/-- An amount per minute. -/
def perMinute (amount : Int64) : Item := ⟨amount, 1, .minute⟩

/-- An amount per day. -/
def perDay (amount : Int64) : Item := ⟨amount, 1, .day⟩

/-- The number of units in a window: the multiple, or one when it is zero or less. -/
def units (i : Item) : Int64 := if i.multiples ≤ 0 then 1 else i.multiples

/-- The window length. -/
def expiry (i : Item) : Span := i.units * i.granularity.span

/-- The key a counter of the item is stored under. -/
def storageKey (i : Item) (base : String) : String :=
  "LIMITER/" ++ base ++ "/" ++ toString i.amount.toInt ++ "/" ++ toString i.units.toInt ++ "/" ++
    i.granularity.name

/-- The item of a limit: per day for `rpd` and `tpd`, per minute otherwise. -/
def ofLimit (t : LimitType) (value : Int64) : Item :=
  if t.daily then perDay value else perMinute value

end Item

end Admission.Quota
