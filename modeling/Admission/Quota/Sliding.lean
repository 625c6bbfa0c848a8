import Admission.Time
import Admission.Binary64.Arith

/-!
# Sliding-window state

A sliding window keeps two counters: the current window's and the previous window's. Each
carries its remaining time to live. The previous count is weighted by the share of a window
its remaining life covers, and the weighted count is that share, computed in binary64 and
cut toward zero, plus the current count:

`⌊previous · max(previousTtl, 0) / window⌋ + current`

Each of the three conversions to binary64, the product and the quotient is rounded to nearest;
the sum wraps at 64 bits.
-/

namespace Admission.Quota

/-- The two counters of a sliding window and their remaining lives. -/
structure SlidingState where
  /-- The previous window's count. -/
  previousCount : Int64
  /-- The previous counter's remaining life, 0 when absent. -/
  previousTtl : Span
  /-- The current window's count. -/
  currentCount : Int64
  /-- The current counter's remaining life, 0 when absent. -/
  currentTtl : Span
  deriving DecidableEq, Repr, Inhabited

/-- No counters. -/
def SlidingState.empty : SlidingState := ⟨0, 0, 0, 0⟩

/-- The previous count's share of a sliding window of length `window`, in binary64 and cut
toward zero. -/
def SlidingState.share (s : SlidingState) (window : Span) : Int64 :=
  let ttl : Int64 := if s.previousTtl < 0 then 0 else s.previousTtl
  (Binary64.div
    (Binary64.mul (Binary64.ofInt s.previousCount.toInt) (Binary64.ofInt ttl.toInt))
    (Binary64.ofInt window.toInt)).truncInt64

/-- The weighted count of a sliding window of length `window`. -/
def SlidingState.weighted (s : SlidingState) (window : Span) : Int64 :=
  s.share window + s.currentCount

end Admission.Quota
