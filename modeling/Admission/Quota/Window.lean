import Admission.Quota.Counters
import Admission.Quota.Item
import Admission.Text.Quoted

/-!
# Window strategies

How a quota is counted:

* fixed window: a counter per window; every hit adds its cost, allowed or not, and a hit is
  allowed when the counter, its cost included, stays within the amount;
* sliding window: a current and a previous counter, the previous one weighted by how much of it
  still overlaps the last window; a hit is admitted only if it fits, and only admitted hits
  count;
* moving window: a log of the amounts admitted in the last window; a hit is admitted only if
  it fits.

What remains of a quota is the amount less what the next hit is compared against (the counter,
the weighted count, or the logged total), floored at zero, in 64-bit arithmetic.
-/

namespace Admission.Quota

/-- How a quota is counted. -/
inductive WindowKind where
  /-- Fixed windows. -/
  | fixed
  /-- Sliding windows. -/
  | sliding
  /-- Moving windows. -/
  | moving
  deriving DecidableEq, Repr, Inhabited

namespace WindowKind

/-- The strategy's name. -/
def name : WindowKind → String
  | .fixed => "fixed_window"
  | .sliding => "sliding_window"
  | .moving => "moving_window"

/-- The strategy a name gives; any other name is refused as
`unknown rate limit strategy "<name>"`. -/
def parse (s : String) : Except Fault WindowKind :=
  if s = "fixed_window" then .ok .fixed
  else if s = "sliding_window" then .ok .sliding
  else if s = "moving_window" then .ok .moving
  else .error (.text ("unknown rate limit strategy " ++ Text.quote s))

/-- Whether a hit of `cost` on the item's counter under `key` is allowed. -/
def hit (k : WindowKind) (ops : CounterOps σ) (now : Instant) (item : Item) (key : String)
    (cost : Int64) (s : σ) : Except Fault Bool × σ :=
  match k with
  | .fixed =>
    let (r, s) := ops.incr now (item.storageKey key) item.expiry cost s
    (r.map (fun count => count ≤ item.amount), s)
  | .sliding => ops.acquireSliding now (item.storageKey key) item.amount item.expiry cost s
  | .moving => ops.acquireEntry now (item.storageKey key) item.amount item.expiry cost s

/-- `max 0 (amount - used)`, the difference wrapping at 64 bits. -/
def left (amount used : Int64) : Int64 := if amount - used < 0 then 0 else amount - used

/-- What remains of the item's quota under `key`. -/
def remaining (k : WindowKind) (ops : CounterOps σ) (now : Instant) (item : Item) (key : String)
    (s : σ) : Except Fault Int64 × σ :=
  let skey := item.storageKey key
  match k with
  | .fixed =>
    match ops.get now skey s with
    | (.error e, s) => (.error e, s)
    | (.ok count, s) =>
      match ops.ttl now skey s with
      | (.error e, s) => (.error e, s)
      | (.ok _, s) => (.ok (left item.amount count), s)
  | .sliding =>
    let (r, s) := ops.slidingWindow now skey item.expiry s
    (r.map (fun st => left item.amount (st.weighted item.expiry)), s)
  | .moving =>
    let (r, s) := ops.movingWindow now skey item.expiry s
    (r.map (fun w => left item.amount w.2), s)

end WindowKind

end Admission.Quota
