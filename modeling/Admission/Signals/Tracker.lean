import Admission.Provider
import Admission.Time
import Admission.Binary64.Arith
import Admission.Directory.Catalog

/-!
# Tracking provider load

A tracker follows the requests each provider is serving. It keeps two measurements per
provider:

* the requests in flight: one more on `acquire`, one fewer on `release` or `cancel`, never
  below zero;
* the performance indicator: a moving average of latencies in seconds, fed by `release`. The
  first sample is taken as it is; each later one moves the average by the weight `alpha`,
  `alpha · sample + (1 - alpha) · previous`, in binary64 arithmetic. A failed request counts
  as the failure penalty instead of its latency.

A provider the tracker has never heard of has no measurements. `release` and `cancel` make a
provider known even when nothing was in flight, with zero requests in flight.
-/

namespace Admission.Tracker

/-- How completions feed the performance indicator. -/
structure Tuning where
  /-- The weight of the newest sample. -/
  alpha : Binary64
  /-- The latency a failed request counts as. -/
  failurePenalty : Span
  deriving DecidableEq, Repr

/-- The default tuning: weight 0.2 and a 30 second penalty. -/
def Tuning.default : Tuning := ⟨Binary64.ofRatio 1 5, 30 * Span.second⟩

/-- A span in seconds: whole seconds plus the nanoseconds left over divided by 10^9, each
part converted exactly and the sum rounded once more. -/
def seconds (d : Span) : Binary64 :=
  let whole := d.toInt.tdiv 1000000000
  let rest := d.toInt.tmod 1000000000
  Binary64.ofInt whole + Binary64.ofInt rest / Binary64.ofInt 1000000000

/-- The sample a completion contributes. -/
def Tuning.sample (t : Tuning) (latency : Span) (failed : Bool) : Binary64 :=
  seconds (if failed then t.failurePenalty else latency)

/-- The moving average after one more sample. -/
def ewma (alpha : Binary64) (previous : Option Binary64) (sample : Binary64) : Binary64 :=
  match previous with
  | none => sample
  | some p => alpha * sample + (Binary64.ofInt 1 - alpha) * p

/-- What the tracker knows of one provider. -/
structure Load where
  /-- Requests in flight. -/
  parallel : Int64
  /-- The performance indicator, once a request has completed. -/
  performance : Option Binary64
  deriving DecidableEq, Repr

/-- The measurements a load gives. -/
def Load.signals (l : Load) : Signals := ⟨l.performance, some l.parallel⟩

/-- One fewer request in flight, never below zero. -/
def Load.ease (l : Load) : Load :=
  if 0 < l.parallel then { l with parallel := l.parallel - 1 } else l

/-- Measurements of several providers, looked up by id; an id may appear more than once with
the same measurements. -/
abbrev Readings := List (String × Signals)

/-- The measurements of a provider, none known when it is not among the readings. -/
def Readings.get (r : Readings) (id : String) : Signals :=
  ((r.find? (·.1 == id)).map Prod.snd).getD Signals.none

/-- How many providers the readings cover. -/
def Readings.size (r : Readings) : Nat := (r.map Prod.fst).eraseDups.length

/-- The loads of the providers a tracker has heard of. -/
structure Board where
  /-- Each known provider's load. -/
  loads : List (String × Load)
  deriving Repr

namespace Board

/-- A tracker that has heard of no provider. -/
def empty : Board := ⟨[]⟩

/-- A provider's load: nothing in flight and no indicator when unknown. -/
def load (b : Board) (id : String) : Load :=
  ((b.loads.find? (·.1 == id)).map Prod.snd).getD ⟨0, none⟩

/-- Replaces a provider's load. -/
def set (b : Board) (id : String) (l : Load) : Board :=
  ⟨Directory.upsert Prod.fst (id, l) b.loads⟩

/-- One more request in flight. -/
def acquire (b : Board) (id : String) : Board :=
  let l := b.load id
  b.set id { l with parallel := l.parallel + 1 }

/-- A request completed after `latency`, or failed. -/
def release (t : Tuning) (b : Board) (id : String) (latency : Span) (failed : Bool) : Board :=
  let l := (b.load id).ease
  b.set id { l with performance := some (ewma t.alpha l.performance (t.sample latency failed)) }

/-- A request that never reached the provider. -/
def cancel (b : Board) (id : String) : Board := b.set id (b.load id).ease

/-- The measurements of a provider. -/
def signals (b : Board) (id : String) : Signals :=
  match b.loads.find? (·.1 == id) with
  | some (_, l) => l.signals
  | none => Signals.none

/-- The measurements of the providers asked for, in the order asked. -/
def snapshot (b : Board) (ids : List String) : Readings := ids.map fun id => (id, b.signals id)

end Board

end Admission.Tracker
