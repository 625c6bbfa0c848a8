import Admission.Signals.Tracker
import Admission.Quota.Remote

/-!
# Tracking provider load on the key-value server

The tracker shared by every gateway instance keeps a provider's measurements under
`signals:<id>:parallel` and `signals:<id>:performance`. Its updates run as server-side
scripts, which the server refuses, so `acquire`, `release` and `cancel` always fail, each
naming the provider (`acquire <id>: <cause>`).

A snapshot reads both keys of every provider asked for in one `MGET` (none for an empty
request). A value that does not read as a 64-bit integer, or as a float for the indicator,
counts as unknown; a failed read is `snapshot signals: <cause>`.
-/

namespace Admission.Tracker

open KeyValue Quota

/-- The key of a provider's requests in flight. -/
def parallelKey (id : String) : String := "signals:" ++ id ++ ":parallel"

/-- The key of a provider's performance indicator. -/
def performanceKey (id : String) : String := "signals:" ++ id ++ ":performance"

/-- A stored measurement pair read back; unreadable values are unknown. -/
def readSignals (parallel performance : Option String) : Signals :=
  ⟨performance.bind Decimal.readFloat, parallel.bind Decimal.readInt64⟩

/-- Pairs each provider with its two values, in order. -/
def pairValues : List String → List (Option String) → Readings
  | id :: ids, p :: q :: vs => (id, readSignals p q) :: pairValues ids vs
  | id :: ids, _ => (id, Signals.none) :: pairValues ids []
  | [], _ => []

/-- The measurements of the providers asked for, read with one multi-key read `mget` of both
keys of every provider, in order; an empty request sends nothing. -/
def snapshotVia {σ : Type}
    (mget : List String → σ → Except Fault (List (Option String)) × σ) (ids : List String)
    (s : σ) : Except Fault Readings × σ :=
  if ids.isEmpty then (.ok [], s)
  else
    match mget (ids.flatMap fun id => [parallelKey id, performanceKey id]) s with
    | (.ok values, s) => (.ok (pairValues ids values), s)
    | (.error f, s) => (.error f, s)

namespace Remote

/-- One more request in flight on the server; it always fails. -/
def acquire (id : String) (c : Connection) : Except Fault Unit × Connection :=
  remoteScript false ("acquire " ++ id) c

/-- A completed request reported to the server; it always fails. -/
def release (id : String) (c : Connection) : Except Fault Unit × Connection :=
  remoteScript false ("release " ++ id) c

/-- A request that never reached the provider, reported to the server; it always fails. -/
def cancel (id : String) (c : Connection) : Except Fault Unit × Connection :=
  remoteScript false ("cancel " ++ id) c

/-- The measurements of the providers asked for, read in one call; `expired` when the
caller's deadline has passed. -/
def snapshot (expired : Bool) (now : Instant) (ids : List String) (c : Connection) :
    Except Fault Readings × Connection :=
  snapshotVia (fun keys c => remoteCall expired "snapshot signals" c (·.mget now keys)) ids c

end Remote

end Admission.Tracker
