import Admission.Script.Quota
import Admission.Script.KeyValue
import Admission.Quota.Remote

/-!
# The `ratelimit` script

One counter store on a clock that starts at 2024-01-01T00:00:00Z and moves only on `advance`,
shared by a limiter and a bare window strategy of the same kind. The store is the in-memory
store, possibly under an interference (`broken`, `no_expiry`, `ttl_error`, `clear_error`), or
the counters on the key-value server (`redis`).

Raw store steps (`incr` … `sliding_window`) reach the in-memory store without interference, or
the server's counters. The limiter's calls carry its deadline (`timeout_ns`, 250 ms by
default); a deadline shorter than one millisecond has passed before a call to the server goes
out, so those calls fail.
-/

namespace Admission.Script

open Quota KeyValue

/-- The reading of every fake clock when a script starts: 2024-01-01T00:00:00Z. -/
def fakeStart : Instant := Instant.ofUnixSeconds 1704067200

/-- Where the counters of a script live. -/
inductive Backing where
  /-- The in-memory store under an interference. -/
  | memory (i : Interference)
  /-- The counters on the key-value server; `owned` when closing the store closes its
  client. -/
  | remote (owned : Bool)
  deriving DecidableEq, Repr

/-- The state of a `ratelimit` script. -/
structure Bench where
  /-- The fake clock. -/
  now : Instant
  /-- The in-memory store. -/
  memory : MemoryStore
  /-- The client of the key-value server. -/
  remote : Connection

/-- A fresh bench. -/
def Bench.start : Bench := ⟨fakeStart, MemoryStore.empty, Connection.connect Server.empty⟩

namespace Backing

/-- The backing a `storage` name picks, with the failure message of the failing ones. -/
def parse (name message : String) (shared : Bool) : Option Backing :=
  if name = "" || name = "memory" then some (.memory .truthful)
  else if name = "broken" then some (.memory (.broken message))
  else if name = "no_expiry" then some (.memory .noExpiry)
  else if name = "ttl_error" then some (.memory (.ttlFails message))
  else if name = "clear_error" then some (.memory (.clearFails message))
  else if name = "redis" then some (.remote (!shared))
  else none

/-- The store as the strategies see it; `expired` when the caller's deadline has passed. -/
def ops (expired : Bool) : Backing → CounterOps Bench
  | .memory i => (CounterOps.memory i).focus Bench.memory (fun b m => { b with memory := m })
  | .remote _ => (CounterOps.remote expired).focus Bench.remote (fun b c => { b with remote := c })

/-- The store as raw steps see it: without interference. -/
def raw : Backing → CounterOps Bench
  | .memory _ => ops false (.memory .truthful)
  | b => ops false b

end Backing

/-- Whether a call bounded by `timeout` has no time left when it starts. -/
def deadlinePassed (timeout : Span) : Bool := 0 < timeout && timeout < Span.millisecond

/-- The fixed parts of a `ratelimit` script. -/
structure LimiterSetup where
  /-- How quotas are counted. -/
  kind : WindowKind
  /-- The limiter. -/
  limiter : Limiter
  /-- Where the counters live. -/
  backing : Backing
  /-- The limiter's deadline for each call. -/
  timeout : Span

/-- An answer with an integer member. -/
def intAnswer (name : String) (n : Int) : Json := .object [(name, .int n)]

/-- An answer with a truth-value member. -/
def boolAnswer (name : String) (b : Bool) : Json := .object [(name, .bool b)]

/-- The answer to a step that may fail. -/
def answerOr (r : Except Fault α) (ok : α → Json) : Json :=
  match r with
  | .ok a => ok a
  | .error f => fault f

/-- The item a step describes. -/
def stepItem (s : Json) : Option Item := do
  let amount ← int s "amount"
  let multiples ← int s "multiples"
  let g ← text s "granularity"
  pure ⟨amount, multiples, granularity g⟩

/-- Runs one store or limiter step; none when the step cannot be read or is unknown. -/
def limiterStep (setup : LimiterSetup) (action : String) (s : Json) (b : Bench) :
    Option (Json × Bench) := do
  let raw := setup.backing.raw
  let ops := setup.backing.ops false
  let bounded := setup.backing.ops (deadlinePassed setup.timeout)
  let now := b.now
  let key ← text s "key"
  let expiry ← int s "expiry_ns"
  let amount ← int s "amount"
  let limit ← int s "limit"
  let user ← int s "user"
  let router ← int s "router"
  let t ← text s "type"
  let value ← intOpt s "value"
  let cost ← int s "cost"
  let ns ← int s "ns"
  let item ← stepItem s
  if action = "advance" then pure (Json.ok, { b with now := now + ns.toInt })
  else if action = "incr" then
    let (r, b) := raw.incr now key expiry amount b
    pure (answerOr r (fun v => intAnswer "value" v.toInt), b)
  else if action = "get" then
    let (r, b) := raw.get now key b
    pure (answerOr r (fun v => intAnswer "value" v.toInt), b)
  else if action = "ttl" then
    let (r, b) := raw.ttl now key b
    pure (answerOr r (fun v => intAnswer "ttl_ns" v.toInt), b)
  else if action = "clear" then
    let (r, b) := raw.clear now key b
    pure (answerOr r (fun _ => Json.ok), b)
  else if action = "storage_reset" then
    let ((n, f), b) := raw.reset now b
    match f with
    | none => pure (intAnswer "removed" n.toInt, b)
    | some f => pure ((fault f).push "removed" (.int n.toInt), b)
  else if action = "acquire_entry" then
    let (r, b) := raw.acquireEntry now key limit expiry amount b
    pure (answerOr r (boolAnswer "allowed"), b)
  else if action = "moving_window" then
    let (r, b) := raw.movingWindow now key expiry b
    pure (answerOr r (fun (oldest, count) =>
      .object [("oldest_ns", if oldest.isZero then .null else .int (oldest.since fakeStart).toInt),
        ("count", .int count.toInt)]), b)
  else if action = "acquire_sliding" then
    let (r, b) := raw.acquireSliding now key limit expiry amount b
    pure (answerOr r (boolAnswer "allowed"), b)
  else if action = "sliding_window" then
    let (r, b) := raw.slidingWindow now key expiry b
    pure (answerOr r (fun w =>
      .object [("previous_count", .int w.previousCount.toInt),
        ("previous_ttl_ns", .int w.previousTtl.toInt),
        ("current_count", .int w.currentCount.toInt),
        ("current_ttl_ns", .int w.currentTtl.toInt)]), b)
  else if action = "hit" then
    let (ok, b) := setup.limiter.hit bounded now user router ⟨t⟩ value cost b
    pure (boolAnswer "allowed" ok, b)
  else if action = "remaining" then
    let (r, b) := setup.limiter.remaining bounded now user router ⟨t⟩ value b
    pure (.object [("remaining", Json.intOpt (r.map Int64.toInt))], b)
  else if action = "limiter_reset" then
    let (r, b) := setup.limiter.reset ops now b
    pure (answerOr r (fun _ => Json.ok), b)
  else if action = "key" then
    pure (.object [("key", .string (setup.limiter.key user router ⟨t⟩)),
      ("strategy", .string setup.kind.name)], b)
  else if action = "strategy_hit" then
    let (r, b) := setup.kind.hit ops now item key cost b
    pure (answerOr r (boolAnswer "allowed"), b)
  else if action = "window_stats" then
    let (r, b) := setup.kind.remaining ops now item key b
    pure (answerOr r (fun n => intAnswer "remaining" n.toInt), b)
  else if action = "storage_ping" then
    match setup.backing with
    | .memory _ => pure (.object [("error", .string "not_redis")], b)
    | .remote _ =>
      let (r, c) := b.remote.ping
      pure (answerOr (r.mapError Failure.fault) (fun _ => Json.ok), { b with remote := c })
  else if action = "storage_close" then
    match setup.backing with
    | .memory _ => pure (.object [("error", .string "not_redis")], b)
    | .remote false => pure (Json.ok, b)
    | .remote true =>
      let (r, c) := b.remote.close
      pure (answerOr (r.mapError Failure.fault) (fun _ => Json.ok), { b with remote := c })
  else none

/-- Runs one step of a `ratelimit` script. -/
def ratelimitStep (setup : LimiterSetup) (b : Bench) (s : Json) : Json × Bench :=
  match text s "do" with
  | none => (badInput, b)
  | some action =>
    let server := match setup.backing with
      | .remote _ => serverStep action s b.now b.remote.server
      | .memory _ => none
    match server with
    | some (j, srv) => (j, { b with remote := { b.remote with server := srv } })
    | none => (limiterStep setup action s b).getD (badInput, b)

/-- Runs the steps in order, collecting their answers. -/
def runSteps (step : β → α → Json × β) : List α → β → List Json × β
  | [], b => ([], b)
  | s :: ss, b =>
    let (j, b) := step b s
    let (js, b) := runSteps step ss b
    (j :: js, b)

/-- `ratelimit {strategy, storage, fail_message, shared_redis_client, timeout_ns, prefix,
steps}`. -/
def ratelimit (j : Json) : Json := orBad do
  let strategy ← text j "strategy"
  let storage ← text j "storage"
  let message ← text j "fail_message"
  let shared ← flag j "shared_redis_client"
  let timeout ← intOpt j "timeout_ns"
  let keyPrefix ← text j "prefix"
  let ss ← steps j
  let backing ← Backing.parse storage (if message.isEmpty then "store down" else message) shared
  match WindowKind.parse strategy with
  | .error f => pure (fault f)
  | .ok kind =>
    let setup : LimiterSetup :=
      ⟨kind, ⟨kind, if keyPrefix.isEmpty then "rl" else keyPrefix⟩, backing,
        timeout.getD (250 * Span.millisecond)⟩
    pure (results (runSteps (ratelimitStep setup) ss Bench.start).1)

end Admission.Script
