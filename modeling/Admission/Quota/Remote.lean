import Admission.Quota.Counters
import Admission.KeyValue.Client
import Admission.Decimal.Read

/-!
# Counters on the key-value server

The counter store kept on the shared key-value server, every key under `LIMITS:`. Reads,
expiry queries, clearing and the reset are plain commands; every update runs as a server-side
script, which the server refuses, so every update fails.

Each failure names the operation and the key (`get <key>: <cause>`). A stored value that is
not a 64-bit integer is a failure of the read. The reset walks the pages of a scan of the
prefix, 500 keys asked for a page, and deletes the keys in batches of 500 as they come, the
last batch once the walk is over; it reports how many keys were deleted before a page or a
delete failed.

`CounterOps.remote expired` is the store as seen by a caller whose deadline has already
passed when `expired` holds: then every call fails before it is sent.
-/

namespace Admission.Quota

open KeyValue

/-- The prefix of every counter key on the server. -/
def remotePrefix : String := "LIMITS:"

/-- The server key of a counter. -/
def remoteKey (key : String) : String := remotePrefix ++ key

/-- How many keys a page of the reset's scan asks for, and the most one delete removes. -/
def resetBatch : Nat := 500

/-- The most pages one reset asks for, `2^64`; a walk still going after them ends there, as if its
cursor had come back to 0. -/
def resetPages : Nat := 18446744073709551616

section Walk

variable {σ : Type} (scan : Nat → σ → Except Failure (List String × Nat) × σ)
  (del : List String → σ → Except Failure Nat × σ)

/-- The keys of a page join the batch one by one, and a batch that reaches `resetBatch` keys is
deleted at once: the batch and the count to go on with, or the count before the delete that
failed, with its failure. -/
def takePage : List String → List String → Int64 → σ →
    Except (Int64 × Failure) (List String × Int64) × σ
  | [], batch, removed, s => (.ok (batch, removed), s)
  | k :: page, batch, removed, s =>
    if (batch ++ [k]).length = resetBatch then
      match del (batch ++ [k]) s with
      | (.ok n, s) => takePage page [] (removed + Int64.ofNat n) s
      | (.error f, s) => (.error (removed, f), s)
    else takePage page (batch ++ [k]) removed s

/-- What is left of the batch, deleted once the walk is over; a failed delete is reported under
`reset limits`. -/
def flushBatch (batch : List String) (removed : Int64) (s : σ) : (Int64 × Option Fault) × σ :=
  if batch.isEmpty then ((removed, none), s)
  else
    match del batch s with
    | (.ok n, s) => ((removed + Int64.ofNat n, none), s)
    | (.error f, s) => ((removed, some (.context "reset limits" f.fault)), s)

/-- The reset's walk over the pages of a scan, at most `pages` of them, from the cursor of the
next page (none once a page has brought the cursor back to 0), the batch of keys not yet
deleted and the count of those deleted. Each page's keys go through `takePage`; when the walk
is over, `flushBatch` deletes what is left of the batch. A failed page stops the walk under
`scan limits`, leaving the batch in place; a failed delete stops it under `reset limits`. -/
def resetWalk : Nat → Option Nat → List String → Int64 → σ → (Int64 × Option Fault) × σ
  | pages + 1, some cursor, batch, removed, s =>
    match scan cursor s with
    | (.error f, s) => ((removed, some (.context "scan limits" f.fault)), s)
    | (.ok (page, next), s) =>
      match takePage del page batch removed s with
      | (.error (removed, f), s) => ((removed, some (.context "reset limits" f.fault)), s)
      | (.ok (batch, removed), s) =>
        resetWalk pages (if next = 0 then none else some next) batch removed s
  | _, _, batch, removed, s => flushBatch del batch removed s

end Walk

/-- Sends a call unless the deadline has passed. -/
def remoteSend (expired : Bool) (c : Connection) (run : Connection → Except Failure α × Connection) :
    Except Failure α × Connection :=
  if expired then (.error .deadline, c) else run c

/-- The pages of the reset's scan of the counter keys, `resetBatch` keys asked for a page. -/
def remotePages (expired : Bool) (now : Instant) (cursor : Nat) (c : Connection) :
    Except Failure (List String × Nat) × Connection :=
  remoteSend expired c (·.scan now cursor (remotePrefix ++ "*") resetBatch)

/-- The reset's delete of a batch of keys. -/
def remoteDelete (expired : Bool) (now : Instant) (keys : List String) (c : Connection) :
    Except Failure Nat × Connection :=
  remoteSend expired c (·.del now keys)

/-- Sends a call unless the deadline has passed; a failure is wrapped in `what`. -/
def remoteCall (expired : Bool) (what : String) (c : Connection)
    (run : Connection → Except Failure α × Connection) : Except Fault α × Connection :=
  if expired then (.error (.context what Failure.deadline.fault), c)
  else
    match run c with
    | (.ok a, c) => (.ok a, c)
    | (.error f, c) => (.error (.context what f.fault), c)

/-- A script call: it always fails, wrapped in `what`. -/
def remoteScript (expired : Bool) (what : String) (c : Connection) : Except Fault α × Connection :=
  match remoteCall expired what c Connection.script with
  | (.ok (), c) => (.error (.context what .backend), c)
  | (.error f, c) => (.error f, c)

/-- The counter store on the key-value server. -/
def CounterOps.remote (expired : Bool) : CounterOps Connection where
  incr _ key _ _ c := remoteScript expired ("incr " ++ key) c
  get now key c :=
    match remoteCall expired ("get " ++ key) c (·.get now (remoteKey key)) with
    | (.ok none, c) => (.ok 0, c)
    | (.ok (some v), c) =>
      match Decimal.readInt64 v with
      | some n => (.ok n, c)
      | none => (.error (.context ("get " ++ key) .backend), c)
    | (.error f, c) => (.error f, c)
  ttl now key c :=
    match remoteCall expired ("ttl " ++ key) c (·.pttl now (remoteKey key)) with
    | (.ok ms, c) =>
      if ms = -1 then (.ok ttlNoExpiry, c)
      else if ms = -2 then (.ok ttlMissing, c)
      else (.ok (Int64.ofInt ms * Span.millisecond), c)
    | (.error f, c) => (.error f, c)
  clear now key c :=
    match remoteCall expired ("clear " ++ key) c
        (·.del now [remoteKey key, remoteKey (previousKey key)]) with
    | (.ok _, c) => (.ok (), c)
    | (.error f, c) => (.error f, c)
  reset now c :=
    resetWalk (remotePages expired now) (remoteDelete expired now) resetPages (some 0) [] 0 c
  acquireEntry _ key _ _ _ c := remoteScript expired ("acquire entry " ++ key) c
  movingWindow _ key _ c := remoteScript expired ("moving window " ++ key) c
  acquireSliding _ key _ _ _ c := remoteScript expired ("acquire sliding window " ++ key) c
  slidingWindow _ key _ c := remoteScript expired ("sliding window " ++ key) c

end Admission.Quota
