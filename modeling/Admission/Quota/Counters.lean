import Admission.Quota.Memory
import Admission.Fault

/-!
# Counter stores

What the window strategies need from a store of counters, as functions of the store's state
`σ`: each call takes the clock reading, may fail, and gives the state after it. `reset`
reports how many counters it removed even when it fails part way.

`CounterOps.memory` is the in-memory store, optionally under an `Interference`: a store that
fails every call, one whose expiry query always answers "no expiry", one whose expiry query
fails, or one that answers "no expiry" and fails to clear.
-/

namespace Admission.Quota

/-- The operations of a counter store with state `σ`. -/
structure CounterOps (σ : Type) where
  /-- Adds to a counter; the new count. -/
  incr : Instant → String → Span → Int64 → σ → Except Fault Int64 × σ
  /-- The count under a key. -/
  get : Instant → String → σ → Except Fault Int64 × σ
  /-- The remaining life of a counter (`ttlMissing`, `ttlNoExpiry` or a span). -/
  ttl : Instant → String → σ → Except Fault Span × σ
  /-- Removes a counter and its previous counter. -/
  clear : Instant → String → σ → Except Fault Unit × σ
  /-- Removes every counter: how many, and the failure that stopped it, if any. -/
  reset : Instant → σ → (Int64 × Option Fault) × σ
  /-- Admits an amount into a moving window. -/
  acquireEntry : Instant → String → Int64 → Span → Int64 → σ → Except Fault Bool × σ
  /-- The oldest instant and total of a moving window. -/
  movingWindow : Instant → String → Span → σ → Except Fault (Instant × Int64) × σ
  /-- Admits an amount into a sliding window. -/
  acquireSliding : Instant → String → Int64 → Span → Int64 → σ → Except Fault Bool × σ
  /-- The counters of a sliding window. -/
  slidingWindow : Instant → String → Span → σ → Except Fault SlidingState × σ

/-- A way a store can misbehave. -/
inductive Interference where
  /-- The store answers truthfully. -/
  | truthful
  /-- Every call fails with the message. -/
  | broken (message : String)
  /-- The expiry query always answers "no expiry". -/
  | noExpiry
  /-- The expiry query fails with the message. -/
  | ttlFails (message : String)
  /-- The expiry query answers "no expiry" and clearing fails with the message. -/
  | clearFails (message : String)
  deriving DecidableEq, Repr

namespace Interference

/-- The failure of every call, if the store is broken. -/
def failure : Interference → Option Fault
  | .broken m => some (.text m)
  | _ => none

/-- Runs a call unless the store is broken. -/
def guard (i : Interference) (s : σ) (run : σ → α × σ) : Except Fault α × σ :=
  match i.failure with
  | some f => (.error f, s)
  | none => let (a, s') := run s; (.ok a, s')

end Interference

/-- The in-memory store under an interference. -/
def CounterOps.memory (i : Interference) : CounterOps MemoryStore where
  incr now key window amount s := i.guard s (·.incr now key window amount)
  get now key s := i.guard s (·.get now key)
  ttl now key s :=
    match i with
    | .noExpiry => (.ok ttlNoExpiry, s)
    | .clearFails _ => (.ok ttlNoExpiry, s)
    | .ttlFails m => (.error (.text m), s)
    | _ => i.guard s (·.pttl now key)
  clear _ key s :=
    match i with
    | .clearFails m => (.error (.text m), s)
    | _ => i.guard s fun s => ((), s.clear key)
  reset _ s :=
    match i.failure with
    | some f => ((0, some f), s)
    | none => let (n, s') := s.reset; ((n, none), s')
  acquireEntry now key limit window amount s :=
    i.guard s (·.acquireEntry now key limit window amount)
  movingWindow now key window s := i.guard s (·.movingWindow now key window)
  acquireSliding now key limit window amount s :=
    i.guard s (·.acquireSliding now key limit window amount)
  slidingWindow now key window s := i.guard s (·.slidingWindow now key window)

/-- The operations of a store kept inside a larger state `τ`, reached through `get` and `set`. -/
def CounterOps.focus (get : τ → σ) (set : τ → σ → τ) (ops : CounterOps σ) : CounterOps τ where
  incr now key window amount t := let (r, s) := ops.incr now key window amount (get t); (r, set t s)
  get now key t := let (r, s) := ops.get now key (get t); (r, set t s)
  ttl now key t := let (r, s) := ops.ttl now key (get t); (r, set t s)
  clear now key t := let (r, s) := ops.clear now key (get t); (r, set t s)
  reset now t := let (r, s) := ops.reset now (get t); (r, set t s)
  acquireEntry now key limit window amount t :=
    let (r, s) := ops.acquireEntry now key limit window amount (get t); (r, set t s)
  movingWindow now key window t := let (r, s) := ops.movingWindow now key window (get t); (r, set t s)
  acquireSliding now key limit window amount t :=
    let (r, s) := ops.acquireSliding now key limit window amount (get t); (r, set t s)
  slidingWindow now key window t :=
    let (r, s) := ops.slidingWindow now key window (get t); (r, set t s)

end Admission.Quota
