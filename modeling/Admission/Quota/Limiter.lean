import Admission.Quota.Window

/-!
# The quota limiter

A limiter counts each user's quota on each router and dimension under its own key,
`<prefix>:<type>:<user>:<router>`, with a window per day for `rpd` and `tpd` and per minute
otherwise.

It fails open: a quota without a value is unlimited and touches no store; a store failure
during a hit allows the hit. A hit is refused only when the store answered and the quota is
spent. After an allowed hit a counter that the store reports as never expiring is cleared, so
no counter outlives its window.
-/

namespace Admission.Quota

/-- A limiter over some counter store. -/
structure Limiter where
  /-- How quotas are counted. -/
  window : WindowKind
  /-- The first part of every key. -/
  keyPrefix : String
  deriving DecidableEq, Repr

namespace Limiter

/-- The base key of a user's quota on a router and dimension. -/
def key (l : Limiter) (user router : Int64) (t : LimitType) : String :=
  l.keyPrefix ++ ":" ++ t.name ++ ":" ++ toString user.toInt ++ ":" ++ toString router.toInt

/-- Whether a hit of `cost` on a quota is allowed. -/
def hit (l : Limiter) (ops : CounterOps σ) (now : Instant) (user router : Int64) (t : LimitType)
    (value : Option Int64) (cost : Int64) (s : σ) : Bool × σ :=
  match value with
  | none => (true, s)
  | some v =>
    let item := Item.ofLimit t v
    match l.window.hit ops now item (l.key user router t) cost s with
    | (.error _, s) => (true, s)
    | (.ok false, s) => (false, s)
    | (.ok true, s) =>
      let skey := item.storageKey (l.key user router t)
      match ops.ttl now skey s with
      | (.error _, s) => (true, s)
      | (.ok ttl, s) =>
        if ttl = ttlNoExpiry then (true, (ops.clear now skey s).2) else (true, s)

/-- What remains of a quota; none for an unlimited quota or when the store failed. -/
def remaining (l : Limiter) (ops : CounterOps σ) (now : Instant) (user router : Int64)
    (t : LimitType) (value : Option Int64) (s : σ) : Option Int64 × σ :=
  match value with
  | none => (none, s)
  | some v =>
    match l.window.remaining ops now (Item.ofLimit t v) (l.key user router t) s with
    | (.ok r, s) => (some r, s)
    | (.error _, s) => (none, s)

/-- Removes every counter; a failure is reported as `reset rate limits: <cause>`. -/
def reset (l : Limiter) (ops : CounterOps σ) (now : Instant) (s : σ) : Except Fault Unit × σ :=
  let _ := l
  match ops.reset now s with
  | ((_, some f), s) => (.error (.context "reset rate limits" f), s)
  | ((_, none), s) => (.ok (), s)

end Limiter

end Admission.Quota
