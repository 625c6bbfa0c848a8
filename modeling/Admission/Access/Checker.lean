import Admission.Access.Quotas
import Admission.Quota.Limiter
import Admission.Role

/-!
# The access check

Whether a user may send a request to a router now, spending its quotas if so.

1. The master user passes unchecked.
2. The user's limits are its own when it carries some, else its role's from the resolver (a
   missing role means no limits; any other resolver failure is reported as
   `resolve limits for role <id>: <cause>`), else none when there is no resolver.
3. Without a limit on the router the answer is `modelNotFound`; with a quota of zero it is
   `insufficientPermission`.
4. One request is spent from `rpm` then `rpd`, and the prompt's tokens, when positive, from
   `tpm` then `tpd`. The first refusal ends the check with an exhausted-quota fault carrying
   the cap (0 for an unlimited quota) and what the store says is left.

A store failure never refuses a request: the limiter fails open.
-/

namespace Admission.Access

open Quota

/-- Where the checker finds a role's limits, with state `σ`. -/
abbrev Resolver (σ : Type) := Int64 → σ → Except Fault (List Limit) × σ

/-- The fixed parts of an access check. -/
structure Checker where
  /-- The limiter that counts the quotas. -/
  limiter : Limiter
  /-- The user that passes unchecked. -/
  master : Int64
  deriving DecidableEq, Repr

namespace Checker

/-- The limits that apply to a user. -/
def limitsOf (resolver : Option (Resolver σ)) (identity : Identity) (s : σ) :
    Except Fault (List Limit) × σ :=
  match identity.limits, resolver with
  | some ls, _ => (.ok ls, s)
  | none, none => (.ok [], s)
  | none, some r =>
    match r identity.role s with
    | (.ok ls, s) => (.ok ls, s)
    | (.error f, s) =>
      if f.has .roleNotFound then (.ok [], s)
      else (.error (.context ("resolve limits for role " ++ toString identity.role.toInt) f), s)

/-- Spends `cost` from one quota; an exhausted-quota fault when refused. -/
def consume (c : Checker) (ops : CounterOps σ) (now : Instant) (user router : Int64)
    (t : LimitType) (value : Option Int64) (cost : Int64) (s : σ) : Except Fault Unit × σ :=
  match c.limiter.hit ops now user router t value cost s with
  | (true, s) => (.ok (), s)
  | (false, s) =>
    let (left, s) := c.limiter.remaining ops now user router t value s
    (.error (.quota ⟨t, value.getD 0, left⟩), s)

/-- The quotas a request spends, with their costs. -/
def charges (promptTokens : Option Int64) : List (LimitType × Int64) :=
  let requests := [(LimitType.rpm, 1), (LimitType.rpd, 1)]
  match promptTokens with
  | some n => if 0 < n then requests ++ [(LimitType.tpm, n), (LimitType.tpd, n)] else requests
  | none => requests

/-- Spends the charges in order, stopping at the first refusal. -/
def consumeAll (c : Checker) (ops : CounterOps σ) (now : Instant) (user router : Int64)
    (q : Quotas) : List (LimitType × Int64) → σ → Except Fault Unit × σ
  | [], s => (.ok (), s)
  | (t, cost) :: rest, s =>
    match c.consume ops now user router t (q.value t) cost s with
    | (.ok (), s) => consumeAll c ops now user router q rest s
    | (.error f, s) => (.error f, s)

/-- Checks a request of `identity` to `router` and spends its quotas. -/
def check (c : Checker) (ops : CounterOps σ) (resolver : Option (Resolver σ)) (now : Instant)
    (identity : Identity) (router : Int64) (promptTokens : Option Int64) (s : σ) :
    Except Fault Unit × σ :=
  if identity.id = c.master then (.ok (), s)
  else
    match limitsOf resolver identity s with
    | (.error f, s) => (.error f, s)
    | (.ok limits, s) =>
      let (q, found) := aggregate limits router
      if !found then (.error (.sentinel .modelNotFound), s)
      else if q.denied then (.error (.sentinel .insufficientPermission), s)
      else consumeAll c ops now identity.id router q (charges promptTokens) s

end Checker

end Admission.Access
