import Admission.Routing.Selector
import Admission.Notify.Notification

/-!
# The admission service

Admitting a request of a user to a router runs, in order:

1. the access check of the user's quotas; an exhausted quota is reported to the notifier
   (`quota_exceeded`, with the dimension and cap) before the refusal is returned;
2. the selection of a provider, tried once more without quality of service when that is
   enabled and no provider passed; a router left without candidates is reported
   (`no_candidates`, for user 0);
3. one more request in flight on the chosen provider, when there is a tracker; a failure here
   is ignored;
4. the hand-off of the job to the dispatcher, when there is one, stamped with the clock; if it
   fails, the request taken in flight is cancelled and the failure returned as
   `enqueue job: <cause>`.

An admission draws a fresh request id first (`Service.admitRequest`); the job handed off and the
decision returned both carry it.

The notifier never fails an admission. Completing a request releases it on the tracker,
feeding its latency into the provider's indicator; a failure there is
`release provider <id>: <cause>`.

Every admission is counted under an outcome (`Outcome.of`): admitted, or the first of an
exhausted quota, a missing permission, a missing model or router, and no candidate that the
refusal carries, else a general error.
-/

namespace Admission

open Routing Notify

/-- An admitted request handed to the dispatch layer. -/
structure Job where
  /-- The request id. -/
  id : String
  /-- The user. -/
  user : Int64
  /-- The user's priority. -/
  priority : Int64
  /-- The router. -/
  router : Int64
  /-- The id of the provider that serves it. -/
  provider : String
  /-- The model it is served by. -/
  model : String
  /-- The prompt's tokens, when given. -/
  promptTokens : Option Int64
  /-- When the job was made. -/
  createdAt : Instant
  deriving Repr

/-- What an admitted request is told: its id, the router, the provider chosen and its model, the
strategy that chose it and, for a strategy that ranks by load, the load it ranked by. -/
structure Decision where
  /-- The request id. -/
  requestId : String
  /-- The router. -/
  router : Int64
  /-- The model of the chosen provider. -/
  model : String
  /-- The id of the chosen provider. -/
  provider : String
  /-- The name of the strategy. -/
  strategy : String
  /-- The load score, for a strategy that ranks by load. -/
  loadScore : Option Binary64
  deriving Repr

/-- What a tracker does for the service, with state `σ`. -/
structure Tracking (σ : Type) where
  /-- One more request in flight on a provider. -/
  acquire : String → σ → Except Fault Unit × σ
  /-- A request completed after a latency, or failed. -/
  release : String → Span → Bool → σ → Except Fault Unit × σ
  /-- A request that never reached the provider. -/
  cancel : String → σ → Except Fault Unit × σ

/-- The parts of the admission service, with state `σ`. -/
structure Service (σ : Type) where
  /-- The access check of a user's quotas on a router, with the prompt's tokens. -/
  check : Identity → Int64 → Option Int64 → σ → Except Fault Unit × σ
  /-- The selection of a provider of a router, quality of service skipped when asked. -/
  select : Int64 → Bool → σ → Except Fault Selection × σ
  /-- The tracker, if any. -/
  tracking : Option (Tracking σ)
  /-- The dispatcher, if any. -/
  enqueue : Option (Job → σ → Except Fault Unit × σ)
  /-- The notifier, if any. -/
  notify : Option (Notification → σ → Except Fault Unit × σ)
  /-- Whether a selection with no candidate is tried again without quality of service. -/
  qosFallback : Bool
  /-- A fresh request id. -/
  fresh : σ → String × σ
  /-- The clock. -/
  clock : σ → Instant × σ

namespace Service

/-- Sends a notification; a failure is ignored. -/
def send (svc : Service σ) (n : Notification) (s : σ) : σ :=
  match svc.notify with
  | some deliver => (deliver n s).2
  | none => s

/-- The notification of an exhausted quota. -/
def quotaNotice (user router : Int64) (q : QuotaExceeded) : Notification :=
  ⟨.quotaExceeded, user, router, q.message, some (q.type, q.limit)⟩

/-- The notification of a router without candidates. -/
def noCandidatesNotice (router : Int64) : Notification :=
  ⟨.noCandidates, 0, router,
    "router " ++ toString router.toInt ++ " has no available provider", none⟩

/-- The selection, tried again without quality of service when that is enabled and no
provider passed. -/
def selectWithFallback (svc : Service σ) (router : Int64) (s : σ) :
    Except Fault Selection × σ :=
  match svc.select router false s with
  | (.error f, s) =>
    if f.has .noCandidates && svc.qosFallback then svc.select router true s else (.error f, s)
  | r => r

/-- One more request in flight on the chosen provider: whether it was recorded. -/
def take (svc : Service σ) (provider : String) (s : σ) : Bool × σ :=
  match svc.tracking with
  | some t =>
    match t.acquire provider s with
    | (.ok (), s) => (true, s)
    | (.error _, s) => (false, s)
  | none => (false, s)

/-- Gives back the request taken in flight, if one was; a failure is ignored. -/
def giveBack (svc : Service σ) (provider : String) (taken : Bool) (s : σ) : σ :=
  match svc.tracking, taken with
  | some t, true => (t.cancel provider s).2
  | _, _ => s

/-- The job of a request admitted under id `rid` at `createdAt`. -/
def jobOf (rid : String) (identity : Identity) (router : Int64) (tokens : Option Int64)
    (sel : Selection) (createdAt : Instant) : Job :=
  ⟨rid, identity.id, identity.priority, router, sel.provider.id, sel.provider.model, tokens,
    createdAt⟩

/-- The decision of a request admitted under id `rid`. -/
def decisionOf (rid : String) (router : Int64) (sel : Selection) : Decision :=
  ⟨rid, router, sel.provider.model, sel.provider.id, sel.strategy.name, sel.score⟩

/-- Submits a request of `identity` to `router` with a prompt of `tokens` tokens under the
request id `rid`: the decision, or why it was refused. -/
def submit (svc : Service σ) (rid : String) (identity : Identity) (router : Int64)
    (tokens : Option Int64) (s : σ) : Except Fault Decision × σ :=
  match svc.check identity router tokens s with
  | (.error f, s) =>
    let s := match f.quota? with
      | some q => svc.send (quotaNotice identity.id router q) s
      | none => s
    (.error f, s)
  | (.ok (), s) =>
    match svc.selectWithFallback router s with
    | (.error f, s) =>
      let s := if f.has .noCandidates then svc.send (noCandidatesNotice router) s else s
      (.error f, s)
    | (.ok sel, s) =>
      let (taken, s) := svc.take sel.provider.id s
      match svc.enqueue with
      | none => (.ok (decisionOf rid router sel), s)
      | some enqueue =>
        let (t, s) := svc.clock s
        match enqueue (jobOf rid identity router tokens sel t) s with
        | (.ok (), s) => (.ok (decisionOf rid router sel), s)
        | (.error f, s) =>
          (.error (.context "enqueue job" f), svc.giveBack sel.provider.id taken s)

/-- Admits a request: draws a fresh request id, then submits the request under it. -/
def admitRequest (svc : Service σ) (identity : Identity) (router : Int64) (tokens : Option Int64)
    (s : σ) : Except Fault Decision × σ :=
  let (rid, s) := svc.fresh s
  svc.submit rid identity router tokens s

/-- Reports the end of a request on a provider. -/
def complete (svc : Service σ) (provider : String) (latency : Span) (failed : Bool) (s : σ) :
    Except Fault Unit × σ :=
  match svc.tracking with
  | none => (.ok (), s)
  | some t =>
    match t.release provider latency failed s with
    | (.ok (), s) => (.ok (), s)
    | (.error f, s) => (.error (.context ("release provider " ++ provider) f), s)

end Service

/-- What an admission is counted as. -/
inductive Outcome where
  /-- Counted as `admitted`. -/
  | admitted
  /-- A refusal for a rate limit: `rate_limited`. -/
  | rateLimited
  /-- A refusal for a missing permission: `forbidden`. -/
  | forbidden
  /-- A refusal for a missing model or router: `not_found`. -/
  | notFound
  /-- A refusal for want of a provider: `no_candidates`. -/
  | noCandidates
  /-- Any other refusal: `error`. -/
  | error
  deriving DecidableEq, Repr

/-- The outcome of an admission that failed with `err`, or succeeded when there is none. The
conditions are looked for in this order: the rate limit, a missing permission, a missing model
or router, no candidate. -/
def Outcome.of : Option Fault → Outcome
  | none => .admitted
  | some f =>
    if f.has .rateLimitExceeded then .rateLimited
    else if f.has .insufficientPermission then .forbidden
    else if f.has .modelNotFound || f.has .routerNotFound then .notFound
    else if f.has .noCandidates then .noCandidates
    else .error

end Admission
