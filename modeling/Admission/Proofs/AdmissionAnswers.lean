import Mathlib
import Admission.Gateway.World
import Admission.Proofs.AdminGate
import Admission.Proofs.FailOpen

/-!
# Answers to admission requests

`POST /v1/admissions` asks the admission service at most once, and only when its three inputs
hold: `X-User-ID` is a 64-bit id, the user lookup finds it or it is the master user's id with no
record (`Http.Api.Resolves`), and the body's first JSON value names a router. The service then
admits the request once, drawing its request id, and the response is 200 exactly when the
service returned a decision: the decision is the JSON body and its request id is in
`X-Request-ID`. A refusal is answered by its fault (`Http.Api.refusal`). Otherwise the response
does not depend on the service, and is no 200.

Two classifiers read a refusal. The HTTP answer looks for an exhausted quota first
(`Fault.quota?`), the count of admissions for the rate-limit condition (`Outcome.of`). They agree
on every fault whose rate-limit condition is an exhausted quota (`Fault.Quoted`), and a
gateway's service refuses only with such faults: its check, selection and hand-off never build
the bare condition (`Gateway.Setup.service_quotedFailures`).

Main statement: `Gateway.admission_answers`.
-/

namespace Admission

namespace Fault

/-- A fault whose rate-limit condition, if it carries one, is an exhausted quota: the chain
does not end in the bare condition. -/
@[simp]
def Quoted : Fault → Prop
  | .sentinel s => s ≠ .rateLimitExceeded
  | .context _ cause => cause.Quoted
  | _ => True

/-- A chain carries at most one named condition. -/
theorem has_unique {f : Fault} {s t : Sentinel} (hs : f.has s = true) (ht : f.has t = true) :
    s = t := by
  induction f with
  | sentinel u => simp_all [has]
  | quota q => simp_all [has]
  | context what cause ih => exact ih hs ht
  | text m => simp [has] at hs
  | backend => simp [has] at hs

/-- An exhausted quota carries the rate-limit condition. -/
theorem has_rateLimitExceeded_of_quota? {f : Fault} {q : QuotaExceeded} (h : f.quota? = some q) :
    f.has .rateLimitExceeded = true := by
  induction f with
  | quota q' => rfl
  | context what cause ih => exact ih h
  | _ => simp [quota?] at h

/-- A quoted fault without an exhausted quota does not carry the rate-limit condition. -/
theorem has_rateLimitExceeded_of_quoted {f : Fault} (hq : f.Quoted) (h : f.quota? = none) :
    f.has .rateLimitExceeded = false := by
  induction f with
  | sentinel s => simpa [has] using hq
  | quota q => simp [quota?] at h
  | context what cause ih => exact ih hq h
  | text m => rfl
  | backend => rfl

end Fault

/-- Every failure of an answer is quoted. -/
def FailsQuoted {α : Type} (r : Except Fault α) : Prop := ∀ f, r = .error f → f.Quoted

section FailsQuoted

variable {α β : Type}

@[simp]
theorem failsQuoted_ok (a : α) : FailsQuoted (.ok a : Except Fault α) := by
  simp [FailsQuoted]

@[simp]
theorem failsQuoted_error (f : Fault) : FailsQuoted (.error f : Except Fault α) ↔ f.Quoted := by
  simp [FailsQuoted]

theorem FailsQuoted.map {r : Except Fault α} (h : FailsQuoted r) (g : α → β) :
    FailsQuoted (r.map g) := by
  cases r with
  | error f => exact (failsQuoted_error f).mpr (h f rfl)
  | ok a => simp [Except.map]

theorem FailsQuoted.bind {r : Except Fault α} {g : α → Except Fault β} (h : FailsQuoted r)
    (hg : ∀ a, r = .ok a → FailsQuoted (g a)) : FailsQuoted (r >>= g) := by
  cases r with
  | error f => exact (failsQuoted_error f).mpr (h f rfl)
  | ok a => exact hg a rfl

end FailsQuoted

/-- An unknown strategy is refused with a message. -/
theorem Strategy.parse_failsQuoted (s : String) : FailsQuoted (Strategy.parse s) := by
  unfold Strategy.parse
  split_ifs <;> simp

/-- A cycle fails only for want of an item, or at an offset outside its items. -/
theorem Cycle.next_failsQuoted {α : Type} (c : Cycle α) : FailsQuoted c.next := by
  unfold Cycle.next
  split
  · simp
  · split <;> simp

/-- A strategy fails to pick only as its cycle does, or for want of a candidate. -/
theorem Strategy.pick_failsQuoted {σ : Type} (s : Strategy) (offset : Int64) (draw : Draw σ)
    (candidates : List Provider) (st : σ) : FailsQuoted (s.pick offset draw candidates st).1 := by
  unfold Strategy.pick
  split
  · simp
  · exact (Cycle.next_failsQuoted _).map _
  all_goals simp

namespace Directory

/-- The catalog refuses only a missing entry. -/
theorem Catalog.role_failsQuoted (c : Catalog) (id : Int64) : FailsQuoted (c.role id) := by
  unfold Catalog.role
  split <;> simp

theorem Catalog.router_failsQuoted (c : Catalog) (id : Int64) : FailsQuoted (c.router id) := by
  unfold Catalog.router
  split <;> simp

/-- A closed database, or one without a schema, fails in the statement's context. -/
theorem Database.use_failsQuoted (db : Database) (what : String) : FailsQuoted (db.use what) := by
  unfold Database.use
  split_ifs
  · simp [closedFault]
  · split <;> simp

theorem Database.limits_failsQuoted (db : Database) (role : Int64) :
    FailsQuoted (db.limits role) := by
  unfold Database.limits
  exact (db.use_failsQuoted _).bind fun t _ => by split_ifs <;> simp

theorem Database.permissions_failsQuoted (db : Database) (role : Int64) :
    FailsQuoted (db.permissions role) := by
  unfold Database.permissions
  exact (db.use_failsQuoted _).bind fun t _ => by split <;> simp

theorem Database.router_failsQuoted (db : Database) (id : Int64) :
    FailsQuoted (db.router id) := by
  unfold Database.router
  refine (db.use_failsQuoted _).bind fun t _ => ?_
  split
  · simp
  · split
    · rename_i f hf
      simpa using Strategy.parse_failsQuoted _ f hf
    · simp

/-- Every backend refuses a role, its limits or permissions, or a router only with quoted
faults. -/
theorem Backend.limits_failsQuoted (d : Backend) (role : Int64) : FailsQuoted (d.limits role) := by
  cases d with
  | catalog c => exact (c.role_failsQuoted role).map _
  | tables db => exact db.limits_failsQuoted role

theorem Backend.permissions_failsQuoted (d : Backend) (role : Int64) :
    FailsQuoted (d.permissions role) := by
  cases d with
  | catalog c => exact (c.role_failsQuoted role).map _
  | tables db => exact db.permissions_failsQuoted role

theorem Backend.router_failsQuoted (d : Backend) (id : Int64) : FailsQuoted (d.router id) := by
  cases d with
  | catalog c => exact c.router_failsQuoted id
  | tables db => exact db.router_failsQuoted id

end Directory

namespace Access.Checker

variable {σ : Type}

/-- The limits a check finds fail only as a resolver does, in context. -/
theorem limitsOf_failsQuoted {resolver : Option (Resolver σ)}
    (hr : ∀ r ∈ resolver, ∀ role s, FailsQuoted (r role s).1) (identity : Identity) (s : σ) :
    FailsQuoted (limitsOf resolver identity s).1 := by
  unfold limitsOf
  split
  · simp
  · simp
  · rename_i r _
    rcases hrun : r identity.role s with ⟨_ | _, s₁⟩
    · rename_i f
      have hf : f.Quoted := hr r rfl identity.role s f (by rw [hrun])
      dsimp only
      split_ifs <;> simp [hf]
    · simp

/-- A check refuses with a quoted fault when its resolver fails only with quoted faults: a
missing model, a missing permission or an exhausted quota otherwise. -/
theorem check_failsQuoted (c : Checker) (ops : Quota.CounterOps σ)
    {resolver : Option (Resolver σ)} (hr : ∀ r ∈ resolver, ∀ role s, FailsQuoted (r role s).1)
    (now : Instant)
    (identity : Identity) (router : Int64) (tokens : Option Int64) (s : σ) :
    FailsQuoted (c.check ops resolver now identity router tokens s).1 := by
  unfold check
  split_ifs
  · simp
  · rcases hlimits : limitsOf resolver identity s with ⟨_ | limits, s₁⟩
    · rename_i f
      have hf := limitsOf_failsQuoted hr identity s f (by rw [hlimits])
      simpa using hf
    · dsimp only
      split_ifs
      · simp
      · simp
      · intro f hf
        obtain ⟨pre, t, cost, post, -, -, hfail⟩ := consumeAll_error hf
        obtain ⟨v, -, -, left, rfl⟩ := consume_error hfail
        simp

end Access.Checker

namespace Routing

variable {σ : Type}

/-- A selection refuses with a quoted fault when its router lookup fails only with quoted
faults: no candidate or an unreadable strategy otherwise. -/
theorem select_failsQuoted (src : Sources σ) (hr : ∀ id s, FailsQuoted (src.router id s).1)
    (id : Int64) (skipQos : Bool) (s : σ) : FailsQuoted (select src id skipQos s).1 := by
  unfold select
  rcases hrouter : src.router id s with ⟨_ | r, s₁⟩
  · rename_i f
    have hf := hr id s f (by rw [hrouter])
    simpa using hf
  · dsimp only
    rcases withSignals src r.providers s₁ with ⟨seen, s₂⟩
    dsimp only
    generalize (if skipQos then (seen, s₂) else ((Qos.filter seen).1,
      labelAll src.label ((Qos.filter seen).2.map (·.provider)) s₂)) = after
    rcases after with ⟨candidates, s₃⟩
    dsimp only
    split_ifs
    · simp
    · rcases offsetFor src r id s₃ with ⟨offset, s₄⟩
      dsimp only
      split
      · rename_i f hf
        simpa using Strategy.parse_failsQuoted _ f hf
      · rename_i strategy _
        rcases hpick : strategy.pick offset src.draw candidates s₄ with ⟨_ | ⟨p, score⟩, s₅⟩
        · rename_i f
          have hf := Strategy.pick_failsQuoted strategy offset src.draw candidates s₄ f
            (by rw [hpick])
          simpa using hf
        · simp

end Routing

namespace Service

variable {σ : Type}

/-- A service whose check, selection and hand-off refuse only with quoted faults. -/
structure QuotedFailures (svc : Service σ) : Prop where
  /-- Every refusal of the access check is quoted. -/
  check : ∀ identity router tokens s, FailsQuoted (svc.check identity router tokens s).1
  /-- Every refusal of the selection is quoted. -/
  select : ∀ router skip s, FailsQuoted (svc.select router skip s).1
  /-- Every failure of the dispatcher is quoted. -/
  enqueue : ∀ e ∈ svc.enqueue, ∀ job s, FailsQuoted (e job s).1

/-- The selection tried again without quality of service refuses as the selector does. -/
theorem QuotedFailures.selectWithFallback {svc : Service σ} (h : svc.QuotedFailures)
    (router : Int64) (s : σ) : FailsQuoted (svc.selectWithFallback router s).1 := by
  unfold Service.selectWithFallback
  rcases hsel : svc.select router false s with ⟨_ | sel, s₁⟩
  · rename_i f
    have hf := h.select router false s f (by rw [hsel])
    dsimp only
    split_ifs
    · exact h.select router true s₁
    · simpa using hf
  · simp

/-- A submission refuses only with quoted faults when the service's parts do: the check's and
the selection's faults as they came, and the dispatcher's under `enqueue job`. -/
theorem QuotedFailures.submit {svc : Service σ} (h : svc.QuotedFailures) (rid : String)
    (identity : Identity) (router : Int64) (tokens : Option Int64) (s : σ) :
    FailsQuoted (svc.submit rid identity router tokens s).1 := by
  unfold Service.submit
  rcases hcheck : svc.check identity router tokens s with ⟨_ | u, s₁⟩
  · rename_i f
    have hf := h.check identity router tokens s f (by rw [hcheck])
    simpa using hf
  · dsimp only
    rcases hsel : svc.selectWithFallback router s₁ with ⟨_ | sel, s₂⟩
    · rename_i f
      have hf := h.selectWithFallback router s₁ f (by rw [hsel])
      simpa using hf
    · dsimp only
      rcases htake : svc.take sel.provider.id s₂ with ⟨taken, s₃⟩
      rcases henq : svc.enqueue with _ | e
      · simp
      · rcases hclock : svc.clock s₃ with ⟨t, s₄⟩
        simp only [hclock]
        rcases hrun : e (jobOf rid identity router tokens sel t) s₄ with ⟨_ | _, s₅⟩
        · rename_i f
          have hf := h.enqueue e henq _ _ f (by rw [hrun])
          simpa using hf
        · simp

/-- An admission refuses only with quoted faults when the service's parts do. -/
theorem QuotedFailures.admitRequest {svc : Service σ} (h : svc.QuotedFailures)
    (identity : Identity) (router : Int64) (tokens : Option Int64) (s : σ) :
    FailsQuoted (svc.admitRequest identity router tokens s).1 :=
  h.submit _ identity router tokens _

end Service

namespace Gateway

open Directory

/-- A role's entry from the directory fails as the directory does. -/
theorem freshEntry_failsQuoted (d : Backend) (role : Int64) : FailsQuoted (freshEntry d role) := by
  unfold freshEntry
  exact (d.limits_failsQuoted role).bind fun _ _ =>
    (d.permissions_failsQuoted role).bind fun _ _ => by simp [pure, Except.pure]

/-- A role's entry fails only as the directory does. -/
theorem Setup.roleEntry_failsQuoted (g : Setup) (role : Int64) (w : World) :
    FailsQuoted (g.roleEntry role w).1 := by
  unfold Setup.roleEntry
  dsimp only
  rcases g.cachedEntry (roleKey role) w with ⟨_ | e, w₁⟩
  · dsimp only
    rcases hfresh : freshEntry w₁.directory role with _ | e
    · rename_i f
      simpa using freshEntry_failsQuoted w₁.directory role f hfresh
    · simp
  · simp

/-- A role's limits, through the cache or not, fail as the directory does. -/
theorem Setup.limitsOf_failsQuoted (g : Setup) (role : Int64) (w : World) :
    FailsQuoted (g.limitsOf role w).1 := by
  unfold Setup.limitsOf
  split
  · exact w.directory.limits_failsQuoted role
  · exact (g.roleEntry_failsQuoted role w).map _

/-- A gateway's service refuses only with quoted faults: the checker's limits come from the
directory, the selector's router too, and a dispatcher fails with its message or in the
queue's context. -/
theorem Setup.service_quotedFailures (g : Setup) : g.service.QuotedFailures where
  check identity router tokens w :=
    Access.Checker.check_failsQuoted _ _
      (fun r hr role w => by cases hr; exact g.limitsOf_failsQuoted role w) _ _ _ _ _
  select router skip w :=
    Routing.select_failsQuoted _ (fun id w => w.directory.router_failsQuoted id) _ _ _
  enqueue e he job w := by
    simp only [Setup.service, Setup.enqueue, Option.mem_def, Option.map_eq_some_iff] at he
    obtain ⟨choice, -, rfl⟩ := he
    cases choice <;> simp [Setup.broken]

end Gateway

/-- The status an admission's outcome is answered with. -/
def Outcome.httpStatus : Outcome → Nat
  | .admitted => 200
  | .rateLimited => 429
  | .forbidden => 403
  | .notFound => 404
  | .noCandidates => 503
  | .error => 500

namespace Http

/-- Whether a response carries a header of the name. -/
def Response.carries (r : Response) (name : String) : Bool :=
  r.headers.any fun h => sameName h.1 name

theorem sameName_self (n : String) : sameName n n = true := by
  simp [sameName]

/-- A name that is not `m` is not the same name as any name that is. -/
theorem sameName_of_sameName {a n m : String} (ha : sameName a m = true)
    (hnm : sameName n m = false) : sameName a n = false := by
  simp only [sameName, beq_iff_eq, beq_eq_false_iff_ne] at ha hnm ⊢
  rw [ha]
  exact fun h => hnm h.symm

@[simp]
theorem Response.status_withHeader (r : Response) (n v : String) :
    (r.withHeader n v).status = r.status := rfl

@[simp]
theorem Response.status_failure (code : Nat) (message : String) :
    (Response.failure code message).status = code := rfl

/-- Among the headers named `m`, an update of another name drops none. -/
theorem kept_of_sameName_eq_false {n m : String} (hnm : sameName n m = false) :
    (fun h : String × String => !sameName h.1 n && sameName h.1 m) = fun h => sameName h.1 m := by
  funext h
  cases hm : sameName h.1 m
  · simp
  · simp [sameName_of_sameName hm hnm]

/-- A header just set reads back. -/
theorem Response.header_withHeader_self (r : Response) (n v : String) :
    (r.withHeader n v).header n = v := by
  have hdropped : (r.headers.filter fun h => !sameName h.1 n).find? (fun h => sameName h.1 n) =
      none := by
    rw [List.find?_eq_none]
    intro h hh
    simp only [List.mem_filter, Bool.not_eq_eq_eq_not, Bool.not_true] at hh
    simp [hh.2]
  simp [Response.header, Response.withHeader, List.find?_append, hdropped, sameName_self]

/-- Setting a header leaves those of other names. -/
theorem Response.header_withHeader_of_ne (r : Response) {n m : String} (v : String)
    (hnm : sameName n m = false) : (r.withHeader n v).header m = r.header m := by
  simp [Response.header, Response.withHeader, List.find?_append, List.find?_filter, hnm]
  rw [kept_of_sameName_eq_false hnm]

/-- A response carries a header just set, and those of other names as before. -/
theorem Response.carries_withHeader_self (r : Response) (n v : String) :
    (r.withHeader n v).carries n = true := by
  simp [Response.carries, Response.withHeader, sameName_self]

theorem Response.carries_withHeader_of_ne (r : Response) {n m : String} (v : String)
    (hnm : sameName n m = false) : (r.withHeader n v).carries m = r.carries m := by
  simp only [Response.carries, Response.withHeader, List.any_append, List.any_filter,
    List.any_cons, List.any_nil, hnm, Bool.or_false, kept_of_sameName_eq_false hnm]

/-- A response that reports an exhausted quota: its cap in `X-RateLimit-Limit`, and what is
left in `X-RateLimit-Remaining`, which it carries exactly when that is known. -/
structure ReportsQuota (resp : Response) (q : QuotaExceeded) : Prop where
  /-- The cap. -/
  limit : resp.header "X-RateLimit-Limit" = toString q.limit.toInt
  /-- The remainder's header is there exactly when the remainder is known. -/
  carries_remaining : resp.carries "X-RateLimit-Remaining" = q.remaining.isSome
  /-- The remainder, when known. -/
  remaining : ∀ n, q.remaining = some n → resp.header "X-RateLimit-Remaining" = toString n.toInt

/-- The response to a refusal agrees with the outcome its fault is counted under: the outcome's
status, and for a rate limit the exhausted quota in the headers. -/
structure Refuses (resp : Response) (f : Fault) : Prop where
  /-- The outcome's status. -/
  status : resp.status = (Outcome.of (some f)).httpStatus
  /-- A rate limit is an exhausted quota, reported. -/
  quota : Outcome.of (some f) = .rateLimited → ∃ q, f.quota? = some q ∧ ReportsQuota resp q

namespace Api

/-- A refusal is never answered 200. -/
theorem refusal_status_ne (f : Fault) : (refusal f).status ≠ 200 := by
  unfold refusal
  split
  · split <;> simp
  · split_ifs <;> simp

/-- The refusal of an exhausted quota reports it. -/
theorem refusal_reportsQuota {f : Fault} {q : QuotaExceeded} (h : f.quota? = some q) :
    ReportsQuota (refusal f) q := by
  have hlimit : sameName "X-RateLimit-Limit" "X-RateLimit-Remaining" = false := by decide
  have hremaining : sameName "X-RateLimit-Remaining" "X-RateLimit-Limit" = false := by decide
  have hplain : (Response.failure 429 q.message).carries "X-RateLimit-Remaining" = false := by
    simp only [Response.carries, Response.failure, Response.json, List.any_cons, List.any_nil,
      Bool.or_false]
    decide
  unfold refusal
  rw [h]
  dsimp only
  cases hrem : q.remaining with
  | none =>
    dsimp only
    refine ⟨Response.header_withHeader_self _ _ _, ?_, fun n hn => by simp [hrem] at hn⟩
    rw [Response.carries_withHeader_of_ne _ _ hlimit, hplain, hrem]
    rfl
  | some n =>
    dsimp only
    refine ⟨?_, ?_, fun n' hn' => ?_⟩
    · rw [Response.header_withHeader_of_ne _ _ hremaining, Response.header_withHeader_self]
    · rw [Response.carries_withHeader_self, hrem]
      rfl
    · rw [hrem] at hn'
      cases hn'
      exact Response.header_withHeader_self _ _ _

/-- The HTTP answer and the count of admissions agree on every quoted fault. The answer looks
for an exhausted quota first, the count for the rate-limit condition; a quoted fault carries
the one exactly when it carries the other, and a chain carries at most one named condition,
so the two orders of the other checks cannot disagree. -/
theorem refusal_refuses {f : Fault} (hq : f.Quoted) : Refuses (refusal f) f := by
  cases hquota : f.quota? with
  | some q =>
    have hrate := Fault.has_rateLimitExceeded_of_quota? hquota
    have hout : Outcome.of (some f) = .rateLimited := by simp [Outcome.of, hrate]
    refine ⟨?_, fun _ => ⟨q, hquota, refusal_reportsQuota hquota⟩⟩
    rw [hout]
    unfold refusal
    rw [hquota]
    dsimp only
    split <;> rfl
  | none =>
    have hrate := Fault.has_rateLimitExceeded_of_quoted hq hquota
    refine ⟨?_, fun hout => by simp [Outcome.of, hrate] at hout; split_ifs at hout⟩
    unfold refusal Outcome.of
    simp only [hquota, hrate]
    cases hperm : f.has .insufficientPermission with
    | true =>
      have hmodel : f.has .modelNotFound = false :=
        Bool.eq_false_iff.mpr fun h => nomatch Fault.has_unique hperm h
      have hrouter : f.has .routerNotFound = false :=
        Bool.eq_false_iff.mpr fun h => nomatch Fault.has_unique hperm h
      simp [hmodel, hrouter, Outcome.httpStatus]
    | false =>
      simp only [Bool.false_eq_true, if_false]
      split_ifs <;> rfl

/-- A bare rate-limit condition, which no gateway part builds, is where the classifiers part:
it is counted as a rate limit but answered as an internal error. -/
example : (refusal (.sentinel .rateLimitExceeded)).status = 500 ∧
    Outcome.of (some (.sentinel .rateLimitExceeded)) = .rateLimited := by
  decide

variable {σ : Type}

/-- The caller of a request, resolved: `X-User-ID` holds a 64-bit id, and the user lookup from
`s` finds `who` under it, or finds no user while the id is the master user's, who is then known
by the id alone. `s₁` is the state the lookup leaves. -/
def Resolves (api : Api σ) (req : Request) (s : σ) (who : Identity) (s₁ : σ) : Prop :=
  ∃ id, Decimal.readInt64 (req.header "X-User-ID") = some id ∧
    (api.user id s = (.ok who, s₁) ∨
      ∃ f, api.user id s = (.error f, s₁) ∧ f.has .userNotFound = true ∧ id = api.master ∧
        who = Identity.ofId id)

/-- The caller is identified exactly when it resolves. -/
theorem identify_eq_ok_iff (api : Api σ) (req : Request) (s : σ) (who : Identity) (s₁ : σ) :
    api.identify req s = (.ok who, s₁) ↔ api.Resolves req s who s₁ := by
  rw [identify_eq]
  unfold Resolves
  cases hread : Decimal.readInt64 (req.header "X-User-ID") with
  | none =>
    dsimp only
    split_ifs <;> simp
  | some id =>
    simp only [Option.some.injEq, exists_eq_left']
    rcases hu : api.user id s with ⟨_ | u, s'⟩
    · rename_i f
      dsimp only
      by_cases hnf : f.has .userNotFound = true
      · by_cases hm : id = api.master
        · simp [hnf, hm]
          exact and_comm.trans (and_congr_right' eq_comm)
        · simp [hnf, hm]
      · simp [hnf]
    · simp

/-- A caller that is refused is not answered 200. -/
theorem identify_error_status {api : Api σ} {req : Request} {s s₁ : σ} {r : Response}
    (h : api.identify req s = (.error r, s₁)) : r.status ≠ 200 := by
  rw [identify_eq] at h
  split at h
  · split_ifs at h <;> (cases h; simp)
  · split at h
    · cases h
    · split_ifs at h
      · cases h
      · cases h
        simp
      · cases h
        simp

/-- What the response to an admission request says of the admission's answer `r`: 200 exactly
when the request was admitted, and then the decision as a JSON body with its request id in
`X-Request-ID`; a refused request is answered by its fault. -/
structure Answers (resp : Response) (r : Except Fault Decision) : Prop where
  /-- 200 exactly for an admitted request. -/
  ok_iff : resp.status = 200 ↔ ∃ d, r = .ok d
  /-- An admitted request is answered with its decision. -/
  decision : ∀ d, r = .ok d → resp.body = .json d.toJson ∧
    resp.header "Content-Type" = "application/json" ∧ resp.header "X-Request-ID" = d.requestId
  /-- A refused request is answered by its fault. -/
  refused : ∀ f, r = .error f → resp = refusal f

/-- The answer to an admitted request: 200 with its decision and its request id. -/
theorem admitted_response (d : Decision) :
    let resp := (Response.json 200 d.toJson).withHeader "X-Request-ID" d.requestId
    resp.status = 200 ∧ resp.body = .json d.toJson ∧
      resp.header "Content-Type" = "application/json" ∧
      resp.header "X-Request-ID" = d.requestId := by
  have hname : sameName "X-Request-ID" "Content-Type" = false := by decide
  refine ⟨rfl, rfl, ?_, Response.header_withHeader_self _ _ _⟩
  rw [Response.header_withHeader_of_ne _ _ hname]
  rfl

/-- A request whose caller resolves and whose body names a router is admitted once, the service
drawing the request id: the response answers that one admission, and the state is the one it
left. -/
theorem admission_of_resolves {api : Api σ} {req : Request} {s s₁ : σ} {who : Identity}
    {router : Int64} {tokens : Option Int64} (hwho : api.Resolves req s who s₁)
    (hbody : decodeBody Ask.reader ⟨none, none⟩ req.body = some ⟨some router, tokens⟩) :
    (api.admission req s).2 = (api.service.admitRequest who router tokens s₁).2 ∧
      Answers (api.admission req s).1 (api.service.admitRequest who router tokens s₁).1 := by
  rw [admission, (identify_eq_ok_iff api req s who s₁).mpr hwho]
  simp only [hbody]
  rcases api.service.admitRequest who router tokens s₁ with ⟨_ | d, s₃⟩
  · rename_i f
    refine ⟨rfl, ⟨?_, fun _ h => (nomatch h), fun _ h => by cases h; rfl⟩⟩
    simp [refusal_status_ne]
  · obtain ⟨hstatus, hjson, hcontent, hid⟩ := admitted_response d
    refine ⟨rfl, ⟨?_, fun d' h => ?_, fun _ h => (nomatch h)⟩⟩
    · simp only [hstatus, Except.ok.injEq, exists_eq']
    · cases h
      exact ⟨hjson, hcontent, hid⟩

/-- A request whose caller does not resolve, or whose body names no router, never reaches the
service: its response is the same whatever the service, and is no 200. -/
theorem admission_without_service {api : Api σ} {req : Request} {s : σ}
    (hnot : ¬∃ who s₁ router tokens, api.Resolves req s who s₁ ∧
      decodeBody Ask.reader ⟨none, none⟩ req.body = some ⟨some router, tokens⟩)
    (svc : Service σ) :
    ({ api with service := svc }).admission req s = api.admission req s ∧
      (api.admission req s).1.status ≠ 200 := by
  have hsame : ({ api with service := svc }).identify req s = api.identify req s := rfl
  unfold admission
  rw [hsame]
  rcases hid : api.identify req s with ⟨_ | who, s₁⟩
  · exact ⟨rfl, identify_error_status hid⟩
  · have hwho := (identify_eq_ok_iff api req s who s₁).mp hid
    dsimp only
    rcases hbody : decodeBody Ask.reader ⟨none, none⟩ req.body with _ | ⟨_ | router, tokens⟩
    · exact ⟨rfl, by simp⟩
    · exact ⟨rfl, by simp⟩
    · exact absurd ⟨who, s₁, router, tokens, hwho, hbody⟩ hnot

end Api

end Http

namespace Gateway

open Http

/-- How a gateway answers `POST /v1/admissions`. Every refusal its admission service gives, from
any state, is answered with the status of the outcome it is counted under (429 for a rate limit,
403 for a missing permission, 404 for a missing model or router, 503 for no candidate, 500
otherwise), and a rate limit with its cap in `X-RateLimit-Limit` and, exactly when known, what
is left in `X-RateLimit-Remaining`. When the caller resolves (a 64-bit `X-User-ID` that the
user lookup finds, or the master user's id with no record) and the body's first JSON value names
a router, the service admits the request once, drawing its request id: the response is 200
exactly when it returned a decision, and then carries that decision as its JSON body and its
request id in `X-Request-ID`; a refusal is answered by its fault, and the state is the one the
admission left. Otherwise the service is never asked: the response is the same whatever the
service, and is no 200. -/
theorem admission_answers (g : Setup) (req : Request) (w : World) :
    (∀ who router tokens w₀ f, (g.service.admitRequest who router tokens w₀).1 = .error f →
      Refuses (Api.refusal f) f) ∧
    (∀ who w₁ router tokens, g.api.Resolves req w who w₁ →
      decodeBody Ask.reader ⟨none, none⟩ req.body = some ⟨some router, tokens⟩ →
      (g.api.admission req w).2 = (g.service.admitRequest who router tokens w₁).2 ∧
      Api.Answers (g.api.admission req w).1 (g.service.admitRequest who router tokens w₁).1) ∧
    ((¬∃ who w₁ router tokens, g.api.Resolves req w who w₁ ∧
        decodeBody Ask.reader ⟨none, none⟩ req.body = some ⟨some router, tokens⟩) →
      (∀ svc, ({ g.api with service := svc }).admission req w = g.api.admission req w) ∧
      (g.api.admission req w).1.status ≠ 200) := by
  refine ⟨fun who router tokens w₀ f hf => ?_, fun who w₁ router tokens hwho hbody => ?_,
    fun hnot => ⟨fun svc => (Api.admission_without_service hnot svc).1,
      (Api.admission_without_service hnot g.service).2⟩⟩
  · exact Api.refusal_refuses (g.service_quotedFailures.admitRequest who router tokens w₀ f hf)
  · exact Api.admission_of_resolves hwho hbody

end Gateway

end Admission
