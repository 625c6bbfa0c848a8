import Admission.Access.Checker

/-!
# Quotas fail open

A limiter refuses a hit only on the word of its store: over any store, whose every call may
fail, a hit is refused exactly when the quota is capped and the strategy's hit completed and
reported it exhausted. A failing strategy call, expiry query or clear lets the hit through. An
unlimited quota touches no store at all, and a read of what remains is unknown exactly when
the quota is unlimited or one of the read's store calls failed (`readFails`).

The access check inherits this: the only exhausted-quota refusal it gives is for a charge whose
strategy hit completed and reported the quota exhausted, so a store failure never refuses a
request (`quotas_fail_open`).
-/

namespace Admission.Quota

namespace WindowKind

/-- Whether one of the store calls of a strategy's read fails: the fixed window reads its
counter, then its life; the sliding and moving windows make one call each. -/
def readFails (k : WindowKind) (ops : CounterOps σ) (now : Instant) (item : Item) (key : String)
    (s : σ) : Prop :=
  match k with
  | .fixed =>
    (∃ f, (ops.get now (item.storageKey key) s).1 = .error f) ∨
      ∃ n f, (ops.get now (item.storageKey key) s).1 = .ok n ∧
        (ops.ttl now (item.storageKey key) (ops.get now (item.storageKey key) s).2).1 = .error f
  | .sliding => ∃ f, (ops.slidingWindow now (item.storageKey key) item.expiry s).1 = .error f
  | .moving => ∃ f, (ops.movingWindow now (item.storageKey key) item.expiry s).1 = .error f

/-- A strategy's read fails exactly when one of its store calls fails. -/
theorem remaining_error_iff (k : WindowKind) (ops : CounterOps σ) (now : Instant) (item : Item)
    (key : String) (s : σ) :
    (∃ f, (k.remaining ops now item key s).1 = .error f) ↔ k.readFails ops now item key s := by
  cases k with
  | fixed =>
    simp only [remaining, readFails]
    rcases hget : ops.get now (item.storageKey key) s with ⟨_ | n, s₁⟩
    · simp
    · rcases httl : ops.ttl now (item.storageKey key) s₁ with ⟨_ | _, s₂⟩ <;> simp [httl]
  | sliding =>
    rcases hread : ops.slidingWindow now (item.storageKey key) item.expiry s with ⟨_ | _, s₁⟩ <;>
      simp [remaining, readFails, hread, Except.map]
  | moving =>
    rcases hread : ops.movingWindow now (item.storageKey key) item.expiry s with ⟨_ | _, s₁⟩ <;>
      simp [remaining, readFails, hread, Except.map]

end WindowKind

namespace Limiter

/-- An unlimited quota's hit is allowed and touches no store. -/
theorem hit_unlimited (l : Limiter) (ops : CounterOps σ) (now : Instant) (user router : Int64)
    (t : LimitType) (cost : Int64) (s : σ) :
    l.hit ops now user router t none cost s = (true, s) := rfl

/-- An unlimited quota's read is unknown and touches no store. -/
theorem remaining_unlimited (l : Limiter) (ops : CounterOps σ) (now : Instant)
    (user router : Int64) (t : LimitType) (s : σ) :
    l.remaining ops now user router t none s = (none, s) := rfl

/-- A hit is refused exactly when the quota is capped and the strategy's hit completed and
reported it exhausted; a failing expiry query or clear after an admitted hit changes
nothing of the answer. -/
theorem hit_eq_false_iff (l : Limiter) (ops : CounterOps σ) (now : Instant) (user router : Int64)
    (t : LimitType) (value : Option Int64) (cost : Int64) (s : σ) :
    (l.hit ops now user router t value cost s).1 = false ↔
      ∃ v, value = some v ∧
        (l.window.hit ops now (Item.ofLimit t v) (l.key user router t) cost s).1 = .ok false := by
  cases value with
  | none => simp [hit]
  | some v =>
    simp only [hit, Option.some.injEq, exists_eq_left']
    rcases hwin : l.window.hit ops now (Item.ofLimit t v) (l.key user router t) cost s with
      ⟨_ | _ | _, s₁⟩
    · simp
    · simp
    · rcases httl : ops.ttl now ((Item.ofLimit t v).storageKey (l.key user router t)) s₁ with
        ⟨_ | ttl, s₂⟩
      · simp [httl]
      · simp only [httl]
        split <;> simp

/-- A read of what remains is unknown exactly when the quota is unlimited or one of the
strategy's store calls failed. -/
theorem remaining_eq_none_iff (l : Limiter) (ops : CounterOps σ) (now : Instant)
    (user router : Int64) (t : LimitType) (value : Option Int64) (s : σ) :
    (l.remaining ops now user router t value s).1 = none ↔
      value = none ∨
        ∃ v, value = some v ∧
          l.window.readFails ops now (Item.ofLimit t v) (l.key user router t) s := by
  cases value with
  | none => simp [remaining]
  | some v =>
    simp only [remaining, reduceCtorEq, false_or, Option.some.injEq, exists_eq_left']
    rw [← WindowKind.remaining_error_iff]
    rcases hread : l.window.remaining ops now (Item.ofLimit t v) (l.key user router t) s with
      ⟨_ | _, s₁⟩ <;> simp

end Limiter

end Admission.Quota

namespace Admission.Access

open Quota

namespace Checker

/-- The limits a check finds fail only with the resolver's failure wrapped in context. -/
theorem limitsOf_error {resolver : Option (Resolver σ)} {identity : Identity} {s : σ} {f : Fault}
    (h : (limitsOf resolver identity s).1 = .error f) : ∃ what cause, f = .context what cause := by
  unfold limitsOf at h
  split at h
  · simp at h
  · simp at h
  · split at h
    · simp at h
    · split at h
      · simp at h
      · exact ⟨_, _, (Except.error.inj h).symm⟩

/-- Spending from a quota fails only as the refusal of a capped quota whose strategy hit
completed and reported it exhausted. -/
theorem consume_error {c : Checker} {ops : CounterOps σ} {now : Instant} {user router : Int64}
    {t : LimitType} {value : Option Int64} {cost : Int64} {s : σ} {f : Fault}
    (h : (c.consume ops now user router t value cost s).1 = .error f) :
    ∃ v, value = some v ∧
      (c.limiter.window.hit ops now (Item.ofLimit t v) (c.limiter.key user router t) cost s).1 =
        .ok false ∧
      ∃ left, f = .quota ⟨t, v, left⟩ := by
  unfold consume at h
  cases hhit : c.limiter.hit ops now user router t value cost s with
  | mk allowed s₁ =>
    cases allowed with
    | true => simp [hhit] at h
    | false =>
      obtain ⟨v, rfl, hrefused⟩ :=
        (Limiter.hit_eq_false_iff _ _ _ _ _ _ _ _ _).mp (congrArg Prod.fst hhit)
      simp only [hhit] at h
      exact ⟨v, rfl, hrefused, _, (Except.error.inj h).symm⟩

/-- Spending from a quota succeeds exactly when the limiter lets the hit through. -/
theorem consume_ok_iff (c : Checker) (ops : CounterOps σ) (now : Instant) (user router : Int64)
    (t : LimitType) (value : Option Int64) (cost : Int64) (s : σ) :
    (c.consume ops now user router t value cost s).1 = .ok () ↔
      (c.limiter.hit ops now user router t value cost s).1 = true := by
  unfold consume
  rcases c.limiter.hit ops now user router t value cost s with ⟨_ | _, s₁⟩ <;> simp

section Runs

variable {c : Checker} {ops : CounterOps σ} {now : Instant} {user router : Int64} {q : Quotas}

/-- Spending a list of charges fails only at a charge whose spending fails, from the state that
the charges before it, all spent, left. -/
theorem consumeAll_error {f : Fault} :
    ∀ {charges : List (LimitType × Int64)} {s : σ},
      (c.consumeAll ops now user router q charges s).1 = .error f →
        ∃ pre t cost post, charges = pre ++ (t, cost) :: post ∧
          (c.consumeAll ops now user router q pre s).1 = .ok () ∧
          (c.consume ops now user router t (q.value t) cost
            (c.consumeAll ops now user router q pre s).2).1 = .error f
  | [], _, h => by simp [consumeAll] at h
  | (t, cost) :: rest, s, h => by
    unfold consumeAll at h
    rcases hone : c.consume ops now user router t (q.value t) cost s with ⟨_ | _, s₁⟩
    · simp only [hone] at h
      exact ⟨[], t, cost, rest, rfl, rfl, by simp [consumeAll, hone, h]⟩
    · simp only [hone] at h
      obtain ⟨pre, t', cost', post, rfl, hpre, hfail⟩ := consumeAll_error h
      have hrun : c.consumeAll ops now user router q ((t, cost) :: pre) s =
          c.consumeAll ops now user router q pre s₁ := by
        simp [consumeAll, hone]
      exact ⟨(t, cost) :: pre, t', cost', post, rfl, by rw [hrun]; exact hpre,
        by rw [hrun]; exact hfail⟩

/-- Spending a list of charges succeeds when each charge is spent from the state that the
charges before it, all spent, left. -/
theorem consumeAll_ok {charges : List (LimitType × Int64)} {s : σ}
    (h : ∀ pre t cost post, charges = pre ++ (t, cost) :: post →
      (c.consumeAll ops now user router q pre s).1 = .ok () →
      (c.consume ops now user router t (q.value t) cost
        (c.consumeAll ops now user router q pre s).2).1 = .ok ()) :
    (c.consumeAll ops now user router q charges s).1 = .ok () := by
  rcases hrun : (c.consumeAll ops now user router q charges s).1 with f | u
  · obtain ⟨pre, t, cost, post, hsplit, hpre, hfail⟩ := consumeAll_error hrun
    rw [h pre t cost post hsplit hpre] at hfail
    cases hfail
  · rfl

end Runs

/-- An access check refuses a request for an exhausted quota only on a charge of a capped quota
whose strategy hit, made from the state that the charges before it left, completed and reported
the quota exhausted. -/
theorem check_quota_error {c : Checker} {ops : CounterOps σ} {resolver : Option (Resolver σ)}
    {now : Instant} {identity : Identity} {router : Int64} {promptTokens : Option Int64} {s : σ}
    {e : QuotaExceeded}
    (h : (c.check ops resolver now identity router promptTokens s).1 = .error (.quota e)) :
    ∃ limits s₁ pre cost post, limitsOf resolver identity s = (.ok limits, s₁) ∧
      charges promptTokens = pre ++ (e.type, cost) :: post ∧
      (aggregate limits router).1.value e.type = some e.limit ∧
      (c.consumeAll ops now identity.id router (aggregate limits router).1 pre s₁).1 = .ok () ∧
      (c.limiter.window.hit ops now (Item.ofLimit e.type e.limit)
        (c.limiter.key identity.id router e.type) cost
        (c.consumeAll ops now identity.id router (aggregate limits router).1 pre s₁).2).1 =
          .ok false := by
  unfold check at h
  split at h
  · simp at h
  · rcases hlimits : limitsOf resolver identity s with ⟨_ | limits, s₁⟩
    · obtain ⟨what, cause, hf⟩ := limitsOf_error (congrArg Prod.fst hlimits)
      simp only [hlimits, hf] at h
      cases h
    · simp only [hlimits] at h
      split at h
      · simp at h
      · split at h
        · simp at h
        · obtain ⟨pre, t, cost, post, hsplit, hpre, hfail⟩ := consumeAll_error h
          obtain ⟨v, hv, hrefused, left, hq⟩ := consume_error hfail
          cases hq
          exact ⟨limits, s₁, pre, cost, post, rfl, hsplit, hv, hpre, hrefused⟩

/-- A storage failure never turns an allowed request into a denial. When the limits are found,
know the router and do not deny it, the check lets the request through as soon as no charge's
strategy hit, made from the state that the charges before it left, completed with a refusal:
each hit either admitted its charge or failed. -/
theorem check_ok_of_no_refusal {c : Checker} {ops : CounterOps σ}
    {resolver : Option (Resolver σ)} {now : Instant} {identity : Identity} {router : Int64}
    {promptTokens : Option Int64} {s : σ} {limits : List Limit} {s₁ : σ}
    (hlimits : limitsOf resolver identity s = (.ok limits, s₁))
    (hfound : (aggregate limits router).2 = true)
    (hallowed : (aggregate limits router).1.denied = false)
    (hnone : ∀ pre t cost post v, charges promptTokens = pre ++ (t, cost) :: post →
      (c.consumeAll ops now identity.id router (aggregate limits router).1 pre s₁).1 = .ok () →
      (aggregate limits router).1.value t = some v →
      (c.limiter.window.hit ops now (Item.ofLimit t v) (c.limiter.key identity.id router t) cost
        (c.consumeAll ops now identity.id router (aggregate limits router).1 pre s₁).2).1 ≠
          .ok false) :
    (c.check ops resolver now identity router promptTokens s).1 = .ok () := by
  unfold check
  split
  · rfl
  · simp only [hlimits, hfound, hallowed, Bool.not_true, Bool.false_eq_true, if_false]
    refine consumeAll_ok fun pre t cost post hsplit hpre => ?_
    rw [consume_ok_iff]
    cases hhit : (c.limiter.hit ops now identity.id router t
        ((aggregate limits router).1.value t) cost
        (c.consumeAll ops now identity.id router (aggregate limits router).1 pre s₁).2).1 with
    | true => rfl
    | false =>
      obtain ⟨v, hv, hrefused⟩ := (Limiter.hit_eq_false_iff _ _ _ _ _ _ _ _ _).mp hhit
      exact absurd hrefused (hnone pre t cost post v hsplit hpre hv)

end Checker

/-- Quotas fail open. Over any store, each of whose calls may fail: a limiter's hit is refused
exactly when the quota is capped and the strategy's hit completed and reported it exhausted, so
a hit whose strategy call, expiry query or clear fails is allowed; an unlimited quota's hit and
read touch no store; a read is unknown exactly when the quota is unlimited or one of its store
calls failed. An access check refuses a request for an exhausted quota only on a charge whose
strategy hit, made from the state the charges before it left, completed and reported that quota
exhausted; and it lets a request through whenever each such hit either admitted its charge or
failed, so a storage failure never turns an allowed request into a denial. -/
theorem quotas_fail_open (c : Checker) (ops : CounterOps σ) (now : Instant) :
    (∀ user router t value cost s, (c.limiter.hit ops now user router t value cost s).1 = false ↔
      ∃ v, value = some v ∧
        (c.limiter.window.hit ops now (Item.ofLimit t v) (c.limiter.key user router t) cost s).1 =
          .ok false) ∧
    (∀ user router t cost s, c.limiter.hit ops now user router t none cost s = (true, s) ∧
      c.limiter.remaining ops now user router t none s = (none, s)) ∧
    (∀ user router t value s, (c.limiter.remaining ops now user router t value s).1 = none ↔
      value = none ∨ ∃ v, value = some v ∧
        c.limiter.window.readFails ops now (Item.ofLimit t v) (c.limiter.key user router t) s) ∧
    (∀ resolver identity router promptTokens s (e : QuotaExceeded),
      (c.check ops resolver now identity router promptTokens s).1 = .error (.quota e) →
        ∃ limits s₁ pre cost post, Checker.limitsOf resolver identity s = (.ok limits, s₁) ∧
          Checker.charges promptTokens = pre ++ (e.type, cost) :: post ∧
          (aggregate limits router).1.value e.type = some e.limit ∧
          (c.consumeAll ops now identity.id router (aggregate limits router).1 pre s₁).1 =
            .ok () ∧
          (c.limiter.window.hit ops now (Item.ofLimit e.type e.limit)
            (c.limiter.key identity.id router e.type) cost
            (c.consumeAll ops now identity.id router (aggregate limits router).1 pre s₁).2).1 =
              .ok false) ∧
    (∀ resolver identity router promptTokens s limits s₁,
      Checker.limitsOf resolver identity s = (.ok limits, s₁) →
      (aggregate limits router).2 = true → (aggregate limits router).1.denied = false →
      (∀ pre t cost post v, Checker.charges promptTokens = pre ++ (t, cost) :: post →
        (c.consumeAll ops now identity.id router (aggregate limits router).1 pre s₁).1 = .ok () →
        (aggregate limits router).1.value t = some v →
        (c.limiter.window.hit ops now (Item.ofLimit t v) (c.limiter.key identity.id router t)
          cost (c.consumeAll ops now identity.id router (aggregate limits router).1 pre s₁).2).1 ≠
            .ok false) →
      (c.check ops resolver now identity router promptTokens s).1 = .ok ()) :=
  ⟨Limiter.hit_eq_false_iff c.limiter ops now,
    fun user router t cost s => ⟨Limiter.hit_unlimited c.limiter ops now user router t cost s,
      Limiter.remaining_unlimited c.limiter ops now user router t s⟩,
    Limiter.remaining_eq_none_iff c.limiter ops now,
    fun _ _ _ _ _ _ h => Checker.check_quota_error h,
    fun _ _ _ _ _ _ _ hlimits hfound hallowed hnone =>
      Checker.check_ok_of_no_refusal hlimits hfound hallowed hnone⟩

end Admission.Access
