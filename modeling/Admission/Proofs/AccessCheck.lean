import Mathlib.Data.List.Induction
import Mathlib.Tactic.SplitIfs
import Admission.Access.Checker

/-!
# How the access check decides

The access check reads a user's limits as a list in which later limits override earlier ones
and limits on other routers do not count. This module restates its decision in those terms:
the quota of a dimension on a router is the value of the last limit of that dimension on the
router (`lastCap`), a missing one counting as a zero quota.

Main statement (`check_decision`): the master user passes with no call at all. Otherwise the
limits are the user's own, or none without a resolver, or the role's from the resolver; a
missing role means no limits, and any other failure of the resolver is the answer, wrapped in
context that keeps its conditions. With the limits in hand, no limit on the router is
`modelNotFound` and a zero or missing dimension is `insufficientPermission`, both before any
counter is touched. Otherwise the charges are hit in order, one request from `rpm` and `rpd`,
then a positive prompt's tokens from `tpm` and `tpd`, each against its dimension's cap, and
the first refusal is the answer (`spendInTurn`).
-/

namespace Admission.Access

open Quota

/-- The value of the last limit of dimension `t` on a router; none when no limit of that
dimension is on it. -/
def lastCap (limits : List Limit) (router : Int64) (t : LimitType) : Option (Option Int64) :=
  ((limits.filter fun l => l.router = router ∧ l.type = t).getLast?).map (·.value)

theorem lastCap_nil (router : Int64) (t : LimitType) : lastCap [] router t = none := rfl

/-- A limit added last decides its own dimension on its own router. -/
theorem lastCap_append_singleton (limits : List Limit) (l : Limit) (router : Int64)
    (t : LimitType) :
    lastCap (limits ++ [l]) router t =
      if l.router = router ∧ l.type = t then some l.value else lastCap limits router t := by
  unfold lastCap
  by_cases h : l.router = router ∧ l.type = t
  · simp [List.filter_append, h]
  · simp [List.filter_append, h]

namespace Quotas

/-- Setting a known dimension is read back. -/
theorem value_set_self (q : Quotas) {t : LimitType} (ht : t ∈ LimitType.all)
    (v : Option Int64) : (q.set t v).value t = v := by
  simp only [LimitType.all, List.mem_cons, List.not_mem_nil, or_false] at ht
  rcases ht with rfl | rfl | rfl | rfl <;> simp [set, value, LimitType.rpm, LimitType.rpd,
    LimitType.tpm, LimitType.tpd]

/-- Setting one dimension leaves every other one. -/
theorem value_set_of_ne (q : Quotas) {t t' : LimitType} (h : t' ≠ t) (v : Option Int64) :
    (q.set t' v).value t = q.value t := by
  unfold set value
  split_ifs <;> simp_all

/-- Every known dimension starts at zero. -/
theorem zero_value {t : LimitType} (ht : t ∈ LimitType.all) : zero.value t = some 0 := by
  simp only [LimitType.all, List.mem_cons, List.not_mem_nil, or_false] at ht
  rcases ht with rfl | rfl | rfl | rfl <;> rfl

end Quotas

/-- The quotas of a limit list grow by its last limit: a limit on the router sets its dimension
and marks the router as found, any other limit changes nothing. -/
theorem aggregate_append_singleton (limits : List Limit) (l : Limit) (router : Int64) :
    aggregate (limits ++ [l]) router =
      if l.router = router then ((aggregate limits router).1.set l.type l.value, true)
      else aggregate limits router := by
  unfold aggregate
  rw [List.foldl_append]
  rfl

/-- Each known dimension's quota is the value of its last limit on the router, zero when there
is none. -/
theorem aggregate_value (limits : List Limit) (router : Int64) {t : LimitType}
    (ht : t ∈ LimitType.all) :
    (aggregate limits router).1.value t = (lastCap limits router t).getD (some 0) := by
  induction limits using List.reverseRecOn with
  | nil => exact Quotas.zero_value ht
  | append_singleton limits l ih =>
    rw [aggregate_append_singleton, lastCap_append_singleton]
    by_cases hr : l.router = router
    · by_cases htype : l.type = t
      · simp [hr, htype, Quotas.value_set_self _ ht]
      · simp [hr, htype, Quotas.value_set_of_ne _ htype, ih]
    · simp [hr, ih]

/-- The router is found exactly when some limit is on it, of whatever dimension. -/
theorem aggregate_found (limits : List Limit) (router : Int64) :
    (aggregate limits router).2 = true ↔ ∃ l ∈ limits, l.router = router := by
  induction limits using List.reverseRecOn with
  | nil => simp [aggregate]
  | append_singleton limits l ih =>
    rw [aggregate_append_singleton]
    by_cases hr : l.router = router
    · simp [hr]
    · simp [hr, ih]

/-- The router is denied exactly when some known dimension has no limit on it, or its last
limit there is zero. -/
theorem aggregate_denied (limits : List Limit) (router : Int64) :
    (aggregate limits router).1.denied = true ↔
      ∃ t ∈ LimitType.all, lastCap limits router t = none ∨
        lastCap limits router t = some (some 0) := by
  unfold Quotas.denied
  rw [List.any_eq_true]
  constructor
  · rintro ⟨t, ht, hzero⟩
    rw [aggregate_value limits router ht] at hzero
    refine ⟨t, ht, ?_⟩
    cases hcap : lastCap limits router t <;> simp_all
  · rintro ⟨t, ht, hcap⟩
    refine ⟨t, ht, ?_⟩
    rw [aggregate_value limits router ht]
    rcases hcap with hcap | hcap <;> simp [hcap]

namespace Checker

/-- Hits each charge in turn, a dimension with its cap and cost, and stops at the first refusal
with the exhausted quota: its dimension, its cap (0 when unlimited) and what the limiter says
is left of it. -/
def spendInTurn (c : Checker) (ops : CounterOps σ) (now : Instant) (user router : Int64) :
    List (LimitType × Option Int64 × Int64) → σ → Except Fault Unit × σ
  | [], s => (.ok (), s)
  | (t, cap, cost) :: rest, s =>
    match c.limiter.hit ops now user router t cap cost s with
    | (true, s) => spendInTurn c ops now user router rest s
    | (false, s) =>
      let (left, s) := c.limiter.remaining ops now user router t cap s
      (.error (.quota ⟨t, cap.getD 0, left⟩), s)

/-- What a request spends, in order, with each dimension's cap on the router: one request from
`rpm` and then `rpd`, then, for a positive prompt, its tokens from `tpm` and then `tpd`. -/
def orderedCharges (limits : List Limit) (router : Int64) (promptTokens : Option Int64) :
    List (LimitType × Option Int64 × Int64) :=
  let cap t := (lastCap limits router t).join
  [(.rpm, cap .rpm, 1), (.rpd, cap .rpd, 1)] ++
    match promptTokens with
    | some n => if 0 < n then [(.tpm, cap .tpm, n), (.tpd, cap .tpd, n)] else []
    | none => []

/-- The decision once the limits are known: no limit on the router, then a zero or missing
dimension, refuse before any counter is touched; otherwise the charges are spent in turn. -/
def decideWith (c : Checker) (ops : CounterOps σ) (now : Instant) (user router : Int64)
    (promptTokens : Option Int64) (limits : List Limit) (s : σ) : Except Fault Unit × σ :=
  if ¬∃ l ∈ limits, l.router = router then (.error (.sentinel .modelNotFound), s)
  else if ∃ t ∈ LimitType.all, lastCap limits router t = none ∨
      lastCap limits router t = some (some 0) then
    (.error (.sentinel .insufficientPermission), s)
  else spendInTurn c ops now user router (orderedCharges limits router promptTokens) s

/-- Spending charges against a router's quotas is spending them in turn against their caps. -/
theorem consumeAll_eq_spendInTurn (c : Checker) (ops : CounterOps σ) (now : Instant)
    (user router : Int64) (q : Quotas) :
    ∀ (charges : List (LimitType × Int64)) (s : σ),
      c.consumeAll ops now user router q charges s =
        c.spendInTurn ops now user router (charges.map fun x => (x.1, q.value x.1, x.2)) s
  | [], _ => rfl
  | (t, cost) :: rest, s => by
    have ih := consumeAll_eq_spendInTurn c ops now user router q rest
    cases hhit : c.limiter.hit ops now user router t (q.value t) cost s with
    | mk allowed s₁ =>
      cases allowed with
      | true => simp [consumeAll, consume, spendInTurn, hhit, ih]
      | false => simp [consumeAll, consume, spendInTurn, hhit]

/-- Where the router is not denied, its quotas are the caps of its last limits, so the charges
of a request against them are the ordered charges. -/
theorem charges_map_eq (limits : List Limit) (router : Int64) (promptTokens : Option Int64)
    (hallowed : (aggregate limits router).1.denied = false) :
    (charges promptTokens).map (fun x => (x.1, (aggregate limits router).1.value x.1, x.2)) =
      orderedCharges limits router promptTokens := by
  have hcap : ∀ t ∈ LimitType.all,
      (aggregate limits router).1.value t = (lastCap limits router t).join := by
    intro t ht
    rw [aggregate_value limits router ht]
    cases hlast : lastCap limits router t with
    | none =>
      have : (aggregate limits router).1.denied = true :=
        (aggregate_denied limits router).mpr ⟨t, ht, .inl hlast⟩
      simp_all
    | some v => rfl
  have hrpm := hcap .rpm (by simp [LimitType.all])
  have hrpd := hcap .rpd (by simp [LimitType.all])
  have htpm := hcap .tpm (by simp [LimitType.all])
  have htpd := hcap .tpd (by simp [LimitType.all])
  cases promptTokens with
  | none => simp [charges, orderedCharges, hrpm, hrpd]
  | some n =>
    by_cases hn : 0 < n <;> simp [charges, orderedCharges, hn, hrpm, hrpd, htpm, htpd]

/-- The decision of the check once it has the limits. -/
theorem check_of_limits (c : Checker) (ops : CounterOps σ) (resolver : Option (Resolver σ))
    (now : Instant) (identity : Identity) (router : Int64) (promptTokens : Option Int64)
    {s s' : σ} {limits : List Limit} (hmaster : identity.id ≠ c.master)
    (hlimits : limitsOf resolver identity s = (.ok limits, s')) :
    c.check ops resolver now identity router promptTokens s =
      c.decideWith ops now identity.id router promptTokens limits s' := by
  unfold check decideWith
  rw [if_neg hmaster, hlimits]
  dsimp only
  by_cases hfound : ∃ l ∈ limits, l.router = router
  · have hfound' := (aggregate_found limits router).mpr hfound
    rw [if_neg (by simp [hfound']), if_neg (not_not.mpr hfound)]
    by_cases hdenied : ∃ t ∈ LimitType.all, lastCap limits router t = none ∨
        lastCap limits router t = some (some 0)
    · have hdenied' := (aggregate_denied limits router).mpr hdenied
      rw [if_pos hdenied', if_pos hdenied]
    · have hallowed : (aggregate limits router).1.denied = false := by
        cases h : (aggregate limits router).1.denied with
        | false => rfl
        | true => exact absurd ((aggregate_denied limits router).mp h) hdenied
      rw [if_neg (by simp [hallowed]), if_neg hdenied, consumeAll_eq_spendInTurn,
        charges_map_eq limits router promptTokens hallowed]
  · have hmissing : (aggregate limits router).2 = false := by
      cases h : (aggregate limits router).2 with
      | false => rfl
      | true => exact absurd ((aggregate_found limits router).mp h) hfound
    rw [if_pos (by simp [hmissing]), if_pos hfound]

end Checker

/-- The access check's decision procedure. The master user passes with no call to the resolver
or the limiter. Any other user's limits are its own when it carries some, none when there is
no resolver, else its role's; a missing role means no limits, and any other failure of the
resolver is the answer, wrapped in context that carries the same conditions, before any
counter is touched. With the limits, the check refuses a router with no limit on it as
`modelNotFound`, then a router where some dimension's last limit is zero or missing as
`insufficientPermission`, still touching no counter; otherwise it hits one request on `rpm`
and `rpd`, then a positive prompt's tokens on `tpm` and `tpd`, each against the value of the
last limit of its dimension on the router, and stops at the first refusal with the exhausted
quota, its cap (0 when unlimited) and what the limiter says is left. -/
theorem check_decision (c : Checker) (ops : CounterOps σ) (resolver : Option (Resolver σ))
    (now : Instant) (identity : Identity) (router : Int64) (promptTokens : Option Int64)
    (s : σ) :
    c.check ops resolver now identity router promptTokens s =
      if identity.id = c.master then (.ok (), s)
      else
        match identity.limits, resolver with
        | some limits, _ => c.decideWith ops now identity.id router promptTokens limits s
        | none, none => c.decideWith ops now identity.id router promptTokens [] s
        | none, some resolve =>
          match resolve identity.role s with
          | (.ok limits, s') => c.decideWith ops now identity.id router promptTokens limits s'
          | (.error f, s') =>
            if f.has .roleNotFound then
              c.decideWith ops now identity.id router promptTokens [] s'
            else
              (.error (.context ("resolve limits for role " ++ toString identity.role.toInt) f),
                s') := by
  by_cases hmaster : identity.id = c.master
  · simp [Checker.check, hmaster]
  · rw [if_neg hmaster]
    cases hown : identity.limits with
    | some limits =>
      exact Checker.check_of_limits c ops resolver now identity router promptTokens hmaster
        (by simp [Checker.limitsOf, hown])
    | none =>
      cases resolver with
      | none =>
        exact Checker.check_of_limits c ops none now identity router promptTokens hmaster
          (by simp [Checker.limitsOf, hown])
      | some resolve =>
        dsimp only
        cases hres : resolve identity.role s with
        | mk r s' =>
          cases r with
          | ok limits =>
            exact Checker.check_of_limits c ops _ now identity router promptTokens hmaster
              (by simp [Checker.limitsOf, hown, hres])
          | error f =>
            dsimp only
            by_cases hmissing : f.has .roleNotFound
            · rw [if_pos hmissing]
              exact Checker.check_of_limits c ops _ now identity router promptTokens hmaster
                (by simp [Checker.limitsOf, hown, hres, hmissing])
            · rw [if_neg hmissing]
              simp [Checker.check, hmaster, Checker.limitsOf, hown, hres, hmissing]

end Admission.Access
