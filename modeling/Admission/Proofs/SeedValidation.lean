import Mathlib.Data.List.Forall2
import Admission.Directory.Seed

/-!
# Seed validation

A seed is checked in three passes, each a scan that keeps the ids it has seen and stops at the
first problem: the routers (with the providers of each), then the roles (with their limits,
which may name any router of the seed), then the users (whose role may be any role of the
seed). This module shows that the check decides a condition stated without it,
`Seed.WellFormed`: the ids of each list are distinct, provider ids are present and distinct
within their router, every limit has a known type, no negative value and a router of the
seed, and every user's role is a role of the seed.

* Each id scan finds nothing exactly when its keys are distinct and unseen and every entry
  passes its own check (`scan_eq_none_iff`, one lemma for the three id scans and the provider
  scan, each of which only has to show what one step does).
* So a seed has no problem exactly when it is well formed (`problem_eq_none_iff`), which makes
  well-formedness decidable, and independent of the order of every list in the seed
  (`wellFormed_iff_of_reordered`).
* Reading a seed whose YAML decodes succeeds exactly when every strategy is known and the
  decoded seed is well formed, and gives that seed with an empty strategy read as `shuffle`
  (`seed_validation_decides`).
-/

namespace Admission

namespace Strategy

/-- The strategy texts a seed may give: one of the three names, or none at all. -/
def Known (s : String) : Prop :=
  s = "" ∨ s = "round_robin" ∨ s = "shuffle" ∨ s = "least_busy"

/-- A strategy text is read exactly when it is known. -/
theorem parse_ok_iff (s : String) : (∃ k, parse s = .ok k) ↔ Known s := by
  unfold parse Known
  split_ifs with h1 h2 h3
  · exact iff_of_true ⟨_, rfl⟩ (Or.inr (Or.inl h1))
  · exact iff_of_true ⟨_, rfl⟩ (by tauto)
  · exact iff_of_true ⟨_, rfl⟩ (Or.inr (Or.inr (Or.inr h3)))
  · exact iff_of_false (by simp) (by tauto)

/-- A strategy that is read is named by its text, the empty text naming shuffle. -/
theorem name_of_parse {s : String} {k : Strategy} (h : parse s = .ok k) :
    k.name = if s = "" then "shuffle" else s := by
  unfold parse at h
  split_ifs at h with h1 h2 h3 <;> cases h
  · simp [h1, name]
  · rcases h2 with rfl | rfl <;> simp [name]
  · simp [h3, name]

/-- A strategy's name reads back as the strategy. -/
@[simp] theorem parse_name (k : Strategy) : parse k.name = .ok k := by
  cases k <;> simp [parse, name]

end Strategy

namespace Router

/-- The router as a seed leaves it: an empty strategy read as shuffle. -/
def withDefaultStrategy (r : Router) : Router :=
  if r.strategy = "" then { r with strategy := "shuffle" } else r

@[simp] theorem withDefaultStrategy_id (r : Router) : r.withDefaultStrategy.id = r.id := by
  unfold withDefaultStrategy; split <;> rfl

@[simp] theorem withDefaultStrategy_providers (r : Router) :
    r.withDefaultStrategy.providers = r.providers := by
  unfold withDefaultStrategy; split <;> rfl

/-- A router whose strategy is read carries, with the empty one read as shuffle, the name of
the strategy read. -/
theorem withDefaultStrategy_of_parse {r : Router} {k : Strategy}
    (h : Strategy.parse r.strategy = .ok k) :
    r.withDefaultStrategy = { r with strategy := k.name } := by
  rw [Strategy.name_of_parse h, withDefaultStrategy]
  split <;> simp_all

/-- Every provider of the router has an id, and no two the same. -/
def ProvidersWellFormed (r : Router) : Prop :=
  (∀ p ∈ r.providers, p.id ≠ "") ∧ (r.providers.map (·.id)).Nodup

end Router

/-- A limit a seed may hold: one of the four known types, no negative value, and a router of
the seed. -/
structure Limit.Fits (routers : List Int64) (l : Limit) : Prop where
  /-- The type is `rpm`, `rpd`, `tpm` or `tpd`. -/
  known : l.type ∈ LimitType.all
  /-- A value, when there is one, is not negative. -/
  nonneg : ∀ v ∈ l.value, 0 ≤ v
  /-- The router is one of the seed's. -/
  routed : l.router ∈ routers

theorem Limit.fits_iff (routers : List Int64) (l : Limit) :
    l.Fits routers ↔ l.type ∈ LimitType.all ∧ (∀ v ∈ l.value, 0 ≤ v) ∧ l.router ∈ routers :=
  ⟨fun h => ⟨h.known, h.nonneg, h.routed⟩, fun h => ⟨h.1, h.2.1, h.2.2⟩⟩

namespace Directory

section Scan

variable {α κ β : Type}

/-- A scan that refuses an entry whose key it has seen or that fails its own check, and
otherwise goes on with the key remembered, finds nothing exactly when the keys are distinct
and unseen and every entry passes. -/
theorem scan_eq_none_iff (key : α → κ) (ok : α → Prop) (scan : Nat → List κ → List α → Option β)
    (hnil : ∀ i seen, scan i seen [] = none)
    (hcons : ∀ i seen x xs, scan i seen (x :: xs) = none ↔
      key x ∉ seen ∧ ok x ∧ scan (i + 1) (key x :: seen) xs = none) :
    ∀ (xs : List α) (i : Nat) (seen : List κ),
      scan i seen xs = none ↔ (∀ x ∈ xs, key x ∉ seen ∧ ok x) ∧ (xs.map key).Nodup := by
  intro xs
  induction xs with
  | nil => simp [hnil]
  | cons x xs ih =>
    intro i seen
    rw [hcons, ih, List.forall_mem_cons, List.map_cons, List.nodup_cons]
    simp only [List.mem_cons, not_or, List.mem_map, not_exists, not_and]
    constructor
    · rintro ⟨hx, hok, hrest, hnodup⟩
      exact ⟨⟨⟨hx, hok⟩, fun y hy => ⟨(hrest y hy).1.2, (hrest y hy).2⟩⟩,
        fun y hy hkey => (hrest y hy).1.1 hkey, hnodup⟩
    · rintro ⟨⟨⟨hx, hok⟩, hrest⟩, hfresh, hnodup⟩
      exact ⟨hx, hok, fun y hy => ⟨⟨hfresh y hy, (hrest y hy).1⟩, (hrest y hy).2⟩, hnodup⟩

end Scan

namespace Seed

theorem providerProblem_go_cons (i : Nat) (r : Router) (j : Nat) (seen : List String)
    (p : Provider) (ps : List Provider) :
    providerProblem.go i r j seen (p :: ps) = none ↔
      p.id ∉ seen ∧ p.id ≠ "" ∧ providerProblem.go i r (j + 1) (p.id :: seen) ps = none := by
  by_cases hid : p.id = ""
  · simp [providerProblem.go, hid]
  · by_cases hseen : p.id ∈ seen
    · simp [providerProblem.go, hid, hseen]
    · simp [providerProblem.go, hid, hseen]

theorem providerProblem_eq_none_iff (i : Nat) (r : Router) :
    providerProblem i r = none ↔ r.ProvidersWellFormed := by
  rw [providerProblem, scan_eq_none_iff (·.id) (·.id ≠ "") (providerProblem.go i r)
    (fun _ _ => rfl) (providerProblem_go_cons i r)]
  simp [Router.ProvidersWellFormed]

theorem routerProblem_cons (i : Nat) (seen : List Int64) (r : Router) (rs : List Router) :
    routerProblem i seen (r :: rs) = none ↔
      r.id ∉ seen ∧ r.ProvidersWellFormed ∧ routerProblem (i + 1) (r.id :: seen) rs = none := by
  rw [← providerProblem_eq_none_iff i r]
  by_cases hseen : r.id ∈ seen
  · simp [routerProblem, hseen]
  · cases hp : providerProblem i r <;> simp [routerProblem, hseen, hp]

theorem routerProblem_eq_none_iff (rs : List Router) :
    routerProblem 0 [] rs = none ↔
      (∀ r ∈ rs, r.ProvidersWellFormed) ∧ (rs.map (·.id)).Nodup := by
  rw [scan_eq_none_iff (·.id) Router.ProvidersWellFormed routerProblem (fun _ _ => rfl)
    routerProblem_cons]
  simp

/-- The value check of a limit passes exactly when the value, if any, is not negative. -/
theorem negativeValue_eq_false_iff (l : Limit) :
    (l.value.map (fun v => decide (v < 0))).getD false = false ↔ ∀ v ∈ l.value, 0 ≤ v := by
  cases l.value with
  | none => simp
  | some v => simp [Int64.lt_iff_toInt_lt, Int64.le_iff_toInt_le]

theorem limitProblem_cons (i : Nat) (routers : List Int64) (j : Nat) (l : Limit)
    (ls : List Limit) :
    limitProblem i routers j (l :: ls) = none ↔
      l.Fits routers ∧ limitProblem i routers (j + 1) ls = none := by
  have hvalue := negativeValue_eq_false_iff l
  rw [Limit.fits_iff]
  by_cases hknown : l.type ∈ LimitType.all
  · rw [and_assoc, and_iff_right hknown, and_assoc]
    by_cases hnonneg : ∀ v ∈ l.value, 0 ≤ v
    · have hpass := hvalue.2 hnonneg
      rw [and_iff_right hnonneg]
      by_cases hrouted : l.router ∈ routers
      · simp [limitProblem, LimitType.valid, hknown, hpass, hrouted]
      · exact iff_of_false (by simp [limitProblem, LimitType.valid, hknown, hpass, hrouted])
          (fun h => hrouted h.1)
    · have hfail : (l.value.map (fun v => decide (v < 0))).getD false = true := by
        simpa using mt hvalue.1 hnonneg
      exact iff_of_false (by simp [limitProblem, LimitType.valid, hknown, hfail])
        (fun h => hnonneg h.1)
  · exact iff_of_false (by simp [limitProblem, LimitType.valid, hknown]) (fun h => hknown h.1.1)

theorem limitProblem_eq_none_iff (i : Nat) (routers : List Int64) :
    ∀ (j : Nat) (ls : List Limit), limitProblem i routers j ls = none ↔ ∀ l ∈ ls, l.Fits routers
  | _, [] => by simp [limitProblem]
  | j, l :: ls => by
    rw [limitProblem_cons, limitProblem_eq_none_iff i routers (j + 1) ls, List.forall_mem_cons]

theorem roleProblem_cons (routers : List Int64) (i : Nat) (seen : List Int64) (o : Role)
    (os : List Role) :
    roleProblem routers i seen (o :: os) = none ↔
      o.id ∉ seen ∧ (∀ l ∈ o.limits, l.Fits routers) ∧
        roleProblem routers (i + 1) (o.id :: seen) os = none := by
  rw [← limitProblem_eq_none_iff i routers 0 o.limits]
  by_cases hseen : o.id ∈ seen
  · simp [roleProblem, hseen]
  · cases hl : limitProblem i routers 0 o.limits <;> simp [roleProblem, hseen, hl]

theorem roleProblem_eq_none_iff (routers : List Int64) (os : List Role) :
    roleProblem routers 0 [] os = none ↔
      (∀ o ∈ os, ∀ l ∈ o.limits, l.Fits routers) ∧ (os.map (·.id)).Nodup := by
  rw [scan_eq_none_iff (·.id) (fun o => ∀ l ∈ o.limits, l.Fits routers) (roleProblem routers)
    (fun _ _ => rfl) (roleProblem_cons routers)]
  simp

theorem userProblem_cons (roles : List Int64) (i : Nat) (seen : List Int64) (u : Identity)
    (us : List Identity) :
    userProblem roles i seen (u :: us) = none ↔
      u.id ∉ seen ∧ u.role ∈ roles ∧ userProblem roles (i + 1) (u.id :: seen) us = none := by
  by_cases hseen : u.id ∈ seen
  · simp [userProblem, hseen]
  · by_cases hrole : u.role ∈ roles <;> simp [userProblem, hseen, hrole]

theorem userProblem_eq_none_iff (roles : List Int64) (us : List Identity) :
    userProblem roles 0 [] us = none ↔ (∀ u ∈ us, u.role ∈ roles) ∧ (us.map (·.id)).Nodup := by
  rw [scan_eq_none_iff (·.id) (·.role ∈ roles) (userProblem roles) (fun _ _ => rfl)
    (userProblem_cons roles)]
  simp

/-- A seed whose ids are unique and whose references resolve. -/
structure WellFormed (s : Seed) : Prop where
  /-- No two routers share an id. -/
  routerIds : (s.routers.map (·.id)).Nodup
  /-- Within each router, every provider has an id and no two the same. -/
  providers : ∀ r ∈ s.routers, r.ProvidersWellFormed
  /-- No two roles share an id. -/
  roleIds : (s.roles.map (·.id)).Nodup
  /-- Every limit of every role fits the seed's routers. -/
  limits : ∀ o ∈ s.roles, ∀ l ∈ o.limits, l.Fits (s.routers.map (·.id))
  /-- No two users share an id. -/
  userIds : (s.users.map (·.id)).Nodup
  /-- Every user's role is a role of the seed. -/
  userRoles : ∀ u ∈ s.users, u.role ∈ s.roles.map (·.id)

theorem wellFormed_iff (s : Seed) :
    s.WellFormed ↔
      ((∀ r ∈ s.routers, r.ProvidersWellFormed) ∧ (s.routers.map (·.id)).Nodup) ∧
      ((∀ o ∈ s.roles, ∀ l ∈ o.limits, l.Fits (s.routers.map (·.id))) ∧
        (s.roles.map (·.id)).Nodup) ∧
      ((∀ u ∈ s.users, u.role ∈ s.roles.map (·.id)) ∧ (s.users.map (·.id)).Nodup) :=
  ⟨fun h => ⟨⟨h.providers, h.routerIds⟩, ⟨h.limits, h.roleIds⟩, ⟨h.userRoles, h.userIds⟩⟩,
    fun ⟨⟨hp, hr⟩, ⟨hl, ho⟩, ⟨hur, hu⟩⟩ => ⟨hr, hp, ho, hl, hu, hur⟩⟩

/-- The check of a seed finds no problem exactly when the seed is well formed. -/
theorem problem_eq_none_iff (s : Seed) : s.problem = none ↔ s.WellFormed := by
  rw [wellFormed_iff, ← routerProblem_eq_none_iff, ← roleProblem_eq_none_iff,
    ← userProblem_eq_none_iff]
  unfold problem
  cases routerProblem 0 [] s.routers <;> cases roleProblem (s.routers.map (·.id)) 0 [] s.roles <;>
    simp

instance : DecidablePred WellFormed := fun s => decidable_of_iff _ (problem_eq_none_iff s)

example : ¬WellFormed ⟨[], [], [⟨1, "a", "", []⟩, ⟨1, "b", "", []⟩]⟩ := by decide

/-- Well-formedness reads the routers only through their ids and providers, so it is blind to
their strategies. -/
theorem wellFormed_withDefaultStrategy (s : Seed) :
    ({ s with routers := s.routers.map Router.withDefaultStrategy } : Seed).WellFormed ↔
      s.WellFormed := by
  simp only [wellFormed_iff, List.map_map, List.forall_mem_map]
  have hids : (Router.id ∘ Router.withDefaultStrategy) = Router.id := by
    funext r; simp
  have hwf : ∀ r : Router, r.withDefaultStrategy.ProvidersWellFormed ↔ r.ProvidersWellFormed := by
    intro r; simp [Router.ProvidersWellFormed]
  simp only [hids, hwf]

section Reorders

variable {α κ : Type}

/-- `zs` holds the entries of `xs`, each changed as `R` allows, in some order. -/
def Reorders (R : α → α → Prop) (xs zs : List α) : Prop :=
  ∃ ys, List.Forall₂ R xs ys ∧ ys.Perm zs

theorem map_eq_of_forall₂ {R : α → α → Prop} {f : α → κ} (hf : ∀ a b, R a b → f a = f b)
    {xs ys : List α} (h : List.Forall₂ R xs ys) : xs.map f = ys.map f := by
  induction h with
  | nil => rfl
  | cons hab _ ih => simp [hf _ _ hab, ih]

theorem forall_mem_iff_of_forall₂ {R : α → α → Prop} {P : α → Prop}
    (hP : ∀ a b, R a b → (P a ↔ P b)) {xs ys : List α} (h : List.Forall₂ R xs ys) :
    (∀ x ∈ xs, P x) ↔ ∀ y ∈ ys, P y := by
  induction h with
  | nil => simp
  | cons hab _ ih => simp [hP _ _ hab, ih]

theorem Reorders.map_perm {R : α → α → Prop} {f : α → κ} (hf : ∀ a b, R a b → f a = f b)
    {xs zs : List α} (h : Reorders R xs zs) : (xs.map f).Perm (zs.map f) := by
  obtain ⟨ys, hxy, hyz⟩ := h
  rw [map_eq_of_forall₂ hf hxy]
  exact hyz.map f

theorem Reorders.forall_mem_iff {R : α → α → Prop} {P : α → Prop}
    (hP : ∀ a b, R a b → (P a ↔ P b)) {xs zs : List α} (h : Reorders R xs zs) :
    (∀ x ∈ xs, P x) ↔ ∀ z ∈ zs, P z := by
  obtain ⟨ys, hxy, hyz⟩ := h
  rw [forall_mem_iff_of_forall₂ hP hxy]
  simp only [hyz.mem_iff]

end Reorders

/-- Two routers that differ at most in the order of their providers. -/
def RouterReordered (r r' : Router) : Prop :=
  r.id = r'.id ∧ r.name = r'.name ∧ r.strategy = r'.strategy ∧ r.providers.Perm r'.providers

/-- Two roles that differ at most in the order of their permissions and of their limits. -/
def RoleReordered (o o' : Role) : Prop :=
  o.id = o'.id ∧ o.name = o'.name ∧ o.permissions.Perm o'.permissions ∧ o.limits.Perm o'.limits

/-- Two seeds with the same entries, every list of them (routers, the providers of each,
roles, the permissions and limits of each, users) possibly in another order. -/
structure Reordered (s t : Seed) : Prop where
  /-- The routers, each with its providers reordered. -/
  routers : Reorders RouterReordered s.routers t.routers
  /-- The roles, each with its permissions and limits reordered. -/
  roles : Reorders RoleReordered s.roles t.roles
  /-- The users. -/
  users : s.users.Perm t.users

theorem providersWellFormed_of_reordered {r r' : Router} (h : RouterReordered r r') :
    r.ProvidersWellFormed ↔ r'.ProvidersWellFormed := by
  obtain ⟨-, -, -, hp⟩ := h
  unfold Router.ProvidersWellFormed
  rw [(hp.map (·.id)).nodup_iff]
  simp only [hp.mem_iff]

/-- Whether a seed is well formed does not depend on the order of any of its lists. -/
theorem wellFormed_iff_of_reordered {s t : Seed} (h : s.Reordered t) :
    s.WellFormed ↔ t.WellFormed := by
  have hrouters : (s.routers.map (·.id)).Perm (t.routers.map (·.id)) :=
    h.routers.map_perm fun _ _ hr => hr.1
  have hroles : (s.roles.map (·.id)).Perm (t.roles.map (·.id)) :=
    h.roles.map_perm fun _ _ ho => ho.1
  have hfits : ∀ l : Limit, l.Fits (s.routers.map (·.id)) ↔ l.Fits (t.routers.map (·.id)) := by
    intro l
    simp only [Limit.fits_iff, hrouters.mem_iff]
  have hlimits : ∀ o o' : Role, RoleReordered o o' →
      ((∀ l ∈ o.limits, l.Fits (t.routers.map (·.id))) ↔
        ∀ l ∈ o'.limits, l.Fits (t.routers.map (·.id))) := by
    rintro o o' ⟨-, -, -, hl⟩
    simp only [hl.mem_iff]
  rw [wellFormed_iff, wellFormed_iff]
  simp only [hfits]
  rw [hrouters.nodup_iff, hroles.nodup_iff,
    (h.users.map (·.id)).nodup_iff,
    h.routers.forall_mem_iff fun _ _ hr => providersWellFormed_of_reordered hr,
    h.roles.forall_mem_iff hlimits]
  simp only [hroles.mem_iff, h.users.mem_iff]

theorem normalize_eq_ok_iff : ∀ (i : Nat) (rs rs' : List Router),
    normalize i rs = .ok rs' ↔
      (∀ r ∈ rs, Strategy.Known r.strategy) ∧ rs' = rs.map Router.withDefaultStrategy
  | _, [], rs' => by
    simp only [normalize, Except.ok.injEq, List.not_mem_nil, false_imp_iff, implies_true,
      List.map_nil, true_and]
    exact eq_comm
  | i, r :: rs, rs' => by
    have ih := normalize_eq_ok_iff (i + 1) rs
    have hknown := Strategy.parse_ok_iff r.strategy
    simp only [normalize, List.forall_mem_cons, List.map_cons]
    cases hp : Strategy.parse r.strategy with
    | error f =>
      have : ¬Strategy.Known r.strategy := fun hk => by
        obtain ⟨k, hk⟩ := hknown.2 hk
        simp [hp] at hk
      simp [this]
    | ok k =>
      have hk : Strategy.Known r.strategy := hknown.1 ⟨k, hp⟩
      have hname := (Router.withDefaultStrategy_of_parse hp).symm
      cases hn : normalize (i + 1) rs with
      | error e =>
        have : ¬∀ x ∈ rs, Strategy.Known x.strategy := fun hall => by
          have := (ih (rs.map Router.withDefaultStrategy)).2 ⟨hall, rfl⟩
          simp [hn] at this
        simp [this]
      | ok rs0 =>
        obtain ⟨hall, rfl⟩ := (ih rs0).1 hn
        simp only [Except.ok.injEq, hname]
        exact ⟨fun h => ⟨⟨hk, hall⟩, h.symm⟩, fun h => h.2.symm⟩

/-- Once its YAML decodes, reading a seed succeeds exactly when the strategies normalise and
the normalised seed has no problem. -/
theorem parse_eq_ok_iff_of_read {lookup : String → String} {text : String} {s : Seed}
    (hread : Yaml.readDocument decoder empty (Expand.expand lookup text) = .ok s) (t : Seed) :
    parse lookup text = .ok t ↔
      ∃ rs, normalize 0 s.routers = .ok rs ∧ ({ s with routers := rs } : Seed).problem = none ∧
        t = { s with routers := rs } := by
  unfold parse
  simp only
  rw [hread]
  simp only
  split
  · rename_i e hn
    simp [hn]
  · rename_i rs hn
    split
    · rename_i m hp
      simp [hn, hp]
    · rename_i hp
      simp [hn, hp, eq_comm]

/-- A seed that reads is well formed, and each of its routers names its strategy. -/
theorem wellFormed_of_parse {lookup : String → String} {text : String} {s : Seed}
    (h : parse lookup text = .ok s) :
    s.WellFormed ∧ ∀ r ∈ s.routers, ∃ k : Strategy, Strategy.parse r.strategy = .ok k ∧
      r.strategy = k.name := by
  cases hread : Yaml.readDocument decoder empty (Expand.expand lookup text) with
  | error e =>
    unfold parse at h
    simp only at h
    rw [hread] at h
    cases e <;> simp at h
  | ok d =>
    obtain ⟨rs, hn, hp, rfl⟩ := (parse_eq_ok_iff_of_read hread s).1 h
    obtain ⟨hall, rfl⟩ := (normalize_eq_ok_iff 0 d.routers rs).1 hn
    refine ⟨(problem_eq_none_iff _).1 hp, ?_⟩
    simp only [List.mem_map]
    rintro _ ⟨r, hr, rfl⟩
    obtain ⟨k, hk⟩ := (Strategy.parse_ok_iff r.strategy).2 (hall r hr)
    have hname : r.withDefaultStrategy.strategy = k.name := by
      rw [Router.withDefaultStrategy_of_parse hk]
    exact ⟨k, by rw [hname, Strategy.parse_name], hname⟩

/-- Reading a seed whose YAML decodes to `s` succeeds exactly when every router's strategy is
known and `s` is well formed, and then gives `s` with every empty strategy read as shuffle.
The check decides well-formedness for every seed, whatever the order of its lists. -/
theorem seed_validation_decides (lookup : String → String) (text : String) (s : Seed)
    (hread : Yaml.readDocument decoder empty (Expand.expand lookup text) = .ok s) :
    (∀ t, parse lookup text = .ok t ↔
      (∀ r ∈ s.routers, Strategy.Known r.strategy) ∧ s.WellFormed ∧
        t = { s with routers := s.routers.map Router.withDefaultStrategy }) ∧
    (∀ t : Seed, t.problem = none ↔ t.WellFormed) ∧
    (∀ t u : Seed, t.Reordered u → (t.problem = none ↔ u.problem = none)) := by
  refine ⟨fun t => ?_, problem_eq_none_iff, fun t u h => ?_⟩
  · rw [parse_eq_ok_iff_of_read hread]
    constructor
    · rintro ⟨rs, hn, hp, rfl⟩
      obtain ⟨hall, rfl⟩ := (normalize_eq_ok_iff 0 s.routers rs).1 hn
      exact ⟨hall, (wellFormed_withDefaultStrategy s).1 ((problem_eq_none_iff _).1 hp), rfl⟩
    · rintro ⟨hall, hwf, rfl⟩
      exact ⟨_, (normalize_eq_ok_iff 0 s.routers _).2 ⟨hall, rfl⟩,
        (problem_eq_none_iff _).2 ((wellFormed_withDefaultStrategy s).2 hwf), rfl⟩
  · rw [problem_eq_none_iff, problem_eq_none_iff]
    exact wellFormed_iff_of_reordered h

/-- Whether an answer is the seed `s`, as a Boolean the kernel can evaluate: answers have no
decidable equality, but the lists of a seed do. -/
def answers {ε : Type} (r : Except ε Seed) (s : Seed) : Bool :=
  match r with
  | .ok d => decide (d.roles = s.roles ∧ d.users = s.users ∧ d.routers = s.routers)
  | .error _ => false

theorem eq_ok_of_answers {ε : Type} {r : Except ε Seed} {s : Seed} (h : answers r s = true) :
    r = .ok s := by
  cases r with
  | error e => simp [answers] at h
  | ok d =>
    obtain ⟨roles, users, routers⟩ := d
    obtain ⟨rfl, rfl, rfl⟩ := of_decide_eq_true h
    rfl

/-- The text `{users: [{id: 3}]}` decodes to one user of role 0, a role the seed lacks. -/
theorem seed_validation_decides_on_lone_user :
    let s : Seed := ⟨[], [⟨3, 0, 0, none⟩], []⟩
    Yaml.readDocument decoder empty (Expand.expand (fun _ => "") "{users: [{id: 3}]}") = .ok s ∧
    (∀ t, parse (fun _ => "") "{users: [{id: 3}]}" = .ok t ↔
      (∀ r ∈ s.routers, Strategy.Known r.strategy) ∧ s.WellFormed ∧
        t = { s with routers := s.routers.map Router.withDefaultStrategy }) ∧
    (∀ t : Seed, t.problem = none ↔ t.WellFormed) ∧
    (∀ t u : Seed, t.Reordered u → (t.problem = none ↔ u.problem = none)) := by
  intro s
  have hread : Yaml.readDocument decoder empty (Expand.expand (fun _ => "")
      "{users: [{id: 3}]}") = .ok s :=
    eq_ok_of_answers (by decide +kernel)
  exact ⟨hread, seed_validation_decides _ _ _ hread⟩

end Seed

end Directory

end Admission
