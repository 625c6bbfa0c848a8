import Admission.Proofs.SeededCatalog
import Admission.Directory.Tables

/-!
# Round trips through the database tables

A database reached by the directory's own calls (`Database.Reachable`: applying the schema,
writing routers, roles and users, advancing offsets, closing) keeps the foreign keys of its
schema that the round trips need (`Tables.Linked`): every provider row names a router of the
tables and every limit row a role. Each write keeps them (one lemma per write), so every
reachable database has them.

On such a database, with the schema applied and the connection open:

* a router that was written reads back with its name, its providers in the order given
  (their ids, models and quality-of-service settings, without measurements) and its strategy,
  an empty one read as shuffle; its rotation offset then counts the requests for it. The write
  stores any strategy text without reading it, so a router written with an unknown strategy
  fails every read, naming the router and the text (`router_round_trip`);
* a role whose limits name routers of the tables is written exactly when its id and name are
  new, every limit has a known type and no negative value, and no two limits share a router
  and a type; it then reads back with its permissions in order and its limits ordered by
  router and type (`role_round_trip`);
* a refused write leaves the database as it was, so a new id is still not found.
-/

namespace Admission

/-- The router and type that identify a limit within its role. -/
def Limit.key (l : Limit) : Int64 × LimitType := (l.router, l.type)

/-- The order a role's limits are read back in: by router, then by the type's name. -/
def Limit.Before (l m : Limit) : Prop :=
  l.router < m.router ∨ (l.router = m.router ∧ l.type.name < m.type.name)

theorem Limit.Before.trans {a b c : Limit} (hab : a.Before b) (hbc : b.Before c) : a.Before c := by
  unfold Limit.Before at *
  rcases hab with hab | ⟨hab, hab'⟩ <;> rcases hbc with hbc | ⟨hbc, hbc'⟩
  · exact .inl (Int64.lt_trans hab hbc)
  · exact .inl (hbc ▸ hab)
  · exact .inl (hab ▸ hbc)
  · exact .inr ⟨hab.trans hbc, String.lt_trans hab' hbc'⟩

/-- Two limits with different keys are ordered one way or the other. -/
theorem Limit.before_of_not_before {l m : Limit} (h : ¬l.Before m) (hkey : m.key ≠ l.key) :
    m.Before l := by
  unfold Limit.Before at *
  simp only [not_or, not_and] at h
  by_cases hr : m.router = l.router
  · have htype : m.type.name ≠ l.type.name := fun hn =>
      hkey (by
        have htype : m.type = l.type := congrArg LimitType.mk hn
        simp [Limit.key, hr, htype])
    exact .inr ⟨hr, Std.lt_of_le_of_ne (String.not_lt.1 (h.2 hr.symm)) htype⟩
  · have hle := Int64.not_lt.1 h.1
    exact .inl ((Int64.lt_or_eq_of_le hle).resolve_right hr)

namespace Directory

namespace Tables

/-- The foreign keys these round trips need: every provider row names a router of the tables,
and every limit row a role. -/
structure Linked (t : Tables) : Prop where
  /-- Each provider row names a router. -/
  providers : ∀ p ∈ t.providers, p.router ∈ t.routers.map (·.id)
  /-- Each limit row names a role. -/
  limits : ∀ l ∈ t.limits, l.role ∈ t.roles.map (·.id)

theorem linked_empty : empty.Linked := ⟨by simp [empty], by simp [empty]⟩

/-- The provider rows of a pool, placed from `i` on. -/
def providerRows (id : Int64) : Nat → List Provider → List ProviderRow
  | _, [] => []
  | i, p :: ps => ⟨p.id, id, i, { p with signals := Signals.none }⟩ :: providerRows id (i + 1) ps

/-- The strategy text a router row keeps: the router's own, an empty one as shuffle. -/
def storedStrategy (r : Router) : String :=
  if r.strategy.isEmpty then Strategy.shuffle.name else r.strategy

theorem insertRouter_go_eq_ok (r : Router) : ∀ (ps : List Provider) (t t' : Tables) (i : Nat),
    insertRouter.go r t i ps = .ok t' →
      t' = { t with providers := t.providers ++ providerRows r.id i ps }
  | [], t, t', i, h => by
    simp only [insertRouter.go, Except.ok.injEq] at h
    simp [h, providerRows]
  | p :: ps, t, t', i, h => by
    simp only [insertRouter.go] at h
    split at h
    · cases h
    · rw [insertRouter_go_eq_ok r ps _ t' (i + 1) h]
      simp [providerRows]

/-- A router is written only under a new id, with its row and its provider rows appended. -/
theorem insertRouter_eq_ok {t t' : Tables} {r : Router} (h : t.insertRouter r = .ok t') :
    r.id ∉ t.routers.map (·.id) ∧
      t' = { t with
        routers := t.routers ++ [⟨r.id, r.name, storedStrategy r, 0⟩]
        providers := t.providers ++ providerRows r.id 0 r.providers } := by
  unfold insertRouter at h
  split at h
  · cases h
  · rename_i hnew
    refine ⟨fun hmem => hnew ?_, ?_⟩
    · obtain ⟨x, hx, hid⟩ := List.mem_map.1 hmem
      exact List.any_eq_true.2 ⟨x, hx, by simp [hid]⟩
    · rw [insertRouter_go_eq_ok r _ _ t' 0 h]
      rfl

theorem mem_providerRows {id : Int64} : ∀ {i : Nat} {ps : List Provider} {q : ProviderRow},
    q ∈ providerRows id i ps → q.router = id
  | _, [], _, hq => absurd hq List.not_mem_nil
  | i, p :: ps, q, hq => by
    rcases List.mem_cons.1 hq with rfl | hq
    · rfl
    · exact mem_providerRows hq

theorem Linked.insertRouter {t t' : Tables} {r : Router} (hl : t.Linked)
    (h : t.insertRouter r = .ok t') : t'.Linked := by
  obtain ⟨-, rfl⟩ := insertRouter_eq_ok h
  constructor
  · intro q hq
    rcases List.mem_append.1 hq with hq | hq
    · exact List.map_append ▸ List.mem_append_left _ (hl.providers q hq)
    · rw [mem_providerRows hq]
      simp
  · exact hl.limits

theorem limitFits_iff (t : Tables) (role : Int64) (l : Limit) :
    t.limitFits role l = true ↔
      l.type ∈ LimitType.all ∧ (∀ v ∈ l.value, 0 ≤ v) ∧ l.router ∈ t.routers.map (·.id) ∧
        role ∈ t.roles.map (·.id) ∧ ∀ m ∈ t.limits, m.role = role → m.limit.key ≠ l.key := by
  have hvalue : (l.value.map (fun v => decide (0 ≤ v))).getD true = true ↔ ∀ v ∈ l.value, 0 ≤ v := by
    cases l.value <;> simp
  simp only [limitFits, Bool.and_eq_true, Bool.not_eq_true', List.any_eq_false, hvalue,
    LimitType.valid, List.contains_iff_mem, List.any_eq_true, beq_iff_eq, List.mem_map,
    Limit.key, ne_eq, Prod.mk.injEq, not_and, and_assoc]

/-- Writing a role's limits one by one, each refused unless it fits, succeeds exactly when every
limit fits the tables as they were and no two share a router and a type; the limit rows are
then appended in order. -/
theorem insertLimits_eq_ok_iff (role : Int64) : ∀ (ls : List Limit) (t t' : Tables),
    role ∈ t.roles.map (·.id) →
    (ls.foldlM (fun t l => if t.limitFits role l then Except.ok { t with limits := t.limits ++ [⟨role, l⟩] }
      else Except.error true) t = .ok t' ↔
      (∀ l ∈ ls, l.type ∈ LimitType.all ∧ (∀ v ∈ l.value, 0 ≤ v) ∧
        l.router ∈ t.routers.map (·.id) ∧ ∀ m ∈ t.limits, m.role = role → m.limit.key ≠ l.key) ∧
      (ls.map Limit.key).Nodup ∧ t' = { t with limits := t.limits ++ ls.map (⟨role, ·⟩) })
  | [], t, t', _ => by
    simp only [List.foldlM_nil, pure, Except.pure, Except.ok.injEq, List.not_mem_nil,
      false_imp_iff, implies_true, List.map_nil, List.nodup_nil, List.append_nil, true_and]
    constructor <;> rintro rfl <;> rfl
  | l :: ls, t, t', hrole => by
    rw [List.foldlM_cons]
    by_cases hfit : t.limitFits role l = true
    · have hl := (limitFits_iff t role l).1 hfit
      have ih := insertLimits_eq_ok_iff role ls { t with limits := t.limits ++ [⟨role, l⟩] } t' hrole
      simp only [hfit, if_true]
      refine ih.trans ?_
      have hclash : ∀ x : Limit, (∀ m ∈ t.limits ++ [⟨role, l⟩], m.role = role → m.limit.key ≠ x.key) ↔
          (∀ m ∈ t.limits, m.role = role → m.limit.key ≠ x.key) ∧ l.key ≠ x.key := by
        intro x
        simp [or_imp, forall_and]
      have hfresh : l.key ∉ ls.map Limit.key ↔ ∀ x ∈ ls, l.key ≠ x.key := by
        simp [List.mem_map, eq_comm]
      simp only [hclash, List.forall_mem_cons, List.map_cons, List.nodup_cons, hfresh,
        List.append_assoc, List.singleton_append]
      constructor
      · rintro ⟨hls, hnodup, rfl⟩
        exact ⟨⟨⟨hl.1, hl.2.1, hl.2.2.1, hl.2.2.2.2⟩, fun x hx => ⟨(hls x hx).1, (hls x hx).2.1,
          (hls x hx).2.2.1, (hls x hx).2.2.2.1⟩⟩, ⟨fun x hx => (hls x hx).2.2.2.2, hnodup⟩, rfl⟩
      · rintro ⟨⟨-, hls⟩, ⟨hfresh, hnodup⟩, rfl⟩
        exact ⟨fun x hx => ⟨(hls x hx).1, (hls x hx).2.1, (hls x hx).2.2.1, (hls x hx).2.2.2,
          hfresh x hx⟩, hnodup, rfl⟩
    · have hbad : ¬(l.type ∈ LimitType.all ∧ (∀ v ∈ l.value, 0 ≤ v) ∧
          l.router ∈ t.routers.map (·.id) ∧ ∀ m ∈ t.limits, m.role = role → m.limit.key ≠ l.key) :=
        fun h => hfit ((limitFits_iff t role l).2 ⟨h.1, h.2.1, h.2.2.1, hrole, h.2.2.2⟩)
      simp only [hfit, Bool.false_eq_true, if_false]
      exact iff_of_false (by simp [bind, Except.bind]) (fun h => hbad (h.1 l List.mem_cons_self))

/-- A role is written exactly when its id and name are new and its limits fit, and then its row
and its limit rows are appended. -/
theorem insertRole_eq_ok_iff {t t' : Tables} {o : Role} :
    t.insertRole o = .ok t' ↔
      o.id ∉ t.roles.map (·.id) ∧ o.name ∉ t.roles.map (·.name) ∧
      (∀ l ∈ o.limits, l.type ∈ LimitType.all ∧ (∀ v ∈ l.value, 0 ≤ v) ∧
        l.router ∈ t.routers.map (·.id) ∧ ∀ m ∈ t.limits, m.role = o.id → m.limit.key ≠ l.key) ∧
      (o.limits.map Limit.key).Nodup ∧
      t' = { t with
        roles := t.roles ++ [⟨o.id, o.name, o.permissions⟩]
        limits := t.limits ++ o.limits.map (⟨o.id, ·⟩) } := by
  have hnew : t.roles.any (fun x => x.id == o.id || x.name == o.name) = false ↔
      o.id ∉ t.roles.map (·.id) ∧ o.name ∉ t.roles.map (·.name) := by
    simp only [List.any_eq_false, Bool.or_eq_true, beq_iff_eq, not_or, List.mem_map, not_exists,
      not_and]
    exact ⟨fun h => ⟨fun x hx => (h x hx).1, fun x hx => (h x hx).2⟩,
      fun h x hx => ⟨h.1 x hx, h.2 x hx⟩⟩
  unfold insertRole
  by_cases htaken : t.roles.any (fun x => x.id == o.id || x.name == o.name) = true
  · simp only [htaken, if_true]
    have hnot : ¬(o.id ∉ t.roles.map (·.id) ∧ o.name ∉ t.roles.map (·.name)) := fun hf => by
      simp [hnew.2 hf] at htaken
    exact iff_of_false (by simp) (fun h => hnot ⟨h.1, h.2.1⟩)
  · have hfree := hnew.1 (by simpa using htaken)
    simp only [htaken, Bool.false_eq_true, if_false]
    rw [insertLimits_eq_ok_iff o.id o.limits _ t' (by simp)]
    simp only [hfree, not_false_eq_true, true_and]

theorem Linked.insertRole {t t' : Tables} {o : Role} (hl : t.Linked)
    (h : t.insertRole o = .ok t') : t'.Linked := by
  obtain ⟨-, -, -, -, rfl⟩ := insertRole_eq_ok_iff.1 h
  constructor
  · exact hl.providers
  · intro m hm
    rcases List.mem_append.1 hm with hm | hm
    · exact List.map_append ▸ List.mem_append_left _ (hl.limits m hm)
    · obtain ⟨l, -, rfl⟩ := List.mem_map.1 hm
      simp

theorem Linked.insertUser {t t' : Tables} {u : Identity} (hl : t.Linked)
    (h : t.insertUser u = some t') : t'.Linked := by
  unfold Tables.insertUser at h
  split at h
  · cases h
  · cases h
    exact ⟨hl.providers, hl.limits⟩

/-- Advancing a router's offset keeps every router's id. -/
theorem Linked.advanceOffset {t : Tables} (hl : t.Linked) (id : Int64) :
    ({ t with routers := t.routers.map fun r =>
      if r.id == id then { r with offset := r.offset + 1 } else r } : Tables).Linked := by
  have hids : (t.routers.map fun r => if r.id == id then { r with offset := r.offset + 1 } else r).map
      (·.id) = t.routers.map (·.id) := by
    simp only [List.map_map]
    congr 1
    funext r
    simp only [Function.comp_apply]
    split <;> rfl
  exact ⟨fun p hp => hids ▸ hl.providers p hp, hl.limits⟩

/-- A known strategy is stored as a text that reads back, an empty one as shuffle. -/
theorem storedStrategy_parse_of_known {rt : Router} (h : Strategy.Known rt.strategy) :
    ∃ k, Strategy.parse (storedStrategy rt) = .ok k ∧
      k.name = if rt.strategy = "" then "shuffle" else rt.strategy := by
  unfold storedStrategy
  by_cases hempty : rt.strategy = ""
  · exact ⟨.shuffle, by simp [hempty], by simp [hempty, Strategy.name]⟩
  · obtain ⟨k, hk⟩ := (Strategy.parse_ok_iff rt.strategy).2 h
    refine ⟨k, by simpa [hempty] using hk, ?_⟩
    rw [Strategy.name_of_parse hk]

/-- An unknown strategy is stored as given, and reading it back fails. -/
theorem storedStrategy_parse_of_not_known {rt : Router} (h : ¬Strategy.Known rt.strategy) :
    Strategy.parse (storedStrategy rt) =
      .error (.text ("unknown routing strategy " ++ Text.quote rt.strategy)) := by
  unfold Strategy.Known at h
  simp only [not_or] at h
  simp [storedStrategy, Strategy.parse, h.1, h.2.1, h.2.2.1, h.2.2.2]

/-- The rotation offset a router's row holds, if the router has one. -/
def offsetOf (t : Tables) (R : Int64) : Option Int64 :=
  (t.routers.find? (·.id == R)).map (·.offset)

/-- Advancing one router's offset moves only its own. -/
theorem offsetOf_advance (t : Tables) (id R : Int64) :
    ({ t with routers := t.routers.map fun r =>
      if r.id == id then { r with offset := r.offset + 1 } else r } : Tables).offsetOf R =
      if id = R then (t.offsetOf R).map (· + 1) else t.offsetOf R := by
  unfold offsetOf
  rw [List.find?_map]
  have hsame : ((fun r : RouterRow => r.id == R) ∘ fun r =>
      if r.id == id then { r with offset := r.offset + 1 } else r) = fun r => r.id == R := by
    funext r
    simp only [Function.comp_apply]
    split <;> rfl
  rw [hsame]
  cases hf : t.routers.find? (·.id == R) with
  | none => simp
  | some row =>
    have hrow : row.id = R := by simpa using List.find?_some hf
    by_cases hid : id = R
    · simp [hid, hrow]
    · have : ¬row.id = id := fun h => hid (h ▸ hrow)
      simp [hid, this]

/-- Providers placed one after another are already in the order of their places. -/
theorem foldr_insertByPosition_providerRows (id : Int64) :
    ∀ (i : Nat) (ps : List Provider),
      (providerRows id i ps).foldr insertByPosition [] = providerRows id i ps
  | _, [] => rfl
  | i, p :: ps => by
    rw [providerRows, List.foldr_cons, foldr_insertByPosition_providerRows id (i + 1) ps]
    cases ps with
    | nil => rfl
    | cons q qs => simp [providerRows, insertByPosition]

theorem providerRows_provider (id : Int64) :
    ∀ (i : Nat) (ps : List Provider),
      (providerRows id i ps).map (·.provider) = ps.map fun p => { p with signals := Signals.none }
  | _, [] => rfl
  | i, p :: ps => by simp [providerRows, providerRows_provider id (i + 1) ps]

theorem insertByRouter_perm (l : Limit) : ∀ ms : List Limit, (insertByRouter l ms).Perm (l :: ms)
  | [] => .refl _
  | m :: ms => by
    unfold insertByRouter
    split
    · exact .refl _
    · exact ((insertByRouter_perm l ms).cons m).trans (.swap l m ms)

theorem insertByRouter_pairwise (l : Limit) :
    ∀ ms : List Limit, (∀ m ∈ ms, m.key ≠ l.key) → ms.Pairwise Limit.Before →
      (insertByRouter l ms).Pairwise Limit.Before
  | [], _, _ => List.pairwise_singleton _ _
  | m :: ms, hkey, hsorted => by
    obtain ⟨hm, hms⟩ := List.pairwise_cons.1 hsorted
    unfold insertByRouter
    split
    · rename_i hlm
      have hlm : l.Before m := by simpa [Limit.Before] using hlm
      refine List.pairwise_cons.2 ⟨fun x hx => ?_, hsorted⟩
      rcases List.mem_cons.1 hx with rfl | hx
      · exact hlm
      · exact hlm.trans (hm x hx)
    · rename_i hlm
      have hml : m.Before l := Limit.before_of_not_before (by simpa [Limit.Before] using hlm)
        (hkey m List.mem_cons_self)
      refine List.pairwise_cons.2 ⟨fun x hx => ?_, insertByRouter_pairwise l ms
        (fun x hx => hkey x (List.mem_cons_of_mem m hx)) hms⟩
      rcases List.mem_cons.1 ((insertByRouter_perm l ms).mem_iff.1 hx) with rfl | hx
      · exact hml
      · exact hm x hx

/-- Inserting limits one by one keeps them all. -/
theorem foldr_insertByRouter_perm : ∀ ls : List Limit, (ls.foldr insertByRouter []).Perm ls
  | [] => .refl _
  | l :: ls => (insertByRouter_perm l _).trans ((foldr_insertByRouter_perm ls).cons l)

/-- Inserting limits with distinct keys one by one orders them by router, then type. -/
theorem foldr_insertByRouter_pairwise :
    ∀ ls : List Limit, (ls.map Limit.key).Nodup → (ls.foldr insertByRouter []).Pairwise Limit.Before
  | [], _ => List.Pairwise.nil
  | l :: ls, hnodup => by
    rw [List.map_cons, List.nodup_cons] at hnodup
    refine insertByRouter_pairwise l _ (fun m hm hkey => hnodup.1 ?_)
      (foldr_insertByRouter_pairwise ls hnodup.2)
    exact hkey ▸ List.mem_map_of_mem ((foldr_insertByRouter_perm ls).mem_iff.1 hm)

end Tables

namespace Database

/-- The databases the directory's own calls reach from a fresh one: applying the schema,
writing routers, roles and users, advancing rotation offsets and closing. Reads change
nothing. -/
inductive Reachable : Database → Prop
  | fresh : Reachable fresh
  | ensureSchema {db : Database} : Reachable db → Reachable db.ensureSchema.2
  | createRouter {db : Database} (r : Router) : Reachable db → Reachable (db.createRouter r).2
  | createRole {db : Database} (o : Role) : Reachable db → Reachable (db.createRole o).2
  | createUser {db : Database} (u : Identity) : Reachable db → Reachable (db.createUser u).2
  | nextOffset {db : Database} (id : Int64) : Reachable db → Reachable (db.nextOffset id).2
  | close {db : Database} : Reachable db → Reachable db.close

/-- A router write fails and changes nothing, or stores the tables the insert gives. -/
theorem createRouter_cases (db : Database) (r : Router) :
    (∃ f, db.createRouter r = (.error f, db)) ∨
      ∃ t t', db.closed = false ∧ db.tables = some t ∧ t.insertRouter r = .ok t' ∧
        db.createRouter r = (.ok (), { db with tables := some t' }) := by
  unfold createRouter use
  by_cases hc : db.closed = true
  · simp [hc]
  · cases ht : db.tables with
    | none => simp [hc]
    | some t =>
      cases hi : t.insertRouter r with
      | ok t' => exact .inr ⟨t, t', by simpa using hc, rfl, hi, by simp [hc, hi]⟩
      | error e => cases e <;> simp [hc, hi]

/-- A role write fails and changes nothing, or stores the tables the insert gives. -/
theorem createRole_cases (db : Database) (o : Role) :
    (∃ f, db.createRole o = (.error f, db)) ∨
      ∃ t t', db.closed = false ∧ db.tables = some t ∧ t.insertRole o = .ok t' ∧
        db.createRole o = (.ok (), { db with tables := some t' }) := by
  unfold createRole use
  by_cases hc : db.closed = true
  · simp [hc]
  · cases ht : db.tables with
    | none => simp [hc]
    | some t =>
      cases hi : t.insertRole o with
      | ok t' => exact .inr ⟨t, t', by simpa using hc, rfl, hi, by simp [hc, hi]⟩
      | error e => cases e <;> simp [hc, hi]

/-- A user write fails and changes nothing, or stores the tables the insert gives. -/
theorem createUser_cases (db : Database) (u : Identity) :
    (∃ f, db.createUser u = (.error f, db)) ∨
      ∃ t t', db.tables = some t ∧ t.insertUser u = some t' ∧
        db.createUser u = (.ok (), { db with tables := some t' }) := by
  unfold createUser use
  by_cases hc : db.closed = true
  · simp [hc]
  · cases ht : db.tables with
    | none => simp [hc]
    | some t =>
      cases hi : t.insertUser u with
      | some t' => exact .inr ⟨t, t', rfl, hi, by simp [hc, hi]⟩
      | none => simp [hc, hi]

/-- A request for an offset fails and changes nothing, or advances the router's row. -/
theorem nextOffset_cases (db : Database) (id : Int64) :
    (db.nextOffset id).2 = db ∨
      ∃ t, db.tables = some t ∧ (db.nextOffset id).2 = { db with tables := some { t with
        routers := t.routers.map fun r => if r.id == id then { r with offset := r.offset + 1 } else r } } := by
  unfold nextOffset use
  by_cases hc : db.closed = true
  · simp [hc]
  · cases ht : db.tables with
    | none => simp [hc]
    | some t =>
      cases hf : t.routers.find? (·.id == id) with
      | none => simp [hc, hf]
      | some row => exact .inr ⟨t, rfl, by simp [hc, hf]⟩

/-- Every database the directory's calls reach keeps the foreign keys of its tables. -/
theorem Reachable.linked {db : Database} (h : db.Reachable) :
    ∀ t, db.tables = some t → t.Linked := by
  induction h with
  | fresh => intro t ht; cases ht
  | @ensureSchema db _ ih =>
    intro t ht
    unfold Database.ensureSchema at ht
    split at ht
    · exact ih t ht
    · cases hdb : db.tables with
      | none => simp only [hdb, Option.getD_none, Option.some.injEq] at ht; exact ht ▸ Tables.linked_empty
      | some t₀ => simp only [hdb, Option.getD_some, Option.some.injEq] at ht; exact ht ▸ ih t₀ hdb
  | @createRouter db r _ ih =>
    intro t ht
    rcases createRouter_cases db r with ⟨f, hw⟩ | ⟨t₀, t', -, h₀, hi, hw⟩
    · rw [hw] at ht; exact ih t ht
    · rw [hw] at ht
      cases ht
      exact (ih t₀ h₀).insertRouter hi
  | @createRole db o _ ih =>
    intro t ht
    rcases createRole_cases db o with ⟨f, hw⟩ | ⟨t₀, t', -, h₀, hi, hw⟩
    · rw [hw] at ht; exact ih t ht
    · rw [hw] at ht
      cases ht
      exact (ih t₀ h₀).insertRole hi
  | @createUser db u _ ih =>
    intro t ht
    rcases createUser_cases db u with ⟨f, hw⟩ | ⟨t₀, t', h₀, hi, hw⟩
    · rw [hw] at ht; exact ih t ht
    · rw [hw] at ht
      cases ht
      exact (ih t₀ h₀).insertUser hi
  | @nextOffset db id _ ih =>
    intro t ht
    rcases nextOffset_cases db id with hw | ⟨t₀, h₀, hw⟩
    · rw [hw] at ht; exact ih t ht
    · rw [hw] at ht
      cases ht
      exact (ih t₀ h₀).advanceOffset id
  | close _ ih => exact ih

/-- The database after a run of rotation-offset requests, answered or not. -/
def advance (db : Database) (ids : List Int64) : Database :=
  ids.foldl (fun db id => (db.nextOffset id).2) db

/-- On an open database with its tables, a request answers the router's offset, or not found,
and advances that offset alone. -/
theorem nextOffset_step {db : Database} {t : Tables} (hopen : db.closed = false)
    (ht : db.tables = some t) (id : Int64) :
    (db.nextOffset id).1 = (t.offsetOf id).elim (.error (.sentinel .routerNotFound)) .ok ∧
      (db.nextOffset id).2.closed = false ∧
      ∃ t₁, (db.nextOffset id).2.tables = some t₁ ∧
        ∀ R, t₁.offsetOf R = if id = R then (t.offsetOf R).map (· + 1) else t.offsetOf R := by
  unfold nextOffset use
  simp only [hopen, Bool.false_eq_true, if_false, ht]
  cases hf : t.routers.find? (·.id == id) with
  | none =>
    have hnone : t.offsetOf id = none := by simp [Tables.offsetOf, hf]
    refine ⟨by simp [hnone], hopen, t, ht, fun R => ?_⟩
    by_cases hid : id = R
    · subst hid; simp [hnone]
    · simp [hid]
  | some row =>
    have hsome : t.offsetOf id = some row.offset := by simp [Tables.offsetOf, hf]
    exact ⟨by simp [hsome], rfl, _, rfl, Tables.offsetOf_advance t id⟩

/-- Along a run on an open database with its tables, each router's offset grows by the number
of requests for it. -/
theorem advance_offsetOf : ∀ (ids : List Int64) {db : Database} {t : Tables},
    db.closed = false → db.tables = some t →
      ∃ t', (db.advance ids).closed = false ∧ (db.advance ids).tables = some t' ∧
        ∀ R, t'.offsetOf R = (t.offsetOf R).map (· + Int64.ofNat (ids.count R))
  | [], db, t, hopen, ht => ⟨t, hopen, ht, fun R => by simp⟩
  | id :: ids, db, t, hopen, ht => by
    obtain ⟨-, hopen₁, t₁, ht₁, hoff₁⟩ := nextOffset_step hopen ht id
    obtain ⟨t', hopen', ht', hoff'⟩ := advance_offsetOf ids hopen₁ ht₁
    refine ⟨t', hopen', ht', fun R => ?_⟩
    rw [hoff', hoff₁, List.count_cons]
    by_cases hid : id = R
    · subst hid
      cases t.offsetOf id with
      | none => simp
      | some o =>
        simp only [Option.map_some, beq_self_eq_true, if_true, Int64.ofNat_add, Option.some.injEq]
        rw [Int64.add_assoc, Int64.add_comm 1]
        simp
    · simp [hid]

/-- After any run, a request on an open database with its tables answers the router's offset
plus the number of requests for it in the run. -/
theorem nextOffset_advance_fst {db : Database} {t : Tables} (hopen : db.closed = false)
    (ht : db.tables = some t) {R o : Int64} (hR : t.offsetOf R = some o) (ids : List Int64) :
    ((db.advance ids).nextOffset R).1 = .ok (o + Int64.ofNat (ids.count R)) := by
  obtain ⟨t', hopen', ht', hoff'⟩ := advance_offsetOf ids hopen ht
  rw [(nextOffset_step hopen' ht' R).1, hoff', hR]
  rfl

/-- A write that fails leaves the database as it was. -/
theorem createRouter_snd_of_error {db : Database} {r : Router} {f : Fault}
    (h : (db.createRouter r).1 = .error f) : (db.createRouter r).2 = db := by
  rcases createRouter_cases db r with ⟨f', hw⟩ | ⟨_, _, _, _, _, hw⟩
  · rw [hw]
  · rw [hw] at h; cases h

/-- A write that succeeds stores what the insert gives. -/
theorem createRouter_of_ok {db : Database} {t : Tables} {r : Router} (ht : db.tables = some t)
    (h : (db.createRouter r).1 = .ok ()) :
    ∃ t', t.insertRouter r = .ok t' ∧ (db.createRouter r).2 = { db with tables := some t' } := by
  rcases createRouter_cases db r with ⟨f, hw⟩ | ⟨t₀, t', -, h₀, hi, hw⟩
  · rw [hw] at h; cases h
  · rw [ht, Option.some.injEq] at h₀
    subst h₀
    exact ⟨t', hi, by rw [hw]⟩

/-- On an open database with its tables, an id no router has is not found. -/
theorem router_of_not_mem {db : Database} {t : Tables} (hopen : db.closed = false)
    (ht : db.tables = some t) {id : Int64} (h : id ∉ t.routers.map (·.id)) :
    db.router id = .error (.sentinel .routerNotFound) := by
  simp [Database.router, use, hopen, ht, bind, Except.bind, find?_eq_none_of_not_mem h]

/-- A router written under a new id into tables with their foreign keys reads back as its row
says: its name, its strategy as the stored text reads, and its providers in their places. -/
theorem router_written {db : Database} {t : Tables} {rt : Router} (hl : t.Linked)
    (hnew : rt.id ∉ t.routers.map (·.id)) (hopen : db.closed = false)
    (ht : db.tables = some { t with
      routers := t.routers ++ [⟨rt.id, rt.name, Tables.storedStrategy rt, 0⟩]
      providers := t.providers ++ Tables.providerRows rt.id 0 rt.providers }) :
    (∀ k, Strategy.parse (Tables.storedStrategy rt) = .ok k → db.router rt.id =
      .ok ⟨rt.id, rt.name, k.name, rt.providers.map fun p => { p with signals := Signals.none }⟩) ∧
    (∀ f, Strategy.parse (Tables.storedStrategy rt) = .error f →
      db.router rt.id = .error (.context ("router " ++ toString rt.id.toInt) f)) := by
  have hfind : (t.routers ++ [(⟨rt.id, rt.name, Tables.storedStrategy rt, 0⟩ : RouterRow)]).find?
      (·.id == rt.id) = some ⟨rt.id, rt.name, Tables.storedStrategy rt, 0⟩ := by
    simp [List.find?_append, find?_eq_none_of_not_mem hnew]
  have hfilter : (t.providers ++ Tables.providerRows rt.id 0 rt.providers).filter
      (·.router == rt.id) = Tables.providerRows rt.id 0 rt.providers := by
    rw [List.filter_append, List.filter_eq_nil_iff.2, List.filter_eq_self.2, List.nil_append]
    · intro q hq
      simp [Tables.mem_providerRows hq]
    · intro q hq hr
      have hq' := hl.providers q hq
      rw [show q.router = rt.id by simpa using hr] at hq'
      exact hnew hq'
  constructor
  · intro k hk
    simp [Database.router, use, hopen, ht, bind, Except.bind, hfind, hk, hfilter,
      Tables.foldr_insertByPosition_providerRows, Tables.providerRows_provider]
  · intro f hf
    simp [Database.router, use, hopen, ht, bind, Except.bind, hfind, hf]

/-- On a database the directory's calls reached, with the schema applied and the connection
open: a router that is written reads back with its id, name, providers in the order given
(their ids, models and settings, without measurements) and its strategy, an empty one read as
shuffle, provided the strategy is known; the write stores an unknown strategy all the same,
and every read of the router then fails naming it and the text. Requests for the router's
offset then answer 0, 1, 2, … A write that fails leaves the database as it was, so a new id
is still not found. -/
theorem router_round_trip {db : Database} (hdb : db.Reachable) {t : Tables}
    (ht : db.tables = some t) (hopen : db.closed = false) (rt : Router) :
    ((db.createRouter rt).1 = .ok () →
      (Strategy.Known rt.strategy →
        (db.createRouter rt).2.router rt.id = .ok { rt with
          strategy := if rt.strategy = "" then "shuffle" else rt.strategy
          providers := rt.providers.map fun p => { p with signals := Signals.none } }) ∧
      (¬Strategy.Known rt.strategy →
        (db.createRouter rt).2.router rt.id = .error (.context ("router " ++ toString rt.id.toInt)
          (.text ("unknown routing strategy " ++ Text.quote rt.strategy)))) ∧
      ∀ ids : List Int64, (((db.createRouter rt).2.advance ids).nextOffset rt.id).1 =
        .ok (Int64.ofNat (ids.count rt.id))) ∧
    (∀ f, (db.createRouter rt).1 = .error f →
      (db.createRouter rt).2 = db ∧
        (rt.id ∉ t.routers.map (·.id) → db.router rt.id = .error (.sentinel .routerNotFound))) := by
  refine ⟨fun hok => ?_, fun f herr => ⟨createRouter_snd_of_error herr,
    fun hnew => router_of_not_mem hopen ht hnew⟩⟩
  obtain ⟨t', hi, hw⟩ := createRouter_of_ok ht hok
  obtain ⟨hnew, rfl⟩ := Tables.insertRouter_eq_ok hi
  have hread := router_written (hdb.linked t ht) hnew
    (show (db.createRouter rt).2.closed = false by rw [hw]; exact hopen) (by rw [hw])
  refine ⟨fun hknown => ?_, fun hunknown => ?_, fun ids => ?_⟩
  · obtain ⟨k, hk, hname⟩ := Tables.storedStrategy_parse_of_known hknown
    rw [hread.1 k hk, hname]
  · exact hread.2 _ (Tables.storedStrategy_parse_of_not_known hunknown)
  · have hzero : ({ t with
        routers := t.routers ++ [⟨rt.id, rt.name, Tables.storedStrategy rt, 0⟩]
        providers := t.providers ++ Tables.providerRows rt.id 0 rt.providers } : Tables).offsetOf
          rt.id = some 0 := by
      simp [Tables.offsetOf, List.find?_append, find?_eq_none_of_not_mem hnew]
    rw [nextOffset_advance_fst (show (db.createRouter rt).2.closed = false by rw [hw]; exact hopen)
      (by rw [hw]) hzero, Int64.zero_add]

/-- The round trip for a first router with one provider and the default strategy. -/
theorem router_round_trip_on_fresh_schema :
    let db := Database.fresh.ensureSchema.2
    let rt : Router := ⟨7, "chat", "", [⟨"a", "m", default, ⟨none, some 2⟩⟩]⟩
    db.Reachable ∧ db.tables = some Tables.empty ∧ db.closed = false ∧
    ((db.createRouter rt).1 = .ok () →
      (Strategy.Known rt.strategy →
        (db.createRouter rt).2.router rt.id = .ok { rt with
          strategy := if rt.strategy = "" then "shuffle" else rt.strategy
          providers := rt.providers.map fun p => { p with signals := Signals.none } }) ∧
      (¬Strategy.Known rt.strategy →
        (db.createRouter rt).2.router rt.id = .error (.context ("router " ++ toString rt.id.toInt)
          (.text ("unknown routing strategy " ++ Text.quote rt.strategy)))) ∧
      ∀ ids : List Int64, (((db.createRouter rt).2.advance ids).nextOffset rt.id).1 =
        .ok (Int64.ofNat (ids.count rt.id))) ∧
    (∀ f, (db.createRouter rt).1 = .error f →
      (db.createRouter rt).2 = db ∧
        (rt.id ∉ Tables.empty.routers.map (·.id) →
          db.router rt.id = .error (.sentinel .routerNotFound))) :=
  ⟨.ensureSchema .fresh, rfl, rfl, router_round_trip (.ensureSchema .fresh) rfl rfl _⟩

/-- A router written with the unknown strategy `weighted` is stored, yet every read of it
fails. -/
theorem unknown_strategy_stored_unreadable :
    let written := Database.fresh.ensureSchema.2.createRouter ⟨1, "chat", "weighted", []⟩
    written.1 = .ok () ∧
      written.2.router 1 = .error (.context "router 1" (.text "unknown routing strategy \"weighted\"")) :=
  ⟨rfl, rfl⟩

/-- A write that fails leaves the database as it was. -/
theorem createRole_snd_of_error {db : Database} {o : Role} {f : Fault}
    (h : (db.createRole o).1 = .error f) : (db.createRole o).2 = db := by
  rcases createRole_cases db o with ⟨f', hw⟩ | ⟨_, _, _, _, _, hw⟩
  · rw [hw]
  · rw [hw] at h; cases h

/-- On an open database with its tables, a role write succeeds exactly when the insert does,
and then stores what the insert gives. -/
theorem createRole_eq_ok_iff {db : Database} {t : Tables} (hopen : db.closed = false)
    (ht : db.tables = some t) (o : Role) :
    (db.createRole o).1 = .ok () ↔
      ∃ t', t.insertRole o = .ok t' ∧ (db.createRole o).2 = { db with tables := some t' } := by
  constructor
  · intro h
    rcases createRole_cases db o with ⟨f, hw⟩ | ⟨t₀, t', -, h₀, hi, hw⟩
    · rw [hw] at h; cases h
    · rw [ht, Option.some.injEq] at h₀
      subst h₀
      exact ⟨t', hi, by rw [hw]⟩
  · rintro ⟨t', hi, -⟩
    simp [createRole, use, hopen, ht, hi]

/-- On an open database with its tables, an id no role has is not found by either query. -/
theorem role_of_not_mem {db : Database} {t : Tables} (hopen : db.closed = false)
    (ht : db.tables = some t) {id : Int64} (h : id ∉ t.roles.map (·.id)) :
    db.limits id = .error (.sentinel .roleNotFound) ∧
      db.permissions id = .error (.sentinel .roleNotFound) := by
  constructor
  · simp [Database.limits, use, hopen, ht, bind, Except.bind, any_eq_false_of_not_mem h]
  · simp [Database.permissions, use, hopen, ht, bind, Except.bind,
      find?_eq_none_of_not_mem h]

/-- A role written under a new id into tables with their foreign keys reads back: its
permissions as given, its limits in the order the query sorts them. -/
theorem role_written {db : Database} {t : Tables} {o : Role} (hl : t.Linked)
    (hnew : o.id ∉ t.roles.map (·.id)) (hopen : db.closed = false)
    (ht : db.tables = some { t with
      roles := t.roles ++ [⟨o.id, o.name, o.permissions⟩]
      limits := t.limits ++ o.limits.map (⟨o.id, ·⟩) }) :
    db.limits o.id = .ok (o.limits.foldr Tables.insertByRouter []) ∧
      db.permissions o.id = .ok o.permissions := by
  have hfilter : (t.limits ++ o.limits.map (fun l => (⟨o.id, l⟩ : LimitRow))).filter
      (·.role == o.id) = o.limits.map (fun l => (⟨o.id, l⟩ : LimitRow)) := by
    rw [List.filter_append, List.filter_eq_nil_iff.2, List.filter_eq_self.2, List.nil_append]
    · intro m hm
      obtain ⟨l, -, rfl⟩ := List.mem_map.1 hm
      simp
    · intro m hm hr
      have hm' := hl.limits m hm
      rw [show m.role = o.id by simpa using hr] at hm'
      exact hnew hm'
  have hmap : (o.limits.map (fun l => (⟨o.id, l⟩ : LimitRow))).map (·.limit) = o.limits := by
    simp [List.map_map, Function.comp_def]
  constructor
  · simp [Database.limits, use, hopen, ht, bind, Except.bind, hfilter, hmap]
  · simp [Database.permissions, use, hopen, ht, bind, Except.bind, List.find?_append,
      find?_eq_none_of_not_mem hnew]

/-- On a database the directory's calls reached, with the schema applied and the connection
open, take a role whose limits name routers of the tables. Writing it succeeds exactly when
its id and name are new, every limit has a known type and no negative value, and no two
limits share a router and a type. It then reads back with its limits ordered by router and
type (none when it has none) and its permissions as given. A write that fails stores neither
the role nor any of its limits, so a new id is still not found. -/
theorem role_round_trip {db : Database} (hdb : db.Reachable) {t : Tables}
    (ht : db.tables = some t) (hopen : db.closed = false) (o : Role)
    (hrouted : ∀ l ∈ o.limits, l.router ∈ t.routers.map (·.id)) :
    ((db.createRole o).1 = .ok () ↔
      o.id ∉ t.roles.map (·.id) ∧ o.name ∉ t.roles.map (·.name) ∧
        (∀ l ∈ o.limits, l.type ∈ LimitType.all ∧ ∀ v ∈ l.value, 0 ≤ v) ∧
        (o.limits.map Limit.key).Nodup) ∧
    ((db.createRole o).1 = .ok () →
      (∃ ls, (db.createRole o).2.limits o.id = .ok ls ∧ ls.Perm o.limits ∧
        ls.Pairwise Limit.Before) ∧
      (db.createRole o).2.permissions o.id = .ok o.permissions) ∧
    (∀ f, (db.createRole o).1 = .error f →
      (db.createRole o).2 = db ∧
        (o.id ∉ t.roles.map (·.id) →
          db.limits o.id = .error (.sentinel .roleNotFound) ∧
            db.permissions o.id = .error (.sentinel .roleNotFound))) := by
  have hl := hdb.linked t ht
  have hfresh : o.id ∉ t.roles.map (·.id) →
      ∀ l ∈ o.limits, ∀ m ∈ t.limits, m.role = o.id → m.limit.key ≠ l.key :=
    fun hnew _ _ m hm hrole => absurd (hrole ▸ hl.limits m hm) hnew
  refine ⟨?_, fun hok => ?_, fun f herr => ⟨createRole_snd_of_error herr,
    role_of_not_mem hopen ht⟩⟩
  · rw [createRole_eq_ok_iff hopen ht]
    constructor
    · rintro ⟨t', hi, -⟩
      obtain ⟨hid, hname, hlimits, hnodup, -⟩ := Tables.insertRole_eq_ok_iff.1 hi
      exact ⟨hid, hname, fun l hm => ⟨(hlimits l hm).1, (hlimits l hm).2.1⟩, hnodup⟩
    · rintro ⟨hid, hname, hlimits, hnodup⟩
      have hi := Tables.insertRole_eq_ok_iff.2 ⟨hid, hname, fun l hm => ⟨(hlimits l hm).1,
        (hlimits l hm).2, hrouted l hm, hfresh hid l hm⟩, hnodup, rfl⟩
      exact ⟨_, hi, by simp [createRole, use, hopen, ht, hi]⟩
  · obtain ⟨t', hi, hw⟩ := (createRole_eq_ok_iff hopen ht o).1 hok
    obtain ⟨hid, -, -, hnodup, rfl⟩ := Tables.insertRole_eq_ok_iff.1 hi
    obtain ⟨hlim, hperm⟩ := role_written hl hid
      (show (db.createRole o).2.closed = false by rw [hw]; exact hopen) (by rw [hw])
    exact ⟨⟨_, hlim, Tables.foldr_insertByRouter_perm o.limits,
      Tables.foldr_insertByRouter_pairwise o.limits hnodup⟩, hperm⟩

/-- The round trip for a role with one limit on the router a fresh schema was given. -/
theorem role_round_trip_after_first_router :
    let db := (Database.fresh.ensureSchema.2.createRouter ⟨7, "chat", "", []⟩).2
    let t : Tables := ⟨[⟨7, "chat", "shuffle", 0⟩], [], [], [], []⟩
    let o : Role := ⟨2, "basic", ["chat"], [⟨7, .rpm, some 10⟩]⟩
    db.Reachable ∧ db.tables = some t ∧ db.closed = false ∧
    (∀ l ∈ o.limits, l.router ∈ t.routers.map (·.id)) ∧
    ((db.createRole o).1 = .ok () ↔
      o.id ∉ t.roles.map (·.id) ∧ o.name ∉ t.roles.map (·.name) ∧
        (∀ l ∈ o.limits, l.type ∈ LimitType.all ∧ ∀ v ∈ l.value, 0 ≤ v) ∧
        (o.limits.map Limit.key).Nodup) ∧
    ((db.createRole o).1 = .ok () →
      (∃ ls, (db.createRole o).2.limits o.id = .ok ls ∧ ls.Perm o.limits ∧
        ls.Pairwise Limit.Before) ∧
      (db.createRole o).2.permissions o.id = .ok o.permissions) ∧
    (∀ f, (db.createRole o).1 = .error f →
      (db.createRole o).2 = db ∧
        (o.id ∉ t.roles.map (·.id) →
          db.limits o.id = .error (.sentinel .roleNotFound) ∧
            db.permissions o.id = .error (.sentinel .roleNotFound))) := by
  intro db t o
  have hdb : db.Reachable := .createRouter _ (.ensureSchema .fresh)
  have ht : db.tables = some t := rfl
  have hrouted : ∀ l ∈ o.limits, l.router ∈ t.routers.map (·.id) := by decide
  exact ⟨hdb, ht, rfl, hrouted, role_round_trip hdb ht rfl o hrouted⟩

end Database

end Directory

end Admission
