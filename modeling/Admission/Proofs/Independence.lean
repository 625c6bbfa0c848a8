import Mathlib
import Admission.Proofs.CounterStore

/-!
# Quotas do not interfere

A limiter counts each quota, a user's dimension on a router with its cap, under a storage key
of its own, and a sliding window also under that key's previous key. This module proves that
the calls on one quota never see the calls on another.

* Every operation of the in-memory store works only on the keys it is given (`Confined`):
  every other key keeps what it stores, and the answer and what the given keys store
  afterwards depend only on what they stored before. The limiter's hit and read of a quota
  are confined to the quota's keys (`Confined.call`).
* The storage key of a quota determines the quota, and no storage key is the previous key of
  another (`storageKey_inj`, `storageKey_ne_previousKey`). The key is read from the right:
  the user, router, cap and unit are written without the separators `:` and `/`, while a
  dimension's name is arbitrary text.

Main statement (`quotas_independent`): from any store and at any instants, the answers the
calls on one quota get in an interleaving with calls on other quotas are the answers they get
when the quota's calls run alone.
-/

namespace Admission.Quota.MemoryStore

/-- Two stores store the same entry under every key of `K`. -/
def Agree (K : String → Prop) (s s' : MemoryStore) : Prop :=
  ∀ j, K j → s.find? j = s'.find? j

/-- An operation that works only on the keys of `K`: every other key stores what it stored
before, and from stores that agree on `K` it gives the same answer and leaves stores that agree
on `K`. -/
structure Confined (K : String → Prop) (op : MemoryStore → β × MemoryStore) : Prop where
  /-- Keys outside `K` are left alone. -/
  frame : ∀ s j, ¬K j → (op s).2.find? j = s.find? j
  /-- The answer and the keys of `K` afterwards depend only on the keys of `K` before. -/
  congr : ∀ s s', Agree K s s' → (op s).1 = (op s').1 ∧ Agree K (op s).2 (op s').2

/-- The keys of a sliding window under `key`: the key and its previous key. -/
def windowKeys (key : String) (j : String) : Prop := j = key ∨ j = previousKey key

section Agree

variable {K K' : String → Prop} {s s' : MemoryStore}

theorem Agree.refl (K : String → Prop) (s : MemoryStore) : Agree K s s := fun _ _ => rfl

theorem Agree.mono (h : Agree K s s') (hK : ∀ j, K' j → K j) : Agree K' s s' :=
  fun j hj => h j (hK j hj)

theorem Agree.liveAt (h : Agree K s s') {key : String} (hk : K key) (now : Instant) :
    s.liveAt now key = s'.liveAt now key := by
  unfold MemoryStore.liveAt
  rw [h key hk]

theorem Agree.lookup (h : Agree K s s') {key : String} (hk : K key) (now : Instant) :
    Agree K (s.lookup now key).2 (s'.lookup now key).2 := by
  intro j hj
  by_cases hjk : j = key
  · subst hjk
    rw [find?_lookup_self, find?_lookup_self, h.liveAt hk]
  · rw [find?_lookup_of_ne hjk, find?_lookup_of_ne hjk, h j hj]

theorem Agree.put (h : Agree K s s') (key : String) (e : Entry) :
    Agree K (s.put key e) (s'.put key e) := by
  intro j hj
  by_cases hjk : j = key
  · subst hjk
    simp
  · rw [find?_put_of_ne hjk, find?_put_of_ne hjk, h j hj]

theorem Agree.erase (h : Agree K s s') (key : String) : Agree K (s.erase key) (s'.erase key) := by
  intro j hj
  by_cases hjk : j = key
  · subst hjk
    simp
  · rw [find?_erase_of_ne hjk, find?_erase_of_ne hjk, h j hj]

end Agree

section Confined

variable {K K' : String → Prop}

/-- An operation confined to some keys is confined to any larger set of keys. -/
theorem Confined.mono {op : MemoryStore → β × MemoryStore} (h : Confined K op)
    (hK : ∀ j, K j → K' j) : Confined K' op := by
  constructor
  · intro s j hj
    exact h.frame s j (fun hk => hj (hK j hk))
  · intro s s' hs
    obtain ⟨hans, hagree⟩ := h.congr s s' (hs.mono hK)
    refine ⟨hans, fun j hj => ?_⟩
    by_cases hk : K j
    · exact hagree j hk
    · rw [h.frame s j hk, h.frame s' j hk, hs j hj]

/-- The in-memory counter operations keyed by `key` work only on `key`. -/
theorem Confined.incr (key : String) (now : Instant) (w : Span) (a : Int64) :
    Confined (· = key) (fun s => s.incr now key w a) := by
  constructor
  · intro s j hj
    simp only [incr_eq, find?_put_of_ne hj, find?_lookup_of_ne hj]
  · intro s s' h
    have hlive := h.liveAt (rfl : key = key) now
    simp only [incr_eq, hlive]
    exact ⟨trivial, (h.lookup rfl now).put _ _⟩

/-- An operation that answers from a key's live entry and leaves the store its lookup leaves
works only on that key. -/
theorem Confined.ofLookup {op : MemoryStore → β × MemoryStore} (key : String) (now : Instant)
    (f : Option Entry → β) (hop : ∀ s, op s = (f (s.liveAt now key), (s.lookup now key).2)) :
    Confined (· = key) op := by
  constructor
  · intro s j hj
    rw [hop, find?_lookup_of_ne hj]
  · intro s s' h
    rw [hop, hop, h.liveAt (rfl : key = key) now]
    exact ⟨rfl, h.lookup rfl now⟩

theorem Confined.get (key : String) (now : Instant) :
    Confined (· = key) (fun s => s.get now key) :=
  Confined.ofLookup key now (fun e => (e.map (·.value)).getD 0) fun s => get_eq s now key

theorem Confined.pttl (key : String) (now : Instant) :
    Confined (· = key) (fun s => s.pttl now key) :=
  Confined.ofLookup key now (ttlOf now) fun s => pttl_eq s now key

theorem Confined.acquireEntry (key : String) (now : Instant) (limit : Int64) (w : Span)
    (a : Int64) : Confined (· = key) (fun s => s.acquireEntry now key limit w a) := by
  constructor
  · intro s j hj
    simp only [acquireEntry_eq]
    split_ifs <;> simp only [find?_put_of_ne hj, find?_lookup_of_ne hj]
  · intro s s' h
    simp only [acquireEntry_eq, h.liveAt (rfl : key = key) now]
    split_ifs
    · exact ⟨rfl, h⟩
    · exact ⟨rfl, (h.lookup rfl now).put _ _⟩
    · exact ⟨rfl, (h.lookup rfl now).put _ _⟩

theorem Confined.movingWindow (key : String) (now : Instant) (w : Span) :
    Confined (· = key) (fun s => s.movingWindow now key w) := by
  constructor
  · intro s j hj
    simp only [movingWindow_eq]
    cases s.liveAt now key with
    | none => exact find?_lookup_of_ne hj
    | some e => exact (find?_put_of_ne hj _).trans (find?_lookup_of_ne hj)
  · intro s s' h
    simp only [movingWindow_eq, h.liveAt (rfl : key = key) now]
    cases s'.liveAt now key with
    | none => exact ⟨rfl, h.lookup rfl now⟩
    | some e => exact ⟨rfl, (h.lookup rfl now).put _ _⟩

/-- Clearing a sliding window's counters works only on its two keys. -/
theorem Confined.clear (key : String) :
    Confined (windowKeys key) (fun s => ((), s.clear key)) := by
  constructor
  · intro s j hj
    obtain ⟨hk, hp⟩ := not_or.mp hj
    simp only [MemoryStore.clear, find?_erase_of_ne hp, find?_erase_of_ne hk]
  · intro s s' h
    exact ⟨rfl, (h.erase _).erase _⟩

/-- A shift works only on the window's two keys. -/
theorem Confined.shift (key : String) (now : Instant) (w : Span) :
    Confined (windowKeys key) (fun s => ((), s.shift now key w)) := by
  constructor
  · intro s j hj
    obtain ⟨hk, hp⟩ := not_or.mp hj
    simp only [shift_eq]
    cases s.liveAt now key with
    | none => exact find?_lookup_of_ne hk
    | some cur =>
      dsimp only
      split
      · rw [find?_put_of_ne hk, find?_put_of_ne hp, find?_lookup_of_ne hk]
      · exact find?_lookup_of_ne hk
  · intro s s' h
    refine ⟨rfl, ?_⟩
    simp only [shift_eq, h.liveAt (Or.inl rfl) now]
    cases s'.liveAt now key with
    | none => exact h.lookup (.inl rfl) now
    | some cur =>
      dsimp only
      split
      · exact ((h.lookup (.inl rfl) now).put _ _).put _ _
      · exact h.lookup (.inl rfl) now

/-- Reading a sliding window's counters looks up its two keys, twice each. -/
theorem slidingState_snd (s : MemoryStore) (now : Instant) (key : String) :
    (s.slidingState now key).2 =
      ((((s.lookup now (previousKey key)).2.lookup now (previousKey key)).2.lookup now key).2.lookup
        now key).2 := by
  simp only [slidingState, pttl_eq]

theorem Confined.slidingState (key : String) (now : Instant) :
    Confined (windowKeys key) (fun s => s.slidingState now key) := by
  constructor
  · intro s j hj
    obtain ⟨hk, hp⟩ := not_or.mp hj
    simp only [slidingState_snd, find?_lookup_of_ne hk, find?_lookup_of_ne hp]
  · intro s s' h
    refine ⟨?_, ?_⟩
    · rw [slidingState_fst, slidingState_fst, h.liveAt (Or.inl rfl) now, h.liveAt (Or.inr rfl) now]
    · rw [slidingState_snd, slidingState_snd]
      exact (((h.lookup (.inr rfl) now).lookup (.inr rfl) now).lookup (.inl rfl) now).lookup
        (.inl rfl) now

/-- A sliding-window admission works only on the window's two keys. -/
theorem Confined.acquireSliding (key : String) (now : Instant) (limit : Int64) (w : Span)
    (a : Int64) : Confined (windowKeys key) (fun s => s.acquireSliding now key limit w a) := by
  have hshift := Confined.shift key now w
  have hstate := Confined.slidingState key now
  constructor
  · intro s j hj
    have hk : j ≠ key := fun h => hj (.inl h)
    have hread : ((s.shift now key w).slidingState now key).2.find? j = s.find? j :=
      (hstate.frame _ j hj).trans (hshift.frame s j hj)
    simp only [acquireSliding_eq]
    split_ifs <;> dsimp only
    · exact hread
    · rw [find?_put_of_ne hk, find?_lookup_of_ne hk, hread]
  · intro s s' h
    have h₁ : Agree (windowKeys key) (s.shift now key w) (s'.shift now key w) :=
      (hshift.congr s s' h).2
    have h₂ := (hstate.congr _ _ h₁).2
    simp only [acquireSliding_eq, h₁.liveAt (Or.inl rfl) now, h₁.liveAt (Or.inr rfl) now]
    split_ifs <;> dsimp only
    · exact ⟨rfl, h⟩
    · exact ⟨rfl, h₂⟩
    · exact ⟨rfl, (h₂.lookup (.inl rfl) now).put _ _⟩

theorem Confined.slidingWindow (key : String) (now : Instant) (w : Span) :
    Confined (windowKeys key) (fun s => s.slidingWindow now key w) := by
  have hshift := Confined.shift key now w
  have hstate := Confined.slidingState key now
  constructor
  · intro s j hj
    rw [slidingWindow_eq]
    exact (hstate.frame _ j hj).trans (hshift.frame s j hj)
  · intro s s' h
    rw [slidingWindow_eq, slidingWindow_eq]
    exact hstate.congr _ _ (hshift.congr s s' h).2

end Confined

end Admission.Quota.MemoryStore

namespace Admission.Quota.MemoryStore

section Compose

variable {K : String → Prop}

/-- Running one confined operation after another, the second chosen by the first's answer. -/
theorem Confined.bind {op₁ : MemoryStore → α × MemoryStore} {op₂ : α → MemoryStore → β × MemoryStore}
    (h₁ : Confined K op₁) (h₂ : ∀ a, Confined K (op₂ a)) :
    Confined K (fun s => op₂ (op₁ s).1 (op₁ s).2) := by
  constructor
  · intro s j hj
    rw [(h₂ _).frame _ j hj, h₁.frame s j hj]
  · intro s s' hs
    obtain ⟨hans, hagree⟩ := h₁.congr s s' hs
    rw [hans]
    exact (h₂ _).congr _ _ hagree

/-- An operation on one key works on the keys of that key's window. -/
theorem Confined.window {key : String} {op : MemoryStore → β × MemoryStore}
    (h : Confined (· = key) op) : Confined (windowKeys key) op :=
  h.mono fun _ hj => .inl hj

/-- An operation equal to a confined one is confined. -/
theorem Confined.of_eq {op op' : MemoryStore → β × MemoryStore} (h : Confined K op')
    (heq : ∀ s, op s = op' s) : Confined K op := by
  rw [funext heq]
  exact h

/-- An operation that leaves the store alone. -/
theorem Confined.pure (b : β) : Confined K (fun s => (b, s)) :=
  ⟨fun _ _ _ => rfl, fun _ _ hs => ⟨rfl, hs⟩⟩

/-- A confined operation with its answer transformed. -/
theorem Confined.map {op : MemoryStore → β × MemoryStore} (h : Confined K op) (f : β → γ) :
    Confined K (fun s => (f (op s).1, (op s).2)) := by
  constructor
  · exact h.frame
  · intro s s' hs
    obtain ⟨hans, hagree⟩ := h.congr s s' hs
    exact ⟨by rw [hans], hagree⟩

end Compose

end Admission.Quota.MemoryStore

namespace Admission.Quota

open MemoryStore

/-- The strategies' calls on the in-memory store work only on the window's keys. -/
theorem Confined.windowHit (k : WindowKind) (now : Instant) (item : Item) (key : String)
    (c : Int64) :
    Confined (windowKeys (item.storageKey key))
      (fun s => k.hit (CounterOps.memory .truthful) now item key c s) := by
  cases k with
  | fixed =>
    exact (Confined.incr _ now item.expiry c).window.map
      fun n => (.ok (decide (n ≤ item.amount)) : Except Fault Bool)
  | sliding =>
    exact (Confined.acquireSliding _ now item.amount item.expiry c).map
      fun b => (.ok b : Except Fault Bool)
  | moving =>
    exact (Confined.acquireEntry _ now item.amount item.expiry c).window.map
      fun b => (.ok b : Except Fault Bool)

/-- A strategy's read of what remains, on the in-memory store: the fixed window reads its
counter and its life, the others read their window. -/
theorem remaining_fixed_memory (now : Instant) (item : Item) (key : String) (s : MemoryStore) :
    WindowKind.fixed.remaining (CounterOps.memory .truthful) now item key s =
      (.ok (WindowKind.left item.amount (s.get now (item.storageKey key)).1),
        ((s.get now (item.storageKey key)).2.pttl now (item.storageKey key)).2) := by
  simp only [WindowKind.remaining, CounterOps.memory, Interference.guard, Interference.failure]

theorem remaining_sliding_memory (now : Instant) (item : Item) (key : String) (s : MemoryStore) :
    WindowKind.sliding.remaining (CounterOps.memory .truthful) now item key s =
      (.ok (WindowKind.left item.amount
          ((s.slidingWindow now (item.storageKey key) item.expiry).1.weighted item.expiry)),
        (s.slidingWindow now (item.storageKey key) item.expiry).2) := by
  simp only [WindowKind.remaining, CounterOps.memory, Interference.guard, Interference.failure]
  rfl

theorem remaining_moving_memory (now : Instant) (item : Item) (key : String) (s : MemoryStore) :
    WindowKind.moving.remaining (CounterOps.memory .truthful) now item key s =
      (.ok (WindowKind.left item.amount (s.movingWindow now (item.storageKey key) item.expiry).1.2),
        (s.movingWindow now (item.storageKey key) item.expiry).2) := by
  simp only [WindowKind.remaining, CounterOps.memory, Interference.guard, Interference.failure]
  rfl

theorem Confined.windowRemaining (k : WindowKind) (now : Instant) (item : Item) (key : String) :
    Confined (windowKeys (item.storageKey key))
      (fun s => k.remaining (CounterOps.memory .truthful) now item key s) := by
  cases k with
  | fixed =>
    refine Confined.of_eq ((Confined.get _ now).window.bind fun count =>
      (Confined.pttl _ now).window.map fun _ =>
        (.ok (WindowKind.left item.amount count) : Except Fault Int64)) fun s => ?_
    exact remaining_fixed_memory now item key s
  | sliding =>
    refine Confined.of_eq ((Confined.slidingWindow _ now item.expiry).map fun st =>
      (.ok (WindowKind.left item.amount (st.weighted item.expiry)) : Except Fault Int64)) fun s => ?_
    exact remaining_sliding_memory now item key s
  | moving =>
    refine Confined.of_eq ((Confined.movingWindow _ now item.expiry).window.map fun w =>
      (.ok (WindowKind.left item.amount w.2) : Except Fault Int64)) fun s => ?_
    exact remaining_moving_memory now item key s

/-- A quota of a limiter: a user's dimension on a router, with its cap; none for unlimited. -/
structure QuotaRef where
  /-- The user. -/
  user : Int64
  /-- The router. -/
  router : Int64
  /-- The dimension. -/
  type : LimitType
  /-- The cap; none for an unlimited quota. -/
  value : Option Int64
  deriving DecidableEq, Repr

/-- A call on a limiter: a hit of some cost on a quota, or a read of what remains of it. -/
inductive LimiterCall where
  /-- A hit of this cost. -/
  | hit (q : QuotaRef) (cost : Int64)
  /-- A read of what remains. -/
  | remaining (q : QuotaRef)
  deriving DecidableEq, Repr

/-- The quota a call is on. -/
def LimiterCall.quota : LimiterCall → QuotaRef
  | .hit q _ => q
  | .remaining q => q

/-- What a limiter call answers: whether a hit is allowed, or what remains. -/
inductive LimiterAnswer where
  /-- The answer of a hit. -/
  | allowed (ok : Bool)
  /-- The answer of a read; none when unlimited. -/
  | left (r : Option Int64)
  deriving DecidableEq, Repr

namespace Limiter

/-- One timed call on a limiter over the in-memory store. -/
def call (l : Limiter) (c : Instant × LimiterCall) (s : MemoryStore) :
    LimiterAnswer × MemoryStore :=
  match c.2 with
  | .hit q cost =>
    (.allowed (l.hit (CounterOps.memory .truthful) c.1 q.user q.router q.type q.value cost s).1,
      (l.hit (CounterOps.memory .truthful) c.1 q.user q.router q.type q.value cost s).2)
  | .remaining q =>
    (.left (l.remaining (CounterOps.memory .truthful) c.1 q.user q.router q.type q.value s).1,
      (l.remaining (CounterOps.memory .truthful) c.1 q.user q.router q.type q.value s).2)

/-- The key a quota's counter is stored under; none for an unlimited quota. -/
def counterKey (l : Limiter) (q : QuotaRef) : Option String :=
  q.value.map fun v => (Item.ofLimit q.type v).storageKey (l.key q.user q.router q.type)

/-- The keys a quota's counters live under: its counter's key and that key's previous key;
none for an unlimited quota. -/
def quotaKeys (l : Limiter) (q : QuotaRef) (j : String) : Prop :=
  ∃ k ∈ l.counterKey q, windowKeys k j

end Limiter

/-- A limiter's hit of a limited quota works only on the quota's window: the strategy's hit,
then for an allowed hit the expiry query and possibly the clearing of its counters. -/
theorem Confined.limiterHit (l : Limiter) (now : Instant) (q : QuotaRef) (v : Int64)
    (cost : Int64) :
    Confined (windowKeys ((Item.ofLimit q.type v).storageKey (l.key q.user q.router q.type)))
      (fun s => l.hit (CounterOps.memory .truthful) now q.user q.router q.type (some v) cost s) := by
  have hw := Confined.windowHit l.window now (Item.ofLimit q.type v) (l.key q.user q.router q.type)
    cost
  have httl := (Confined.pttl ((Item.ofLimit q.type v).storageKey
    (l.key q.user q.router q.type)) now).window
  have hclear := Confined.clear ((Item.ofLimit q.type v).storageKey (l.key q.user q.router q.type))
  constructor
  · intro s j hj
    have hwf := hw.frame s j hj
    simp only [Limiter.hit]
    revert hwf
    rcases l.window.hit (CounterOps.memory .truthful) now (Item.ofLimit q.type v)
      (l.key q.user q.router q.type) cost s with ⟨res, t⟩
    intro hwf
    rcases res with _ | _ | _
    · exact hwf
    · exact hwf
    · simp only [CounterOps.memory, Interference.guard, Interference.failure]
      split
      · exact (hclear.frame _ j hj).trans ((httl.frame t j hj).trans hwf)
      · exact (httl.frame t j hj).trans hwf
  · intro s s' h
    obtain ⟨hans, hag⟩ := hw.congr s s' h
    simp only [Limiter.hit]
    revert hans hag
    rcases l.window.hit (CounterOps.memory .truthful) now (Item.ofLimit q.type v)
      (l.key q.user q.router q.type) cost s with ⟨res, t⟩
    rcases l.window.hit (CounterOps.memory .truthful) now (Item.ofLimit q.type v)
      (l.key q.user q.router q.type) cost s' with ⟨res', t'⟩
    rintro (rfl : res = res') hag
    rcases res with _ | _ | _
    · exact ⟨rfl, hag⟩
    · exact ⟨rfl, hag⟩
    · obtain ⟨httlans, httlag⟩ := httl.congr t t' hag
      simp only [CounterOps.memory, Interference.guard, Interference.failure]
      rw [httlans]
      split
      · exact ⟨rfl, (hclear.congr _ _ httlag).2⟩
      · exact ⟨rfl, httlag⟩

/-- A limiter's read of a limited quota works only on the quota's window. -/
theorem Confined.limiterRemaining (l : Limiter) (now : Instant) (q : QuotaRef) (v : Int64) :
    Confined (windowKeys ((Item.ofLimit q.type v).storageKey (l.key q.user q.router q.type)))
      (fun s => l.remaining (CounterOps.memory .truthful) now q.user q.router q.type (some v) s) := by
  have hw := Confined.windowRemaining l.window now (Item.ofLimit q.type v)
    (l.key q.user q.router q.type)
  refine Confined.of_eq (hw.map fun r => match r with
    | .ok n => some n
    | .error _ => none) fun s => ?_
  simp only [Limiter.remaining]
  rcases l.window.remaining (CounterOps.memory .truthful) now (Item.ofLimit q.type v)
    (l.key q.user q.router q.type) s with ⟨_ | _, t⟩ <;> rfl

/-- Every call of a limiter on the in-memory store works only on its quota's keys. -/
theorem Confined.call (l : Limiter) (c : Instant × LimiterCall) :
    Confined (l.quotaKeys c.2.quota) (l.call c) := by
  obtain ⟨now, c⟩ := c
  have hnone : ∀ q : QuotaRef, q.value = none → ∀ j, ¬l.quotaKeys q j := by
    rintro q hq j ⟨k, hk, -⟩
    simp [Limiter.counterKey, hq] at hk
  have hsome : ∀ q : QuotaRef, ∀ v, q.value = some v → ∀ j,
      windowKeys ((Item.ofLimit q.type v).storageKey (l.key q.user q.router q.type)) j →
        l.quotaKeys q j :=
    fun q v hq j hj => ⟨_, by simp [Limiter.counterKey, hq], hj⟩
  cases c with
  | hit q cost =>
    rcases q with ⟨user, router, type, _ | v⟩
    · exact (Confined.pure (LimiterAnswer.allowed true)).mono fun j hj =>
        (hnone ⟨user, router, type, none⟩ rfl j hj).elim
    · exact ((Confined.limiterHit l now ⟨user, router, type, some v⟩ v cost).map
        LimiterAnswer.allowed).mono (hsome _ v rfl)
  | remaining q =>
    rcases q with ⟨user, router, type, _ | v⟩
    · exact (Confined.pure (LimiterAnswer.left none)).mono fun j hj =>
        (hnone ⟨user, router, type, none⟩ rfl j hj).elim
    · exact ((Confined.limiterRemaining l now ⟨user, router, type, some v⟩ v).map
        LimiterAnswer.left).mono (hsome _ v rfl)

/-- A decimal integer is written with digits and a minus sign only. -/
theorem mem_toString_int {n : Int} {c : Char} (h : c ∈ (toString n).toList) :
    c = '-' ∨ c.isDigit = true := by
  rw [Int.toString_eq_repr, Int.repr_eq_if] at h
  split at h
  · rw [Nat.toList_repr] at h
    exact .inr (Nat.isDigit_of_mem_toDigits (by norm_num) (by norm_num) h)
  · rw [String.toList_append, List.mem_append, Nat.toList_repr] at h
    rcases h with h | h
    · left
      simpa using h
    · exact .inr (Nat.isDigit_of_mem_toDigits (by norm_num) (by norm_num) h)

/-- Neither separator of a key occurs in a decimal integer. -/
theorem separators_not_mem_toString (n : Int) :
    ':' ∉ (toString n).toList ∧ '/' ∉ (toString n).toList := by
  constructor
  · intro h
    rcases mem_toString_int h with h | h <;> revert h <;> decide
  · intro h
    rcases mem_toString_int h with h | h <;> revert h <;> decide

/-- Two lists cut at the first occurrence of `c` on each side: the parts before and after are
equal. -/
theorem eq_of_append_cons_eq {c : α} :
    ∀ {x y a b : List α}, c ∉ x → c ∉ y → x ++ c :: a = y ++ c :: b → x = y ∧ a = b
  | [], [], _, _, _, _, h => ⟨rfl, by simpa using h⟩
  | [], d :: y, _, _, _, hy, h => by
    simp only [List.nil_append, List.cons_append, List.cons.injEq] at h
    exact absurd (h.1 ▸ List.mem_cons_self) hy
  | d :: x, [], _, _, hx, _, h => by
    simp only [List.nil_append, List.cons_append, List.cons.injEq] at h
    exact absurd (h.1.symm ▸ List.mem_cons_self) hx
  | d :: x, e :: y, _, _, hx, hy, h => by
    simp only [List.cons_append, List.cons.injEq] at h
    obtain ⟨hxy, hab⟩ := eq_of_append_cons_eq (fun hm => hx (List.mem_cons_of_mem d hm))
      (fun hm => hy (List.mem_cons_of_mem e hm)) h.2
    exact ⟨by rw [h.1, hxy], hab⟩

/-- Two lists cut at the last occurrence of `c` on each side: the parts before and after are
equal. A key is read this way, from the right. -/
theorem eq_of_append_sep_eq {c : α} {x y a b : List α} (hx : c ∉ x) (hy : c ∉ y)
    (h : a ++ [c] ++ x = b ++ [c] ++ y) : a = b ∧ x = y := by
  have hr := congrArg List.reverse h
  simp only [List.reverse_append, List.reverse_cons, List.singleton_append,
    List.append_assoc] at hr
  obtain ⟨hxy, hab⟩ := eq_of_append_cons_eq (by simpa using hx) (by simpa using hy) hr
  exact ⟨List.reverse_injective hab, List.reverse_injective hxy⟩

namespace Limiter

/-- A limiter's base key determines the dimension, the user and the router, whatever the
dimension's name: the user and the router are read from the right. -/
theorem key_inj {l : Limiter} {user router user' router' : Int64} {t t' : LimitType}
    (h : l.key user router t = l.key user' router' t') :
    user = user' ∧ router = router' ∧ t = t' := by
  have hl := congrArg String.toList h
  simp only [Limiter.key, String.toList_append] at hl
  obtain ⟨hl, hrouter⟩ := eq_of_append_sep_eq (separators_not_mem_toString _).1
    (separators_not_mem_toString _).1 hl
  obtain ⟨hl, huser⟩ := eq_of_append_sep_eq (separators_not_mem_toString _).1
    (separators_not_mem_toString _).1 hl
  have hname : t.name.toList = t'.name.toList := List.append_cancel_left hl
  refine ⟨?_, ?_, ?_⟩
  · exact Int64.toInt_inj.mp (Int.repr_inj.mp (String.toList_inj.mp huser))
  · exact Int64.toInt_inj.mp (Int.repr_inj.mp (String.toList_inj.mp hrouter))
  · cases t
    cases t'
    simpa using String.toList_inj.mp hname

/-- No unit's name holds a slash. -/
theorem slash_not_mem_name (g : Granularity) : '/' ∉ g.name.toList := by
  cases g <;> decide

/-- A storage key read from the right: the unit's name follows the last slash. -/
theorem toList_storageKey (i : Item) (base : String) :
    (i.storageKey base).toList = ("LIMITER/" ++ base ++ "/" ++ toString i.amount.toInt ++ "/" ++
      toString i.units.toInt).toList ++ ['/'] ++ i.granularity.name.toList := by
  simp [Item.storageKey, String.toList_append]

/-- An item's storage key determines its base key, amount, window units and unit. -/
theorem storageKey_inj {i i' : Item} {base base' : String}
    (h : i.storageKey base = i'.storageKey base') :
    base = base' ∧ i.amount = i'.amount ∧ i.units = i'.units ∧ i.granularity = i'.granularity := by
  have hl := congrArg String.toList h
  rw [toList_storageKey, toList_storageKey] at hl
  obtain ⟨hl, hunit⟩ := eq_of_append_sep_eq (slash_not_mem_name _) (slash_not_mem_name _) hl
  simp only [String.toList_append] at hl
  obtain ⟨hl, hunits⟩ := eq_of_append_sep_eq (separators_not_mem_toString _).2
    (separators_not_mem_toString _).2 hl
  obtain ⟨hl, hamount⟩ := eq_of_append_sep_eq (separators_not_mem_toString _).2
    (separators_not_mem_toString _).2 hl
  refine ⟨String.toList_inj.mp (List.append_cancel_left hl), ?_, ?_, ?_⟩
  · exact Int64.toInt_inj.mp (Int.repr_inj.mp (String.toList_inj.mp hamount))
  · exact Int64.toInt_inj.mp (Int.repr_inj.mp (String.toList_inj.mp hunits))
  · revert hunit
    cases i.granularity <;> cases i'.granularity <;> decide

/-- No storage key is the previous key of another: a storage key ends in a unit's name, a
previous key in `-1`. -/
theorem storageKey_ne_previousKey (i i' : Item) (base base' : String) :
    i.storageKey base ≠ previousKey (i'.storageKey base') := by
  intro h
  have hl := congrArg String.toList h
  have hprev : (previousKey (i'.storageKey base')).toList =
      (i'.storageKey base').toList ++ ['/'] ++ ['-', '1'] := by
    simp [previousKey, String.toList_append]
  rw [hprev, toList_storageKey] at hl
  obtain ⟨-, hunit⟩ := eq_of_append_sep_eq (slash_not_mem_name _) (by decide) hl
  revert hunit
  cases i.granularity <;> decide

/-- The cap of a limit is the amount of its item. -/
theorem amount_ofLimit (t : LimitType) (v : Int64) : (Item.ofLimit t v).amount = v := by
  unfold Item.ofLimit
  split <;> rfl

/-- A counter's key determines the quota. -/
theorem counterKey_inj {l : Limiter} {q q' : QuotaRef} {k : String} (h : k ∈ l.counterKey q)
    (h' : k ∈ l.counterKey q') : q = q' := by
  rcases q with ⟨user, router, t, _ | v⟩ <;> rcases q' with ⟨user', router', t', _ | v'⟩ <;>
    simp only [counterKey, Option.map_none, Option.map_some, Option.mem_def,
      reduceCtorEq, Option.some.injEq] at h h'
  subst h
  obtain ⟨hbase, hamount, -⟩ := storageKey_inj h'
  obtain ⟨huser, hrouter, ht⟩ := key_inj hbase
  rw [amount_ofLimit, amount_ofLimit] at hamount
  rw [huser, hrouter, ht, hamount]

/-- The keys of two different quotas are disjoint. -/
theorem quotaKeys_disjoint {l : Limiter} {q q' : QuotaRef} (hne : q ≠ q') {j : String}
    (h : l.quotaKeys q j) : ¬l.quotaKeys q' j := by
  rintro ⟨k', hk', hj'⟩
  obtain ⟨k, hk, hj⟩ := h
  have hsome : ∀ {q : QuotaRef} {k : String}, k ∈ l.counterKey q →
      ∃ (i : Item) (base : String), k = i.storageKey base := by
    intro q k hk
    rcases q with ⟨user, router, t, _ | v⟩ <;> simp only [counterKey, Option.map_none,
      Option.map_some, Option.mem_def, reduceCtorEq, Option.some.injEq] at hk
    exact ⟨_, _, hk.symm⟩
  obtain ⟨i, base, rfl⟩ := hsome hk
  obtain ⟨i', base', rfl⟩ := hsome hk'
  rcases hj with rfl | rfl <;> rcases hj' with h | h
  · exact hne (counterKey_inj hk (h ▸ hk'))
  · exact storageKey_ne_previousKey _ _ _ _ h
  · exact storageKey_ne_previousKey _ _ _ _ h.symm
  · exact hne (counterKey_inj hk ((String.append_left_inj _).mp h ▸ hk'))

end Limiter

/-- Calls confined to keys do not see calls outside those keys: when every call of `P` works
inside `K` and every other call outside it, the run of the `P` calls alone agrees with the whole
run on `K`, and gives the `P` calls the same answers. -/
theorem replay_filter_of_confined {step : α → MemoryStore → β × MemoryStore}
    {keys : α → String → Prop} (hstep : ∀ c, Confined (keys c) (step c)) (P : α → Prop)
    [DecidablePred P] (K : String → Prop) (hin : ∀ c, P c → ∀ j, keys c j → K j)
    (hout : ∀ c, ¬P c → ∀ j, keys c j → ¬K j) (s₀ : MemoryStore) (calls : List α) :
    Agree K (replay step s₀ calls).1 (replay step s₀ (calls.filter P)).1 ∧
      (replay step s₀ calls).2.filter (fun x => P x.1) = (replay step s₀ (calls.filter P)).2 := by
  induction calls using List.reverseRecOn with
  | nil => exact ⟨Agree.refl K s₀, rfl⟩
  | append_singleton calls c ih =>
    obtain ⟨hagree, htrace⟩ := ih
    rw [List.filter_append, List.filter_singleton, replay_append_singleton]
    by_cases hc : P c
    · have hK := (hstep c).mono (hin c hc)
      obtain ⟨hans, hafter⟩ := hK.congr _ _ hagree
      simp only [hc, decide_true, cond_true, replay_append_singleton, List.filter_append,
        List.filter_singleton, htrace, hans, and_true]
      exact hafter
    · simp only [hc, decide_false, cond_false, List.append_nil, List.filter_append,
        List.filter_singleton, htrace]
      refine ⟨fun j hj => ?_, by simp⟩
      rw [(hstep c).frame _ j (fun hk => hout c hc j hk hj)]
      exact hagree j hj

/-- Quotas are independent. Whatever the store a limiter starts from, whatever the instants of
its calls, the calls on one quota get, in any interleaving with calls on other quotas, the
answers they get when they run alone. This rests on the keys: a quota's counter key
determines the quota, and the counter key and its previous key of one quota are never keys
of another. -/
theorem quotas_independent (l : Limiter) (s₀ : MemoryStore) (calls : List (Instant × LimiterCall))
    (q : QuotaRef) :
    (replay l.call s₀ calls).2.filter (fun x => x.1.2.quota = q) =
        (replay l.call s₀ (calls.filter fun c => c.2.quota = q)).2 ∧
      (∀ q' k, k ∈ l.counterKey q → k ∈ l.counterKey q' → q' = q) ∧
      (∀ q' j, q' ≠ q → l.quotaKeys q j → ¬l.quotaKeys q' j) := by
  have hrun := replay_filter_of_confined (Confined.call l)
    (fun c => c.2.quota = q) (l.quotaKeys q) (fun c hc j hj => hc ▸ hj)
    (fun c hc j hj hq => Limiter.quotaKeys_disjoint hc hj hq) s₀ calls
  exact ⟨hrun.2, fun q' k hk hk' => (Limiter.counterKey_inj hk hk').symm,
    fun q' j hne hj => Limiter.quotaKeys_disjoint (Ne.symm hne) hj⟩

end Admission.Quota
