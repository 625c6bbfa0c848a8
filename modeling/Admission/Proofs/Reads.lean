import Mathlib
import Admission.Proofs.MovingWindow
import Admission.Proofs.Remaining
import Admission.Proofs.Independence

/-!
# Reads leave no trace on fixed and moving windows

A read of a quota changes the in-memory store: the lookup drops a dead counter, and the moving
window's read prunes the log. So does a refused moving-window hit, which prunes the log before
it refuses. None of these changes can be seen later. What a fixed or moving window reads of a
key at an instant is its live entry with the log pruned to the window ending then (`heldAt`),
and a dead entry stays dead, a pruned log stays pruned. So a run of a limiter over the
in-memory store, with its calls at nondecreasing instants, answers every other call the same
when its reads and, on a moving window, its refused hits are left out
(`observing_calls_unseen`).

The sliding window is different: its read rolls the current counter into the previous slot,
as its hit does, so a read moves the window's epochs and the weighted count later. Leaving a
read out can then turn a later admission into a refusal (`sliding_read_refuses_later_hit`).
-/

namespace Admission.Quota

open MemoryStore

/-- An entry with its log pruned to the window ending at `t`. -/
def Entry.prune (x : Entry) (t : Instant) (w : Span) : Entry :=
  { x with log := MemoryStore.recent x.log t w }

namespace MemoryStore

/-- What a key holds at an instant, as the fixed and moving windows read it: its live entry,
with the log pruned to the window. -/
def heldAt (s : MemoryStore) (t : Instant) (w : Span) (key : String) : Option Entry :=
  (s.liveAt t key).map (·.prune t w)

@[simp] theorem dead_prune (x : Entry) (t u : Instant) (w : Span) :
    Entry.dead (x.prune t w) u = Entry.dead x u := rfl

/-- Pruning twice prunes to the later window. -/
theorem prune_prune {x : Entry} {t t' : Instant} {w : Span} (hw : 0 < w.toInt) (ht : t ≤ t') :
    (x.prune t w).prune t' w = x.prune t' w := by
  simp only [Entry.prune, MovingWindow.recent_recent hw x.log ht]

/-- Pruning again at the same instant keeps the log. -/
@[simp] theorem prune_prune_self (x : Entry) (t : Instant) (w : Span) :
    (x.prune t w).prune t w = x.prune t w := by
  simp only [Entry.prune, WindowKind.recent_recent_self]

/-- What a key holds later is what it held, unless that has died, pruned to the later window. -/
theorem heldAt_of_le (s : MemoryStore) {t t' : Instant} {w : Span} (key : String)
    (hw : 0 < w.toInt) (ht : t ≤ t') :
    s.heldAt t' w key =
      ((s.heldAt t w key).filter fun x => !Entry.dead x t').map (·.prune t' w) := by
  unfold heldAt
  rw [liveAt_liveAt s key ht]
  cases s.liveAt t key with
  | none => rfl
  | some x =>
    cases hd : Entry.dead x t' <;> simp [Option.filter_some, hd, prune_prune hw ht]

/-- What a key holds, seen through a map, is its live entry pruned, seen through the map. -/
theorem map_heldAt (s : MemoryStore) (t : Instant) (w : Span) (key : String) (f : Entry → α) :
    (s.heldAt t w key).map f = (s.liveAt t key).map fun x => f (x.prune t w) := by
  simp only [heldAt, Option.map_map, Function.comp_def]

/-- Stores that hold the same under a key at an instant hold the same there later. -/
theorem heldAt_congr_of_le {s s' : MemoryStore} {t t' : Instant} {w : Span} {key : String}
    (hw : 0 < w.toInt) (ht : t ≤ t') (h : s.heldAt t w key = s'.heldAt t w key) :
    s.heldAt t' w key = s'.heldAt t' w key := by
  rw [heldAt_of_le s key hw ht, heldAt_of_le s' key hw ht, h]

/-- A key stored alike is held alike. -/
theorem heldAt_congr_find? {s s' : MemoryStore} {key : String} (t : Instant) (w : Span)
    (h : s.find? key = s'.find? key) : s.heldAt t w key = s'.heldAt t w key := by
  simp only [heldAt, liveAt, h]

/-- A lookup changes nothing any key holds from its instant on. -/
theorem heldAt_lookup (s : MemoryStore) {now t : Instant} (w : Span) (key j : String)
    (ht : now ≤ t) : (s.lookup now key).2.heldAt t w j = s.heldAt t w j := by
  simp only [heldAt, liveAt_lookup s key j ht]

/-- A written key holds the written entry, pruned, while it lives. -/
theorem heldAt_put_self (s : MemoryStore) (key : String) (x : Entry) (t : Instant) (w : Span) :
    (s.put key x).heldAt t w key = if Entry.dead x t then none else some (x.prune t w) := by
  unfold heldAt
  rw [liveAt_put_self]
  cases Entry.dead x t <;> rfl

/-- Writing a key's live entry back with its log pruned, into any store, leaves the key
holding what it held. -/
theorem heldAt_put_prune {s : MemoryStore} {now : Instant} {key : String} {x : Entry}
    (hx : s.liveAt now key = some x) (s' : MemoryStore) (w : Span) :
    (s'.put key (x.prune now w)).heldAt now w key = s.heldAt now w key := by
  rw [heldAt_put_self, dead_prune, dead_eq_false_of_liveAt hx]
  simp [heldAt, hx]

/-- A cleared key holds nothing. -/
theorem heldAt_clear_self (s : MemoryStore) (t : Instant) (w : Span) (key : String) :
    (s.clear key).heldAt t w key = none := by
  have hkey : key ≠ previousKey key := fun h => by
    simpa [previousKey] using congrArg String.length h
  simp only [heldAt, liveAt, MemoryStore.clear, find?_erase_of_ne hkey, find?_erase_self,
    Option.filter_none, Option.map_none]

/-- The remaining life reported for what a key holds depends only on what it holds. -/
theorem ttlOf_heldAt (s : MemoryStore) (t : Instant) (w : Span) (key : String) :
    ttlOf t (s.heldAt t w key) = ttlOf t (s.liveAt t key) := by
  unfold heldAt
  cases s.liveAt t key <;> rfl

/-- An increment adds to what the key holds, or to a fresh counter dying a window from now. -/
theorem heldAt_incr (s : MemoryStore) (now : Instant) (key : String) (w : Span) (a : Int64) :
    (s.incr now key w a).2.heldAt now w key =
      let b := (s.heldAt now w key).getD ⟨0, now.add w, []⟩
      if Entry.dead b now then none else some { b with value := b.value + a } := by
  rw [incr_eq]
  dsimp only
  rw [heldAt_put_self]
  unfold heldAt
  cases s.liveAt now key <;> rfl

/-- A refused moving-window admission leaves what the key holds: it only prunes the log. -/
theorem heldAt_acquireEntry_of_refused {s : MemoryStore} {now : Instant} {key : String}
    {limit w a : Int64} (h : (s.acquireEntry now key limit w a).1 = false) :
    (s.acquireEntry now key limit w a).2.heldAt now w key = s.heldAt now w key := by
  rw [acquireEntry_eq] at h ⊢
  by_cases hbig : limit < a
  · simp only [hbig, if_true]
  · simp only [hbig, if_false] at h ⊢
    cases hheld : s.liveAt now key with
    | none =>
      simp only [hheld, Option.getD_none] at h
      have hzero : logTotal (recent [] now w) + a = a := Int64.zero_add a
      simp [hzero, hbig] at h
    | some x =>
      simp only [hheld, Option.getD_some] at h ⊢
      split_ifs at h ⊢
      exact heldAt_put_prune hheld _ w

/-- An amount logged now lies in the window ending now, when the window is positive. -/
theorem recent_now {w : Span} (hw : 0 < w.toInt) (now : Instant) (a : Int64) :
    recent [(now, a)] now w = [(now, a)] := by
  have hin : now.add (-w) < now := by
    rw [MovingWindow.add_neg_of_pos hw]
    exact Int.sub_lt_self now hw
  simp [recent, hin]

/-- Pruning a pruned log with an amount logged now keeps both, over a positive window. -/
theorem recent_append_now {w : Span} (hw : 0 < w.toInt) (log : List (Instant × Int64))
    (now : Instant) (a : Int64) :
    recent (recent log now w ++ [(now, a)]) now w = recent log now w ++ [(now, a)] := by
  rw [recent, List.filter_append, ← recent, ← recent, WindowKind.recent_recent_self,
    recent_now hw]

/-- An admitted amount is logged into what the key holds, and the counter then dies a window
from now. -/
theorem heldAt_acquireEntry_of_admitted {s : MemoryStore} {now : Instant} {key : String}
    {limit w a : Int64} (hw : 0 < w.toInt) (h : (s.acquireEntry now key limit w a).1 = true) :
    (s.acquireEntry now key limit w a).2.heldAt now w key =
      let b := (s.heldAt now w key).getD ⟨0, 0, []⟩
      let e : Entry := { b with log := b.log ++ [(now, a)], expiresAt := now.add w }
      if Entry.dead e now then none else some e := by
  rw [acquireEntry_eq] at h ⊢
  by_cases hbig : limit < a
  · simp [hbig] at h
  · simp only [hbig, if_false] at h ⊢
    split_ifs at h with hfit
    rw [if_neg hfit, heldAt_put_self]
    unfold heldAt
    cases s.liveAt now key with
    | none =>
      have hnil : recent ([] : List (Instant × Int64)) now w = [] := rfl
      simp [Entry.prune, Entry.dead, hnil, recent_now hw]
    | some x => simp [Entry.prune, Entry.dead, recent_append_now hw]

/-- A moving-window read leaves what the key holds: it only prunes the log. -/
theorem heldAt_movingWindow (s : MemoryStore) (now : Instant) (key : String) (w : Span) :
    (s.movingWindow now key w).2.heldAt now w key = s.heldAt now w key := by
  rw [movingWindow_eq]
  cases hheld : s.liveAt now key with
  | none => exact heldAt_lookup s w key key (le_refl now)
  | some x =>
    dsimp only
    exact heldAt_put_prune hheld _ w

end MemoryStore

namespace WindowKind

/-- A fixed or moving window's hit compares against what its key holds. -/
theorem used_congr {k : WindowKind} (hk : k ≠ .sliding) {now : Instant} {item : Item}
    {key : String} {s s' : MemoryStore}
    (h : s.heldAt now item.expiry (item.storageKey key) =
      s'.heldAt now item.expiry (item.storageKey key)) :
    used k now item key s = used k now item key s' := by
  cases k with
  | fixed =>
    have hvalue := congrArg (Option.map (·.value)) h
    simp only [map_heldAt, Entry.prune] at hvalue
    simp only [used, hvalue]
  | sliding => exact absurd rfl hk
  | moving =>
    have hlog := congrArg (Option.map (·.log)) h
    simp only [map_heldAt, Entry.prune] at hlog
    simp only [used, hlog]

/-- A fixed or moving window's hit leaves under its key what follows from what the key held. -/
theorem heldAt_hit_congr {k : WindowKind} (hk : k ≠ .sliding) {now : Instant} {item : Item}
    {key : String} (c : Int64) {s s' : MemoryStore} (hw : 0 < item.expiry.toInt)
    (h : s.heldAt now item.expiry (item.storageKey key) =
      s'.heldAt now item.expiry (item.storageKey key)) :
    (k.hit (CounterOps.memory .truthful) now item key c s).2.heldAt now item.expiry
        (item.storageKey key) =
      (k.hit (CounterOps.memory .truthful) now item key c s').2.heldAt now item.expiry
        (item.storageKey key) := by
  cases k with
  | fixed =>
    simp only [hit, CounterOps.memory, Interference.guard, Interference.failure]
    rw [heldAt_incr, heldAt_incr, h]
  | sliding => exact absurd rfl hk
  | moving =>
    have hans := hit_fst .moving now item key c s
    have hans' := hit_fst .moving now item key c s'
    rw [used_congr (by decide) h] at hans
    simp only [hit, CounterOps.memory, Interference.guard, Interference.failure,
      Except.ok.injEq] at hans hans' ⊢
    cases hb : (s.acquireEntry now (item.storageKey key) item.amount item.expiry c).1 with
    | false =>
      have hb' : (s'.acquireEntry now (item.storageKey key) item.amount item.expiry c).1 =
          false := by rw [hans', ← hans, hb]
      rw [heldAt_acquireEntry_of_refused hb, heldAt_acquireEntry_of_refused hb', h]
    | true =>
      have hb' : (s'.acquireEntry now (item.storageKey key) item.amount item.expiry c).1 =
          true := by rw [hans', ← hans, hb]
      rw [heldAt_acquireEntry_of_admitted hw hb, heldAt_acquireEntry_of_admitted hw hb', h]

/-- A fixed or moving window's read leaves what its key holds. -/
theorem heldAt_remaining {k : WindowKind} (hk : k ≠ .sliding) (now : Instant) (item : Item)
    (key : String) (s : MemoryStore) :
    (k.remaining (CounterOps.memory .truthful) now item key s).2.heldAt now item.expiry
        (item.storageKey key) = s.heldAt now item.expiry (item.storageKey key) := by
  cases k with
  | fixed =>
    rw [remaining_fixed_memory, pttl_eq, get_eq]
    dsimp only
    rw [heldAt_lookup _ _ _ _ (le_refl now), heldAt_lookup _ _ _ _ (le_refl now)]
  | sliding => exact absurd rfl hk
  | moving =>
    rw [remaining_moving_memory]
    exact heldAt_movingWindow s now (item.storageKey key) item.expiry

end WindowKind

namespace Limiter

open WindowKind

/-- A limiter counts every quota over a positive window: a minute or a day. -/
theorem expiry_ofLimit_pos (ty : LimitType) (v : Int64) :
    0 < (Item.ofLimit ty v).expiry.toInt := by
  have hday : (Item.perDay v).expiry = Span.day := by
    simp [Item.perDay, Item.expiry, Item.units, Granularity.span]
  have hminute : (Item.perMinute v).expiry = Span.minute := by
    simp [Item.perMinute, Item.expiry, Item.units, Granularity.span]
  unfold Item.ofLimit
  split
  · rw [hday]
    decide +kernel
  · rw [hminute]
    decide +kernel

/-- A limiter's hit leaves under the counter's key what its strategy's hit left, except that
an allowed hit clears a counter that never expires. -/
theorem heldAt_hit (l : Limiter) (now : Instant) (user router : Int64) (ty : LimitType)
    (v c : Int64) (s : MemoryStore) (w : Span) :
    (l.hit (CounterOps.memory .truthful) now user router ty (some v) c s).2.heldAt now w
        ((Item.ofLimit ty v).storageKey (l.key user router ty)) =
      let r := l.window.hit (CounterOps.memory .truthful) now (Item.ofLimit ty v)
        (l.key user router ty) c s
      let held := r.2.heldAt now w ((Item.ofLimit ty v).storageKey (l.key user router ty))
      if r.1 = .ok true ∧ ttlOf now held = ttlNoExpiry then none else held := by
  unfold hit
  dsimp only
  cases l.window.hit (CounterOps.memory .truthful) now (Item.ofLimit ty v)
      (l.key user router ty) c s with
  | mk r s₁ =>
    rcases r with e | _ | _
    · simp
    · simp
    · simp only [CounterOps.memory, Interference.guard, Interference.failure, pttl_eq,
        true_and, ttlOf_heldAt]
      split_ifs
      · exact heldAt_clear_self _ _ _ _
      · exact heldAt_lookup _ _ _ _ (le_refl now)

/-- On a fixed or moving window a limiter's hit acts on what the quota's counter holds: stores
that hold the same there answer the hit alike and hold the same there after it. -/
theorem hit_congr {l : Limiter} (hk : l.window ≠ .sliding) (now : Instant) (user router : Int64)
    (ty : LimitType) (v c : Int64) {s s' : MemoryStore}
    (h : s.heldAt now (Item.ofLimit ty v).expiry
        ((Item.ofLimit ty v).storageKey (l.key user router ty)) =
      s'.heldAt now (Item.ofLimit ty v).expiry
        ((Item.ofLimit ty v).storageKey (l.key user router ty))) :
    (l.hit (CounterOps.memory .truthful) now user router ty (some v) c s).1 =
        (l.hit (CounterOps.memory .truthful) now user router ty (some v) c s').1 ∧
      (l.hit (CounterOps.memory .truthful) now user router ty (some v) c s).2.heldAt now
          (Item.ofLimit ty v).expiry ((Item.ofLimit ty v).storageKey (l.key user router ty)) =
        (l.hit (CounterOps.memory .truthful) now user router ty (some v) c s').2.heldAt now
          (Item.ofLimit ty v).expiry ((Item.ofLimit ty v).storageKey (l.key user router ty)) := by
  have hused := used_congr hk h
  have hwin := heldAt_hit_congr hk c (expiry_ofLimit_pos ty v) h
  refine ⟨by rw [hit_memory, hit_memory, hused], ?_⟩
  rw [heldAt_hit, heldAt_hit]
  dsimp only
  rw [hit_fst, hit_fst, hused, hwin]

/-- On a fixed or moving window a limiter's read leaves what the quota's counter holds. -/
theorem heldAt_remaining {l : Limiter} (hk : l.window ≠ .sliding) (now : Instant)
    (user router : Int64) (ty : LimitType) (v : Int64) (s : MemoryStore) :
    (l.remaining (CounterOps.memory .truthful) now user router ty (some v) s).2.heldAt now
        (Item.ofLimit ty v).expiry ((Item.ofLimit ty v).storageKey (l.key user router ty)) =
      s.heldAt now (Item.ofLimit ty v).expiry
        ((Item.ofLimit ty v).storageKey (l.key user router ty)) := by
  rw [remaining_memory]
  exact WindowKind.heldAt_remaining hk now _ _ s

/-- A refused hit on a moving window leaves what the quota's counter holds. -/
theorem heldAt_hit_of_refused {l : Limiter} (hk : l.window = .moving) {now : Instant}
    {user router : Int64} {ty : LimitType} {v c : Int64} {s : MemoryStore}
    (h : (l.hit (CounterOps.memory .truthful) now user router ty (some v) c s).1 = false) :
    (l.hit (CounterOps.memory .truthful) now user router ty (some v) c s).2.heldAt now
        (Item.ofLimit ty v).expiry ((Item.ofLimit ty v).storageKey (l.key user router ty)) =
      s.heldAt now (Item.ofLimit ty v).expiry
        ((Item.ofLimit ty v).storageKey (l.key user router ty)) := by
  have hfst := hit_fst l.window now (Item.ofLimit ty v) (l.key user router ty) c s
  rw [hit_memory] at h
  rw [heldAt_hit]
  dsimp only
  rw [hfst, h]
  simp only [Except.ok.injEq, Bool.false_eq_true, false_and, if_false]
  rw [h, hk] at hfst
  rw [hk]
  simp only [WindowKind.hit, CounterOps.memory, Interference.guard, Interference.failure,
    Except.ok.injEq] at hfst ⊢
  exact heldAt_acquireEntry_of_refused hfst

end Limiter

namespace Limiter

open WindowKind

/-- Whether a call, with the answer it got, is one a run can do without: a read of a quota,
or a refused hit on a sliding or moving window. A refused hit on a fixed window still counts
its cost. -/
def observing (l : Limiter) (x : (Instant × LimiterCall) × LimiterAnswer) : Bool :=
  match x.1.2, x.2 with
  | .remaining _, _ => true
  | .hit _ _, .allowed false => l.window != .fixed
  | .hit _ _, _ => false

/-- What a capped quota's counter holds at an instant, as a fixed or moving window reads it. -/
def heldFor (l : Limiter) (t : Instant) (user router : Int64) (ty : LimitType) (v : Int64)
    (s : MemoryStore) : Option Entry :=
  s.heldAt t (Item.ofLimit ty v).expiry ((Item.ofLimit ty v).storageKey (l.key user router ty))

/-- Two stores hold the same at an instant for every capped quota. -/
def Held (l : Limiter) (t : Instant) (s s' : MemoryStore) : Prop :=
  ∀ user router ty v, l.heldFor t user router ty v s = l.heldFor t user router ty v s'

theorem Held.refl (l : Limiter) (t : Instant) (s : MemoryStore) : l.Held t s s :=
  fun _ _ _ _ => rfl

theorem Held.trans {l : Limiter} {t : Instant} {s₁ s₂ s₃ : MemoryStore} (h₁ : l.Held t s₁ s₂)
    (h₂ : l.Held t s₂ s₃) : l.Held t s₁ s₃ :=
  fun u r ty v => (h₁ u r ty v).trans (h₂ u r ty v)

/-- Stores that hold the same at an instant hold the same later. -/
theorem Held.mono {l : Limiter} {t t' : Instant} {s s' : MemoryStore} (h : l.Held t s s')
    (ht : t ≤ t') : l.Held t' s s' :=
  fun u r ty v => heldAt_congr_of_le (expiry_ofLimit_pos ty v) ht (h u r ty v)

/-- A call changes nothing any other capped quota's counter holds. -/
theorem heldFor_call_of_ne (l : Limiter) {c : Instant × LimiterCall} {user router : Int64}
    {ty : LimitType} {v : Int64} (hne : (⟨user, router, ty, some v⟩ : QuotaRef) ≠ c.2.quota)
    (t : Instant) (s : MemoryStore) :
    l.heldFor t user router ty v (l.call c s).2 = l.heldFor t user router ty v s := by
  apply heldAt_congr_find?
  apply (Confined.call l c).frame s
  exact quotaKeys_disjoint hne ⟨_, rfl, .inl rfl⟩

/-- A call on an unlimited quota answers without looking at the store. -/
theorem call_fst_of_unlimited (l : Limiter) {c : Instant × LimiterCall}
    (hv : c.2.quota.value = none) (s s' : MemoryStore) : (l.call c s).1 = (l.call c s').1 := by
  obtain ⟨now, call⟩ := c
  cases call with
  | hit q cost =>
    obtain ⟨user, router, ty, value⟩ := q
    simp only [LimiterCall.quota] at hv
    subst hv
    rfl
  | remaining q =>
    obtain ⟨user, router, ty, value⟩ := q
    simp only [LimiterCall.quota] at hv
    subst hv
    rfl

/-- A call on a capped quota, on a fixed or moving window, acts on what the quota's counter
holds: stores that hold the same there answer alike and hold the same there after it. -/
theorem call_congr_self {l : Limiter} (hk : l.window ≠ .sliding) {c : Instant × LimiterCall}
    {user router : Int64} {ty : LimitType} {v : Int64}
    (hq : c.2.quota = ⟨user, router, ty, some v⟩) {s s' : MemoryStore}
    (h : l.heldFor c.1 user router ty v s = l.heldFor c.1 user router ty v s') :
    (l.call c s).1 = (l.call c s').1 ∧
      l.heldFor c.1 user router ty v (l.call c s).2 =
        l.heldFor c.1 user router ty v (l.call c s').2 := by
  obtain ⟨now, call⟩ := c
  cases call with
  | hit q cost =>
    simp only [LimiterCall.quota] at hq
    subst hq
    obtain ⟨hans, hheld⟩ := hit_congr hk now user router ty v cost h
    exact ⟨congrArg LimiterAnswer.allowed hans, hheld⟩
  | remaining q =>
    simp only [LimiterCall.quota] at hq
    subst hq
    refine ⟨?_, ?_⟩
    · show LimiterAnswer.left _ = LimiterAnswer.left _
      rw [remaining_memory, remaining_memory, used_congr hk h]
    · exact (heldAt_remaining hk now user router ty v s).trans
        (h.trans (heldAt_remaining hk now user router ty v s').symm)

/-- An observing call on a fixed or moving window leaves what its quota's counter holds. -/
theorem heldFor_call_self_of_observing {l : Limiter} (hk : l.window ≠ .sliding)
    {c : Instant × LimiterCall} {user router : Int64} {ty : LimitType} {v : Int64}
    (hq : c.2.quota = ⟨user, router, ty, some v⟩) {s : MemoryStore}
    (hobs : l.observing (c, (l.call c s).1) = true) :
    l.heldFor c.1 user router ty v (l.call c s).2 = l.heldFor c.1 user router ty v s := by
  obtain ⟨now, call⟩ := c
  cases call with
  | hit q cost =>
    simp only [LimiterCall.quota] at hq
    subst hq
    have hrefused : (l.hit (CounterOps.memory .truthful) now user router ty (some v) cost s).1 =
        false := by
      cases hb : (l.hit (CounterOps.memory .truthful) now user router ty (some v) cost s).1 with
      | false => rfl
      | true => simp [observing, call, hb] at hobs
    have hmoving : l.window = .moving := by
      revert hobs hk
      simp only [observing, call, hrefused]
      cases l.window <;> simp
    exact heldAt_hit_of_refused hmoving hrefused
  | remaining q =>
    simp only [LimiterCall.quota] at hq
    subst hq
    exact heldAt_remaining hk now user router ty v s

/-- One call, made on two stores that hold the same at its instant, answers alike and leaves
them holding the same. -/
theorem Held.call {l : Limiter} (hk : l.window ≠ .sliding) (c : Instant × LimiterCall)
    {s s' : MemoryStore} (h : l.Held c.1 s s') :
    (l.call c s).1 = (l.call c s').1 ∧ l.Held c.1 (l.call c s).2 (l.call c s').2 := by
  refine ⟨?_, fun user router ty v => ?_⟩
  · cases hv : c.2.quota.value with
    | none => exact call_fst_of_unlimited l hv s s'
    | some v =>
      have hq : c.2.quota = ⟨c.2.quota.user, c.2.quota.router, c.2.quota.type, some v⟩ := by
        rw [← hv]
      exact (call_congr_self hk hq (h _ _ _ v)).1
  · by_cases hq : (⟨user, router, ty, some v⟩ : QuotaRef) = c.2.quota
    · exact (call_congr_self hk hq.symm (h user router ty v)).2
    · rw [heldFor_call_of_ne l hq, heldFor_call_of_ne l hq]
      exact h user router ty v

/-- An observing call leaves the store holding at its instant what it held. -/
theorem Held.observing {l : Limiter} (hk : l.window ≠ .sliding) (c : Instant × LimiterCall)
    {s : MemoryStore} (hobs : l.observing (c, (l.call c s).1) = true) :
    l.Held c.1 (l.call c s).2 s := by
  intro user router ty v
  by_cases hq : (⟨user, router, ty, some v⟩ : QuotaRef) = c.2.quota
  · exact heldFor_call_self_of_observing hk hq.symm hobs
  · exact heldFor_call_of_ne l hq c.1 s

end Limiter

namespace Limiter

/-- A run, and the run of its calls that are not observing ones, hold the same at every instant
from its last call on; and the shorter run gives each of its calls the whole run's answer.
The induction adds one call at a time: the shorter run makes it too when it does not observe,
and then both answer it alike (`Held.call`); otherwise only the whole run makes it, and it leaves
what the store holds (`Held.observing`). -/
theorem replay_without_observing {l : Limiter} (hk : l.window ≠ .sliding) (s₀ : MemoryStore)
    {t₀ : Instant} {calls : List (Instant × LimiterCall)} (hchron : Chronological t₀ calls) :
    (∀ t, t₀ ≤ t → (∀ d ∈ calls, d.1 ≤ t) →
      l.Held t (replay l.call s₀ calls).1 (replay l.call s₀
        (((replay l.call s₀ calls).2.filter fun x => !l.observing x).map Prod.fst)).1) ∧
      (replay l.call s₀
          (((replay l.call s₀ calls).2.filter fun x => !l.observing x).map Prod.fst)).2 =
        (replay l.call s₀ calls).2.filter fun x => !l.observing x := by
  induction calls using List.reverseRecOn with
  | nil => exact ⟨fun t _ _ => Held.refl l t s₀, rfl⟩
  | append_singleton calls c ih =>
    obtain ⟨hchron, hc₀, hcl⟩ := chronological_append_singleton.mp hchron
    obtain ⟨hheld, htrace⟩ := ih hchron
    have hnow := hheld c.1 hc₀ hcl
    have hlater : ∀ t, (∀ d ∈ calls ++ [c], d.1 ≤ t) → c.1 ≤ t :=
      fun t ht => ht c (List.mem_append_right calls (List.mem_singleton_self c))
    rw [replay_append_singleton]
    simp only [List.filter_append, List.filter_singleton, List.map_append]
    cases hobs : l.observing (c, (l.call c (replay l.call s₀ calls).1).1) with
    | true =>
      simp only [Bool.not_true, cond_false, List.map_nil, List.append_nil]
      exact ⟨fun t _ ht => ((Held.observing hk c hobs).trans hnow).mono (hlater t ht), htrace⟩
    | false =>
      obtain ⟨hans, hafter⟩ := Held.call hk c hnow
      simp only [Bool.not_false, cond_true, List.map_cons, List.map_nil, replay_append_singleton,
        htrace, hans, and_true]
      exact fun t _ ht => hafter.mono (hlater t ht)

end Limiter

/-- Reads leave no trace on fixed and moving windows. Take a limiter counting by fixed or moving
windows over the in-memory store, any store to start from, and calls at nondecreasing instants.
Leave out of the run every read of a quota, and every refused hit unless the window is fixed,
and run the rest: each call gets the answer it got in the whole run. -/
theorem observing_calls_unseen (l : Limiter) (hk : l.window ≠ .sliding) (s₀ : MemoryStore)
    (t₀ : Instant) (calls : List (Instant × LimiterCall)) (hchron : Chronological t₀ calls) :
    (replay l.call s₀
        (((replay l.call s₀ calls).2.filter fun x => !l.observing x).map Prod.fst)).2 =
      (replay l.call s₀ calls).2.filter fun x => !l.observing x :=
  (Limiter.replay_without_observing hk s₀ hchron).2

/-- A run on a moving window with a read and a refused hit in it. -/
theorem observing_calls_unseen_moving :
    let l : Limiter := ⟨.moving, "rl"⟩
    let q : QuotaRef := ⟨1, 2, LimitType.rpm, some 10⟩
    let calls : List (Instant × LimiterCall) :=
      [(0, .hit q 4), (1, .remaining q), (2, .hit q 7), (3, .hit q 6)]
    l.window ≠ .sliding ∧ Chronological 0 calls ∧
      (replay l.call .empty
          (((replay l.call .empty calls).2.filter fun x => !l.observing x).map Prod.fst)).2 =
        (replay l.call .empty calls).2.filter fun x => !l.observing x :=
  ⟨by decide, by unfold Chronological; decide,
    observing_calls_unseen _ (by decide) _ 0 _ (by unfold Chronological; decide)⟩

/-- On a sliding window a read is seen later. A quota of 10 per minute takes a hit of 1 at the
start. A read 90 seconds on rolls the counters, so the hit of 10 at 150 seconds lands in a window
ending at 240 seconds and weighs 2 at 228 seconds, where a hit of 5 is allowed. Without the read
the first counter has died by 150 seconds, the hit of 10 starts a counter living to 270 seconds
that weighs 7 at 228 seconds, and the hit of 5 is refused. -/
theorem sliding_read_refuses_later_hit :
    let l : Limiter := ⟨.sliding, "rl"⟩
    let q : QuotaRef := ⟨1, 2, LimitType.rpm, some 10⟩
    let T := Instant.ofUnixSeconds 1704067200
    let calls : List (Instant × LimiterCall) :=
      [(T, .hit q 1), (T + 90000000000, .remaining q), (T + 150000000000, .hit q 10),
        (T + 228000000000, .hit q 5)]
    (replay l.call .empty calls).2.map Prod.snd =
        [.allowed true, .left (some 10), .allowed true, .allowed true] ∧
      (replay l.call .empty
          (((replay l.call .empty calls).2.filter fun x => !l.observing x).map Prod.fst)).2.map
          Prod.snd = [.allowed true, .allowed true, .allowed false] := by
  decide +kernel

end Admission.Quota
