import Mathlib
import Admission.Proofs.Independence

/-!
# Every in-memory counter carries an expiry

A counter of the in-memory store that never expires would never reset, and the limiter clears
any counter the store reports as never expiring. This module proves that on the in-memory store
that never happens: every entry the store holds has an expiry (`Expiring`), after any run of its
operations whose clock readings come after the zero instant and whose windows are positive and
below `2^62` ns.

Each operation keeps the invariant (`Expiring.incr`, `Expiring.acquireEntry`, ...). Three of
them write an entry with a fresh expiry: `incr` and an admitted `acquireEntry` a window from now,
the sliding window's rotation its remaining life plus a window, and a first sliding counter two
windows; the bound on windows keeps the last two from wrapping. The moving window is the subtle
case: its lookup starts a missing entry with no expiry, and only an admission gives it one. A
refused amount leaves that entry behind, but a missing entry has an empty log, so it refuses
exactly an amount above the limit, which `acquireEntry` refuses before it looks the key up.

On such a store the remaining life of a key is `ttlMissing` or positive, never `ttlNoExpiry`
(`Expiring.pttl_fst`).

Main statement (`counters_always_expire`): after every such run from the empty store, every
stored entry has an expiry, no expiry query of the run answered `ttlNoExpiry`, and a limiter's
hit on the store never finds a counter to clear.
-/

namespace Admission

/-- A window length the in-memory store handles without overflow: positive and below `2^62` ns,
so that twice it, or it plus a shorter life, is still a span. -/
def WindowBounded (w : Span) : Prop := 0 < w ∧ w.toInt < 4611686018427387904

/-- A positive span counts a positive number of nanoseconds. -/
theorem Span.toInt_pos {d : Span} (hd : 0 < d) : 0 < d.toInt := by
  simpa using Int64.lt_iff_toInt_lt.mp hd

/-- A positive span after an instant after the zero instant is not the zero instant. -/
theorem Instant.add_ne_zero {t : Instant} {d : Span} (ht : 0 < t) (hd : 0 < d) : t.add d ≠ 0 := by
  have hd' := Span.toInt_pos hd
  simp only [Instant.add, Instant] at *
  omega

/-- A life shorter than a bounded window, added to it, does not wrap. -/
theorem WindowBounded.add_pos {d w : Span} (hw : WindowBounded w) (hd : 0 < d) (hdw : d < w) :
    0 < d + w := by
  have hd' := Span.toInt_pos hd
  have hdw' := Int64.lt_iff_toInt_lt.mp hdw
  have hw' := hw.2
  rw [Int64.lt_iff_toInt_lt, Int64.toInt_add, Int.bmod_eq_of_le (by norm_num; omega)
    (by norm_num; omega)]
  simp only [Int64.toInt_zero]
  omega

/-- Twice a bounded window does not wrap. -/
theorem WindowBounded.two_mul_pos {w : Span} (hw : WindowBounded w) : 0 < 2 * w := by
  have hw' := Span.toInt_pos hw.1
  have hw'' := hw.2
  have htwo : (2 : Int64).toInt = 2 := rfl
  rw [Int64.lt_iff_toInt_lt, Int64.toInt_mul, htwo, Int.bmod_eq_of_le (by norm_num; omega)
    (by norm_num; omega)]
  simp only [Int64.toInt_zero]
  omega

/-- A saturated span of a positive count of nanoseconds is positive. -/
theorem Span.clamp_pos {n : Int} (hn : 0 < n) : 0 < Span.clamp n := by
  unfold Span.clamp
  split_ifs with hlo hhi
  · omega
  · decide
  · rw [Int64.lt_iff_toInt_lt, Quota.toInt_ofInt_of_lt hn.le (by omega)]
    simpa using hn

namespace Quota.MemoryStore

/-- Every stored entry, dead or alive, has an expiry. -/
def Expiring (s : MemoryStore) : Prop := ∀ p ∈ s.entries, p.2.expiresAt ≠ 0

section Expiring

variable {s : MemoryStore} {now : Instant} {key : String} {e : Entry}

theorem Expiring.empty : Expiring MemoryStore.empty := by
  simp [Expiring, MemoryStore.empty]

/-- A stored entry has an expiry. -/
theorem Expiring.find? (h : Expiring s) (hf : s.find? key = some e) : e.expiresAt ≠ 0 := by
  obtain ⟨p, hp, rfl⟩ := Option.map_eq_some_iff.mp hf
  exact h p (List.mem_of_find?_eq_some hp)

/-- A held entry has an expiry. -/
theorem Expiring.liveAt (h : Expiring s) (hl : s.liveAt now key = some e) : e.expiresAt ≠ 0 :=
  h.find? (Option.filter_eq_some_iff.mp hl).1

/-- Writing an entry with an expiry keeps every entry expiring. -/
theorem Expiring.put (h : Expiring s) (he : e.expiresAt ≠ 0) : Expiring (s.put key e) := by
  intro p hp
  unfold MemoryStore.put at hp
  split at hp
  · obtain ⟨q, hq, rfl⟩ := List.mem_map.mp hp
    by_cases hk : q.1 == key
    · simpa [hk] using he
    · simpa [hk] using h q hq
  · rcases List.mem_append.mp hp with hp | hp
    · exact h p hp
    · rw [List.mem_singleton.mp hp]
      exact he

/-- Erasing a key keeps every entry expiring. -/
theorem Expiring.erase (h : Expiring s) : Expiring (s.erase key) :=
  fun p hp => h p (List.mem_filter.mp hp).1

/-- A lookup, which may drop a dead entry, keeps every entry expiring. -/
theorem Expiring.lookup (h : Expiring s) : Expiring (s.lookup now key).2 := by
  unfold MemoryStore.lookup
  split
  · exact h
  · split
    · exact h.erase
    · exact h

/-- The remaining life of a key holding an expiring entry, or nothing, is `ttlMissing` or
positive: a held entry is alive, so its expiry lies ahead. -/
theorem Expiring.ttlOf_liveAt (h : Expiring s) (now : Instant) (key : String) :
    ttlOf now (s.liveAt now key) = ttlMissing ∨ 0 < ttlOf now (s.liveAt now key) := by
  cases hl : s.liveAt now key with
  | none => exact .inl rfl
  | some e =>
    have hexp := h.liveAt hl
    have hahead : now < e.expiresAt := by
      have hdead := dead_eq_false_of_liveAt hl
      by_contra hle
      have hdead' : Entry.dead e now = true := dead_iff.mpr ⟨hexp, not_lt.mp hle⟩
      simp [hdead] at hdead'
    right
    have hzero : e.expiresAt.isZero = false := by simpa [Instant.isZero] using hexp
    simp only [ttlOf, hzero, Bool.false_eq_true, if_false, Instant.since]
    exact Span.clamp_pos (sub_pos.mpr hahead)

/-- On a store whose entries all expire, no key reports that it never expires. -/
theorem Expiring.pttl_fst (h : Expiring s) (now : Instant) (key : String) :
    (s.pttl now key).1 ≠ ttlNoExpiry := by
  have hfst : (s.pttl now key).1 = ttlOf now (s.liveAt now key) := by rw [pttl_eq]
  rw [hfst]
  rcases h.ttlOf_liveAt now key with hm | hpos
  · rw [hm]
    decide
  · intro heq
    rw [heq] at hpos
    exact absurd hpos (by decide)

theorem Expiring.incr (h : Expiring s) (hnow : 0 < now) {w : Span} (hw : 0 < w) (a : Int64) :
    Expiring (s.incr now key w a).2 := by
  rw [incr_eq]
  refine h.lookup.put ?_
  cases hl : s.liveAt now key with
  | none => exact Instant.add_ne_zero hnow hw
  | some e => simpa using h.liveAt hl

theorem Expiring.get (h : Expiring s) : Expiring (s.get now key).2 := by
  rw [get_eq]
  exact h.lookup

theorem Expiring.pttl (h : Expiring s) : Expiring (s.pttl now key).2 := by
  rw [pttl_eq]
  exact h.lookup

theorem Expiring.clear (h : Expiring s) : Expiring (s.clear key) :=
  h.erase.erase

theorem Expiring.reset : Expiring s.reset.2 :=
  Expiring.empty

/-- A moving-window admission keeps every entry expiring: a refused amount rewrites a held entry
only, since a missing key's empty log refuses just the amounts above the limit, refused before
the lookup; an admitted one renews the expiry. -/
theorem Expiring.acquireEntry (h : Expiring s) (hnow : 0 < now) (limit : Int64) {w : Span}
    (hw : 0 < w) (a : Int64) : Expiring (s.acquireEntry now key limit w a).2 := by
  rw [acquireEntry_eq]
  dsimp only
  split_ifs with hover hfull
  · exact h
  · refine h.lookup.put ?_
    cases hl : s.liveAt now key with
    | none =>
      simp only [hl, Option.getD_none, recent, List.filter_nil, logTotal, List.foldl_nil,
        Int64.zero_add] at hfull
      exact absurd hfull hover
    | some e => simpa using h.liveAt hl
  · exact h.lookup.put (Instant.add_ne_zero hnow hw)

theorem Expiring.movingWindow (h : Expiring s) (w : Span) :
    Expiring (s.movingWindow now key w).2 := by
  rw [movingWindow_eq]
  cases hl : s.liveAt now key with
  | none => exact h.lookup
  | some e => exact h.lookup.put (by simpa using h.liveAt hl)

/-- The rotation keeps every entry expiring: the current counter moves to the previous key with
its expiry, and the new current counter lives its remaining life plus a window. -/
theorem Expiring.shift (h : Expiring s) (hnow : 0 < now) {w : Span} (hw : WindowBounded w) :
    Expiring (s.shift now key w) := by
  rw [shift_eq]
  cases hl : s.liveAt now key with
  | none => exact h.lookup
  | some cur =>
    dsimp only
    split
    · rename_i hlife
      exact (h.lookup.put (h.liveAt hl)).put
        (Instant.add_ne_zero hnow (hw.add_pos hlife.1 hlife.2))
    · exact h.lookup

theorem Expiring.slidingState (h : Expiring s) : Expiring (s.slidingState now key).2 := by
  rw [slidingState_snd]
  exact h.lookup.lookup.lookup.lookup

/-- A sliding-window admission keeps every entry expiring: an admitted amount goes to the held
current counter, or to a fresh one that lives two windows. -/
theorem Expiring.acquireSliding (h : Expiring s) (hnow : 0 < now) (limit : Int64) {w : Span}
    (hw : WindowBounded w) (a : Int64) : Expiring (s.acquireSliding now key limit w a).2 := by
  have hshift : Expiring (s.shift now key w) := h.shift hnow hw
  simp only [acquireSliding_eq]
  split_ifs <;> dsimp only
  · exact h
  · exact hshift.slidingState
  · refine hshift.slidingState.lookup.put ?_
    cases hl : (s.shift now key w).liveAt now key with
    | none => exact Instant.add_ne_zero hnow hw.two_mul_pos
    | some e => simpa using hshift.liveAt hl

theorem Expiring.slidingWindow (h : Expiring s) (hnow : 0 < now) {w : Span}
    (hw : WindowBounded w) : Expiring (s.slidingWindow now key w).2 := by
  rw [slidingWindow_eq]
  exact (h.shift hnow hw).slidingState

end Expiring

end Quota.MemoryStore

namespace Quota

open MemoryStore

/-- A call on the in-memory store, with its arguments. -/
inductive StoreCall where
  /-- Adds an amount to a counter with this window. -/
  | incr (key : String) (window : Span) (amount : Int64)
  /-- Reads a count. -/
  | get (key : String)
  /-- Reads a remaining life. -/
  | ttl (key : String)
  /-- Removes a counter and its previous counter. -/
  | clear (key : String)
  /-- Removes every counter. -/
  | reset
  /-- Admits an amount into a moving window. -/
  | acquireEntry (key : String) (limit : Int64) (window : Span) (amount : Int64)
  /-- Reads a moving window. -/
  | movingWindow (key : String) (window : Span)
  /-- Admits an amount into a sliding window. -/
  | acquireSliding (key : String) (limit : Int64) (window : Span) (amount : Int64)
  /-- Reads a sliding window. -/
  | slidingWindow (key : String) (window : Span)
  deriving DecidableEq, Repr

/-- What a store call answers. -/
inductive StoreAnswer where
  /-- A count: of an increment, a read or a reset. -/
  | count (n : Int64)
  /-- A remaining life. -/
  | life (d : Span)
  /-- A clearing done. -/
  | cleared
  /-- Whether an amount was admitted. -/
  | admitted (ok : Bool)
  /-- The oldest instant and the total of a moving window. -/
  | window (oldest : Instant) (total : Int64)
  /-- The counters of a sliding window. -/
  | sliding (st : SlidingState)
  deriving DecidableEq, Repr

/-- The window a call is given, if any. -/
def StoreCall.window : StoreCall → Option Span
  | .incr _ w _ => some w
  | .acquireEntry _ _ w _ => some w
  | .movingWindow _ w => some w
  | .acquireSliding _ _ w _ => some w
  | .slidingWindow _ w => some w
  | .get _ => none
  | .ttl _ => none
  | .clear _ => none
  | .reset => none

/-- A timed call at an instant after the zero instant, whose window, if any, is bounded. -/
def StoreCall.Admissible (c : Instant × StoreCall) : Prop :=
  0 < c.1 ∧ ∀ w ∈ c.2.window, WindowBounded w

namespace MemoryStore

/-- One timed call on the in-memory store. -/
def call : Instant × StoreCall → MemoryStore → StoreAnswer × MemoryStore
  | (now, .incr key w a), s => (.count (s.incr now key w a).1, (s.incr now key w a).2)
  | (now, .get key), s => (.count (s.get now key).1, (s.get now key).2)
  | (now, .ttl key), s => (.life (s.pttl now key).1, (s.pttl now key).2)
  | (_, .clear key), s => (.cleared, s.clear key)
  | (_, .reset), s => (.count s.reset.1, s.reset.2)
  | (now, .acquireEntry key limit w a), s =>
    (.admitted (s.acquireEntry now key limit w a).1, (s.acquireEntry now key limit w a).2)
  | (now, .movingWindow key w), s =>
    (.window (s.movingWindow now key w).1.1 (s.movingWindow now key w).1.2,
      (s.movingWindow now key w).2)
  | (now, .acquireSliding key limit w a), s =>
    (.admitted (s.acquireSliding now key limit w a).1, (s.acquireSliding now key limit w a).2)
  | (now, .slidingWindow key w), s =>
    (.sliding (s.slidingWindow now key w).1, (s.slidingWindow now key w).2)

/-- One admissible call keeps every entry expiring, and if it is an expiry query it does not
answer `ttlNoExpiry`. -/
theorem Expiring.step {s : MemoryStore} (h : Expiring s) {c : Instant × StoreCall}
    (hc : StoreCall.Admissible c) :
    Expiring (MemoryStore.call c s).2 ∧ (MemoryStore.call c s).1 ≠ .life ttlNoExpiry := by
  obtain ⟨now, c⟩ := c
  obtain ⟨hnow, hw⟩ := hc
  cases c with
  | incr key w a => simpa [MemoryStore.call] using h.incr hnow (hw w rfl).1 a
  | get key => simpa [MemoryStore.call] using h.get
  | ttl key => simpa [MemoryStore.call] using And.intro h.pttl (h.pttl_fst now key)
  | clear key => simpa [MemoryStore.call] using h.clear
  | reset => simpa [MemoryStore.call] using Expiring.reset (s := s)
  | acquireEntry key limit w a =>
    simpa [MemoryStore.call] using h.acquireEntry hnow limit (hw w rfl).1 a
  | movingWindow key w => simpa [MemoryStore.call] using h.movingWindow w
  | acquireSliding key limit w a =>
    simpa [MemoryStore.call] using h.acquireSliding hnow limit (hw w rfl) a
  | slidingWindow key w => simpa [MemoryStore.call] using h.slidingWindow hnow (hw w rfl)

/-- A run of admissible calls from a store whose entries all expire leaves such a store, and
none of its expiry queries answered `ttlNoExpiry`. -/
theorem Expiring.run {s₀ : MemoryStore} (h : Expiring s₀) {calls : List (Instant × StoreCall)}
    (hcalls : ∀ c ∈ calls, StoreCall.Admissible c) :
    Expiring (replay MemoryStore.call s₀ calls).1 ∧
      ∀ x ∈ (replay MemoryStore.call s₀ calls).2, x.2 ≠ .life ttlNoExpiry := by
  induction calls using List.reverseRecOn with
  | nil => exact ⟨h, by simp [replay]⟩
  | append_singleton calls c ih =>
    obtain ⟨hrun, htrace⟩ := ih fun d hd => hcalls d (List.mem_append_left _ hd)
    obtain ⟨hstep, hanswer⟩ := hrun.step (hcalls c (by simp))
    rw [replay_append_singleton]
    refine ⟨hstep, fun x hx => ?_⟩
    rcases List.mem_append.mp hx with hx | hx
    · exact htrace x hx
    · rw [List.mem_singleton.mp hx]
      exact hanswer

/-- A strategy's hit on the in-memory store keeps every entry expiring. -/
theorem Expiring.windowHit {s : MemoryStore} (h : Expiring s) {now : Instant} (hnow : 0 < now)
    (k : WindowKind) {item : Item} (hw : WindowBounded item.expiry) (key : String) (cost : Int64) :
    Expiring (k.hit (CounterOps.memory .truthful) now item key cost s).2 := by
  cases k with
  | fixed =>
    simp only [WindowKind.hit, CounterOps.memory, Interference.guard, Interference.failure]
    exact h.incr hnow hw.1 cost
  | sliding =>
    simp only [WindowKind.hit, CounterOps.memory, Interference.guard, Interference.failure]
    exact h.acquireSliding hnow item.amount hw cost
  | moving =>
    simp only [WindowKind.hit, CounterOps.memory, Interference.guard, Interference.failure]
    exact h.acquireEntry hnow item.amount hw.1 cost

end MemoryStore

/-- A limiter's window is a minute or a day, both bounded. -/
theorem windowBounded_ofLimit (t : LimitType) (v : Int64) :
    WindowBounded (Item.ofLimit t v).expiry := by
  have hday : (Item.perDay v).expiry = Span.day := by
    simp [Item.perDay, Item.expiry, Item.units, Granularity.span]
  have hminute : (Item.perMinute v).expiry = Span.minute := by
    simp [Item.perMinute, Item.expiry, Item.units, Granularity.span]
  unfold Item.ofLimit WindowBounded
  split
  · rw [hday]
    decide
  · rw [hminute]
    decide

/-- Every in-memory counter carries an expiry. After any run of the in-memory store's
operations from the empty store, at instants after the zero instant and with every window
positive and below `2^62` ns, whatever the keys, limits and amounts: every stored entry has an
expiry; no expiry query of the run answered `ttlNoExpiry`; and when a limiter then hits the
store and its strategy allows the hit, the expiry query that follows does not answer
`ttlNoExpiry`, so the limiter never clears the counter. -/
theorem counters_always_expire (calls : List (Instant × StoreCall))
    (hcalls : ∀ c ∈ calls, StoreCall.Admissible c) :
    (∀ p ∈ (replay MemoryStore.call MemoryStore.empty calls).1.entries, p.2.expiresAt ≠ 0) ∧
      (∀ x ∈ (replay MemoryStore.call MemoryStore.empty calls).2, x.2 ≠ .life ttlNoExpiry) ∧
      ∀ (l : Limiter) (now : Instant) (user router : Int64) (t : LimitType) (v cost : Int64)
        (s' : MemoryStore), 0 < now →
        l.window.hit (CounterOps.memory .truthful) now (Item.ofLimit t v) (l.key user router t)
            cost (replay MemoryStore.call MemoryStore.empty calls).1 = (.ok true, s') →
        ((CounterOps.memory .truthful).ttl now
            ((Item.ofLimit t v).storageKey (l.key user router t)) s').1 ≠ .ok ttlNoExpiry := by
  obtain ⟨hrun, htrace⟩ := Expiring.run Expiring.empty hcalls
  refine ⟨hrun, htrace, fun l now user router t v cost s' hnow hhit => ?_⟩
  have hafter : Expiring s' := by
    have := hrun.windowHit hnow l.window (windowBounded_ofLimit t v) (l.key user router t) cost
    rwa [hhit] at this
  simp only [CounterOps.memory, Interference.guard, Interference.failure, ne_eq,
    Except.ok.injEq]
  exact hafter.pttl_fst now _

/-- A run that refuses an amount above the limit on a missing key, admits one into the moving
window, asks for its life and opens a sliding window. -/
theorem counters_always_expire_moving_then_sliding :
    let calls : List (Instant × StoreCall) := [(1, .acquireEntry "k" 2 Span.minute 3),
      (1, .acquireEntry "k" 5 Span.minute 3), (2, .ttl "k"),
      (3, .acquireSliding "w" 10 Span.minute 1)]
    (∀ c ∈ calls, StoreCall.Admissible c) ∧
      (∀ p ∈ (replay MemoryStore.call MemoryStore.empty calls).1.entries, p.2.expiresAt ≠ 0) ∧
      (∀ x ∈ (replay MemoryStore.call MemoryStore.empty calls).2, x.2 ≠ .life ttlNoExpiry) ∧
      ∀ (l : Limiter) (now : Instant) (user router : Int64) (t : LimitType) (v cost : Int64)
        (s' : MemoryStore), 0 < now →
        l.window.hit (CounterOps.memory .truthful) now (Item.ofLimit t v) (l.key user router t)
            cost (replay MemoryStore.call MemoryStore.empty calls).1 = (.ok true, s') →
        ((CounterOps.memory .truthful).ttl now
            ((Item.ofLimit t v).storageKey (l.key user router t)) s').1 ≠ .ok ttlNoExpiry := by
  intro calls
  have hcalls : ∀ c ∈ calls, StoreCall.Admissible c := by
    simp only [calls, List.mem_cons, List.not_mem_nil, or_false, forall_eq_or_imp, forall_eq,
      StoreCall.Admissible, StoreCall.window, Option.mem_def, Option.some.injEq, forall_eq',
      WindowBounded, reduceCtorEq, false_imp_iff, implies_true, and_true]
    decide
  exact ⟨hcalls, counters_always_expire calls hcalls⟩

end Quota

end Admission
