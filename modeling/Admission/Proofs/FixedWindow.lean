import Admission.Proofs.CounterStore

/-!
# Fixed windows on the in-memory store

A fixed window is one counter under the item's storage key. Every hit adds its cost to it,
allowed or not, and a hit is allowed when the counter, its own cost included, is within the
item's amount. The first hit after the counter died creates a new one that dies a window
later, so the windows of a run are `[start, start + e)` with `start` the instant of the hit
that opened them (`windowStart`).

The counter is a signed 64-bit integer and the addition wraps. Main statement
(`fixed_window_counts_wrapping`): along every run of hits with positive costs at
nondecreasing instants, the counter is the exact total cost of the current window's hits
wrapped into 64 bits, every hit is allowed exactly when that wrapped total is within the
amount, and while the exact total stays below `2^63` the allowed hits of the window cost no
more than the amount. Past `2^63` the wrap lets hits through: a denied hit of cost `2^63 - 1`
followed by a hit of cost 2 leaves a negative counter and the second hit is allowed
(`fixed_window_wrap_allows`).
-/

namespace Admission.Quota.FixedWindow

open MemoryStore

/-- One hit of `item` under `key` by the fixed-window strategy on the in-memory store, at the
hit's instant and with its cost. -/
def hit (item : Item) (key : String) (h : Instant × Int64) (s : MemoryStore) :
    Except Fault Bool × MemoryStore :=
  WindowKind.hit .fixed (CounterOps.memory .truthful) h.1 item key h.2 s

/-- A hit increments the counter and compares the new count with the amount. -/
theorem hit_eq (item : Item) (key : String) (h : Instant × Int64) (s : MemoryStore) :
    hit item key h s=
      (.ok (decide ((s.incr h.1 (item.storageKey key) item.expiry h.2).1≤ item.amount)),
        (s.incr h.1 (item.storageKey key) item.expiry h.2).2) := rfl

/-- Where the window of the last of a run of instants starts: the first instant opens a
window, and an instant at or past the end of the open window opens the next. -/
def windowStart (e : Span) (times : List Instant) : Option Instant :=
  times.foldl (fun start t => match start with
    | some a => if t<a.add e then some a else some t
    | none => some t) none

/-- The calls of the current window, for calls that carry their instant: those at or after
the start of the open window. -/
def current (e : Span) (time : β → Instant) (calls : List β) : List β :=
  match windowStart e (calls.map time) with
  | some a => calls.filter fun x => a ≤ time x
  | none => []

/-- The exact total cost of the hits of the current window. -/
def windowCost (e : Span) (hits : List (Instant × Int64)) : Int :=
  ((current e Prod.fst hits).map fun h => h.2.toInt).sum

/-- The exact total cost of the hits of the current window that were allowed, read off the
trace of a run. -/
def allowedCost (e : Span) (trace : List ((Instant × Int64) × Except Fault Bool)) : Int :=
  (((current e (fun x => x.1.1) trace).filter fun x => x.2 = .ok true).map fun x => x.1.2.toInt).sum

/-- One more instant stays in the open window until it ends, and opens a new one after. -/
theorem windowStart_append_singleton (e : Span) (times : List Instant) (t : Instant) :
    windowStart e (times++[t])=
      match windowStart e times with
      | some a => if t<a.add e then some a else some t
      | none => some t := by
  simp [windowStart, List.foldl_append]

/-- Only the empty run has no window. -/
theorem windowStart_eq_none (e : Span) (times : List Instant) :
    windowStart e times=none ↔ times=[] := by
  induction times using List.reverseRecOn with
  | nil => simp [windowStart]
  | append_singleton times t _ =>
    rw [windowStart_append_singleton]
    constructor
    · intro h
      cases hw : windowStart e times with
      | none => simp [hw] at h
      | some a =>
        simp only [hw] at h
        split at h <;> cases h
    · intro h
      simp at h

/-- Every instant of a run comes before the end of the open window. -/
theorem lt_of_windowStart {e : Span} (he : 0 < e.toInt) {times : List Instant} {a : Instant}
    (h : windowStart e times=some a) : ∀ x ∈ times, x < a.add e := by
  induction times using List.reverseRecOn generalizing a with
  | nil => simp [windowStart] at h
  | append_singleton times t ih =>
    rw [windowStart_append_singleton] at h
    intro x hx
    rw [List.mem_append, List.mem_singleton] at hx
    cases hw : windowStart e times with
    | none =>
      simp only [hw, Option.some.injEq] at h
      subst h
      rw [(windowStart_eq_none e times).mp hw] at hx
      rcases hx with hx | rfl
      · cases hx
      · simp only [Instant.add, Instant] at *; omega
    | some b =>
      simp only [hw] at h
      have hb := ih hw
      by_cases ht : t < b.add e
      · rw [if_pos ht] at h
        cases h
        rcases hx with hx | rfl
        · exact hb x hx
        · exact ht
      · rw [if_neg ht] at h
        cases h
        rcases hx with hx | rfl
        · have hxb := hb x hx
          simp only [Instant.add, Instant] at *; omega
        · simp only [Instant.add, Instant] at *; omega

/-- The window of a run opens at one of its instants. -/
theorem windowStart_mem {e : Span} {times : List Instant} {a : Instant}
    (h : windowStart e times=some a) : a ∈ times := by
  induction times using List.reverseRecOn generalizing a with
  | nil => simp [windowStart] at h
  | append_singleton times t ih =>
    rw [windowStart_append_singleton] at h
    cases hw : windowStart e times with
    | none =>
      simp only [hw, Option.some.injEq] at h
      simp [h]
    | some b =>
      simp only [hw] at h
      split at h
      · cases h
        exact List.mem_append_left _ (ih hw)
      · cases h
        simp

/-- A call no earlier than the calls before it joins the current window while the window is
open, and opens a window of its own after. -/
theorem current_append_singleton {e : Span} (he : 0 < e.toInt) (time : β → Instant)
    {calls : List β} {x : β} (hlast : ∀ y ∈ calls, time y ≤ time x) :
    current e time (calls++[x])=
      match windowStart e (calls.map time) with
      | some a => if time x < a.add e then current e time calls++[x] else [x]
      | none => [x] := by
  unfold current
  rw [List.map_append, List.map_singleton, windowStart_append_singleton]
  cases hw : windowStart e (calls.map time) with
  | none =>
    have hnil : calls=[] := List.map_eq_nil_iff.mp ((windowStart_eq_none e _).mp hw)
    simp [hnil]
  | some a =>
    have hmem := windowStart_mem hw
    have hlt := lt_of_windowStart he hw
    simp only
    by_cases ht : time x < a.add e
    · rw [if_pos ht, if_pos ht]
      simp only [List.filter_append]
      obtain ⟨y, hy, hya⟩ := List.mem_map.mp hmem
      have hax : a ≤ time x := hya ▸ hlast y hy
      simp [hax]
    · rw [if_neg ht, if_neg ht]
      simp only [List.filter_append]
      have hnone : (calls.filter fun y => time x ≤ time y)=[] := by
        rw [List.filter_eq_nil_iff]
        intro y hy hxy
        have hy' := hlt (time y) (List.mem_map_of_mem hy)
        simp only [decide_eq_true_eq] at hxy
        exact ht (lt_of_le_of_lt hxy hy')
      simp [hnone]

/-- The window's total grows by the cost of a hit inside it and starts over at the cost of a
hit that opens a new window. -/
theorem windowCost_append_singleton {e : Span} (he : 0 < e.toInt) {hits : List (Instant × Int64)}
    {t : Instant} {c : Int64} (hlast : ∀ d ∈ hits, d.1 ≤ t) :
    windowCost e (hits++[(t, c)])=
      match windowStart e (hits.map Prod.fst) with
      | some a => if t < a.add e then windowCost e hits+c.toInt else c.toInt
      | none => c.toInt := by
  unfold windowCost
  rw [current_append_singleton he Prod.fst hlast]
  cases windowStart e (hits.map Prod.fst) with
  | none => simp
  | some a => by_cases ht : t < a.add e <;> simp [ht]

/-- What the store holds under the item's storage key after a run of hits: nothing before
the first hit, and after it a counter that holds the wrapped total of the current window and
dies a window after the window's start. -/
def Counts (item : Item) (key : String) (t₀ : Instant) (hits : List (Instant × Int64))
    (s : MemoryStore) : Prop :=
  match windowStart item.expiry (hits.map Prod.fst) with
  | none => s.liveAt t₀ (item.storageKey key)=none
  | some a => s.find? (item.storageKey key)=
      some ⟨Int64.ofInt (windowCost item.expiry hits), a.add item.expiry, []⟩

/-- What the key holds when the next hit comes: the counter while its window is open, and
nothing once it closed or before the first hit. -/
theorem liveAt_of_counts {item : Item} {key : String} {t₀ t : Instant} {c : Int64}
    {hits : List (Instant × Int64)} {s : MemoryStore} (he : 0 < item.expiry.toInt)
    (ht₀ : 0 < t₀) (hrun : Chronological t₀ (hits++[(t, c)])) (hs : Counts item key t₀ hits s) :
    s.liveAt t (item.storageKey key)=
      match windowStart item.expiry (hits.map Prod.fst) with
      | some a => if t < a.add item.expiry then
          some ⟨Int64.ofInt (windowCost item.expiry hits), a.add item.expiry, []⟩ else none
      | none => none := by
  obtain ⟨hch, ht₀t, -⟩ := chronological_append_singleton.mp hrun
  unfold Counts at hs
  cases hw : windowStart item.expiry (hits.map Prod.fst) with
  | none =>
    rw [hw] at hs
    exact liveAt_eq_none_of_le hs ht₀t
  | some a =>
    rw [hw] at hs
    simp only
    rw [liveAt_of_find? hs]
    have ha : t₀ ≤ a := by
      obtain ⟨d, hd, rfl⟩ := List.mem_map.mp (windowStart_mem hw)
      exact (List.pairwise_cons.mp hch).1 _ (List.mem_map_of_mem hd)
    by_cases ht : t < a.add item.expiry
    · have hlive :
          Entry.dead ⟨Int64.ofInt (windowCost item.expiry hits), a.add item.expiry, []⟩ t=false := by
        rw [Bool.eq_false_iff, Ne, dead_iff]
        simp only [Instant.add, Instant] at *
        omega
      rw [if_pos ht, hlive]
      rfl
    · have hdead :
          Entry.dead ⟨Int64.ofInt (windowCost item.expiry hits), a.add item.expiry, []⟩ t=true := by
        rw [dead_iff]
        simp only [Instant.add, Instant] at *
        omega
      rw [if_neg ht, hdead]
      rfl

/-- One hit: it adds its cost to the open window's counter, or opens a window with a fresh
counter, and is allowed exactly when the wrapped new total is within the amount. -/
theorem counts_step {item : Item} {key : String} {t₀ t : Instant} {c : Int64}
    {hits : List (Instant × Int64)} {s : MemoryStore} (he : 0 < item.expiry.toInt)
    (ht₀ : 0 < t₀) (hrun : Chronological t₀ (hits++[(t, c)])) (hs : Counts item key t₀ hits s) :
    (hit item key (t, c) s).1=
        .ok (decide (Int64.ofInt (windowCost item.expiry (hits++[(t, c)])) ≤ item.amount)) ∧
      Counts item key t₀ (hits++[(t, c)]) (hit item key (t, c) s).2 := by
  have hheld := liveAt_of_counts he ht₀ hrun hs
  have hlast := (chronological_append_singleton.mp hrun).2.2
  have hcost := windowCost_append_singleton he hlast (c:=c)
  unfold Counts
  rw [hit_eq, incr_eq, List.map_append, List.map_singleton, windowStart_append_singleton]
  cases hw : windowStart item.expiry (hits.map Prod.fst) with
  | none =>
    rw [hw] at hheld hcost
    simp [hheld, hcost]
  | some a =>
    rw [hw] at hheld hcost
    simp only at hheld hcost ⊢
    by_cases ht : t < a.add item.expiry
    · rw [if_pos ht] at hheld hcost ⊢
      simp [hheld, hcost]
    · rw [if_neg ht] at hheld hcost ⊢
      simp [hheld, hcost]

/-- The allowed cost of the window grows by the cost of an allowed hit inside it and starts
over with a hit that opens a new window. -/
theorem allowedCost_append_singleton {e : Span} (he : 0 < e.toInt)
    {trace : List ((Instant × Int64) × Except Fault Bool)} {t : Instant} {c : Int64}
    {r : Except Fault Bool} (hlast : ∀ x ∈ trace, x.1.1 ≤ t) :
    allowedCost e (trace++[((t, c), r)])=
      (match windowStart e (trace.map fun x => x.1.1) with
        | some a => if t < a.add e then allowedCost e trace else 0
        | none => 0)+if r=.ok true then c.toInt else 0 := by
  unfold allowedCost
  rw [current_append_singleton he (fun x => x.1.1) (x:=((t, c), r)) hlast]
  cases windowStart e (trace.map fun x => x.1.1) with
  | none => by_cases hr : r=.ok true <;> simp [hr]
  | some a =>
    by_cases ht : t < a.add e <;> by_cases hr : r=.ok true <;> simp [ht, hr, List.filter_append]

/-- Along a run of hits with positive costs from a store that holds nothing under the key:
the counter is as `Counts` says, and the allowed hits of the current window cost at most the
window's total, and at most the amount while that total stays below `2^63`. -/
theorem run_counts {item : Item} {key : String} {t₀ : Instant} {s₀ : MemoryStore}
    {hits : List (Instant × Int64)} (he : 0 < item.expiry.toInt) (ht₀ : 0 < t₀)
    (hrun : Chronological t₀ hits) (hs₀ : s₀.liveAt t₀ (item.storageKey key)=none)
    (hcost : ∀ h ∈ hits, 0 < h.2) :
    Counts item key t₀ hits (replay (hit item key) s₀ hits).1 ∧
      0 ≤ allowedCost item.expiry (replay (hit item key) s₀ hits).2 ∧
      allowedCost item.expiry (replay (hit item key) s₀ hits).2 ≤ windowCost item.expiry hits ∧
      (windowCost item.expiry hits < 9223372036854775808 →
        allowedCost item.expiry (replay (hit item key) s₀ hits).2 ≤ max item.amount.toInt 0) := by
  induction hits using List.reverseRecOn with
  | nil => simp [replay, Counts, windowStart, hs₀, allowedCost, windowCost, current]
  | append_singleton hits h ih =>
    obtain ⟨t, c⟩ := h
    obtain ⟨hch, -, hlast⟩ := chronological_append_singleton.mp hrun
    obtain ⟨hs, hlo, hle, hamt⟩ :=
      ih hch fun d hd => hcost d (List.mem_append_left _ hd)
    have hc : 0 < c.toInt := by
      have := hcost (t, c) (by simp)
      rwa [Int64.lt_iff_toInt_lt] at this
    have hcmax := c.toInt_lt
    obtain ⟨hans, hs'⟩ := counts_step he ht₀ hrun hs
    have htimes : ((replay (hit item key) s₀ hits).2.map fun x => x.1.1)=hits.map Prod.fst := by
      have h := congrArg (List.map Prod.fst) (replay_calls (hit item key) s₀ hits)
      rw [List.map_map] at h
      exact h
    have htrace : ∀ x ∈ (replay (hit item key) s₀ hits).2, x.1.1 ≤ t := by
      intro x hx
      have hmem : x.1 ∈ (replay (hit item key) s₀ hits).2.map Prod.fst := List.mem_map_of_mem hx
      rw [replay_calls] at hmem
      exact hlast _ hmem
    rw [replay_append_singleton, allowedCost_append_singleton he htrace, htimes, hans,
      windowCost_append_singleton he hlast]
    refine ⟨hs', ?_⟩
    have hallow : ∀ W : Int, 0 ≤ W → W < 9223372036854775808 →
        ((Except.ok (decide (Int64.ofInt W ≤ item.amount)) : Except Fault Bool)=.ok true ↔
          W ≤ item.amount.toInt) := by
      intro W h₀ h
      simp [Int64.le_iff_toInt_le, toInt_ofInt_of_lt h₀ h]
    cases hw : windowStart item.expiry (hits.map Prod.fst) with
    | none =>
      simp only
      by_cases hr :
          (Except.ok (decide (Int64.ofInt c.toInt ≤ item.amount)) : Except Fault Bool)=.ok true
      · have := (hallow c.toInt hc.le hcmax).mp hr
        simp only [hr, if_true]
        omega
      · simp only [hr, if_false]
        omega
    | some a =>
      simp only
      by_cases ht : t < a.add item.expiry
      · simp only [if_pos ht]
        by_cases hr : (Except.ok (decide (Int64.ofInt (windowCost item.expiry hits+c.toInt) ≤
            item.amount)) : Except Fault Bool)=.ok true
        · simp only [hr, if_true]
          refine ⟨by omega, by omega, fun hW => ?_⟩
          have := (hallow _ (by omega) hW).mp hr
          omega
        · simp only [hr, if_false]
          refine ⟨by omega, by omega, fun hW => ?_⟩
          have := hamt (by omega)
          omega
      · simp only [if_neg ht]
        by_cases hr :
            (Except.ok (decide (Int64.ofInt c.toInt ≤ item.amount)) : Except Fault Bool)=.ok true
        · have := (hallow c.toInt hc.le hcmax).mp hr
          simp only [hr, if_true]
          omega
        · simp only [hr, if_false]
          omega

/-- After a hit the counter reads the wrapped total of the hit's window at the hit's instant. -/
theorem get_of_counts {item : Item} {key : String} {t₀ t : Instant} {c : Int64}
    {hits : List (Instant × Int64)} {s : MemoryStore} (he : 0 < item.expiry.toInt)
    (hs : Counts item key t₀ (hits++[(t, c)]) s) :
    (s.get t (item.storageKey key)).1=Int64.ofInt (windowCost item.expiry (hits++[(t, c)])) := by
  unfold Counts at hs
  cases hw : windowStart item.expiry ((hits++[(t, c)]).map Prod.fst) with
  | none => simp [windowStart_eq_none] at hw
  | some a =>
    rw [hw] at hs
    have ht : t < a.add item.expiry := lt_of_windowStart he hw t (by simp)
    have hlive : Entry.dead ⟨Int64.ofInt (windowCost item.expiry (hits++[(t, c)])),
        a.add item.expiry, []⟩ t=false := by
      rw [Bool.eq_false_iff, Ne, dead_iff]
      simp only [Instant.add, Instant] at *
      omega
    rw [get_eq, liveAt_of_find? hs, hlive]
    rfl

/-- Every hit of a run of hits with positive costs at nondecreasing instants, from a store
that holds no live counter under the key. The hit is allowed exactly when the exact total
cost of its window, wrapped into 64 bits, is within the amount, and leaves the counter at
that wrapped total. While the exact total is below `2^63`, the hit is allowed exactly when the
total is within the amount, and the allowed hits of the window cost at most the amount, or
nothing when the amount is negative. Every window is the current one at its last hit, so this
bounds every window. -/
theorem fixed_window_counts_wrapping {item : Item} {key : String} {t₀ t : Instant} {c : Int64}
    {s₀ : MemoryStore} {hits : List (Instant × Int64)} (he : 0 < item.expiry.toInt)
    (ht₀ : 0 < t₀) (hrun : Chronological t₀ (hits++[(t, c)]))
    (hs₀ : s₀.liveAt t₀ (item.storageKey key)=none) (hcost : ∀ h ∈ hits++[(t, c)], 0 < h.2) :
    let s := (replay (hit item key) s₀ hits).1
    let total := windowCost item.expiry (hits++[(t, c)])
    (hit item key (t, c) s).1=.ok (decide (Int64.ofInt total ≤ item.amount)) ∧
      ((hit item key (t, c) s).2.get t (item.storageKey key)).1=Int64.ofInt total ∧
      (total < 9223372036854775808 →
        ((hit item key (t, c) s).1=.ok true ↔ total ≤ item.amount.toInt) ∧
        allowedCost item.expiry (replay (hit item key) s₀ (hits++[(t, c)])).2 ≤
          max item.amount.toInt 0) := by
  intro s total
  have hch := (chronological_append_singleton.mp hrun).1
  have hprev := (run_counts he ht₀ hch hs₀ fun d hd => hcost d (List.mem_append_left _ hd)).1
  obtain ⟨hans, hs'⟩ := counts_step he ht₀ hrun hprev
  obtain ⟨-, hlo, hle, hamt⟩ := run_counts he ht₀ hrun hs₀ hcost
  refine ⟨hans, get_of_counts he hs', fun hW => ⟨?_, hamt hW⟩⟩
  rw [hans, Except.ok.injEq, decide_eq_true_iff, Int64.le_iff_toInt_le,
    toInt_ofInt_of_lt (show 0 ≤ total by omega) hW]

/-- Two hits of costs 6 and 5 at the same instant against an amount of 10 a minute meet the
hypotheses of `fixed_window_counts_wrapping`. -/
theorem fixed_window_counts_wrapping_at_start :
    let T := Instant.ofUnixSeconds 1704067200
    let item := Item.perMinute 10
    let hits : List (Instant × Int64) := [(T, 6)]
    (0 < item.expiry.toInt ∧ 0 < T ∧ Chronological T (hits++[(T, 5)]) ∧
      MemoryStore.empty.liveAt T (item.storageKey "k")=none ∧ ∀ h ∈ hits++[(T, 5)], 0 < h.2) ∧
    let s := (replay (hit item "k") MemoryStore.empty hits).1
    let total := windowCost item.expiry (hits++[(T, 5)])
    (hit item "k" (T, 5) s).1=.ok (decide (Int64.ofInt total ≤ item.amount)) ∧
      ((hit item "k" (T, 5) s).2.get T (item.storageKey "k")).1=Int64.ofInt total ∧
      (total < 9223372036854775808 →
        ((hit item "k" (T, 5) s).1=.ok true ↔ total ≤ item.amount.toInt) ∧
        allowedCost item.expiry (replay (hit item "k") MemoryStore.empty (hits++[(T, 5)])).2 ≤
          max item.amount.toInt 0) :=
  ⟨⟨by decide, by decide, by unfold Chronological; decide, rfl, by decide⟩,
    @fixed_window_counts_wrapping (Item.perMinute 10) "k" (Instant.ofUnixSeconds 1704067200)
      (Instant.ofUnixSeconds 1704067200) 5 MemoryStore.empty [(Instant.ofUnixSeconds 1704067200, 6)]
      (by decide) (by decide) (by unfold Chronological; decide) rfl (by decide)⟩

/-- A hit of cost `2^63 - 1` is denied against an amount of 10 a minute, and a second hit of
cost 2 at the same instant is allowed: the counter wrapped to `-2^63 + 1`, while the exact
total of the window is `2^63 + 1`. -/
theorem fixed_window_wrap_allows :
    let hits : List (Instant × Int64) :=
      [(Instant.ofUnixSeconds 1704067200, 9223372036854775807), (Instant.ofUnixSeconds 1704067200, 2)]
    (replay (hit (Item.perMinute 10) "k") MemoryStore.empty hits).2.map Prod.snd=
        [.ok false, .ok true] ∧
      windowCost (Item.perMinute 10).expiry hits=9223372036854775809 := by
  decide

end Admission.Quota.FixedWindow
