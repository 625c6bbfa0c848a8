import Mathlib
import Admission.Proofs.CounterStore

/-!
# The sliding window is a two-bucket limiter

The sliding window keeps two counters under a key `K` and its previous key `P`. An admission
into a key that holds nothing starts a counter living two windows; a call that finds the
current counter with less than a window of life left moves it to `P` and starts a fresh one
living a window longer. The index of the current window is never stored: it is encoded in the
expiry instants of the two counters.

This module describes the same limiter with the index made explicit and the sums exact
(`TwoBucket`). An epoch starts at the instant `a` of an admission made while no epoch is live,
and cuts time into the windows `W₀ = [a, a + e]`, `Wⱼ = (a + j e, a + (j+1) e]`. A call at `t`
first moves the epoch (`Epoch.touch`): the epoch ends once `t` reaches the end of the window
after the current one, since the current counter dies then, and otherwise the index moves on by
one when `t` is past the current window. The reported counters are then the exact sum admitted
in the current window, and from the second window on the exact sum admitted in the previous one,
with the previous counter's life `max 0 (a + (k+1) e - t)`; an admission is granted when the
amount stays within the limit and so does the weighted count plus the amount, computed exactly.

Main statement: for a window length below `2^62`, from a store whose two keys hold nothing,
every run of admissions and reads at nondecreasing instants in which the weighted count plus
each amount stays within 64 bits (`FitsAlong`) answers exactly as the two-bucket limiter does
(`sliding_window_refines_two_bucket`). The store computes that sum in 64-bit arithmetic, so
past `2^63` it wraps and grants what the limiter refuses (`sliding_window_count_wraps`). The
epoch is only moved by calls: a read after the counters died reports nothing, whatever the
windows of the old epoch would say; and at a window length of `2^62` the doubled life of a fresh
counter wraps and it is dead at once.
-/

namespace Admission.Quota.SlidingWindow

open MemoryStore

/-- What a call on the sliding window answers. -/
inductive Answer where
  /-- Whether the amount was admitted. -/
  | admitted (ok : Bool)
  /-- The counters after the call moved them. -/
  | counters (st : SlidingState)
  deriving DecidableEq, Repr

/-- One timed call on the sliding window under `key`, with limit `limit` and length `e`. -/
def step (key : String) (limit : Int64) (e : Span) (c : Instant × WindowCall) (s : MemoryStore) :
    Answer × MemoryStore :=
  match c.2 with
  | .acquire a =>
    (.admitted (s.acquireSliding c.1 key limit e a).1, (s.acquireSliding c.1 key limit e a).2)
  | .read => (.counters (s.slidingWindow c.1 key e).1, (s.slidingWindow c.1 key e).2)

/-- The end of the window before the `j`-th window of the epoch anchored at `a`. -/
def edge (e : Span) (a : Instant) (j : Nat) : Instant := a + j * e.toInt

theorem edge_zero (e : Span) (a : Instant) : edge e a 0=a := by
  simp [edge]

theorem edge_succ (e : Span) (a : Instant) (j : Nat) : edge e a (j+1)=edge e a j+e.toInt := by
  unfold edge
  push_cast
  ring

/-- The windows of an epoch start at its anchor. -/
theorem le_edge_self {e : Span} (he : 0 < e.toInt) (a : Instant) (j : Nat) : a ≤ edge e a j := by
  have hj : (0 : Int) ≤ j*e.toInt := mul_nonneg (Int.natCast_nonneg j) he.le
  unfold edge
  simp only [Instant] at *
  omega

/-- Every window edge of an epoch with a positive anchor is a positive instant. -/
theorem edge_pos {e : Span} {a : Instant} (he : 0 < e.toInt) (ha : 0 < a) (j : Nat) :
    0 < edge e a j :=
  lt_of_lt_of_le ha (le_edge_self he a j)

/-- Whether `t` lies in the `j`-th window of the epoch anchored at `a`: the first window
`[a, a + e]` is closed, the later ones `(a + j e, a + (j+1) e]` are open on the left. -/
def InWindow (e : Span) (a : Instant) (j : Nat) (t : Instant) : Prop :=
  (j=0 ∧ a ≤ t ∨ edge e a j < t) ∧ t ≤ edge e a (j+1)

instance (e : Span) (a : Instant) (j : Nat) (t : Instant) : Decidable (InWindow e a j t) :=
  inferInstanceAs (Decidable ((j=0 ∧ a ≤ t ∨ edge e a j < t) ∧ t ≤ edge e a (j+1)))

/-- Every window of an epoch lies at or after its anchor. -/
theorem InWindow.anchor_le {e : Span} {a t : Instant} {j : Nat} (he : 0 < e.toInt)
    (h : InWindow e a j t) : a ≤ t := by
  rcases h.1 with ⟨-, hat⟩ | hlt
  · exact hat
  · exact le_trans (le_edge_self he a j) hlt.le

/-- A window after the first lies past the end of the window before it. -/
theorem InWindow.edge_lt {e : Span} {a t : Instant} {j : Nat} (h : InWindow e a (j+1) t) :
    edge e a (j+1) < t := by
  rcases h.1 with ⟨hj, -⟩ | hlt
  · exact absurd hj (Nat.succ_ne_zero j)
  · exact hlt

/-- The exact sum of the amounts admitted in the `j`-th window. -/
def windowTotal (e : Span) (a : Instant) (j : Nat) (adm : List (Instant × Int64)) : Int :=
  ((adm.filter fun p => InWindow e a j p.1).map fun p => p.2.toInt).sum

/-- An admission inside a window adds to its sum. -/
theorem windowTotal_append_of_mem {e : Span} {a t : Instant} {j : Nat}
    (adm : List (Instant × Int64)) (x : Int64) (h : InWindow e a j t) :
    windowTotal e a j (adm++[(t, x)])=windowTotal e a j adm+x.toInt := by
  unfold windowTotal
  rw [List.filter_append, List.filter_singleton, decide_eq_true h, cond_true, List.map_append,
    List.sum_append]
  simp

/-- An admission outside a window leaves its sum. -/
theorem windowTotal_append_of_not_mem {e : Span} {a t : Instant} {j : Nat}
    (adm : List (Instant × Int64)) (x : Int64) (h : ¬InWindow e a j t) :
    windowTotal e a j (adm++[(t, x)])=windowTotal e a j adm := by
  unfold windowTotal
  rw [List.filter_append, List.filter_singleton, decide_eq_false h, cond_false, List.append_nil]

/-- A window that holds no admission sums to 0. -/
theorem windowTotal_eq_zero {e : Span} {a : Instant} {j : Nat} {adm : List (Instant × Int64)}
    (h : ∀ p ∈ adm, ¬InWindow e a j p.1) : windowTotal e a j adm=0 := by
  unfold windowTotal
  rw [List.filter_eq_nil_iff.mpr (fun p hp => by simpa using h p hp)]
  rfl

/-- Admissions before the anchor lie in no window of the epoch. -/
theorem windowTotal_of_lt_anchor {e : Span} {a : Instant} {adm : List (Instant × Int64)}
    (he : 0 < e.toInt) (h : ∀ p ∈ adm, p.1 < a) (j : Nat) : windowTotal e a j adm=0 :=
  windowTotal_eq_zero fun p hp hin => absurd (hin.anchor_le he) (not_le.mpr (h p hp))

/-- An epoch of the sliding window: the instant that anchors its windows, and the index of its
current window. -/
structure Epoch where
  /-- The instant of the admission that started the epoch. -/
  anchor : Instant
  /-- The index of the current window. -/
  index : Nat
  deriving DecidableEq, Repr

/-- The epoch a call at `t` finds. The current counter dies at the end of the window after the
current one, which ends the epoch; past the current window the index moves on by one. -/
def Epoch.touch (e : Span) (t : Instant) : Option Epoch → Option Epoch
  | none => none
  | some ⟨a, k⟩ =>
    if edge e a (k+2) ≤ t then none
    else if edge e a (k+1) < t then some ⟨a, k+1⟩
    else some ⟨a, k⟩

/-- The two-bucket limiter: the live epoch, if any, and every admitted amount with its
instant. -/
structure TwoBucket where
  /-- The live epoch. -/
  epoch : Option Epoch
  /-- The admitted amounts with their instants, oldest first. -/
  admitted : List (Instant × Int64)
  deriving DecidableEq, Repr

namespace TwoBucket

/-- No epoch and nothing admitted. -/
def init : TwoBucket := ⟨none, []⟩

/-- The counters at `t` in an epoch, as 64-bit integers: the exact sum admitted in the current
window with the counter's life, and from the second window on the exact sum admitted in the
previous window while that window's counter lives, with its life `max 0 (a + (k+1) e - t)`.
Without an epoch, nothing. -/
def report (e : Span) (t : Instant) (adm : List (Instant × Int64)) : Option Epoch → SlidingState
  | none => SlidingState.empty
  | some ⟨a, k⟩ =>
    { previousCount :=
        if 1 ≤ k ∧ t < edge e a (k+1) then Int64.ofInt (windowTotal e a (k-1) adm) else 0
      previousTtl := if 1 ≤ k then Int64.ofInt (max 0 (edge e a (k+1)-t)) else 0
      currentCount := Int64.ofInt (windowTotal e a k adm)
      currentTtl := Int64.ofInt (edge e a (k+2)-t) }

/-- The exact sum admitted in the current window of an epoch; 0 without one. -/
def current (e : Span) (adm : List (Instant × Int64)) : Option Epoch → Int
  | none => 0
  | some ⟨a, k⟩ => windowTotal e a k adm

/-- The exact weighted count at `t`: the previous window's share as the sliding window weighs
it, plus the exact sum admitted in the current window. -/
def weighted (e : Span) (t : Instant) (adm : List (Instant × Int64)) (ep : Option Epoch) : Int :=
  ((report e t adm ep).share e).toInt+current e adm ep

/-- One timed call with limit `limit` and window length `e`. A read moves the epoch and reports
the counters. An admission of more than the limit changes nothing; any other moves the epoch
and is granted when the exact weighted count plus the amount stays within the limit, starting
an epoch at its instant if none is live. -/
def step (limit : Int64) (e : Span) : Instant × WindowCall → TwoBucket → Answer × TwoBucket
  | (t, .read), b =>
    (.counters (report e t b.admitted (Epoch.touch e t b.epoch)),
      ⟨Epoch.touch e t b.epoch, b.admitted⟩)
  | (t, .acquire x), b =>
    if limit < x then (.admitted false, b)
    else if limit.toInt < weighted e t b.admitted (Epoch.touch e t b.epoch)+x.toInt then
      (.admitted false, ⟨Epoch.touch e t b.epoch, b.admitted⟩)
    else (.admitted true, ⟨(Epoch.touch e t b.epoch).or (some ⟨t, 0⟩), b.admitted++[(t, x)]⟩)

/-- Whether a call keeps the exact weighted count plus its amount within 64 bits. A read weighs
nothing, and neither does an amount over the limit, which is refused first. -/
def fits (limit : Int64) (e : Span) : Instant × WindowCall → TwoBucket → Bool
  | (_, .read), _ => true
  | (t, .acquire x), b =>
    decide (limit < x) ||
      decide (-9223372036854775808 ≤ weighted e t b.admitted (Epoch.touch e t b.epoch)+x.toInt ∧
        weighted e t b.admitted (Epoch.touch e t b.epoch)+x.toInt < 9223372036854775808)

theorem report_currentCount (e : Span) (t : Instant) (adm : List (Instant × Int64))
    (ep : Option Epoch) : (report e t adm ep).currentCount=Int64.ofInt (current e adm ep) := by
  match ep with
  | none => rfl
  | some ⟨a, k⟩ => rfl

/-- Within 64 bits, the sliding window's weighted count plus an amount is the exact one. -/
theorem lt_weighted_add_iff {limit x : Int64} {e : Span} {t : Instant}
    {adm : List (Instant × Int64)} {ep : Option Epoch}
    (hlo : -9223372036854775808 ≤ weighted e t adm ep+x.toInt)
    (hhi : weighted e t adm ep+x.toInt < 9223372036854775808) :
    limit < (report e t adm ep).weighted e+x ↔ limit.toInt < weighted e t adm ep+x.toInt := by
  have hsize : ((Int64.size : Nat) : Int)=18446744073709551616 := rfl
  have hsum : ((report e t adm ep).weighted e+x).toInt=weighted e t adm ep+x.toInt := by
    rw [SlidingState.weighted, report_currentCount, Int64.toInt_add, Int64.toInt_add,
      Int64.toInt_ofInt, Int.add_bmod_bmod, Int.bmod_add_bmod]
    unfold weighted at hlo hhi ⊢
    exact Int.bmod_eq_of_le (by norm_num; omega) (by norm_num; omega)
  rw [Int64.lt_iff_toInt_lt, hsum]

end TwoBucket

/-- Every call of a run keeps the exact weighted count plus its amount within 64 bits, from the
two-bucket state that the calls before it left. -/
def FitsAlong (limit : Int64) (e : Span) (calls : List (Instant × WindowCall)) : Prop :=
  ∀ n (h : n < calls.length), TwoBucket.fits limit e calls[n]
    (replay (TwoBucket.step limit e) TwoBucket.init (calls.take n)).1=true

instance (limit : Int64) (e : Span) (calls : List (Instant × WindowCall)) :
    Decidable (FitsAlong limit e calls) :=
  Nat.decidableBallLT _ _

/-- A run with one more call fits when the run fits and so does the call, from the state the run
left. -/
theorem FitsAlong.append_singleton {limit : Int64} {e : Span} {calls : List (Instant × WindowCall)}
    {d : Instant × WindowCall} (h : FitsAlong limit e (calls++[d])) :
    FitsAlong limit e calls ∧
      TwoBucket.fits limit e d (replay (TwoBucket.step limit e) TwoBucket.init calls).1=true := by
  refine ⟨fun n hn => ?_, ?_⟩
  · have hfit := h n (by simp; omega)
    simpa [List.getElem_append_left hn, List.take_append_of_le_length hn.le] using hfit
  · simpa using h calls.length (by simp)

/-- After a touch at `t`, `t` is within the current window's end. -/
theorem le_edge_of_touch {e : Span} {t : Instant} {ep : Option Epoch} {a : Instant} {k : Nat}
    (h : Epoch.touch e t ep=some ⟨a, k⟩) : t ≤ edge e a (k+1) := by
  match ep with
  | none => simp [Epoch.touch] at h
  | some ⟨b, j⟩ =>
    simp only [Epoch.touch] at h
    by_cases hdead : edge e b (j+2) ≤ t
    · simp [hdead] at h
    · by_cases hnext : edge e b (j+1) < t
      · simp only [hdead, hnext, if_false, if_true, Option.some.injEq, Epoch.mk.injEq] at h
        obtain ⟨rfl, rfl⟩ := h
        exact le_of_lt (lt_of_not_ge hdead)
      · simp only [hdead, hnext, if_false, Option.some.injEq, Epoch.mk.injEq] at h
        obtain ⟨rfl, rfl⟩ := h
        exact le_of_not_gt hnext

/-- A key holds a given entry from `t₁` on while that entry lives, or nothing. -/
def Holds (s : MemoryStore) (key : String) (E : Option Entry) (t₁ : Instant) : Prop :=
  ∀ t, t₁ ≤ t → s.liveAt t key=E.filter fun x => !Entry.dead x t

theorem Holds.mono {s : MemoryStore} {key : String} {E : Option Entry} {t₁ t₂ : Instant}
    (h : Holds s key E t₁) (ht : t₁ ≤ t₂) : Holds s key E t₂ :=
  fun t htt => h t (le_trans ht htt)

theorem Holds.lookup {s : MemoryStore} {j : String} {E : Option Entry} {t₁ now : Instant}
    (h : Holds s j E t₁) (ht : t₁ ≤ now) (key : String) : Holds (s.lookup now key).2 j E now := by
  intro t htt
  rw [liveAt_lookup s key j htt]
  exact h t (le_trans ht htt)

theorem Holds.slidingState {s : MemoryStore} {j : String} {E : Option Entry} {t₁ now : Instant}
    (h : Holds s j E t₁) (ht : t₁ ≤ now) (key : String) :
    Holds (s.slidingState now key).2 j E now := by
  intro t htt
  rw [liveAt_slidingState s key j htt]
  exact h t (le_trans ht htt)

theorem holds_put_self (s : MemoryStore) (key : String) (x : Entry) (t₁ : Instant) :
    Holds (s.put key x) key (some x) t₁ := by
  intro t _
  rw [liveAt_put_self, Option.filter_some]
  cases Entry.dead x t <;> rfl

theorem Holds.put_of_ne {s : MemoryStore} {key j : String} {E : Option Entry} {t₁ : Instant}
    (h : Holds s j E t₁) (hj : j≠key) (x : Entry) : Holds (s.put key x) j E t₁ := by
  intro t ht
  rw [liveAt_put_of_ne hj]
  exact h t ht

/-- A key holds nothing from the instant its entry dies. -/
theorem Holds.dead {s : MemoryStore} {key : String} {x : Entry} {t₁ t : Instant}
    (h : Holds s key (some x) t₁) (ht : t₁ ≤ t) (hd : Entry.dead x t=true) :
    Holds s key none t := by
  intro u hu
  rw [h u (le_trans ht hu), Option.filter_some, dead_of_le hd hu]
  rfl

/-- A counter with a positive expiry is dead exactly from its expiry on. -/
theorem dead_counter_iff {v : Int64} {x t : Instant} (hx : 0 < x) :
    Entry.dead ⟨v, x, []⟩ t=true ↔ x ≤ t := by
  rw [dead_iff]
  exact ⟨fun h => h.2, fun h => ⟨ne_of_gt hx, h⟩⟩

/-- What a key holds at an instant, for a counter with a positive expiry. -/
theorem Holds.liveAt_counter {s : MemoryStore} {key : String} {v : Int64} {x t₁ t : Instant}
    (h : Holds s key (some ⟨v, x, []⟩) t₁) (hx : 0 < x) (ht : t₁ ≤ t) :
    s.liveAt t key=if x ≤ t then none else some ⟨v, x, []⟩ := by
  rw [h t ht, Option.filter_some]
  by_cases hxt : x ≤ t
  · rw [if_pos hxt, (dead_counter_iff hx).mpr hxt]
    rfl
  · have hd : Entry.dead ⟨v, x, []⟩ t=false := by
      cases hd : Entry.dead ⟨v, x, []⟩ t
      · rfl
      · exact absurd ((dead_counter_iff hx).mp hd) hxt
    rw [if_neg hxt, hd]
    rfl

/-- The remaining life of a counter that expires within `2^63` nanoseconds. -/
theorem ttlOf_counter {v : Int64} {x t : Instant} (hx : 0 < x) (h₀ : t ≤ x)
    (h : x-t < 9223372036854775808) : ttlOf t (some ⟨v, x, []⟩)=Int64.ofInt (x-t) := by
  have hz : Instant.isZero x=false := by
    simp only [Instant.isZero, beq_eq_false_iff_ne]
    exact ne_of_gt hx
  simp only [ttlOf, hz, Bool.false_eq_true, if_false, Instant.since, Span.clamp]
  rw [if_neg (by simp only [Instant] at *; omega), if_neg (by simp only [Instant] at *; omega)]

/-- The previous key is another key. -/
theorem previousKey_ne (key : String) : previousKey key≠key := by
  intro h
  have hlen := congrArg String.length h
  simp [previousKey] at hlen

/-- The current counter of an epoch: the current window's sum, dying at the end of the window
after the current one. -/
def heldCurrent (e : Span) (adm : List (Instant × Int64)) : Option Epoch → Option Entry
  | none => none
  | some ⟨a, k⟩ => some ⟨Int64.ofInt (windowTotal e a k adm), edge e a (k+2), []⟩

/-- The previous counter of an epoch from its second window on: the previous window's sum,
dying at the end of the current window. -/
def heldPrevious (e : Span) (adm : List (Instant × Int64)) : Option Epoch → Option Entry
  | some ⟨a, k+1⟩ => some ⟨Int64.ofInt (windowTotal e a k adm), edge e a (k+1+1), []⟩
  | _ => none

/-- What the two-bucket state guarantees from `t₁` on. Without an epoch everything admitted
came before `t₁`. In an epoch the anchor is a positive instant, `t₁` is past the current
window's start, and nothing was admitted after the current window. -/
def Settled (e : Span) (t₁ : Instant) : Option Epoch → List (Instant × Int64) → Prop
  | none, adm => ∀ p ∈ adm, p.1 < t₁
  | some ⟨a, k⟩, adm =>
    0 < a ∧ (k=0 ∧ a ≤ t₁ ∨ edge e a k < t₁) ∧ ∀ p ∈ adm, p.1 ≤ edge e a (k+1)

/-- The store follows the two-bucket state from `t₁` on: the key and the previous key hold the
epoch's two counters. -/
structure Tracks (key : String) (e : Span) (t₁ : Instant) (s : MemoryStore) (b : TwoBucket) :
    Prop where
  /-- The key holds the current counter. -/
  current : Holds s key (heldCurrent e b.admitted b.epoch) t₁
  /-- The previous key holds the previous counter. -/
  previous : Holds s (previousKey key) (heldPrevious e b.admitted b.epoch) t₁
  /-- The two-bucket state is settled from `t₁` on. -/
  settled : Settled e t₁ b.epoch b.admitted

theorem Settled.mono {e : Span} {t₁ t₂ : Instant} {ep : Option Epoch} {adm : List (Instant × Int64)}
    (h : Settled e t₁ ep adm) (ht : t₁ ≤ t₂) : Settled e t₂ ep adm := by
  match ep with
  | none => exact fun p hp => lt_of_lt_of_le (h p hp) ht
  | some ⟨a, k⟩ =>
    obtain ⟨ha, hstart, hadm⟩ := h
    refine ⟨ha, ?_, hadm⟩
    rcases hstart with ⟨hk, hat⟩ | hlt
    · exact Or.inl ⟨hk, le_trans hat ht⟩
    · exact Or.inr (lt_of_lt_of_le hlt ht)

theorem Tracks.mono {key : String} {e : Span} {t₁ t₂ : Instant} {s : MemoryStore} {b : TwoBucket}
    (h : Tracks key e t₁ s b) (ht : t₁ ≤ t₂) : Tracks key e t₂ s b :=
  ⟨h.current.mono ht, h.previous.mono ht, h.settled.mono ht⟩

theorem Tracks.lookup {key : String} {e : Span} {t₁ now : Instant} {s : MemoryStore}
    {b : TwoBucket} (h : Tracks key e t₁ s b) (ht : t₁ ≤ now) (j : String) :
    Tracks key e now (s.lookup now j).2 b :=
  ⟨h.current.lookup ht j, h.previous.lookup ht j, h.settled.mono ht⟩

theorem Tracks.slidingState {key : String} {e : Span} {t₁ now : Instant} {s : MemoryStore}
    {b : TwoBucket} (h : Tracks key e t₁ s b) (ht : t₁ ≤ now) (j : String) :
    Tracks key e now (s.slidingState now j).2 b :=
  ⟨h.current.slidingState ht j, h.previous.slidingState ht j, h.settled.mono ht⟩

/-- In an epoch, `t` is past the start of the current window. -/
theorem Settled.edge_le {e : Span} {t₁ t : Instant} {a : Instant} {k : Nat}
    {adm : List (Instant × Int64)} (h : Settled e t₁ (some ⟨a, k⟩) adm) (ht : t₁ ≤ t) :
    edge e a k ≤ t := by
  rcases h.2.1 with ⟨rfl, hat⟩ | hlt
  · rw [edge_zero]
    exact le_trans hat ht
  · exact le_of_lt (lt_of_lt_of_le hlt ht)

/-- Before the current counter dies, the key holds it at `t` past the current window's start,
with the life `a + (k+2) e - t`, which is below `2^63`. -/
theorem Tracks.current_ttl {key : String} {e : Span} {t₁ t a : Instant} {k : Nat}
    {s : MemoryStore} {adm : List (Instant × Int64)} (he : 0 < e.toInt)
    (he' : e.toInt < 4611686018427387904) (h : Tracks key e t₁ s ⟨some ⟨a, k⟩, adm⟩)
    (ht : t₁ ≤ t) (hlive : t < edge e a (k+2)) :
    s.liveAt t key=some ⟨Int64.ofInt (windowTotal e a k adm), edge e a (k+2), []⟩ ∧
      ttlOf t (some ⟨Int64.ofInt (windowTotal e a k adm), edge e a (k+2), []⟩)=Int64.ofInt (edge e a (k+2)-t) ∧
      (Int64.ofInt (edge e a (k+2)-t)).toInt=edge e a (k+2)-t := by
  have hx : 0 < edge e a (k+2) := edge_pos he h.settled.1 (k+2)
  have hlow := h.settled.edge_le ht
  have h01 : edge e a (k+1)=edge e a k+e.toInt := edge_succ e a k
  have h12 : edge e a (k+2)=edge e a (k+1)+e.toInt := edge_succ e a (k+1)
  refine ⟨?_, ttlOf_counter hx hlive.le (by simp only [Instant] at *; omega),
    toInt_ofInt_of_lt (by simp only [Instant] at *; omega) (by simp only [Instant] at *; omega)⟩
  rw [h.current.liveAt_counter hx ht, if_neg (not_le.mpr hlive)]

/-- A shift once the current counter died ends the epoch: from `t` on neither key holds
anything, the previous counter having died a window earlier, and everything admitted came
before `t`. -/
theorem Tracks.shift_of_dead {key : String} {e : Span} {t₁ t a : Instant} {k : Nat}
    {s : MemoryStore} {adm : List (Instant × Int64)} (he : 0 < e.toInt)
    (h : Tracks key e t₁ s ⟨some ⟨a, k⟩, adm⟩) (ht : t₁ ≤ t)
    (hdead : edge e a (k+2) ≤ t) : Tracks key e t (s.shift t key e) ⟨none, adm⟩ := by
  obtain ⟨ha, -, hadm⟩ := h.settled
  have hx : 0 < edge e a (k+2) := edge_pos he ha (k+2)
  have h12 : edge e a (k+2)=edge e a (k+1)+e.toInt := edge_succ e a (k+1)
  rw [shift_eq, h.current.liveAt_counter hx ht, if_pos hdead]
  refine ⟨(h.current.dead ht ((dead_counter_iff hx).mpr hdead)).lookup (le_refl t) key, ?_, ?_⟩
  · match k with
    | 0 => exact h.previous.lookup ht key
    | j+1 =>
      have hprev : edge e a (j+1+1) ≤ t := by
        simp only [Instant] at *
        omega
      exact (h.previous.dead ht ((dead_counter_iff (edge_pos he ha _)).mpr hprev)).lookup
        (le_refl t) key
  · intro p hp
    have hp' := hadm p hp
    simp only [Instant] at *
    omega

/-- A shift past the current window, before the current counter dies, moves that counter to
the previous key and starts an empty one living a window longer: the epoch moves to its next
window, in which nothing was admitted yet. -/
theorem Tracks.shift_of_next {key : String} {e : Span} {t₁ t a : Instant} {k : Nat}
    {s : MemoryStore} {adm : List (Instant × Int64)} (he : 0 < e.toInt)
    (he' : e.toInt < 4611686018427387904) (h : Tracks key e t₁ s ⟨some ⟨a, k⟩, adm⟩)
    (ht : t₁ ≤ t) (hnext : edge e a (k+1) < t) (hlive : t < edge e a (k+2)) :
    Tracks key e t (s.shift t key e) ⟨some ⟨a, k+1⟩, adm⟩ := by
  obtain ⟨ha, -, hadm⟩ := h.settled
  obtain ⟨hheld, httl, httlInt⟩ := h.current_ttl he he' ht hlive
  have h12 : edge e a (k+2)=edge e a (k+1)+e.toInt := edge_succ e a (k+1)
  have hshift : 0 < Int64.ofInt (edge e a (k+2)-t) ∧ Int64.ofInt (edge e a (k+2)-t) < e := by
    rw [Int64.lt_iff_toInt_lt, Int64.lt_iff_toInt_lt, httlInt, Int64.toInt_zero]
    simp only [Instant] at *
    omega
  have hend : t.add (Int64.ofInt (edge e a (k+2)-t)+e)=edge e a (k+1+2) := by
    have h23 : edge e a (k+1+2)=edge e a (k+2)+e.toInt := edge_succ e a (k+2)
    have hsum : (Int64.ofInt (edge e a (k+2)-t)+e).toInt=edge e a (k+2)-t+e.toInt := by
      rw [Int64.toInt_add, httlInt]
      exact Int.bmod_eq_of_le (by simp only [Instant] at *; omega)
        (by simp only [Instant] at *; omega)
    rw [Instant.add, hsum, h23]
    simp only [Instant]
    omega
  have hzero : windowTotal e a (k+1) adm=0 :=
    windowTotal_eq_zero fun p hp hin => absurd (hadm p hp) (not_le.mpr hin.edge_lt)
  rw [shift_eq, hheld]
  dsimp only
  rw [httl, if_pos hshift, hend]
  refine ⟨?_, (holds_put_self _ _ _ _).put_of_ne (previousKey_ne key) _, ?_⟩
  · show Holds _ key (some ⟨Int64.ofInt (windowTotal e a (k+1) adm), edge e a (k+1+2), []⟩) t
    rw [hzero]
    exact holds_put_self _ _ _ _
  · refine ⟨ha, Or.inr hnext, fun p hp => le_trans (hadm p hp) ?_⟩
    have h12' : edge e a (k+1+1)=edge e a (k+1)+e.toInt := edge_succ e a (k+1)
    simp only [Instant] at *
    omega

/-- A shift within the current window moves nothing: a window or more of the current counter's
life is left. -/
theorem Tracks.shift_of_le {key : String} {e : Span} {t₁ t a : Instant} {k : Nat}
    {s : MemoryStore} {adm : List (Instant × Int64)} (he : 0 < e.toInt)
    (he' : e.toInt < 4611686018427387904) (h : Tracks key e t₁ s ⟨some ⟨a, k⟩, adm⟩)
    (ht : t₁ ≤ t) (hle : t ≤ edge e a (k+1)) :
    Tracks key e t (s.shift t key e) ⟨some ⟨a, k⟩, adm⟩ := by
  have h12 : edge e a (k+2)=edge e a (k+1)+e.toInt := edge_succ e a (k+1)
  obtain ⟨hheld, httl, httlInt⟩ :=
    h.current_ttl he he' ht (by simp only [Instant] at *; omega)
  have hstay : ¬(0 < Int64.ofInt (edge e a (k+2)-t) ∧ Int64.ofInt (edge e a (k+2)-t) < e) := by
    rw [Int64.lt_iff_toInt_lt, Int64.lt_iff_toInt_lt, httlInt]
    simp only [Instant] at *
    omega
  rw [shift_eq, hheld]
  dsimp only
  rw [httl, if_neg hstay]
  exact h.lookup ht key

/-- A shift at `t` moves the store along with the epoch: from `t` on, the key and the previous
key hold the counters of the epoch touched at `t`. -/
theorem Tracks.shift {key : String} {e : Span} {t₁ t : Instant} {s : MemoryStore}
    {ep : Option Epoch} {adm : List (Instant × Int64)} (he : 0 < e.toInt)
    (he' : e.toInt < 4611686018427387904) (h : Tracks key e t₁ s ⟨ep, adm⟩) (ht : t₁ ≤ t) :
    Tracks key e t (s.shift t key e) ⟨Epoch.touch e t ep, adm⟩ := by
  match ep with
  | none =>
    have hnone : s.liveAt t key=none := h.current t ht
    rw [shift_eq, hnone]
    exact h.lookup ht key
  | some ⟨a, k⟩ =>
    by_cases hdead : edge e a (k+2) ≤ t
    · have htouch : Epoch.touch e t (some ⟨a, k⟩)=none := by simp [Epoch.touch, hdead]
      rw [htouch]
      exact h.shift_of_dead he ht hdead
    · by_cases hnext : edge e a (k+1) < t
      · have htouch : Epoch.touch e t (some ⟨a, k⟩)=some ⟨a, k+1⟩ := by
          simp [Epoch.touch, hdead, hnext]
        rw [htouch]
        exact h.shift_of_next he he' ht hnext (lt_of_not_ge hdead)
      · have htouch : Epoch.touch e t (some ⟨a, k⟩)=some ⟨a, k⟩ := by
          simp [Epoch.touch, hdead, hnext]
        rw [htouch]
        exact h.shift_of_le he he' ht (le_of_not_gt hnext)

/-- A life between 0 and `2^63` is not floored. -/
theorem not_ofInt_lt_zero {n : Int} (h₀ : 0 ≤ n) (h : n < 9223372036854775808) :
    ¬Int64.ofInt n < 0 := by
  rw [Int64.lt_iff_toInt_lt, toInt_ofInt_of_lt h₀ h, Int64.toInt_zero]
  omega

/-- Right after a touch at `t`, the counters read off the two keys are the two-bucket report. -/
theorem Tracks.slidingOf_eq {key : String} {e : Span} {t : Instant} {s : MemoryStore}
    {ep : Option Epoch} {adm : List (Instant × Int64)} (he : 0 < e.toInt)
    (he' : e.toInt < 4611686018427387904) (h : Tracks key e t s ⟨ep, adm⟩)
    (hrange : ∀ a k, ep=some ⟨a, k⟩ → t ≤ edge e a (k+1)) :
    slidingOf t (s.liveAt t (previousKey key)) (s.liveAt t key)=TwoBucket.report e t adm ep := by
  match ep with
  | none =>
    rw [h.current t (le_refl t), h.previous t (le_refl t)]
    rfl
  | some ⟨a, k⟩ =>
    have ha : 0 < a := h.settled.1
    have hle := hrange a k rfl
    have hlow := h.settled.edge_le (le_refl t)
    have h01 : edge e a (k+1)=edge e a k+e.toInt := edge_succ e a k
    have h12 : edge e a (k+2)=edge e a (k+1)+e.toInt := edge_succ e a (k+1)
    obtain ⟨hheld, hcurTtl, -⟩ :=
      h.current_ttl he he' (le_refl t) (by simp only [Instant] at *; omega)
    have hcurPos : ¬Int64.ofInt (edge e a (k+2)-t) < 0 :=
      not_ofInt_lt_zero (by simp only [Instant] at *; omega) (by simp only [Instant] at *; omega)
    rw [hheld]
    match k with
    | 0 =>
      have hprev : s.liveAt t (previousKey key)=none := h.previous t (le_refl t)
      have hfirst : ¬1 ≤ 0 := by decide
      rw [hprev]
      unfold slidingOf TwoBucket.report
      simp only [Option.map_some, Option.map_none, Option.getD_some, Option.getD_none,
        Option.isSome_some, Option.isSome_none, if_true, Bool.false_eq_true, if_false, hcurTtl,
        hcurPos, hfirst, false_and]
    | j+1 =>
      rw [h.previous.liveAt_counter (edge_pos he ha _) (le_refl t)]
      unfold slidingOf TwoBucket.report
      by_cases hp : edge e a (j+1+1) ≤ t
      · have hnot : ¬t < edge e a (j+1+1) := not_lt.mpr hp
        have hmax : max 0 (edge e a (j+1+1)-t)=0 := by
          simp only [Instant] at *
          omega
        have hzero : Int64.ofInt 0=0 := rfl
        simp only [hp, if_true, Option.map_some, Option.map_none, Option.getD_some,
          Option.getD_none, Option.isSome_some, Option.isSome_none, Bool.false_eq_true, if_false,
          hcurTtl, hcurPos, hnot, and_false, Nat.le_add_left, hmax, hzero]
      · have hlive : t < edge e a (j+1+1) := lt_of_not_ge hp
        have hprevTtl : ttlOf t (some ⟨Int64.ofInt (windowTotal e a j adm), edge e a (j+1+1), []⟩)=
            Int64.ofInt (edge e a (j+1+1)-t) :=
          ttlOf_counter (edge_pos he ha _) (by simp only [Instant] at *; omega)
            (by simp only [Instant] at *; omega)
        have hprevPos : ¬Int64.ofInt (edge e a (j+1+1)-t) < 0 :=
          not_ofInt_lt_zero (by simp only [Instant] at *; omega) (by simp only [Instant] at *; omega)
        have hmax : max 0 (edge e a (j+1+1)-t)=edge e a (j+1+1)-t := by
          simp only [Instant] at *
          omega
        simp only [hp, if_false, Option.map_some, Option.getD_some, Option.isSome_some, if_true,
          hcurTtl, hcurPos, hprevTtl, hprevPos, hlive, and_true, Nat.le_add_left, hmax,
          Nat.add_sub_cancel]

/-- A fresh counter lives two windows: from `t` to the end of the second window of an epoch
anchored at `t`, the doubled length staying within 64 bits. -/
theorem add_two_windows {e : Span} (he : 0 < e.toInt) (he' : e.toInt < 4611686018427387904)
    (t : Instant) : t.add (2*e)=edge e t 2 := by
  have hmul : (2*e).toInt=2*e.toInt := by
    have htwo : (2 : Int64).toInt=2 := by decide
    rw [Int64.toInt_mul, htwo]
    exact Int.bmod_eq_of_le (by norm_num; omega) (by norm_num; omega)
  rw [Instant.add, hmul]
  unfold edge
  push_cast
  ring

/-- A granted admission at `t` adds its amount to the current counter, or starts an epoch with
a fresh counter living two windows when none is live; the previous key is left as it was. -/
theorem Tracks.admit {key : String} {e : Span} {t : Instant} {s s' : MemoryStore}
    {ep : Option Epoch} {adm : List (Instant × Int64)} (he : 0 < e.toInt)
    (he' : e.toInt < 4611686018427387904) (ht : 0 < t) (h : Tracks key e t s ⟨ep, adm⟩)
    (hrange : ∀ a k, ep=some ⟨a, k⟩ → t ≤ edge e a (k+1))
    (hprev : Holds s' (previousKey key) (heldPrevious e adm ep) t) (x : Int64) :
    Tracks key e t (s'.put key (match s.liveAt t key with
        | some c => {c with value := c.value+x}
        | none => ⟨x, t.add (2*e), []⟩))
      ⟨ep.or (some ⟨t, 0⟩), adm++[(t, x)]⟩ := by
  match ep with
  | none =>
    have hold : ∀ p ∈ adm, p.1 < t := h.settled
    have hnone : s.liveAt t key=none := h.current t (le_refl t)
    have htwo := add_two_windows he he' t
    have hsum : Int64.ofInt (windowTotal e t 0 (adm++[(t, x)]))=x := by
      have hin : InWindow e t 0 t := by
        refine ⟨Or.inl ⟨rfl, le_refl t⟩, ?_⟩
        rw [edge_succ, edge_zero]
        simp only [Instant]
        omega
      rw [windowTotal_append_of_mem _ _ hin, windowTotal_of_lt_anchor he hold, Int.zero_add,
        Int64.ofInt_toInt]
    rw [hnone]
    refine ⟨?_, hprev.put_of_ne (previousKey_ne key) _, ?_⟩
    · show Holds _ key (some ⟨Int64.ofInt (windowTotal e t 0 (adm++[(t, x)])), edge e t (0+2), []⟩) t
      rw [hsum, ← htwo]
      exact holds_put_self _ _ _ _
    · have hend := le_edge_self he t (0+1)
      exact ⟨ht, Or.inl ⟨rfl, le_refl t⟩, List.forall_mem_append.mpr
        ⟨fun p hp => le_trans (hold p hp).le hend, List.forall_mem_singleton.mpr hend⟩⟩
  | some ⟨a, k⟩ =>
    obtain ⟨ha, hstart, hadm⟩ := h.settled
    have hle := hrange a k rfl
    have hin : InWindow e a k t := ⟨hstart, hle⟩
    have h12 : edge e a (k+2)=edge e a (k+1)+e.toInt := edge_succ e a (k+1)
    rw [h.current.liveAt_counter (edge_pos he ha _) (le_refl t),
      if_neg (by simp only [Instant] at *; omega)]
    refine ⟨?_, ?_, ?_⟩
    · show Holds _ key
        (some ⟨Int64.ofInt (windowTotal e a k (adm++[(t, x)])), edge e a (k+2), []⟩) t
      rw [windowTotal_append_of_mem _ _ hin, Int64.ofInt_add, Int64.ofInt_toInt]
      exact holds_put_self _ _ _ _
    · match k with
      | 0 => exact hprev.put_of_ne (previousKey_ne key) _
      | j+1 =>
        have hout : ¬InWindow e a j t := fun hin' => absurd hin'.2 (not_le.mpr hin.edge_lt)
        show Holds _ (previousKey key)
          (some ⟨Int64.ofInt (windowTotal e a j (adm++[(t, x)])), edge e a (j+1+1), []⟩) t
        rw [windowTotal_append_of_not_mem _ _ hout]
        exact hprev.put_of_ne (previousKey_ne key) _
    · exact ⟨ha, hstart, List.forall_mem_append.mpr ⟨hadm, List.forall_mem_singleton.mpr hle⟩⟩

/-- One call at `t`, for a window length below `2^62`, that keeps the exact weighted count plus
its amount within 64 bits: the store answers as the two-bucket limiter does, and follows it from
`t` on. -/
theorem tracks_step {key : String} (limit : Int64) {e : Span} {t₁ t : Instant} {s : MemoryStore}
    {b : TwoBucket} (he : 0 < e.toInt) (he' : e.toInt < 4611686018427387904) (ht : 0 < t)
    (h : Tracks key e t₁ s b) (ht₁ : t₁ ≤ t) (c : WindowCall)
    (hfits : TwoBucket.fits limit e (t, c) b=true) :
    (step key limit e (t, c) s).1=(TwoBucket.step limit e (t, c) b).1 ∧
      Tracks key e t (step key limit e (t, c) s).2 (TwoBucket.step limit e (t, c) b).2 := by
  obtain ⟨ep, adm⟩ := b
  have hshift := h.shift he he' ht₁
  have hreport := hshift.slidingOf_eq he he' (fun a k hk => le_edge_of_touch hk)
  cases c with
  | read =>
    simp only [step, TwoBucket.step, slidingWindow_eq, slidingState_fst, hreport, true_and]
    exact hshift.slidingState (le_refl t) key
  | acquire x =>
    by_cases hbig : limit < x
    · simp only [step, TwoBucket.step, acquireSliding_eq, hbig, if_true, true_and]
      exact h.mono ht₁
    · have hrange : -9223372036854775808 ≤
            TwoBucket.weighted e t adm (Epoch.touch e t ep)+x.toInt ∧
          TwoBucket.weighted e t adm (Epoch.touch e t ep)+x.toInt < 9223372036854775808 := by
        simpa [TwoBucket.fits, hbig] using hfits
      have hiff : limit < (TwoBucket.report e t adm (Epoch.touch e t ep)).weighted e+x ↔ _ :=
        TwoBucket.lt_weighted_add_iff hrange.1 hrange.2
      by_cases hfit : limit.toInt < TwoBucket.weighted e t adm (Epoch.touch e t ep)+x.toInt
      · simp only [step, TwoBucket.step, acquireSliding_eq, hbig, hreport, hiff, hfit, if_false,
          if_true, true_and]
        exact hshift.slidingState (le_refl t) key
      · simp only [step, TwoBucket.step, acquireSliding_eq, hbig, hreport, hiff, hfit, if_false,
          true_and]
        exact hshift.admit he he' ht (fun a k hk => le_edge_of_touch hk)
          ((hshift.previous.slidingState (le_refl t) key).lookup (le_refl t) key) x

/-- Along every run at nondecreasing instants from a positive `t₀`, from a store whose key and
previous key hold nothing at `t₀`: the store and the two-bucket limiter answer alike, and the
store follows the limiter from every instant past the run. -/
theorem run_tracks {key : String} {limit : Int64} {e : Span} {t₀ : Instant} {s₀ : MemoryStore}
    {calls : List (Instant × WindowCall)} (he : 0 < e.toInt) (he' : e.toInt < 4611686018427387904)
    (ht₀ : 0 < t₀) (hrun : Chronological t₀ calls) (hfit : FitsAlong limit e calls)
    (hK : s₀.liveAt t₀ key=none) (hP : s₀.liveAt t₀ (previousKey key)=none) :
    (replay (step key limit e) s₀ calls).2=(replay (TwoBucket.step limit e) TwoBucket.init calls).2 ∧
      ∀ t₁, t₀ ≤ t₁ → (∀ d ∈ calls, d.1 ≤ t₁) →
        Tracks key e t₁ (replay (step key limit e) s₀ calls).1
          (replay (TwoBucket.step limit e) TwoBucket.init calls).1 := by
  induction calls using List.reverseRecOn with
  | nil =>
    refine ⟨rfl, fun t₁ ht₁ _ => ⟨?_, ?_, ?_⟩⟩
    · exact fun t ht => liveAt_eq_none_of_le hK (le_trans ht₁ ht)
    · exact fun t ht => liveAt_eq_none_of_le hP (le_trans ht₁ ht)
    · exact fun p hp => absurd hp List.not_mem_nil
  | append_singleton calls d ih =>
    obtain ⟨t, c⟩ := d
    obtain ⟨hch, ht₀t, hlast⟩ := chronological_append_singleton.mp hrun
    obtain ⟨hfits, hfitLast⟩ := hfit.append_singleton
    obtain ⟨htrace, htracks⟩ := ih hch hfits
    have hstep := tracks_step limit he he' (lt_of_lt_of_le ht₀ ht₀t)
      (htracks t ht₀t hlast) (le_refl t) c hfitLast
    rw [replay_append_singleton, replay_append_singleton]
    refine ⟨?_, fun t₁ _ hall => hstep.2.mono (hall (t, c) (by simp))⟩
    rw [htrace, hstep.1]

end Admission.Quota.SlidingWindow
