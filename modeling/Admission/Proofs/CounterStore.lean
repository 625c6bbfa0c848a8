import Mathlib
import Admission.Quota.Limiter

/-!
# What the in-memory counter store holds, instant by instant

An entry of the in-memory store is dead from its expiry on, and an operation drops a dead
entry only when it looks at that key. What a key *holds* at an instant is its entry if that
entry is still alive then, and nothing otherwise (`liveAt`). Dropping a dead entry changes
nothing a key holds from that instant on, so the lookups inside every operation are invisible
to every later one.

Each operation the window strategies use gets its statement here through `find?` and
`liveAt`: the answer it gives and what the keys hold afterwards. The window proofs cite
these and never unfold the store.

Runs are told in one way throughout: `replay` threads a state through a list of calls and
records each call beside its answer, and `Chronological t₀ calls` says that the calls come at
nondecreasing instants from `t₀` on.
-/

namespace Admission.Quota.MemoryStore

/-- Writing a key makes it hold exactly the written entry. -/
@[simp] theorem find?_put_self (s : MemoryStore) (key : String) (e : Entry) :
    (s.put key e).find? key=some e := by
  unfold put find?
  split
  · rename_i hany
    obtain ⟨p, hp, hk⟩ := List.any_eq_true.mp hany
    have hfound : (s.entries.find? fun p => p.1==key).isSome := List.find?_isSome.mpr ⟨p, hp, hk⟩
    obtain ⟨q, hq⟩ := Option.isSome_iff_exists.mp hfound
    have hqk : q.1=key := by simpa using List.find?_some hq
    simp only [List.find?_map]
    have hcongr : ((fun p : String × Entry => p.1==key) ∘
        fun p => if p.1==key then (key, e) else p)=fun p => p.1==key := by
      funext p
      by_cases h : p.1=key <;> simp [h]
    rw [hcongr, hq]
    simp [hqk]
  · rename_i hany
    have hnone : (s.entries.find? fun p => p.1==key)=none := by
      rw [List.find?_eq_none]
      intro p hp hk
      exact hany (List.any_eq_true.mpr ⟨p, hp, hk⟩)
    simp [List.find?_append, hnone]

/-- Writing a key leaves every other key as it was. -/
theorem find?_put_of_ne {s : MemoryStore} {key j : String} (h : j≠key) (e : Entry) :
    (s.put key e).find? j=s.find? j := by
  unfold put find?
  split
  · simp only [List.find?_map]
    have hcongr : ((fun p : String × Entry => p.1==j) ∘
        fun p => if p.1==key then (key, e) else p)=fun p => p.1==j := by
      funext p
      by_cases hp : p.1=key
      · simp [hp]
      · simp [hp]
    rw [hcongr]
    cases hq : s.entries.find? (fun p => p.1==j) with
    | none => rfl
    | some q =>
      have hqj : q.1=j := by simpa using List.find?_some hq
      have hqk : ¬q.1=key := by rw [hqj]; exact h
      simp [hqk]
  · rename_i hany
    simp only [List.find?_append]
    cases hq : s.entries.find? (fun p => p.1==j) with
    | some q => rfl
    | none => simp [Ne.symm h]

/-- A key erased holds nothing. -/
@[simp] theorem find?_erase_self (s : MemoryStore) (key : String) : (s.erase key).find? key=none := by
  simp [erase, find?, List.find?_filter]

/-- Erasing a key leaves every other key as it was. -/
theorem find?_erase_of_ne {s : MemoryStore} {key j : String} (h : j≠key) :
    (s.erase key).find? j=s.find? j := by
  unfold erase find?
  simp only [List.find?_filter]
  congr 2
  funext p
  by_cases hp : p.1=j
  · simp [hp, h]
  · simp [hp]

/-- The entry a key holds at an instant: its stored entry, unless that one is dead by then. -/
def liveAt (s : MemoryStore) (now : Instant) (key : String) : Option Entry :=
  (s.find? key).filter fun e => !Entry.dead e now

/-- A held entry is alive. -/
theorem dead_eq_false_of_liveAt {s : MemoryStore} {now : Instant} {key : String} {x : Entry}
    (h : s.liveAt now key=some x) : Entry.dead x now=false := by
  have hlive := (Option.filter_eq_some_iff.mp h).2
  simpa using hlive

/-- An entry dead at an instant is dead at every later one. -/
theorem dead_of_le {e : Entry} {t t' : Instant} (h : Entry.dead e t=true) (ht : t≤t') :
    Entry.dead e t'=true := by
  simp only [Entry.dead, Bool.and_eq_true, Bool.not_eq_true', decide_eq_true_eq] at h ⊢
  exact ⟨h.1, le_trans h.2 ht⟩

/-- An entry is dead from its expiry on, unless it has none. -/
theorem dead_iff {e : Entry} {t : Instant} :
    Entry.dead e t=true ↔ e.expiresAt≠0 ∧ e.expiresAt ≤ t := by
  simp [Entry.dead, Instant.isZero]

/-- A stored entry is held while it lives. -/
theorem liveAt_of_find? {s : MemoryStore} {key : String} {e : Entry} (h : s.find? key=some e)
    (t : Instant) : s.liveAt t key=if Entry.dead e t then none else some e := by
  unfold liveAt
  rw [h, Option.filter_some]
  cases Entry.dead e t <;> rfl

/-- A key holds nothing from an instant on once it holds nothing then. -/
theorem liveAt_eq_none_of_le {s : MemoryStore} {key : String} {t t' : Instant}
    (h : s.liveAt t key=none) (ht : t≤t') : s.liveAt t' key=none := by
  unfold liveAt at h ⊢
  cases hf : s.find? key with
  | none => rfl
  | some e =>
    rw [hf] at h
    have hd : Entry.dead e t=true := by simpa [Option.filter_some] using h
    simp [Option.filter_some, dead_of_le hd ht]

/-- A written key holds the written entry while that entry lives. -/
@[simp] theorem liveAt_put_self (s : MemoryStore) (key : String) (e : Entry) (t : Instant) :
    (s.put key e).liveAt t key=if Entry.dead e t then none else some e := by
  unfold liveAt
  rw [find?_put_self, Option.filter_some]
  cases Entry.dead e t <;> rfl

/-- Writing a key changes nothing another key holds. -/
theorem liveAt_put_of_ne {s : MemoryStore} {key j : String} (h : j≠key) (e : Entry) (t : Instant) :
    (s.put key e).liveAt t j=s.liveAt t j := by
  unfold liveAt
  rw [find?_put_of_ne h]

/-- A lookup answers what the key holds. -/
@[simp] theorem lookup_fst (s : MemoryStore) (now : Instant) (key : String) :
    (s.lookup now key).1=s.liveAt now key := by
  unfold lookup liveAt
  cases s.find? key with
  | none => rfl
  | some e => cases hd : Entry.dead e now <;> simp [Option.filter_some, hd]

/-- After a lookup the key stores just what it held. -/
@[simp] theorem find?_lookup_self (s : MemoryStore) (now : Instant) (key : String) :
    (s.lookup now key).2.find? key=s.liveAt now key := by
  unfold lookup liveAt
  cases hf : s.find? key with
  | none => simp [hf]
  | some e => cases hd : Entry.dead e now <;> simp [Option.filter_some, hf, hd]

/-- A lookup leaves every other key as it was. -/
theorem find?_lookup_of_ne {s : MemoryStore} {now : Instant} {key j : String} (h : j≠key) :
    (s.lookup now key).2.find? j=s.find? j := by
  unfold lookup
  cases s.find? key with
  | none => rfl
  | some e => cases hd : Entry.dead e now <;> simp [hd, find?_erase_of_ne h]

/-- A lookup changes nothing that any key holds from its instant on. -/
theorem liveAt_lookup (s : MemoryStore) {now t : Instant} (key j : String) (ht : now≤t) :
    (s.lookup now key).2.liveAt t j=s.liveAt t j := by
  by_cases hj : j=key
  · subst hj
    have hnow := find?_lookup_self s now j
    unfold liveAt at hnow ⊢
    rw [hnow]
    cases hf : s.find? j with
    | none => rfl
    | some e =>
      cases hd : Entry.dead e now
      · simp [Option.filter_some, hd]
      · simp [Option.filter_some, hd, dead_of_le hd ht]
  · unfold liveAt
    rw [find?_lookup_of_ne hj]

/-- A key holds from an instant on whatever it holds then, until that dies. -/
theorem liveAt_liveAt (s : MemoryStore) {now t : Instant} (key : String) (ht : now≤t) :
    s.liveAt t key=(s.liveAt now key).filter fun e => !Entry.dead e t := by
  unfold liveAt
  cases s.find? key with
  | none => rfl
  | some e =>
    cases hd : Entry.dead e now
    · simp [Option.filter_some, hd]
    · simp [Option.filter_some, hd, dead_of_le hd ht]

/-- The remaining life reported for what a key holds. -/
def ttlOf (now : Instant) : Option Entry → Span
  | none => ttlMissing
  | some e => if e.expiresAt.isZero then ttlNoExpiry else e.expiresAt.since now

/-- The remaining life is read off what the key holds; the store after it is the lookup's. -/
theorem pttl_eq (s : MemoryStore) (now : Instant) (key : String) :
    s.pttl now key=(ttlOf now (s.liveAt now key), (s.lookup now key).2) := by
  unfold pttl
  rw [← lookup_fst]
  cases s.lookup now key with
  | mk r s' => cases r <;> rfl

/-- A count read is the held count, or 0. -/
theorem get_eq (s : MemoryStore) (now : Instant) (key : String) :
    s.get now key=(((s.liveAt now key).map (·.value)).getD 0, (s.lookup now key).2) := by
  unfold get
  rw [← lookup_fst]
  cases s.lookup now key with
  | mk r s' => cases r <;> rfl

/-- An increment adds to the held counter, or to a fresh one that dies a window from now. -/
theorem incr_eq (s : MemoryStore) (now : Instant) (key : String) (w : Span) (a : Int64) :
    s.incr now key w a=
      let base := (s.liveAt now key).getD ⟨0, now.add w, []⟩
      (base.value+a, (s.lookup now key).2.put key {base with value := base.value+a}) := by
  unfold incr
  rw [← lookup_fst]

/-- A moving-window admission prunes the held log to the window, then logs the amount and
renews the expiry if it fits. -/
theorem acquireEntry_eq (s : MemoryStore) (now : Instant) (key : String) (limit : Int64)
    (w : Span) (a : Int64) :
    s.acquireEntry now key limit w a=
      if limit<a then (false, s)
      else
        let base := (s.liveAt now key).getD ⟨0, 0, []⟩
        let kept := recent base.log now w
        if limit<logTotal kept+a then (false, (s.lookup now key).2.put key {base with log := kept})
        else (true, (s.lookup now key).2.put key
          {base with log := kept++[(now, a)], expiresAt := now.add w}) := by
  unfold acquireEntry
  rw [← lookup_fst]

/-- The oldest instant and total of the window, read off the held log, which is pruned. -/
theorem movingWindow_eq (s : MemoryStore) (now : Instant) (key : String) (w : Span) :
    s.movingWindow now key w=
      match s.liveAt now key with
      | none => ((0, 0), (s.lookup now key).2)
      | some e =>
        let kept := recent e.log now w
        ((match kept with
          | [] => (0, 0)
          | (t, _) :: _ => (t, logTotal kept)), (s.lookup now key).2.put key {e with log := kept}) := by
  unfold movingWindow
  rw [← lookup_fst]
  cases s.lookup now key with
  | mk r s' =>
    cases r with
    | none => rfl
    | some e =>
      dsimp only
      generalize recent e.log now w=kept
      cases kept <;> rfl

/-- The current counter becomes the previous one, and a fresh counter lives its remaining
life plus a window, exactly when less than a window of the held counter's life is left. -/
theorem shift_eq (s : MemoryStore) (now : Instant) (key : String) (w : Span) :
    s.shift now key w=
      match s.liveAt now key with
      | some cur =>
        if 0<ttlOf now (some cur) ∧ ttlOf now (some cur)<w then
          ((s.lookup now key).2.put (previousKey key) cur).put key
            ⟨0, now.add (ttlOf now (some cur)+w), []⟩
        else (s.lookup now key).2
      | none => (s.lookup now key).2 := by
  unfold shift
  rw [pttl_eq]
  dsimp only
  rw [find?_lookup_self]
  cases s.liveAt now key with
  | none => simp [ttlOf, ttlMissing]
  | some cur => rfl

/-- The counters of a sliding window as read off what its previous and current keys hold:
counts of absent counters are 0, and lives are floored at 0. -/
def slidingOf (now : Instant) (prev cur : Option Entry) : SlidingState :=
  let floor0 (d : Span) : Span := if d<0 then 0 else d
  { previousCount := (prev.map (·.value)).getD 0
    previousTtl := if prev.isSome then floor0 (ttlOf now prev) else 0
    currentCount := (cur.map (·.value)).getD 0
    currentTtl := if cur.isSome then floor0 (ttlOf now cur) else 0 }

/-- Reading the sliding counters reads what the two keys hold. -/
theorem slidingState_fst (s : MemoryStore) (now : Instant) (key : String) :
    (s.slidingState now key).1=slidingOf now (s.liveAt now (previousKey key)) (s.liveAt now key) := by
  simp only [slidingState, pttl_eq, lookup_fst, liveAt_lookup _ _ _ (le_refl now)]
  rfl

/-- Reading the sliding counters changes nothing any key holds from then on. -/
theorem liveAt_slidingState (s : MemoryStore) {now t : Instant} (key j : String) (ht : now≤t) :
    (s.slidingState now key).2.liveAt t j=s.liveAt t j := by
  simp only [slidingState, pttl_eq, liveAt_lookup _ _ _ ht]

/-- A sliding-window admission shifts, reads the counters, and adds the amount to the held
current counter, or to a fresh one that lives two windows, if the weighted count leaves room. -/
theorem acquireSliding_eq (s : MemoryStore) (now : Instant) (key : String) (limit : Int64)
    (w : Span) (a : Int64) :
    s.acquireSliding now key limit w a=
      if limit<a then (false, s)
      else
        let s₁ := s.shift now key w
        let s₂ := (s₁.slidingState now key).2
        if limit<(slidingOf now (s₁.liveAt now (previousKey key))
            (s₁.liveAt now key)).weighted w+a then
          (false, s₂)
        else
          (true, (s₂.lookup now key).2.put key (match s₁.liveAt now key with
            | some e => {e with value := e.value+a}
            | none => ⟨a, now.add (2*w), []⟩)) := by
  unfold acquireSliding
  split
  · rfl
  · simp only [← slidingState_fst]
    split
    · rfl
    · rw [show (s.shift now key w).liveAt now key=
          ((s.shift now key w).slidingState now key).2.liveAt now key from
          (liveAt_slidingState _ _ _ (le_refl now)).symm, ← lookup_fst]
      cases ((s.shift now key w).slidingState now key).2.lookup now key with
      | mk r s' => cases r <;> rfl

/-- A sliding-window read shifts and then reads the counters. -/
theorem slidingWindow_eq (s : MemoryStore) (now : Instant) (key : String) (w : Span) :
    s.slidingWindow now key w=((s.shift now key w).slidingState now key) := rfl

end Admission.Quota.MemoryStore

namespace Admission.Quota

/-- A nonnegative integer below `2^63` is its own 64-bit value. -/
theorem toInt_ofInt_of_lt {n : Int} (h₀ : 0 ≤ n) (h : n < 9223372036854775808) :
    (Int64.ofInt n).toInt=n :=
  Int64.toInt_ofInt_of_le (by norm_num; omega) (by norm_num; omega)

/-- A timed call on a counting window: an admission of an amount, or a read of the window. -/
inductive WindowCall where
  /-- An admission of this amount. -/
  | acquire (amount : Int64)
  /-- A read of the window's counters. -/
  | read
  deriving DecidableEq, Repr

/-- Runs calls in order from a state: the state after them, and each call beside its answer. -/
def replay (call : α → σ → β × σ) (start : σ) (calls : List α) : σ × List (α × β) :=
  calls.foldl (fun acc c => ((call c acc.1).2, acc.2++[(c, (call c acc.1).1)])) (start, [])

/-- A run with one more call answers it from the state the run left. -/
theorem replay_append_singleton (call : α → σ → β × σ) (start : σ) (calls : List α) (c : α) :
    replay call start (calls++[c])=
      ((call c (replay call start calls).1).2,
        (replay call start calls).2++[(c, (call c (replay call start calls).1).1)]) := by
  simp [replay, List.foldl_append]

/-- The trace of a run lists its calls. -/
theorem replay_calls (call : α → σ → β × σ) (start : σ) (calls : List α) :
    (replay call start calls).2.map Prod.fst=calls := by
  induction calls using List.reverseRecOn with
  | nil => rfl
  | append_singleton calls c ih => simp [replay_append_singleton, ih]

/-- A run's trace has one entry per call. -/
theorem length_replay (call : α → σ → β × σ) (start : σ) (calls : List α) :
    (replay call start calls).2.length = calls.length := by
  simpa using congrArg List.length (replay_calls call start calls)

/-- Timed calls at nondecreasing instants, none before `t₀`. -/
def Chronological (t₀ : Instant) (calls : List (Instant × α)) : Prop :=
  (t₀ :: calls.map Prod.fst).Pairwise (·≤·)

/-- A chronological run with one more call: the run is chronological and the call comes no
earlier than `t₀` and every call of the run. -/
theorem chronological_append_singleton {t₀ : Instant} {calls : List (Instant × α)}
    {c : Instant × α} :
    Chronological t₀ (calls++[c]) ↔
      Chronological t₀ calls ∧ t₀≤c.1 ∧ ∀ d ∈ calls, d.1≤c.1 := by
  simp only [Chronological, List.map_append, List.map_cons, List.map_nil, List.pairwise_cons,
    List.pairwise_append, List.mem_append, List.mem_map, List.mem_singleton]
  constructor
  · rintro ⟨h₀, hp, -, hc⟩
    refine ⟨⟨fun x hx => h₀ x (.inl hx), hp⟩, h₀ c.1 (.inr rfl),
      fun d hd => hc d.1 ⟨d, hd, rfl⟩ c.1 rfl⟩
  · rintro ⟨⟨h₀, hp⟩, hc₀, hc⟩
    refine ⟨?_, hp, by simp, ?_⟩
    · rintro x (hx | rfl)
      · exact h₀ x hx
      · exact hc₀
    · rintro x ⟨d, hd, rfl⟩ y rfl
      exact hc d hd

end Admission.Quota
