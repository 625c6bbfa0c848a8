import Mathlib
import Admission.Proofs.CounterStore

/-!
# What remains of a quota agrees with the next hit

Each window strategy reads what remains of a quota on one path and decides a hit on another:
the fixed window reads its counter where a hit increments it, the sliding window shifts and
reads its counters where a hit shifts and admits, and the moving window prunes its log where a
hit prunes and logs. This module names the quantity a hit compares against (`used`) and
proves, for every state of the in-memory store and every instant, that what remains is the
amount less `used` floored at zero, that reading it leaves `used` as it was, and that a hit at
the same instant decides by `used` too. For the sliding window this rests on a shift being
idempotent at one instant (`shiftDone_shift`).

In 64-bit arithmetic the two paths agree as long as nothing wraps (`Fits`): a hit of cost `c`
is then allowed exactly when `c` is at most what remains, for each strategy and through the
limiter (`remaining_agrees_with_hit`). The fixed window's counter does wrap: after hits of
costs `2^63 - 1` and `2` nothing remains, and yet a hit of cost 1 is allowed
(`fixed_window_hit_past_remaining`).
-/

namespace Admission.Quota.WindowKind

open MemoryStore

/-- The quantity a hit compares against at `now`: the live fixed-window counter, the sliding
window's weighted count after the shift, or the total of the moving window's log pruned to the
window. -/
def used : WindowKind → Instant → Item → String → MemoryStore → Int64
  | .fixed, now, item, key, s => ((s.liveAt now (item.storageKey key)).map (·.value)).getD 0
  | .sliding, now, item, key, s =>
    let s₁ := s.shift now (item.storageKey key) item.expiry
    (slidingOf now (s₁.liveAt now (previousKey (item.storageKey key)))
      (s₁.liveAt now (item.storageKey key))).weighted item.expiry
  | .moving, now, item, key, s =>
    logTotal (((s.liveAt now (item.storageKey key)).map fun x => recent x.log now item.expiry).getD [])

/-- How a strategy decides a hit of cost `c` against `used`: the fixed window adds the cost to
its counter and compares with the amount; the sliding and moving windows first refuse a cost
above the amount, then compare `used` plus the cost with it. -/
def admits : WindowKind → Int64 → Int64 → Int64 → Bool
  | .fixed, amount, used, c => decide (used+c ≤ amount)
  | _, amount, used, c => decide (¬amount < c ∧ ¬amount < used+c)

/-- The 64-bit arithmetic of a hit of cost `c` against `used` is exact: the cost is positive,
`used + c` stays below `2^63`, `amount - used` is a 64-bit value, and for the sliding and
moving windows `used` is not negative. -/
def Fits (k : WindowKind) (amount used c : Int64) : Prop :=
  0 < c.toInt ∧ used.toInt+c.toInt < 9223372036854775808 ∧
    -9223372036854775808 ≤ amount.toInt-used.toInt ∧
    amount.toInt-used.toInt < 9223372036854775808 ∧
    (k≠.fixed → 0 ≤ used.toInt)

instance (k : WindowKind) (amount used c : Int64) : Decidable (Fits k amount used c) :=
  inferInstanceAs (Decidable (_ ∧ _))

/-- Without wrapping, a hit is admitted exactly when its cost is at most what remains. -/
theorem admits_iff {k : WindowKind} {amount used c : Int64} (h : Fits k amount used c) :
    admits k amount used c=true ↔ c ≤ left amount used := by
  obtain ⟨hc, hsum, hlo, hhi, hpos⟩ := h
  have hlt := used.toInt_lt
  have hge := used.le_toInt
  have hadd : (used+c).toInt=used.toInt+c.toInt := by
    rw [Int64.toInt_add]
    exact Int.bmod_eq_of_le (by norm_num; omega) (by norm_num; omega)
  have hsub : (amount-used).toInt=amount.toInt-used.toInt := by
    rw [Int64.toInt_sub]
    exact Int.bmod_eq_of_le (by norm_num; omega) (by norm_num; omega)
  have hleft : (left amount used).toInt=max 0 (amount.toInt-used.toInt) := by
    unfold left
    by_cases hneg : amount-used < 0
    · rw [if_pos hneg, Int64.toInt_zero]
      rw [Int64.lt_iff_toInt_lt, hsub, Int64.toInt_zero] at hneg
      omega
    · rw [if_neg hneg, hsub]
      rw [Int64.lt_iff_toInt_lt, hsub, Int64.toInt_zero] at hneg
      omega
  rw [Int64.le_iff_toInt_le, hleft]
  cases k with
  | fixed =>
    simp only [admits, decide_eq_true_iff, Int64.le_iff_toInt_le, hadd]
    omega
  | sliding =>
    have hu := hpos (by decide)
    simp only [admits, decide_eq_true_iff, Int64.lt_iff_toInt_lt, hadd]
    omega
  | moving =>
    have hu := hpos (by decide)
    simp only [admits, decide_eq_true_iff, Int64.lt_iff_toInt_lt, hadd]
    omega

/-- At `now` the key's held counter, if any, has no life left below a window: a shift then
moves nothing. -/
def ShiftDone (now : Instant) (key : String) (w : Span) (s : MemoryStore) : Prop :=
  ∀ cur, s.liveAt now key=some cur → ¬(0 < ttlOf now (some cur) ∧ ttlOf now (some cur) < w)

/-- A shift that moves nothing is the shift's lookup. -/
theorem shift_of_shiftDone {now : Instant} {key : String} {w : Span} {s : MemoryStore}
    (h : ShiftDone now key w s) : s.shift now key w=(s.lookup now key).2 := by
  rw [shift_eq]
  cases hcur : s.liveAt now key with
  | none => rfl
  | some cur =>
    dsimp only
    rw [if_neg (h cur hcur)]

/-- A counter expiring a span `d` after `now` has, read at `now`, the life `d`, unless it
expires at the absent instant. -/
theorem ttlOf_add {now : Instant} {d : Span} (v : Int64) (l : List (Instant × Int64))
    (hz : Instant.isZero (now.add d)=false) : ttlOf now (some ⟨v, now.add d, l⟩)=d := by
  have hb := d.toInt_lt
  have hb' := d.le_toInt
  have hgap : now.add d-now=d.toInt := by
    rw [Instant.add]
    exact add_sub_cancel_left now d.toInt
  simp only [ttlOf, hz, Bool.false_eq_true, if_false, Instant.since, hgap, Span.clamp]
  rw [if_neg (by norm_num; omega), if_neg (by norm_num; omega), Int64.ofInt_toInt]

/-- A life in `(0, w)` plus `w` is at least `w` in 64-bit arithmetic, or wraps below zero. -/
theorem le_add_or_add_neg {ttl w : Span} (h : 0 < ttl ∧ ttl < w) : w ≤ ttl+w ∨ ttl+w < 0 := by
  have h1 := Int64.lt_iff_toInt_lt.mp h.1
  have h2 := Int64.lt_iff_toInt_lt.mp h.2
  have hb1 := ttl.toInt_lt
  have hb2 := w.toInt_lt
  rw [Int64.toInt_zero] at h1
  rw [Int64.le_iff_toInt_le, Int64.lt_iff_toInt_lt, Int64.toInt_zero, Int64.toInt_add]
  by_cases hsmall : ttl.toInt+w.toInt < 9223372036854775808
  · left
    rw [Int.bmod_eq_of_le (by norm_num; omega) (by norm_num; omega)]
    omega
  · right
    have hemod : (ttl.toInt+w.toInt) % (2^64 : Nat)=ttl.toInt+w.toInt :=
      Int.emod_eq_of_lt (by omega) (by norm_num; omega)
    rw [Int.bmod_def, hemod, if_neg (by norm_num; omega)]
    norm_num
    omega

/-- After a shift at `now`, a second shift at `now` moves nothing: the fresh counter lives its
predecessor's remaining life plus a window, which is a window or more unless it wrapped below
zero, and a counter read as never expiring or as already past its life is not moved either. -/
theorem shiftDone_shift (now : Instant) (key : String) (w : Span) (s : MemoryStore) :
    ShiftDone now key w (s.shift now key w) := by
  intro cur hcur
  rw [shift_eq] at hcur
  cases hheld : s.liveAt now key with
  | none =>
    rw [hheld] at hcur
    dsimp only at hcur
    rw [liveAt_lookup _ _ _ (le_refl now), hheld] at hcur
    exact absurd hcur (by simp)
  | some old =>
    rw [hheld] at hcur
    dsimp only at hcur
    by_cases hmove : 0 < ttlOf now (some old) ∧ ttlOf now (some old) < w
    · rw [if_pos hmove, liveAt_put_self] at hcur
      have hlife := le_add_or_add_neg hmove
      generalize ttlOf now (some old)+w=d at hcur hlife
      have hfresh : cur=⟨0, now.add d, []⟩ := by
        by_cases hdead : Entry.dead ⟨0, now.add d, []⟩ now
        · rw [if_pos hdead] at hcur
          exact absurd hcur (by simp)
        · rw [if_neg hdead] at hcur
          exact (Option.some.inj hcur).symm
      rw [hfresh]
      cases hz : Instant.isZero (now.add d)
      · rw [ttlOf_add 0 [] hz, Int64.lt_iff_toInt_lt, Int64.lt_iff_toInt_lt, Int64.toInt_zero]
        rw [Int64.le_iff_toInt_le, Int64.lt_iff_toInt_lt, Int64.toInt_zero] at hlife
        omega
      · simp only [ttlOf, hz, if_true, ttlNoExpiry]
        rintro ⟨hpos, -⟩
        exact absurd hpos (by decide)
    · rw [if_neg hmove, liveAt_lookup _ _ _ (le_refl now), hheld] at hcur
      rw [← Option.some.inj hcur]
      exact hmove

/-- A key that holds the same at `now` is shifted alike. -/
theorem ShiftDone.of_liveAt_eq {now : Instant} {key : String} {w : Span} {s s' : MemoryStore}
    (h : ShiftDone now key w s) (heq : s'.liveAt now key=s.liveAt now key) :
    ShiftDone now key w s' := by
  intro cur hcur
  rw [heq] at hcur
  exact h cur hcur

/-- Pruning a pruned log again at the same instant keeps it. -/
theorem recent_recent_self (log : List (Instant × Int64)) (now : Instant) (w : Span) :
    recent (recent log now w) now w=recent log now w := by
  simp [recent, List.filter_filter]

/-- The count of a held counter, or of a default one. -/
theorem value_getD (o : Option Entry) (d : Entry) :
    (o.getD d).value=(o.map (·.value)).getD d.value := by
  cases o <;> rfl

/-- What remains is the amount less `used`, floored at zero. -/
theorem remaining_fst (k : WindowKind) (now : Instant) (item : Item) (key : String)
    (s : MemoryStore) :
    (k.remaining (CounterOps.memory .truthful) now item key s).1=
      .ok (left item.amount (used k now item key s)) := by
  cases k with
  | fixed =>
    simp only [remaining, CounterOps.memory, Interference.guard, Interference.failure, get_eq,
      pttl_eq, used]
  | sliding =>
    simp only [remaining, CounterOps.memory, Interference.guard, Interference.failure,
      slidingWindow_eq, slidingState_fst, used, Except.map]
  | moving =>
    simp only [remaining, CounterOps.memory, Interference.guard, Interference.failure,
      movingWindow_eq, used]
    cases s.liveAt now (item.storageKey key) with
    | none => rfl
    | some x =>
      dsimp only
      rw [Option.map_some, Option.getD_some]
      generalize recent x.log now item.expiry=kept
      cases kept <;> rfl

/-- Reading what remains leaves what the next hit at the same instant compares against. -/
theorem used_remaining (k : WindowKind) (now : Instant) (item : Item) (key : String)
    (s : MemoryStore) :
    used k now item key (k.remaining (CounterOps.memory .truthful) now item key s).2=
      used k now item key s := by
  cases k with
  | fixed =>
    simp only [remaining, CounterOps.memory, Interference.guard, Interference.failure, get_eq,
      pttl_eq, used, liveAt_lookup _ _ _ (le_refl now)]
  | sliding =>
    simp only [remaining, CounterOps.memory, Interference.guard, Interference.failure,
      slidingWindow_eq, used]
    have hsame : ∀ j, (((s.shift now (item.storageKey key) item.expiry).slidingState now
        (item.storageKey key)).2.liveAt now j)=
          (s.shift now (item.storageKey key) item.expiry).liveAt now j :=
      fun j => liveAt_slidingState _ _ _ (le_refl now)
    have hdone := (shiftDone_shift now (item.storageKey key) item.expiry s).of_liveAt_eq
      (hsame (item.storageKey key))
    rw [shift_of_shiftDone hdone, liveAt_lookup _ _ _ (le_refl now),
      liveAt_lookup _ _ _ (le_refl now), hsame, hsame]
  | moving =>
    simp only [remaining, CounterOps.memory, Interference.guard, Interference.failure,
      movingWindow_eq, used]
    cases hheld : s.liveAt now (item.storageKey key) with
    | none =>
      dsimp only
      rw [liveAt_lookup _ _ _ (le_refl now), hheld]
    | some x =>
      dsimp only
      have hlive : Entry.dead x now=false := dead_eq_false_of_liveAt hheld
      have hkept : Entry.dead {x with log := recent x.log now item.expiry} now=false := hlive
      rw [liveAt_put_self, hkept]
      simp only [Bool.false_eq_true, if_false, Option.map_some, Option.getD_some, recent_recent_self]

/-- A hit decides by `used`. -/
theorem hit_fst (k : WindowKind) (now : Instant) (item : Item) (key : String) (c : Int64)
    (s : MemoryStore) :
    (k.hit (CounterOps.memory .truthful) now item key c s).1=
      .ok (admits k item.amount (used k now item key s) c) := by
  cases k with
  | fixed =>
    simp only [hit, CounterOps.memory, Interference.guard, Interference.failure, incr_eq, used,
      admits, Except.map, value_getD]
    rfl
  | sliding =>
    simp only [hit, CounterOps.memory, Interference.guard, Interference.failure, acquireSliding_eq,
      used, admits]
    by_cases hbig : item.amount < c
    · simp [hbig]
    · by_cases hfit : item.amount < (slidingOf now ((s.shift now (item.storageKey key)
          item.expiry).liveAt now (previousKey (item.storageKey key)))
          ((s.shift now (item.storageKey key) item.expiry).liveAt now
            (item.storageKey key))).weighted item.expiry+c <;>
        simp [hbig, hfit]
  | moving =>
    simp only [hit, CounterOps.memory, Interference.guard, Interference.failure, acquireEntry_eq,
      used, admits]
    have hkept : recent ((s.liveAt now (item.storageKey key)).getD ⟨0, 0, []⟩).log now item.expiry=
        ((s.liveAt now (item.storageKey key)).map fun x => recent x.log now item.expiry).getD [] := by
      cases s.liveAt now (item.storageKey key) <;> rfl
    rw [hkept]
    by_cases hbig : item.amount < c
    · simp [hbig]
    · by_cases hfit : item.amount < logTotal (((s.liveAt now (item.storageKey key)).map fun x =>
          recent x.log now item.expiry).getD [])+c <;>
        simp [hbig, hfit]

end Admission.Quota.WindowKind

namespace Admission.Quota.Limiter

open WindowKind

/-- Over the in-memory store, a limited quota's remaining part is the strategy's, and reading
it leaves the store as the strategy's read does. -/
theorem remaining_memory (l : Limiter) (now : Instant) (user router : Int64) (ty : LimitType)
    (v : Int64) (s : MemoryStore) :
    l.remaining (CounterOps.memory .truthful) now user router ty (some v) s=
      (some (left (Item.ofLimit ty v).amount
          (used l.window now (Item.ofLimit ty v) (l.key user router ty) s)),
        (l.window.remaining (CounterOps.memory .truthful) now (Item.ofLimit ty v)
          (l.key user router ty) s).2) := by
  have hfst := remaining_fst l.window now (Item.ofLimit ty v) (l.key user router ty) s
  unfold remaining
  dsimp only
  revert hfst
  cases l.window.remaining (CounterOps.memory .truthful) now (Item.ofLimit ty v)
      (l.key user router ty) s with
  | mk r s' =>
    intro hfst
    dsimp only at hfst
    rw [hfst]

/-- Over the in-memory store, a hit on a limited quota is allowed exactly when the strategy
admits it; an allowed hit may then clear a counter, which changes nothing of the answer. -/
theorem hit_memory (l : Limiter) (now : Instant) (user router : Int64) (ty : LimitType)
    (v c : Int64) (s : MemoryStore) :
    (l.hit (CounterOps.memory .truthful) now user router ty (some v) c s).1=
      admits l.window (Item.ofLimit ty v).amount
        (used l.window now (Item.ofLimit ty v) (l.key user router ty) s) c := by
  have hfst := hit_fst l.window now (Item.ofLimit ty v) (l.key user router ty) c s
  unfold hit
  dsimp only
  revert hfst
  cases l.window.hit (CounterOps.memory .truthful) now (Item.ofLimit ty v)
      (l.key user router ty) c s with
  | mk r s' =>
    intro hfst
    dsimp only at hfst
    rw [hfst]
    cases admits l.window (Item.ofLimit ty v).amount
        (used l.window now (Item.ofLimit ty v) (l.key user router ty) s) c with
    | false => rfl
    | true =>
      dsimp only
      simp only [CounterOps.memory, Interference.guard, Interference.failure]
      split <;> rfl

end Admission.Quota.Limiter

namespace Admission.Quota

open WindowKind

/-- What remains of a quota agrees with the next hit at the same instant, whenever the 64-bit
arithmetic of that hit does not wrap: for each strategy, in every state of the in-memory store
and at every instant, what remains is the amount less `used` floored at zero, and a hit of
cost `c` after reading it is allowed exactly when `c` is at most what remains; and a limiter
counting the same quota under the same key allows the hit exactly when its cost is at most the
remaining part it reported. -/
theorem remaining_agrees_with_hit {k : WindowKind} {now : Instant} {item : Item} {key : String}
    {c : Int64} {s : MemoryStore} (hfit : Fits k item.amount (used k now item key s) c) :
    (k.remaining (CounterOps.memory .truthful) now item key s).1=
        .ok (left item.amount (used k now item key s)) ∧
      ((k.hit (CounterOps.memory .truthful) now item key c
          (k.remaining (CounterOps.memory .truthful) now item key s).2).1=.ok true ↔
        c ≤ left item.amount (used k now item key s)) ∧
      ∀ (l : Limiter) (user router : Int64) (ty : LimitType) (v R : Int64),
        l.window=k → Item.ofLimit ty v=item → l.key user router ty=key →
        (l.remaining (CounterOps.memory .truthful) now user router ty (some v) s).1=some R →
        ((l.hit (CounterOps.memory .truthful) now user router ty (some v) c
            (l.remaining (CounterOps.memory .truthful) now user router ty (some v) s).2).1=true ↔
          c ≤ R) := by
  have hagree : (k.hit (CounterOps.memory .truthful) now item key c
      (k.remaining (CounterOps.memory .truthful) now item key s).2).1=.ok true ↔
      c ≤ left item.amount (used k now item key s) := by
    rw [hit_fst, used_remaining, Except.ok.injEq]
    exact admits_iff hfit
  refine ⟨remaining_fst k now item key s, hagree, ?_⟩
  intro l user router ty v R hk hitem hkey hR
  subst hk hitem hkey
  rw [Limiter.remaining_memory] at hR ⊢
  rw [← Option.some.inj hR, Limiter.hit_memory, used_remaining]
  exact admits_iff hfit

/-- A moving window of 10 requests a minute under a limiter's key, after an admission of 4:
reading what remains and hitting with cost 3, directly and through the limiter, meets the
hypotheses of `remaining_agrees_with_hit`. -/
theorem remaining_agrees_with_hit_at_start :
    let T := Instant.ofUnixSeconds 1704067200
    let ops := CounterOps.memory .truthful
    let l : Limiter := ⟨.moving, "rl"⟩
    let item := Item.ofLimit LimitType.rpm 10
    let key := l.key 1 2 LimitType.rpm
    let s := (WindowKind.moving.hit ops T item key 4 MemoryStore.empty).2
    (Fits .moving item.amount (used .moving T item key s) 3 ∧
      (WindowKind.moving.remaining ops T item key s).1=
        .ok (left item.amount (used .moving T item key s)) ∧
      ((WindowKind.moving.hit ops T item key 3
          (WindowKind.moving.remaining ops T item key s).2).1=.ok true ↔
        3 ≤ left item.amount (used .moving T item key s))) ∧
    (l.remaining ops T 1 2 LimitType.rpm (some 10) s).1=some 6 ∧
      ((l.hit ops T 1 2 LimitType.rpm (some 10) 3
          (l.remaining ops T 1 2 LimitType.rpm (some 10) s).2).1=true ↔
        (3 : Int64) ≤ 6) :=
  have hfit : Fits .moving (Item.ofLimit LimitType.rpm 10).amount
      (used .moving (Instant.ofUnixSeconds 1704067200) (Item.ofLimit LimitType.rpm 10)
        ((⟨.moving, "rl"⟩ : Limiter).key 1 2 LimitType.rpm)
        (WindowKind.moving.hit (CounterOps.memory .truthful) (Instant.ofUnixSeconds 1704067200)
          (Item.ofLimit LimitType.rpm 10) ((⟨.moving, "rl"⟩ : Limiter).key 1 2 LimitType.rpm) 4
          MemoryStore.empty).2) 3 := by
    decide +kernel
  have hR : ((⟨.moving, "rl"⟩ : Limiter).remaining (CounterOps.memory .truthful)
      (Instant.ofUnixSeconds 1704067200) 1 2 LimitType.rpm (some 10)
      (WindowKind.moving.hit (CounterOps.memory .truthful) (Instant.ofUnixSeconds 1704067200)
        (Item.ofLimit LimitType.rpm 10) ((⟨.moving, "rl"⟩ : Limiter).key 1 2 LimitType.rpm) 4
        MemoryStore.empty).2).1=some 6 := by
    decide +kernel
  ⟨⟨hfit, (remaining_agrees_with_hit hfit).1, (remaining_agrees_with_hit hfit).2.1⟩, hR,
    (remaining_agrees_with_hit hfit).2.2 ⟨.moving, "rl"⟩ 1 2 LimitType.rpm 10 6 rfl rfl rfl hR⟩

/-- A fixed window of 10 a minute: a hit of cost `2^63 - 1` is refused, after which nothing
remains; yet a hit of cost 1 is then allowed, since the counter plus 1 wraps to `-2^63`. -/
theorem fixed_window_hit_past_remaining :
    let T := Instant.ofUnixSeconds 1704067200
    let ops := CounterOps.memory .truthful
    let item := Item.perMinute 10
    let s := (WindowKind.fixed.hit ops T item "k" 9223372036854775807 MemoryStore.empty).2
    (WindowKind.fixed.remaining ops T item "k" s).1=.ok 0 ∧
      (WindowKind.fixed.hit ops T item "k" 1
        (WindowKind.fixed.remaining ops T item "k" s).2).1=.ok true := by
  decide +kernel

end Admission.Quota
