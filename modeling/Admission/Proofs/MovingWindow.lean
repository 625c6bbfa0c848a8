import Admission.Proofs.CounterStore

/-!
# Moving windows on the in-memory store

A moving window keeps a log of the admitted amounts with their instants under one key. An
admission of `a` at `t` is refused outright when `a` exceeds the limit; otherwise the log is
pruned to the entries after `t - e`, and the amount is logged, and the entry's expiry renewed
to `t + e`, when the pruned total plus `a` stays within the limit. A read prunes the same way
and reports the oldest kept instant and the kept total. The store drops the whole entry once
its expiry passes.

The log is the admitted amounts inside the window, whatever the pruning and dropping did
(`Logged`). The totals are 64-bit sums, so the decision follows the exact window total only
while no sum wraps. Main statement (`moving_window_exact`): for every limit below `2^62`,
along every run of admissions of positive amounts and reads at nondecreasing instants, an
admission at `t` is granted exactly when its amount plus the exact total admitted in
`(t - e, t]` stays within the limit, a read reports that total and the oldest instant in it,
and at every instant the amounts admitted in the window ending there total at most the limit.
At the limit `2^62` two admissions of `2^62` at one instant are both granted, since the sum
`2^63` wraps negative (`moving_window_wrap_admits`).
-/

namespace Admission.Quota.MovingWindow

open MemoryStore

/-- What a call answers. -/
inductive Answer where
  /-- Whether the amount was admitted. -/
  | admitted (ok : Bool)
  /-- The oldest instant of the window (the absent instant when empty) and its total. -/
  | window (oldest : Instant) (count : Int64)
  deriving DecidableEq, Repr

/-- One timed call on the moving window under `key`, with limit `limit` and length `e`. -/
def step (key : String) (limit : Int64) (e : Span) (c : Instant × WindowCall) (s : MemoryStore) :
    Answer × MemoryStore :=
  match c.2 with
  | .acquire a =>
    ((s.acquireEntry c.1 key limit e a).1 |> .admitted, (s.acquireEntry c.1 key limit e a).2)
  | .read => (.window (s.movingWindow c.1 key e).1.1 (s.movingWindow c.1 key e).1.2,
      (s.movingWindow c.1 key e).2)

/-- The amount a timed call admitted, with its instant, if its answer granted one. -/
def grant : Instant × WindowCall → Answer → Option (Instant × Int64)
  | (t, .acquire a), .admitted true => some (t, a)
  | _, _ => none

/-- The amounts a run admitted, with their instants, read off its trace. -/
def admitted (trace : List ((Instant × WindowCall) × Answer)) : List (Instant × Int64) :=
  trace.filterMap fun x => grant x.1 x.2

/-- The admitted amounts inside the window `(t - e, t]`, oldest first. -/
def inWindow (e : Span) (t : Instant) (adm : List (Instant × Int64)) : List (Instant × Int64) :=
  adm.filter fun p => t-e.toInt < p.1 ∧ p.1 ≤ t

/-- The exact total of the amounts admitted inside the window `(t - e, t]`. -/
def windowTotal (e : Span) (t : Instant) (adm : List (Instant × Int64)) : Int :=
  ((inWindow e t adm).map fun p => p.2.toInt).sum

/-- The log a key holds inside the window ending at `t`: its live entry's log pruned to the
window, and nothing when it holds no entry. -/
def logAt (s : MemoryStore) (key : String) (e : Span) (t : Instant) : List (Instant × Int64) :=
  ((s.liveAt t key).map fun x => recent x.log t e).getD []

/-- The 64-bit total of a log is its exact total wrapped into 64 bits. -/
theorem logTotal_eq (log : List (Instant × Int64)) :
    logTotal log=Int64.ofInt ((log.map fun p => p.2.toInt).sum) := by
  have hacc : ∀ acc : Int64, log.foldl (fun a p => a+p.2) acc=
      acc+Int64.ofInt ((log.map fun p => p.2.toInt).sum) := by
    induction log with
    | nil => simp
    | cons p log ih =>
      intro acc
      rw [List.foldl_cons, ih, List.map_cons, List.sum_cons, Int64.ofInt_add, Int64.ofInt_toInt,
        Int64.add_assoc]
  rw [logTotal, hacc, Int64.zero_add]

/-- The window's start `t - e` as the store computes it, for a positive length. -/
theorem add_neg_of_pos {e : Span} (he : 0 < e.toInt) (t : Instant) : t.add (-e)=t-e.toInt := by
  have hlt := e.toInt_lt
  have hneg : (-e).toInt=-e.toInt := by
    rw [Int64.toInt_neg]
    exact Int.bmod_eq_of_le (by omega) (by omega)
  simp only [Instant.add, hneg, Instant]
  omega

/-- Pruning keeps the entries after the window's start. -/
theorem recent_eq {e : Span} (he : 0 < e.toInt) (log : List (Instant × Int64)) (t : Instant) :
    recent log t e=log.filter fun p => t-e.toInt < p.1 := by
  unfold recent
  rw [add_neg_of_pos he]

/-- A lookup changes no key's log from its instant on. -/
theorem logAt_lookup (s : MemoryStore) (key : String) (e : Span) {t t' : Instant} (ht : t ≤ t') :
    logAt (s.lookup t key).2 key e t'=logAt s key e t' := by
  unfold logAt
  rw [liveAt_lookup s key key ht]

/-- A written entry's log, pruned to the window, while the entry lives. -/
theorem logAt_put (s : MemoryStore) (key : String) (e : Span) (x : Entry) (t : Instant) :
    logAt (s.put key x) key e t=if Entry.dead x t then [] else recent x.log t e := by
  unfold logAt
  rw [liveAt_put_self]
  cases Entry.dead x t <;> rfl

/-- Pruning twice prunes to the later window. -/
theorem recent_recent {e : Span} (he : 0 < e.toInt) (log : List (Instant × Int64))
    {t t' : Instant} (ht : t ≤ t') : recent (recent log t e) t' e=recent log t' e := by
  rw [recent_eq he, recent_eq he, recent_eq he, List.filter_filter]
  apply List.filter_congr
  intro p _
  by_cases hp : t'-e.toInt < p.1
  · have : t-e.toInt < p.1 := by simp only [Instant] at *; omega
    simp [hp, this]
  · simp [hp]

/-- What a run leaves under the key, from its last instant `t₁` on: the log held inside each
window is exactly the admitted amounts after the window's start. -/
def Logged (key : String) (e : Span) (t₁ : Instant) (s : MemoryStore)
    (adm : List (Instant × Int64)) : Prop :=
  ∀ t, t₁ ≤ t → logAt s key e t=adm.filter fun p => t-e.toInt < p.1

/-- What is logged from an instant on is logged from every later one. -/
theorem Logged.mono {key : String} {e : Span} {t₁ t₂ : Instant} {s : MemoryStore}
    {adm : List (Instant × Int64)} (h : Logged key e t₁ s adm) (ht : t₁ ≤ t₂) :
    Logged key e t₂ s adm :=
  fun t ht' => h t (le_trans ht ht')

/-- Admitted amounts after the start of a window are, pruned to a later window, those after
the later start. -/
theorem recent_filter {e : Span} (he : 0 < e.toInt) (adm : List (Instant × Int64))
    {t t' : Instant} (ht : t ≤ t') :
    recent (adm.filter fun p => t-e.toInt < p.1) t' e=adm.filter fun p => t'-e.toInt < p.1 := by
  rw [recent_eq he, List.filter_filter]
  apply List.filter_congr
  intro p _
  by_cases hp : t'-e.toInt < p.1
  · have : t-e.toInt < p.1 := by simp only [Instant] at *; omega
    simp [hp, this]
  · simp [hp]

/-- The entry an admission or a read starts from: the held one, or an empty one without
expiry. -/
def base (s : MemoryStore) (key : String) (t : Instant) : Entry :=
  (s.liveAt t key).getD ⟨0, 0, []⟩

/-- The log the store prunes at `t` is the admitted amounts inside the window. -/
theorem recent_base {key : String} {e : Span} {t₁ t : Instant} {s : MemoryStore}
    {adm : List (Instant × Int64)} (hs : Logged key e t₁ s adm) (ht : t₁ ≤ t) :
    recent (base s key t).log t e=adm.filter fun p => t-e.toInt < p.1 := by
  rw [← hs t ht]
  unfold logAt base
  cases s.liveAt t key <;> rfl

/-- Writing back the held entry with its log pruned keeps what is logged. -/
theorem logged_prune {key : String} {e : Span} {t₁ t : Instant} {s : MemoryStore}
    {adm : List (Instant × Int64)} (he : 0 < e.toInt) (hs : Logged key e t₁ s adm) (ht : t₁ ≤ t) :
    Logged key e t ((s.lookup t key).2.put key
      {base s key t with log := recent (base s key t).log t e}) adm := by
  intro t' ht'
  rw [logAt_put]
  have hnow := recent_base hs ht
  have hlater := hs t' (le_trans ht ht')
  unfold logAt at hlater
  rw [liveAt_liveAt s key ht'] at hlater
  unfold base at hnow ⊢
  cases hl : s.liveAt t key with
  | none =>
    rw [hl] at hnow hlater
    have hfresh : Entry.dead ⟨0, 0, recent [] t e⟩ t'=false := by simp [Entry.dead, Instant.isZero]
    simp only [Option.getD_none] at hnow ⊢
    rw [hfresh]
    simpa [hnow] using recent_filter he adm ht'
  | some x =>
    rw [hl] at hnow hlater
    simp only [Option.getD_some] at hnow ⊢
    cases hd : Entry.dead x t'
    · have hd' : Entry.dead {x with log := recent x.log t e} t'=false := hd
      rw [hd', hnow]
      exact recent_filter he adm ht'
    · have hd' : Entry.dead {x with log := recent x.log t e} t'=true := hd
      rw [hd']
      simpa [Option.filter_some, hd] using hlater

/-- Logging an admitted amount with a renewed expiry logs it beside the earlier ones. -/
theorem logged_admit {key : String} {e : Span} {t₁ t : Instant} {a : Int64} {s : MemoryStore}
    {adm : List (Instant × Int64)} (he : 0 < e.toInt) (hs : Logged key e t₁ s adm) (ht : t₁ ≤ t)
    (hadm : ∀ p ∈ adm, p.1 ≤ t) :
    Logged key e t ((s.lookup t key).2.put key
      {base s key t with log := recent (base s key t).log t e++[(t, a)], expiresAt := t.add e})
      (adm++[(t, a)]) := by
  intro t' ht'
  rw [logAt_put]
  split
  · rename_i hd
    rw [dead_iff] at hd
    symm
    rw [List.filter_eq_nil_iff]
    intro p hp
    have hpt : p.1 ≤ t :=
      List.forall_mem_append.mpr ⟨hadm, List.forall_mem_singleton.mpr (le_refl t)⟩ p hp
    have hd2 := hd.2
    simp only [Instant.add] at hd2
    simp only [decide_eq_true_eq, not_lt]
    simp only [Instant] at *
    omega
  · rw [recent_eq he, List.filter_append, ← recent_eq he, recent_base hs ht, recent_filter he adm ht',
      List.filter_append]

/-- An admission at `t`: refused at once over the limit, and otherwise decided on the
admitted amounts inside the window, which it logs beside the new amount when it admits. -/
theorem acquireEntry_logged {key : String} {e : Span} {t₁ t : Instant} {s : MemoryStore}
    {adm : List (Instant × Int64)} (he : 0 < e.toInt) (hs : Logged key e t₁ s adm) (ht : t₁ ≤ t)
    (hadm : ∀ p ∈ adm, p.1 ≤ t) (limit a : Int64) :
    (s.acquireEntry t key limit e a).1=
        decide (¬limit < a ∧ ¬limit < logTotal (adm.filter fun p => t-e.toInt < p.1)+a) ∧
      Logged key e t (s.acquireEntry t key limit e a).2
        (if (s.acquireEntry t key limit e a).1 then adm++[(t, a)] else adm) := by
  have hkept := recent_base hs ht
  have hr : s.acquireEntry t key limit e a=
      if limit < a then (false, s)
      else if limit < logTotal (adm.filter fun p => t-e.toInt < p.1)+a then
        (false, (s.lookup t key).2.put key {base s key t with log := recent (base s key t).log t e})
      else (true, (s.lookup t key).2.put key {base s key t with
        log := recent (base s key t).log t e++[(t, a)], expiresAt := t.add e}) := by
    rw [acquireEntry_eq, ← hkept]
    rfl
  rw [hr]
  by_cases hla : limit < a
  · rw [if_pos hla]
    exact ⟨by simp [hla], hs.mono ht⟩
  · by_cases hfit : limit < logTotal (adm.filter fun p => t-e.toInt < p.1)+a
    · rw [if_neg hla, if_pos hfit]
      exact ⟨by simp [hfit], logged_prune he hs ht⟩
    · rw [if_neg hla, if_neg hfit]
      exact ⟨by simp [hla, hfit], logged_admit he hs ht hadm⟩

/-- A read at `t` reports the oldest admitted instant and the admitted total inside the
window, and writes back the log pruned to it. -/
theorem movingWindow_logged {key : String} {e : Span} {t₁ t : Instant} {s : MemoryStore}
    {adm : List (Instant × Int64)} (he : 0 < e.toInt) (hs : Logged key e t₁ s adm) (ht : t₁ ≤ t) :
    (s.movingWindow t key e).1=
        (match adm.filter fun p => t-e.toInt < p.1 with
          | [] => (0, 0)
          | p :: _ => (p.1, logTotal (adm.filter fun p => t-e.toInt < p.1))) ∧
      Logged key e t (s.movingWindow t key e).2 adm := by
  have hkept := recent_base hs ht
  have hprune := logged_prune he hs ht
  rw [movingWindow_eq]
  unfold base at hkept hprune
  cases hl : s.liveAt t key with
  | none =>
    rw [hl] at hkept
    simp only [Option.getD_none, recent, List.filter_nil] at hkept
    rw [← hkept]
    refine ⟨rfl, fun t' ht' => ?_⟩
    rw [logAt_lookup s key e ht']
    exact hs t' (le_trans ht ht')
  | some x =>
    rw [hl] at hkept hprune
    simp only [Option.getD_some] at hkept hprune
    rw [← hkept]
    refine ⟨?_, hprune⟩
    dsimp only
    generalize recent x.log t e=kept
    cases kept <;> rfl

/-- Before `t`, the window ending at `t` holds the admitted amounts after its start. -/
theorem inWindow_eq_filter {e : Span} {t : Instant} {adm : List (Instant × Int64)}
    (hadm : ∀ p ∈ adm, p.1 ≤ t) : inWindow e t adm=adm.filter fun p => t-e.toInt < p.1 := by
  unfold inWindow
  apply List.filter_congr
  intro p hp
  simp [hadm p hp]

/-- An admitted amount adds to the total of every window that holds its instant. -/
theorem windowTotal_append_singleton (e : Span) (u : Instant) (adm : List (Instant × Int64))
    (t : Instant) (a : Int64) :
    windowTotal e u (adm++[(t, a)])=
      windowTotal e u adm+if u-e.toInt < t ∧ t ≤ u then a.toInt else 0 := by
  unfold windowTotal inWindow
  by_cases ht : u-e.toInt < t ∧ t ≤ u <;> simp [List.filter_append, ht]

/-- With positive amounts all admitted by `t`, a window ending later holds no more than the
window ending at `t`: its admitted amounts all lie in `(t - e, t]` too. -/
theorem windowTotal_le {e : Span} {t u : Instant} {adm : List (Instant × Int64)}
    (hadm : ∀ p ∈ adm, p.1 ≤ t) (hpos : ∀ p ∈ adm, 0 < p.2.toInt) (hu : t ≤ u) :
    windowTotal e u adm ≤ windowTotal e t adm := by
  unfold windowTotal inWindow
  have hsub : (adm.filter fun p => u-e.toInt < p.1 ∧ p.1 ≤ u)=
      (adm.filter fun p => t-e.toInt < p.1 ∧ p.1 ≤ t).filter
        fun p => u-e.toInt < p.1 ∧ p.1 ≤ u := by
    rw [List.filter_filter]
    apply List.filter_congr
    intro p hp
    have hpt := hadm p hp
    by_cases hin : u-e.toInt < p.1 ∧ p.1 ≤ u
    · have hin' : t-e.toInt < p.1 ∧ p.1 ≤ t := by simp only [Instant] at *; omega
      simp [hin, hin']
    · simp [hin]
  rw [hsub]
  apply List.Sublist.sum_le_sum
  · exact List.filter_sublist.map _
  · intro x hx
    obtain ⟨p, hp, rfl⟩ := List.mem_map.mp hx
    exact (hpos p (List.mem_of_mem_filter hp)).le

/-- Admitting an amount that fits beside the window ending at its instant keeps every window
within the limit. -/
theorem bounded_admit {e : Span} {limit a : Int64} {t : Instant} {adm : List (Instant × Int64)}
    (hadm : ∀ p ∈ adm, p.1 ≤ t) (hpos : ∀ p ∈ adm, 0 < p.2.toInt)
    (hbound : ∀ u, windowTotal e u adm ≤ max limit.toInt 0)
    (hfit : a.toInt+windowTotal e t adm ≤ limit.toInt) :
    ∀ u, windowTotal e u (adm++[(t, a)]) ≤ max limit.toInt 0 := by
  intro u
  rw [windowTotal_append_singleton]
  by_cases hin : u-e.toInt < t ∧ t ≤ u
  · have hle := windowTotal_le (e:=e) hadm hpos hin.2
    rw [if_pos hin]
    omega
  · rw [if_neg hin]
    have := hbound u
    omega

/-- Below a limit of `2^62` no 64-bit sum wraps: the store's test "the amount exceeds the
limit, or the window total plus the amount does" is the exact one. -/
theorem admits_iff {limit a : Int64} {S : Int} (hL : limit.toInt < 4611686018427387904)
    (hS₀ : 0 ≤ S) (hS : S ≤ max limit.toInt 0) (ha : 0 < a.toInt) :
    (¬limit < a ∧ ¬limit < Int64.ofInt S+a) ↔
      (a.toInt ≤ limit.toInt ∧ a.toInt+S ≤ limit.toInt) := by
  rw [Int64.lt_iff_toInt_lt, Int64.lt_iff_toInt_lt, not_lt, not_lt]
  constructor
  · rintro ⟨hal, hsum⟩
    rw [Int64.toInt_add, Int64.toInt_ofInt_of_le (by omega) (by omega),
      Int.bmod_eq_of_le (by omega) (by omega)] at hsum
    omega
  · rintro ⟨hal, hsum⟩
    refine ⟨hal, ?_⟩
    rw [Int64.toInt_add, Int64.toInt_ofInt_of_le (by omega) (by omega),
      Int.bmod_eq_of_le (by omega) (by omega)]
    omega

/-- The answer of an exact trailing-window limiter to a call at `t`, given the amounts
admitted before it: an amount is admitted when it and the amounts admitted in `(t - e, t]`
fit within the limit together; a read reports the oldest instant admitted in that window (the
absent instant when there is none) and the window's total. -/
def expected (limit : Int64) (e : Span) (adm : List (Instant × Int64)) :
    Instant × WindowCall → Answer
  | (t, .acquire a) =>
    .admitted (decide (a.toInt ≤ limit.toInt ∧ a.toInt+windowTotal e t adm ≤ limit.toInt))
  | (t, .read) =>
    .window (((inWindow e t adm).head?.map Prod.fst).getD 0) (Int64.ofInt (windowTotal e t adm))

/-- What holds after a run on the moving window, from its last instant `t₁` on. -/
structure Invariant (key : String) (limit : Int64) (e : Span) (t₁ : Instant) (s : MemoryStore)
    (adm : List (Instant × Int64)) : Prop where
  /-- The log held inside every later window is the admitted amounts. -/
  logged : Logged key e t₁ s adm
  /-- Everything admitted came by `t₁`. -/
  before : ∀ p ∈ adm, p.1 ≤ t₁
  /-- Every admitted amount is positive. -/
  positive : ∀ p ∈ adm, 0 < p.2.toInt
  /-- Every window holds at most the limit, or nothing when the limit is negative. -/
  bounded : ∀ u, windowTotal e u adm ≤ max limit.toInt 0

/-- The amounts admitted by a run with one more call: an admitted amount joins them. -/
theorem admitted_append_singleton (trace : List ((Instant × WindowCall) × Answer))
    (c : Instant × WindowCall) (r : Answer) :
    admitted (trace++[(c, r)])=admitted trace++(grant c r).toList := by
  unfold admitted
  rw [List.filterMap_append]
  congr 1

/-- One call, below a limit of `2^62`: the store answers as the exact trailing-window limiter
does, and the invariant moves to the call's instant with the call's admission, if any. -/
theorem invariant_step {key : String} {limit : Int64} {e : Span} {t₁ t : Instant} {c : WindowCall}
    {s : MemoryStore} {adm : List (Instant × Int64)} (he : 0 < e.toInt)
    (hL : limit.toInt < 4611686018427387904) (hinv : Invariant key limit e t₁ s adm) (ht : t₁ ≤ t)
    (hc : ∀ a, c=.acquire a → 0 < a.toInt) :
    (step key limit e (t, c) s).1=expected limit e adm (t, c) ∧
      Invariant key limit e t (step key limit e (t, c) s).2
        (adm++(grant (t, c) (step key limit e (t, c) s).1).toList) := by
  have hadm : ∀ p ∈ adm, p.1 ≤ t := fun p hp => le_trans (hinv.before p hp) ht
  have hwin := inWindow_eq_filter (e:=e) hadm
  have hS₀ : 0 ≤ windowTotal e t adm := by
    unfold windowTotal
    apply List.sum_nonneg
    intro x hx
    obtain ⟨p, hp, rfl⟩ := List.mem_map.mp hx
    exact (hinv.positive p (List.mem_of_mem_filter hp)).le
  have htotal : logTotal (adm.filter fun p => t-e.toInt < p.1)=Int64.ofInt (windowTotal e t adm) := by
    rw [logTotal_eq, windowTotal, hwin]
  cases c with
  | acquire a =>
    have ha := hc a rfl
    obtain ⟨hans, hlog⟩ := acquireEntry_logged he hinv.logged ht hadm limit a
    have hdecide : (s.acquireEntry t key limit e a).1=
        decide (a.toInt ≤ limit.toInt ∧ a.toInt+windowTotal e t adm ≤ limit.toInt) := by
      rw [hans, htotal]
      exact decide_eq_decide.mpr (admits_iff hL hS₀ (hinv.bounded t) ha)
    refine ⟨by simp only [step, expected, hdecide], ?_⟩
    simp only [step, hdecide] at hlog ⊢
    by_cases hfit : a.toInt ≤ limit.toInt ∧ a.toInt+windowTotal e t adm ≤ limit.toInt
    · simp only [hfit, and_self, decide_true, if_true, grant, Option.toList] at hlog ⊢
      exact ⟨hlog, List.forall_mem_append.mpr ⟨hadm, List.forall_mem_singleton.mpr (le_refl t)⟩,
        List.forall_mem_append.mpr ⟨hinv.positive, List.forall_mem_singleton.mpr ha⟩,
        bounded_admit hadm hinv.positive hinv.bounded hfit.2⟩
    · simp only [hfit, decide_false, Bool.false_eq_true, if_false, grant, Option.toList,
        List.append_nil] at hlog ⊢
      exact ⟨hlog, hadm, hinv.positive, hinv.bounded⟩
  | read =>
    obtain ⟨hans, hlog⟩ := movingWindow_logged he hinv.logged ht
    refine ⟨?_, by simpa [step, grant] using ⟨hlog, hadm, hinv.positive, hinv.bounded⟩⟩
    simp only [step, expected, hans, hwin, ← htotal]
    cases adm.filter fun p => t-e.toInt < p.1 with
    | nil => rfl
    | cons p rest => rfl

/-- The invariant holds from every later instant. -/
theorem Invariant.mono {key : String} {limit : Int64} {e : Span} {t₁ t₂ : Instant}
    {s : MemoryStore} {adm : List (Instant × Int64)} (h : Invariant key limit e t₁ s adm)
    (ht : t₁ ≤ t₂) : Invariant key limit e t₂ s adm :=
  ⟨h.logged.mono ht, fun p hp => le_trans (h.before p hp) ht, h.positive, h.bounded⟩

/-- Along every run of admissions of positive amounts and reads at nondecreasing instants,
from a store whose key holds nothing, below a limit of `2^62`: the invariant holds, from every
instant past the run, with the amounts the run admitted. -/
theorem run_invariant {key : String} {limit : Int64} {e : Span} {t₀ : Instant}
    {s₀ : MemoryStore} {calls : List (Instant × WindowCall)} (he : 0 < e.toInt)
    (hL : limit.toInt < 4611686018427387904) (hrun : Chronological t₀ calls)
    (hs₀ : s₀.liveAt t₀ key=none) (hpos : ∀ d ∈ calls, ∀ a, d.2=.acquire a → 0 < a.toInt) :
    ∀ t₁, t₀ ≤ t₁ → (∀ d ∈ calls, d.1 ≤ t₁) →
      Invariant key limit e t₁ (replay (step key limit e) s₀ calls).1
        (admitted (replay (step key limit e) s₀ calls).2) := by
  induction calls using List.reverseRecOn with
  | nil =>
    intro t₁ ht₁ _
    refine ⟨fun t ht => ?_, by simp [replay, admitted], by simp [replay, admitted], fun u => ?_⟩
    · have hnone := liveAt_eq_none_of_le hs₀ (le_trans ht₁ ht)
      simp [replay, admitted, logAt, hnone]
    · simp [replay, admitted, windowTotal, inWindow]
  | append_singleton calls d ih =>
    obtain ⟨t, c⟩ := d
    intro t₁ ht₁ hlast₁
    obtain ⟨hch, ht₀, hlast⟩ := chronological_append_singleton.mp hrun
    have hprev := ih hch (fun d hd => hpos d (List.mem_append_left _ hd)) t ht₀ hlast
    have hc : ∀ a, c=.acquire a → 0 < a.toInt :=
      hpos (t, c) (List.mem_append_right _ (List.mem_singleton_self _))
    obtain ⟨-, hnext⟩ := invariant_step he hL hprev (le_refl t) hc
    rw [replay_append_singleton, admitted_append_singleton]
    exact hnext.mono (hlast₁ (t, c) (by simp))

/-- Every call of a run of admissions of positive amounts and reads at nondecreasing
instants, from a store whose key holds nothing, below a limit of `2^62`. The store answers as
the exact trailing-window limiter: an admission at `t` is granted exactly when its amount and
the amounts admitted in `(t - e, t]` fit within the limit together, and a read reports the
oldest instant admitted in that window and the window's total. At every instant whatever,
the amounts admitted in the window ending there total at most the limit. -/
theorem moving_window_exact {key : String} {limit : Int64} {e : Span} {t₀ t : Instant} {c : WindowCall}
    {s₀ : MemoryStore} {calls : List (Instant × WindowCall)} (he : 0 < e.toInt)
    (hL : limit.toInt < 4611686018427387904) (hrun : Chronological t₀ (calls++[(t, c)]))
    (hs₀ : s₀.liveAt t₀ key=none)
    (hpos : ∀ d ∈ calls++[(t, c)], ∀ a, d.2=.acquire a → 0 < a.toInt) :
    let run := replay (step key limit e) s₀ calls
    (step key limit e (t, c) run.1).1=expected limit e (admitted run.2) (t, c) ∧
      ∀ u, windowTotal e u (admitted (replay (step key limit e) s₀ (calls++[(t, c)])).2) ≤
        max limit.toInt 0 := by
  intro run
  obtain ⟨hch, ht₀, hlast⟩ := chronological_append_singleton.mp hrun
  have hprev :=
    run_invariant he hL hch hs₀ (fun d hd => hpos d (List.mem_append_left _ hd)) t ht₀ hlast
  have hall := run_invariant he hL hrun hs₀ hpos t ht₀
    (List.forall_mem_append.mpr ⟨hlast, List.forall_mem_singleton.mpr (le_refl t)⟩)
  have hc : ∀ a, c=.acquire a → 0 < a.toInt :=
    hpos (t, c) (List.mem_append_right _ (List.mem_singleton_self _))
  exact ⟨(invariant_step he hL hprev (le_refl t) hc).1, hall.bounded⟩

/-- A limit of 5 units over ten nanoseconds: one admission of 3, then a second of 2 at the
same instant, meets the hypotheses of `moving_window_exact`. -/
theorem moving_window_exact_at_start :
    let T := Instant.ofUnixSeconds 1704067200
    let calls : List (Instant × WindowCall) := [(T, .acquire 3)]
    (0 < (10 : Span).toInt ∧ (5 : Int64).toInt < 4611686018427387904 ∧
      Chronological T (calls++[(T, .acquire 2)]) ∧ MemoryStore.empty.liveAt T "k"=none ∧
      ∀ d ∈ calls++[(T, .acquire 2)], ∀ a, d.2=.acquire a → 0 < a.toInt) ∧
    let run := replay (step "k" 5 10) MemoryStore.empty calls
    (step "k" 5 10 (T, .acquire 2) run.1).1=expected 5 10 (admitted run.2) (T, .acquire 2) ∧
      ∀ u, windowTotal 10 u (admitted (replay (step "k" 5 10) MemoryStore.empty
        (calls++[(T, .acquire 2)])).2) ≤ max (5 : Int64).toInt 0 :=
  have hpos : ∀ d ∈ [(Instant.ofUnixSeconds 1704067200, WindowCall.acquire 3)]++
      [(Instant.ofUnixSeconds 1704067200, .acquire 2)], ∀ a, d.2=.acquire a → 0 < a.toInt := by
    intro d hd a ha
    simp only [List.cons_append, List.nil_append, List.mem_cons, List.not_mem_nil, or_false] at hd
    rcases hd with rfl | rfl <;> (cases ha; decide)
  ⟨⟨by decide, by decide, by unfold Chronological; decide, rfl, hpos⟩,
    @moving_window_exact "k" 5 10 (Instant.ofUnixSeconds 1704067200)
      (Instant.ofUnixSeconds 1704067200) (.acquire 2) MemoryStore.empty
      [(Instant.ofUnixSeconds 1704067200, .acquire 3)] (by decide) (by decide)
      (by unfold Chronological; decide) rfl hpos⟩

/-- At a limit of `2^62` over a minute, two admissions of `2^62` at one instant are both
granted: the log's total `2^62` plus the amount wraps to `-2^63`, below the limit, while the
exact total of the window is `2^63`. -/
theorem moving_window_wrap_admits :
    let T := Instant.ofUnixSeconds 1704067200
    let calls : List (Instant × WindowCall) :=
      [(T, .acquire 4611686018427387904), (T, .acquire 4611686018427387904)]
    let run := replay (step "k" 4611686018427387904 60000000000) MemoryStore.empty calls
    run.2.map Prod.snd=[.admitted true, .admitted true] ∧
      windowTotal 60000000000 T (admitted run.2)=9223372036854775808 := by
  decide

end Admission.Quota.MovingWindow
