import Mathlib.Data.List.Nodup
import Admission.Quota.Remote
import Admission.Proofs.OffsetStore
import Admission.Proofs.SeededCatalog

/-!
# Resetting the counters on the key-value server

The reset walks the pages of a scan of the keys under `LIMITS:` and deletes the keys in batches
of 500 as they come, the last batch once the walk is over (`resetWalk`). The walk is studied
here over any store, seen through a `StoreView`: the value each key holds, which keys are
counter keys, and the states the store can be in. What the walk needs of the store is named:

* `DeleteSound`: a delete removes exactly its keys and reports how many distinct ones held a
  value, or fails and changes nothing;
* `ScanSound`: a page changes nothing and hands out only counter keys that hold a value;
* `ScanCovers`: the pages hand out every counter key, whatever is deleted between them.

Main statement (`reset_removes_limit_keys`): whatever page or delete fails, the reset reports
exactly how many keys it deleted, each a counter key deleted once, and every other key holds
what it held; a failure is reported as `scan limits` or `reset limits`; a reset that ends
without failure over a covering scan leaves no counter key; and no delete holds more than 500
keys. The server of this library meets all three conditions (`remotePages_sound`,
`remoteDelete_sound`, `remotePages_covers`): its scan hands out every counter key in one page.
-/

namespace Admission

namespace KeyValue

namespace Server

/-- A server whose entries have distinct keys: a key is stored once or not at all. -/
def WellKeyed (s : Server) : Prop := (s.cells.map Prod.fst).Nodup

instance : DecidablePred WellKeyed :=
  fun s => inferInstanceAs (Decidable (s.cells.map Prod.fst).Nodup)

/-- The server less every entry under one of `keys`, with its failure as it was. -/
def without (s : Server) (keys : List String) : Server :=
  { s with cells := s.cells.filter (fun kc => kc.1 ∉ keys) }

@[simp] theorem without_nil (s : Server) : s.without [] = s := by
  simp [without]

@[simp] theorem outage_without (s : Server) (keys : List String) :
    (s.without keys).outage = s.outage := rfl

theorem without_without (s : Server) (ks js : List String) :
    (s.without ks).without js = s.without (ks ++ js) := by
  simp only [without, List.filter_filter, List.mem_append, not_or]
  congr 2
  funext kc
  simp [Bool.and_comm]

theorem WellKeyed.without {s : Server} (h : s.WellKeyed) (keys : List String) :
    (s.without keys).WellKeyed :=
  h.sublist ((List.filter_sublist).map Prod.fst)

/-- Removing keys one by one leaves the server without them. -/
theorem foldl_remove (keys : List String) (s : Server) : keys.foldl remove s = s.without keys := by
  induction keys generalizing s with
  | nil => simp
  | cons k ks ih =>
    rw [List.foldl_cons, ih]
    have hstep : s.remove k = s.without [k] := by
      simp only [remove, without, List.mem_singleton]
      congr 2
      funext kc
      simp [bne, beq_eq_decide]
    rw [hstep, without_without]
    rfl

/-- On a well-keyed server, a key holds a live value exactly when an entry under it is alive. -/
theorem lookup_isSome_iff {s : Server} (h : s.WellKeyed) (now : Instant) (k : String) :
    (s.lookup now k).isSome ↔ ∃ c, (k, c) ∈ s.cells ∧ c.alive now = true := by
  constructor
  · intro hsome
    unfold lookup at hsome
    split at hsome
    · rename_i k' c hfind
      have hk : k' = k := by simpa using List.find?_some hfind
      subst hk
      refine ⟨c, List.mem_of_find?_eq_some hfind, ?_⟩
      split at hsome
      · assumption
      · simp at hsome
    · simp at hsome
  · rintro ⟨c, hmem, halive⟩
    have hfind : s.cells.find? (fun kc => kc.1 == k) = some (k, c) :=
      Directory.find?_key_of_mem h hmem
    simp [lookup, hfind, halive]

/-- The live keys are the keys of the live entries. -/
theorem mem_liveKeys {s : Server} {now : Instant} {k : String} :
    k ∈ s.liveKeys now ↔ ∃ c, (k, c) ∈ s.cells ∧ c.alive now = true := by
  simp [liveKeys, (List.mergeSort_perm _ _).mem_iff]

/-- Dropping keys leaves them without a value and every other key with the value it had. -/
theorem lookup_without (s : Server) (now : Instant) (keys : List String) (k : String) :
    (s.without keys).lookup now k = if k ∈ keys then none else s.lookup now k := by
  split
  · rename_i hk
    have hfind : (s.without keys).cells.find? (fun kc => kc.1 == k) = none := by
      rw [List.find?_eq_none]
      intro kc hkc hkey
      have hkept : kc.1 ∉ keys := by simpa [without] using (List.mem_filter.mp hkc).2
      exact hkept (by rw [beq_iff_eq.mp hkey]; exact hk)
    simp only [lookup, hfind]
  · rename_i hk
    have hfind : (s.without keys).cells.find? (fun kc => kc.1 == k) =
        s.cells.find? (fun kc => kc.1 == k) := by
      simp only [without, List.find?_filter]
      congr 1
      funext kc
      by_cases h : kc.1 = k
      · simp [h, hk]
      · simp [h]
    simp only [lookup, hfind]

end Server

/-- Erasing repeats leaves no repeats. -/
theorem nodup_eraseDups : ∀ l : List String, l.eraseDups.Nodup
  | [] => by simp
  | a :: as => by
    rw [List.eraseDups_cons, List.nodup_cons]
    exact ⟨by simp [List.mem_eraseDups], nodup_eraseDups _⟩
termination_by l => l.length
decreasing_by simpa using Nat.lt_succ_of_le (List.length_filter_le _ as)

namespace Connection

/-- `SCAN` either finds in one page the live keys the pattern matches, ending the walk and
changing nothing, or fails, changing nothing. -/
theorem scan_cases (c : Connection) (now : Instant) (cursor : Nat) (pattern : String)
    (count : Nat) :
    c.scan now cursor pattern count =
        (.ok ((c.server.liveKeys now).filter (Glob.accepts pattern), 0), c) ∨
      ∃ f, c.scan now cursor pattern count = (.error f, c) := by
  unfold scan call
  split
  · exact .inr ⟨_, rfl⟩
  · rcases Server.command_cases c.server "SCAN" (fun s =>
        (.ok ((s.liveKeys now).filter (Glob.accepts pattern), 0), s)) with h | ⟨m, h⟩
    · exact .inl (by simp [Server.scan, h])
    · exact .inr ⟨.reply m, by simp [Server.scan, h]⟩

/-- `DEL` either removes the keys and reports how many distinct ones held a value, or fails,
changing nothing. -/
theorem del_cases (c : Connection) (now : Instant) (keys : List String) :
    c.del now keys = (.ok ((keys.eraseDups).filter fun k => (c.server.lookup now k).isSome).length,
        { c with server := c.server.without keys }) ∨
      ∃ f, c.del now keys = (.error f, c) := by
  unfold del call
  split
  · exact .inr ⟨_, rfl⟩
  · simp only [Server.del, Server.foldl_remove]
    rcases Server.command_cases c.server "DEL" (fun s =>
        (.ok ((keys.eraseDups).filter (fun k => (s.lookup now k).isSome)).length,
          s.without keys)) with h | ⟨m, h⟩
    · exact .inl (by rw [h])
    · exact .inr ⟨.reply m, by rw [h]⟩

end Connection

end KeyValue

namespace Glob

/-- `*` matches every text. -/
theorem matchTokens_many_nil : ∀ s : List Char, matchTokens [.many] s = true
  | [] => by simp [matchTokens]
  | c :: s => by
    rw [matchTokens]
    simp [matchTokens_many_nil s]

/-- Literal characters then `*` match exactly the texts that start with those characters. -/
theorem matchTokens_literals_many : ∀ (lits s : List Char),
    matchTokens (lits.map .literal ++ [.many]) s = true ↔ lits <+: s
  | [], s => by simp [matchTokens_many_nil]
  | d :: lits, [] => by simp [matchTokens]
  | d :: lits, c :: s => by
    rw [List.map_cons, List.cons_append, matchTokens]
    simp only [Bool.and_eq_true, beq_iff_eq, matchTokens_literals_many lits s,
      List.cons_prefix_cons]
    exact and_congr_left' eq_comm

end Glob

namespace Quota

open KeyValue

/-- The scan's pattern `LIMITS:*` matches exactly the keys of counters. -/
theorem accepts_prefix_star (k : String) :
    Glob.accepts (remotePrefix ++ "*") k = true ↔ ∃ key, k = remoteKey key := by
  have hcompile : Glob.compile (remotePrefix ++ "*").toList =
      remotePrefix.toList.map .literal ++ [.many] := by
    simp only [remotePrefix]
    decide
  rw [Glob.accepts, hcompile, Glob.matchTokens_literals_many]
  constructor
  · rintro ⟨rest, hrest⟩
    refine ⟨String.ofList rest, String.ext ?_⟩
    simp [remoteKey, hrest]
  · rintro ⟨key, rfl⟩
    exact ⟨key.toList, by simp [remoteKey]⟩

/-- The keys the reset's scan finds on a server. -/
def limitKeys (s : Server) (now : Instant) : List String :=
  (s.liveKeys now).filter (Glob.accepts (remotePrefix ++ "*"))

/-- On a well-keyed server the scan finds exactly the live counter keys. -/
theorem mem_limitKeys {s : Server} (h : s.WellKeyed) (now : Instant) (k : String) :
    k ∈ limitKeys s now ↔ (s.lookup now k).isSome ∧ ∃ key, k = remoteKey key := by
  rw [limitKeys, List.mem_filter, Server.mem_liveKeys, accepts_prefix_star,
    Server.lookup_isSome_iff h]

/-- What the reset sees of a store with states `σ`: the value each key holds, which keys are
counter keys, and the states the store can be in. -/
structure StoreView (σ : Type) where
  /-- The value a key holds, if any. -/
  lookup : σ → String → Option Cell
  /-- Whether a key is a counter key. -/
  counter : String → Prop
  /-- Whether the store can be in a state. -/
  wf : σ → Prop

namespace StoreView

variable {σ : Type} (V : StoreView σ)

/-- A delete that, from a state the store can be in, removes exactly the keys it is given,
reports how many distinct ones held a value and leaves a state the store can be in; or fails
and changes nothing. -/
structure DeleteSound (del : List String → σ → Except Failure Nat × σ) : Prop where
  ok : ∀ b s n s', V.wf s → del b s = (.ok n, s') → V.wf s' ∧
    (∃ fresh : List String, fresh.Nodup ∧
      (∀ k, k ∈ fresh ↔ k ∈ b ∧ (V.lookup s k).isSome) ∧
      n = fresh.length) ∧
    ∀ k, V.lookup s' k = if k ∈ b then none else V.lookup s k
  error : ∀ b s f s', del b s = (.error f, s') → s' = s

/-- A scan whose every page changes nothing and, in a state the store can be in, hands out only
counter keys that hold a value. -/
structure ScanSound (scan : Nat → σ → Except Failure (List String × Nat) × σ) : Prop where
  unchanged : ∀ cursor s, (scan cursor s).2 = s
  live : ∀ cursor s page next, V.wf s → (scan cursor s).1 = .ok (page, next) →
    ∀ k ∈ page, (V.lookup s k).isSome ∧ V.counter k

/-- A scan that hands out every counter key. `owed cursor s` holds the keys that a walk resumed
at `cursor` in state `s` has still to hand out, and `left cursor s` bounds the pages it still
takes. A walk from `0` owes every counter key that holds a value. A page hands out each owed key
that holds a value or passes it on to the page after, which is nearer the end. A delete keeps
owed each owed key that still holds a value, and brings no walk further from its end. -/
structure ScanCovers (scan : Nat → σ → Except Failure (List String × Nat) × σ)
    (del : List String → σ → Except Failure Nat × σ) (owed : Nat → σ → List String)
    (left : Nat → σ → Nat) : Prop where
  start : ∀ s k, V.wf s → (V.lookup s k).isSome → V.counter k → k ∈ owed 0 s
  page : ∀ cursor s page next, V.wf s → (scan cursor s).1 = .ok (page, next) →
    ∀ k ∈ owed cursor s, (V.lookup s k).isSome → k ∈ page ∨ (next ≠ 0 ∧ k ∈ owed next s)
  nearer : ∀ cursor s page next, V.wf s → (scan cursor s).1 = .ok (page, next) → next ≠ 0 →
    left next s < left cursor s
  keeps : ∀ b s n s', V.wf s → del b s = (.ok n, s') → ∀ cursor k, k ∈ owed cursor s →
    (V.lookup s' k).isSome → k ∈ owed cursor s'
  no_further : ∀ b s n s', V.wf s → del b s = (.ok n, s') → ∀ cursor,
    left cursor s' ≤ left cursor s

/-- The reset so far, from state `s₀`: the keys `gone` were deleted, each once; they and the
keys of the batch are counter keys that held a value in `s₀`; the count is the number of keys
gone; and the store, in a state it can be in, holds what `s₀` held but for the keys gone. -/
structure Progress (s₀ : σ) (gone batch : List String) (removed : Int64) (s : σ) : Prop where
  nodup : gone.Nodup
  counted : ∀ k ∈ gone ++ batch, (V.lookup s₀ k).isSome ∧ V.counter k
  count : removed = Int64.ofNat gone.length
  store : ∀ k, V.lookup s k = if k ∈ gone then none else V.lookup s₀ k
  shape : V.wf s

/-- Every counter key that held a value in `s₀` is gone, in the batch, or owed by the walk
from `cursor` in state `s`. -/
def Accounted (owed : Nat → σ → List String) (s₀ : σ) (gone batch : List String)
    (cursor : Option Nat) (s : σ) : Prop :=
  ∀ k, (V.lookup s₀ k).isSome → V.counter k →
    k ∈ gone ∨ k ∈ batch ∨ ∃ c, cursor = some c ∧ k ∈ owed c s

variable {V}

theorem Progress.start {s₀ : σ} (h : V.wf s₀) : V.Progress s₀ [] [] 0 s₀ :=
  ⟨List.nodup_nil, by simp, rfl, by simp, h⟩

section Progress

variable {s₀ s : σ} {gone batch : List String} {removed : Int64}

/-- A key that holds a value now held it in `s₀`. -/
theorem Progress.held (h : V.Progress s₀ gone batch removed s) {k : String}
    (hk : (V.lookup s k).isSome) : (V.lookup s₀ k).isSome := by
  rw [h.store k] at hk
  split at hk
  · simp at hk
  · exact hk

/-- A key that held a value in `s₀` and holds none now is gone. -/
theorem Progress.mem_gone (h : V.Progress s₀ gone batch removed s) {k : String}
    (hk : (V.lookup s₀ k).isSome) (hnone : V.lookup s k = none) : k ∈ gone := by
  by_contra hgone
  rw [h.store k, if_neg hgone] at hnone
  simp [hnone] at hk

/-- A counter key that held a value joins the batch. -/
theorem Progress.push (h : V.Progress s₀ gone batch removed s) {k : String}
    (hk : (V.lookup s₀ k).isSome ∧ V.counter k) :
    V.Progress s₀ gone (batch ++ [k]) removed s := by
  refine ⟨h.nodup, fun x hx => ?_, h.count, h.store, h.shape⟩
  rw [← List.append_assoc, List.mem_append, List.mem_singleton] at hx
  rcases hx with hx | rfl
  · exact h.counted x hx
  · exact hk

/-- A delete of the batch that goes through adds to the keys gone the batch's keys that still
held a value, as many as it reports, and leaves every key of the batch gone. -/
theorem Progress.delete {del : List String → σ → Except Failure Nat × σ}
    (hdel : V.DeleteSound del)
    (h : V.Progress s₀ gone batch removed s) {n : Nat} {s' : σ}
    (hok : del batch s = (.ok n, s')) :
    ∃ fresh, V.Progress s₀ (gone ++ fresh) [] (removed + Int64.ofNat n) s' ∧
      ∀ k ∈ batch, k ∈ gone ++ fresh := by
  obtain ⟨hwf, ⟨fresh, hnodup, hfresh, rfl⟩, hlook⟩ := hdel.ok batch s n s' h.shape hok
  have hlive : ∀ k ∈ batch, k ∉ gone → (V.lookup s k).isSome := by
    intro k hk hgone
    rw [h.store k, if_neg hgone]
    exact (h.counted k (List.mem_append_right _ hk)).1
  refine ⟨fresh, ⟨?_, fun k hk => ?_, ?_, fun k => ?_, hwf⟩, fun k hk => ?_⟩
  · refine List.nodup_append.mpr ⟨h.nodup, hnodup, fun a ha b hb hab => ?_⟩
    subst hab
    have hheld := ((hfresh a).mp hb).2
    simp [h.store a, ha] at hheld
  · rw [List.append_nil, List.mem_append] at hk
    rcases hk with hk | hk
    · exact h.counted k (List.mem_append_left _ hk)
    · exact h.counted k (List.mem_append_right _ ((hfresh k).mp hk).1)
  · rw [h.count, List.length_append, Int64.ofNat_add]
  · rw [hlook k, h.store k]
    by_cases hb : k ∈ batch
    · by_cases hg : k ∈ gone
      · simp [hb, hg]
      · simp [hb, (hfresh k).mpr ⟨hb, hlive k hb hg⟩]
    · have hnot : k ∉ fresh := fun hf => hb ((hfresh k).mp hf).1
      simp [hb, hnot]
  · by_cases hg : k ∈ gone
    · exact List.mem_append_left _ hg
    · exact List.mem_append_right _ ((hfresh k).mpr ⟨hk, hlive k hk hg⟩)

/-- The last delete: whatever happens the reset has made progress, and when it goes through
every key gone or in the batch is gone. -/
theorem Progress.flush {del : List String → σ → Except Failure Nat × σ}
    (hdel : V.DeleteSound del)
    (h : V.Progress s₀ gone batch removed s) :
    ∃ gone' batch', V.Progress s₀ gone' batch' (flushBatch del batch removed s).1.1
        (flushBatch del batch removed s).2 ∧
      ((flushBatch del batch removed s).1.2 = none → ∀ k ∈ gone ++ batch, k ∈ gone') := by
  unfold flushBatch
  split
  · rename_i hempty
    rw [List.isEmpty_iff.mp hempty] at h ⊢
    exact ⟨gone, [], h, fun _ k hk => by simpa using hk⟩
  · rcases hd : del batch s with ⟨_ | n, s₁⟩
    · obtain rfl := hdel.error _ _ _ _ hd
      exact ⟨gone, batch, h, fun hnone => by simp at hnone⟩
    · obtain ⟨fresh, hprog, hcover⟩ := h.delete hdel hd
      refine ⟨gone ++ fresh, [], hprog, fun _ k hk => ?_⟩
      rcases List.mem_append.mp hk with hk | hk
      · exact List.mem_append_left _ hk
      · exact hcover k hk

/-- The last delete, once every counter key that held a value is gone or in the batch: when it
goes through, none of them holds a value. -/
theorem Progress.flush_covers {del : List String → σ → Except Failure Nat × σ}
    (hdel : V.DeleteSound del) (h : V.Progress s₀ gone batch removed s)
    {owed : Nat → σ → List String} {cursor : Option Nat}
    (hacc : V.Accounted owed s₀ gone batch cursor s) (hdone : ∀ c, cursor = some c → False) :
    (flushBatch del batch removed s).1.2 = none → ∀ k, (V.lookup s₀ k).isSome → V.counter k →
      V.lookup (flushBatch del batch removed s).2 k = none := by
  intro hok k hk hcounter
  obtain ⟨gone', batch', hprog, hall⟩ := h.flush hdel
  have hmem : k ∈ gone' := by
    refine hall hok k ?_
    rcases hacc k hk hcounter with hg | hb | ⟨c, hc, -⟩
    · exact List.mem_append_left _ hg
    · exact List.mem_append_right _ hb
    · exact (hdone c hc).elim
  rw [hprog.store k, if_pos hmem]

end Progress

/-- A page's keys go into the batch, the full batches deleted: when the page is through, the
reset has made progress and every key gone, in the batch or on the page before is gone or in the
batch after; when a delete fails, the reset has made progress up to it. -/
theorem takePage_progress {del : List String → σ → Except Failure Nat × σ}
    (hdel : V.DeleteSound del) {s₀ : σ} :
    ∀ (page batch : List String) (removed : Int64) (s : σ) (gone : List String),
      V.Progress s₀ gone batch removed s → (∀ k ∈ page, (V.lookup s₀ k).isSome ∧ V.counter k) →
      (∀ batch' removed' s', takePage del page batch removed s = (.ok (batch', removed'), s') →
        ∃ gone', V.Progress s₀ gone' batch' removed' s' ∧
          ∀ k ∈ gone ++ batch ++ page, k ∈ gone' ∨ k ∈ batch') ∧
      (∀ removed' f s', takePage del page batch removed s = (.error (removed', f), s') →
        ∃ gone' batch', V.Progress s₀ gone' batch' removed' s')
  | [], batch, removed, s, gone, h, _ => by
    refine ⟨fun batch' removed' s' heq => ?_,
      fun removed' f s' heq => by simp [takePage] at heq⟩
    simp only [takePage, Prod.mk.injEq, Except.ok.injEq] at heq
    obtain ⟨⟨rfl, rfl⟩, rfl⟩ := heq
    exact ⟨gone, h, fun k hk => by simpa using hk⟩
  | k :: page, batch, removed, s, gone, h, hpage => by
    have hpush := h.push (hpage k List.mem_cons_self)
    have hrest : ∀ x ∈ page, (V.lookup s₀ x).isSome ∧ V.counter x :=
      fun x hx => hpage x (List.mem_cons_of_mem _ hx)
    unfold takePage
    split
    · rcases hd : del (batch ++ [k]) s with ⟨_ | n, s₁⟩
      · obtain rfl := hdel.error _ _ _ _ hd
        refine ⟨fun _ _ _ heq => by simp at heq, fun removed' f' s' heq => ?_⟩
        simp only [Prod.mk.injEq, Except.error.injEq] at heq
        obtain ⟨⟨rfl, rfl⟩, rfl⟩ := heq
        exact ⟨gone, batch ++ [k], hpush⟩
      · obtain ⟨fresh, hprog, hcover⟩ := hpush.delete hdel hd
        obtain ⟨hok, herr⟩ := takePage_progress hdel page [] _ s₁ _ hprog hrest
        refine ⟨fun batch' removed' s' heq => ?_, herr⟩
        obtain ⟨gone', hprog', hcover'⟩ := hok batch' removed' s' heq
        refine ⟨gone', hprog', fun x hx => hcover' x ?_⟩
        rw [List.append_nil]
        simp only [List.mem_append, List.mem_cons] at hx
        rcases hx with (hx | hx) | rfl | hx
        · exact List.mem_append_left _ (List.mem_append_left _ hx)
        · exact List.mem_append_left _ (hcover x (List.mem_append_left _ hx))
        · exact List.mem_append_left _
            (hcover _ (List.mem_append_right _ (List.mem_singleton_self _)))
        · exact List.mem_append_right _ hx
    · obtain ⟨hok, herr⟩ := takePage_progress hdel page (batch ++ [k]) removed s gone hpush hrest
      refine ⟨fun batch' removed' s' heq => ?_, herr⟩
      obtain ⟨gone', hprog', hcover'⟩ := hok batch' removed' s' heq
      exact ⟨gone', hprog', fun x hx => hcover' x (by simpa using hx)⟩

/-- What a successful delete keeps holds after a page. -/
theorem takePage_stable {del : List String → σ → Except Failure Nat × σ}
    (hdel : V.DeleteSound del) (P : σ → Prop)
    (hP : ∀ b s n s', V.wf s → del b s = (.ok n, s') → P s → P s') :
    ∀ (page batch : List String) (removed : Int64) (s : σ), V.wf s → P s →
      P (takePage del page batch removed s).2
  | [], _, _, _, _, h => h
  | k :: page, batch, removed, s, hwf, h => by
    unfold takePage
    split
    · rcases hd : del (batch ++ [k]) s with ⟨_ | n, s₁⟩
      · obtain rfl := hdel.error _ _ _ _ hd
        exact h
      · exact takePage_stable hdel P hP page [] _ s₁ (hdel.ok _ _ _ _ hwf hd).1
          (hP _ _ _ _ hwf hd h)
    · exact takePage_stable hdel P hP page _ removed s hwf h

section Walk

variable {scan : Nat → σ → Except Failure (List String × Nat) × σ}
  {del : List String → σ → Except Failure Nat × σ}

theorem resetWalk_done {pages : Nat} {cursor : Option Nat} (h : pages = 0 ∨ cursor = none)
    (batch : List String) (removed : Int64) (s : σ) :
    resetWalk scan del pages cursor batch removed s = flushBatch del batch removed s := by
  rcases h with rfl | rfl
  · rfl
  · cases pages <;> rfl

theorem resetWalk_page (pages cursor : Nat) (batch : List String) (removed : Int64) (s : σ) :
    resetWalk scan del (pages + 1) (some cursor) batch removed s =
      match scan cursor s with
      | (.error f, s) => ((removed, some (.context "scan limits" f.fault)), s)
      | (.ok (page, next), s) =>
        match takePage del page batch removed s with
        | (.error (removed, f), s) => ((removed, some (.context "reset limits" f.fault)), s)
        | (.ok (batch, removed), s) =>
          resetWalk scan del pages (if next = 0 then none else some next) batch removed s := rfl

/-- A page of a sound scan leaves the store as it was and hands out only counter keys that held
a value from the start. -/
theorem ScanSound.page_counted (hscan : V.ScanSound scan) {s₀ s s₁ : σ}
    {gone batch : List String} {removed : Int64} (h : V.Progress s₀ gone batch removed s) {c next : Nat} {page : List String}
    (hsc : scan c s = (.ok (page, next), s₁)) :
    s₁ = s ∧ ∀ k ∈ page, (V.lookup s₀ k).isSome ∧ V.counter k := by
  have hsame := hscan.unchanged c s
  have hlive := hscan.live c s
  rw [hsc] at hsame hlive
  subst hsame
  exact ⟨rfl, fun k hk =>
    ⟨h.held (hlive page next h.shape rfl k hk).1, (hlive page next h.shape rfl k hk).2⟩⟩

/-- The walk makes progress whatever fails. -/
theorem resetWalk_progress (hscan : V.ScanSound scan) (hdel : V.DeleteSound del) {s₀ : σ} :
    ∀ (pages : Nat) (cursor : Option Nat) (batch : List String) (removed : Int64) (s : σ)
      (gone : List String), V.Progress s₀ gone batch removed s →
      ∃ gone' batch', V.Progress s₀ gone' batch'
        (resetWalk scan del pages cursor batch removed s).1.1
        (resetWalk scan del pages cursor batch removed s).2
  | 0, cursor, batch, removed, s, gone, h => by
    rw [resetWalk_done (.inl rfl)]
    obtain ⟨gone', batch', hprog, -⟩ := h.flush hdel
    exact ⟨gone', batch', hprog⟩
  | pages + 1, none, batch, removed, s, gone, h => by
    rw [resetWalk_done (.inr rfl)]
    obtain ⟨gone', batch', hprog, -⟩ := h.flush hdel
    exact ⟨gone', batch', hprog⟩
  | pages + 1, some c, batch, removed, s, gone, h => by
    rw [resetWalk_page]
    rcases hsc : scan c s with ⟨_ | ⟨page, next⟩, s₁⟩
    · have hsame := hscan.unchanged c s
      rw [hsc] at hsame
      subst hsame
      exact ⟨gone, batch, h⟩
    · obtain ⟨rfl, hpage⟩ := hscan.page_counted h hsc
      dsimp only
      obtain ⟨hok, herr⟩ := takePage_progress hdel page batch removed s₁ gone h hpage
      rcases htp : takePage del page batch removed s₁ with
        ⟨⟨removed', f⟩ | ⟨batch', removed'⟩, s₂⟩
      · exact herr removed' f s₂ htp
      · obtain ⟨gone', hprog, -⟩ := hok batch' removed' s₂ htp
        exact resetWalk_progress hscan hdel pages _ batch' removed' s₂ gone' hprog

/-- One page keeps every counter key accounted for. A key owed at `c` that still holds a value
is on the page, and so gone or in the batch after it, or owed at the next cursor; the deletes of
the page keep it owed there unless they removed it, and then it is gone. -/
theorem Accounted.page {owed : Nat → σ → List String} {left : Nat → σ → Nat}
    (hdel : V.DeleteSound del) (hcov : V.ScanCovers scan del owed left) {s₀ s s₂ : σ}
    {gone batch gone' batch' page : List String} {removed removed' : Int64} {c next : Nat}
    (h : V.Progress s₀ gone batch removed s) (hacc : V.Accounted owed s₀ gone batch (some c) s)
    (hpaged : (scan c s).1 = .ok (page, next))
    (htp : takePage del page batch removed s = (.ok (batch', removed'), s₂))
    (hprog : V.Progress s₀ gone' batch' removed' s₂)
    (hcover : ∀ k ∈ gone ++ batch ++ page, k ∈ gone' ∨ k ∈ batch') :
    V.Accounted owed s₀ gone' batch' (if next = 0 then none else some next) s₂ := by
  have hkept := fun k => takePage_stable hdel
    (fun s => k ∈ owed next s ∨ V.lookup s k = none) (fun b s n s' hwf hd hs => by
      rcases hs with hs | hs
      · by_cases hheld : (V.lookup s' k).isSome
        · exact .inl (hcov.keeps b s n s' hwf hd next k hs hheld)
        · exact .inr (by simpa using hheld)
      · refine .inr ?_
        rw [((hdel.ok b s n s' hwf hd).2.2 k), hs]
        simp)
    page batch removed s h.shape
  rw [htp] at hkept
  intro k hk hcounter
  have hseen : k ∈ gone ++ batch ++ page → k ∈ gone' ∨ k ∈ batch' ∨
      ∃ c', (if next = 0 then none else some next) = some c' ∧ k ∈ owed c' s₂ :=
    fun hm => (hcover k hm).elim .inl (fun hb => .inr (.inl hb))
  rcases hacc k hk hcounter with hk' | hk' | ⟨c', hc', howed⟩
  · exact hseen (by simp [hk'])
  · exact hseen (by simp [hk'])
  · obtain rfl : c' = c := (Option.some.inj hc').symm
    by_cases hheld : (V.lookup s k).isSome
    · rcases hcov.page c' s page next h.shape hpaged k howed hheld with hp | ⟨hnext, hnowed⟩
      · exact hseen (by simp [hp])
      · rcases hkept k (.inl hnowed) with hstill | hgone
        · exact .inr (.inr ⟨next, by simp [hnext], hstill⟩)
        · exact .inl (hprog.mem_gone hk hgone)
    · exact hseen (by simp [h.mem_gone hk (by simpa using hheld)])

/-- A walk from where every counter key is accounted for, over a covering scan, with more pages
to go than the walk takes, leaves every counter key gone when it reports no failure. -/
theorem resetWalk_covers (hscan : V.ScanSound scan) (hdel : V.DeleteSound del)
    {owed : Nat → σ → List String} {left : Nat → σ → Nat}
    (hcov : V.ScanCovers scan del owed left) {s₀ : σ} :
    ∀ (pages : Nat) (cursor : Option Nat) (batch : List String) (removed : Int64) (s : σ)
      (gone : List String), V.Progress s₀ gone batch removed s →
      V.Accounted owed s₀ gone batch cursor s → (∀ c, cursor = some c → left c s < pages) →
      (resetWalk scan del pages cursor batch removed s).1.2 = none →
      ∀ k, (V.lookup s₀ k).isSome → V.counter k →
        V.lookup (resetWalk scan del pages cursor batch removed s).2 k = none
  | pages + 1, some c, batch, removed, s, gone, h, hacc, hbound => by
    rw [resetWalk_page]
    have hnear := hcov.nearer c s
    rcases hsc : scan c s with ⟨_ | ⟨page, next⟩, s₁⟩
    · intro hnone
      simp at hnone
    · obtain ⟨rfl, hpage⟩ := hscan.page_counted h hsc
      rw [hsc] at hnear
      dsimp only
      obtain ⟨hok, -⟩ := takePage_progress hdel page batch removed s₁ gone h hpage
      have hleft := takePage_stable hdel (fun s => left next s ≤ left next s₁)
        (fun b s n s' hwf hd hs => le_trans (hcov.no_further b s n s' hwf hd next) hs)
        page batch removed s₁ h.shape le_rfl
      rcases htp : takePage del page batch removed s₁ with
        ⟨⟨removed', f⟩ | ⟨batch', removed'⟩, s₂⟩
      · intro hnone
        simp at hnone
      · rw [htp] at hleft
        obtain ⟨gone', hprog, hcover⟩ := hok batch' removed' s₂ htp
        refine resetWalk_covers hscan hdel hcov pages _ batch' removed' s₂ gone' hprog
          (Accounted.page hdel hcov h hacc (by rw [hsc]) htp hprog hcover) fun c' hc' => ?_
        split at hc'
        · cases hc'
        · rename_i hnext
          obtain rfl := Option.some.inj hc'
          have hlt := hnear page next h.shape rfl hnext
          have hc := hbound c rfl
          dsimp only at hlt hc hleft ⊢
          omega
  | 0, cursor, batch, removed, s, gone, h, hacc, hbound => by
    rw [resetWalk_done (.inl rfl)]
    exact h.flush_covers hdel hacc (fun c hc => absurd (hbound c hc) (Nat.not_lt_zero _))
  | pages + 1, none, batch, removed, s, gone, h, hacc, _ => by
    rw [resetWalk_done (.inr rfl)]
    exact h.flush_covers hdel hacc (fun c hc => by cases hc)

/-- A walk reports a failure only as `scan limits` for a failed page or `reset limits` for a
failed delete. -/
theorem flushBatch_failure (batch : List String) (removed : Int64) (s : σ) :
    (flushBatch del batch removed s).1.2 = none ∨
      ∃ f : Failure, (flushBatch del batch removed s).1.2 = some (.context "reset limits" f.fault) := by
  unfold flushBatch
  split
  · exact .inl rfl
  · rcases del batch s with ⟨_ | n, s₁⟩
    · exact .inr ⟨_, rfl⟩
    · exact .inl rfl

theorem resetWalk_failure : ∀ (pages : Nat) (cursor : Option Nat) (batch : List String)
    (removed : Int64) (s : σ),
    (resetWalk scan del pages cursor batch removed s).1.2 = none ∨
      (∃ f : Failure, (resetWalk scan del pages cursor batch removed s).1.2 =
        some (.context "scan limits" f.fault)) ∨
      ∃ f : Failure, (resetWalk scan del pages cursor batch removed s).1.2 =
        some (.context "reset limits" f.fault)
  | 0, cursor, batch, removed, s => by
    rw [resetWalk_done (.inl rfl)]
    exact (flushBatch_failure batch removed s).imp_right .inr
  | pages + 1, none, batch, removed, s => by
    rw [resetWalk_done (.inr rfl)]
    exact (flushBatch_failure batch removed s).imp_right .inr
  | pages + 1, some c, batch, removed, s => by
    rw [resetWalk_page]
    rcases scan c s with ⟨_ | ⟨page, next⟩, s₁⟩
    · exact .inr (.inl ⟨_, rfl⟩)
    · dsimp only
      rcases takePage del page batch removed s₁ with
        ⟨⟨removed', f⟩ | ⟨batch', removed'⟩, s₂⟩
      · exact .inr (.inr ⟨f, rfl⟩)
      · exact resetWalk_failure pages _ batch' removed' s₂

end Walk

/-- A batch not yet full stays so through a page. -/
theorem takePage_batch_lt (del : List String → σ → Except Failure Nat × σ) :
    ∀ (page batch : List String) (removed : Int64) (s : σ), batch.length < resetBatch →
      ∀ batch' removed' s', takePage del page batch removed s = (.ok (batch', removed'), s') →
        batch'.length < resetBatch
  | [], batch, removed, s, hlt, _, _, _, heq => by
    simp only [takePage, Prod.mk.injEq, Except.ok.injEq] at heq
    obtain ⟨⟨rfl, -⟩, -⟩ := heq
    exact hlt
  | k :: page, batch, removed, s, hlt, batch', removed', s', heq => by
    unfold takePage at heq
    split at heq
    · rcases hd : del (batch ++ [k]) s with ⟨_ | n, s₁⟩
      · rw [hd] at heq
        simp at heq
      · rw [hd] at heq
        exact takePage_batch_lt del page [] _ s₁ (by simp [resetBatch]) _ _ _ heq
    · rename_i hfull
      exact takePage_batch_lt del page _ removed s (by simp at hfull ⊢; omega) _ _ _ heq

section Batches

variable {del del' : List String → σ → Except Failure Nat × σ}
  (hagree : ∀ b s, 0 < b.length → b.length ≤ resetBatch → del' b s = del b s)
include hagree

/-- A page deletes only batches of `resetBatch` keys. -/
theorem takePage_congr : ∀ (page batch : List String) (removed : Int64) (s : σ),
    batch.length < resetBatch →
      takePage del' page batch removed s = takePage del page batch removed s
  | [], _, _, _, _ => rfl
  | k :: page, batch, removed, s, hlt => by
    unfold takePage
    by_cases hfull : (batch ++ [k]).length = resetBatch
    · rw [if_pos hfull, if_pos hfull, hagree _ s (by simp) hfull.le]
      rcases del (batch ++ [k]) s with ⟨_ | n, s₁⟩
      · rfl
      · exact takePage_congr page [] _ s₁ (by simp [resetBatch])
    · rw [if_neg hfull, if_neg hfull]
      exact takePage_congr page _ removed s (by simp at hfull ⊢; omega)

/-- The last delete holds fewer than `resetBatch` keys, and none when the batch is empty. -/
theorem flushBatch_congr (batch : List String) (removed : Int64) (s : σ)
    (hlt : batch.length < resetBatch) :
    flushBatch del' batch removed s = flushBatch del batch removed s := by
  unfold flushBatch
  split
  · rfl
  · rename_i hempty
    rw [hagree batch s (List.length_pos_iff.mpr (by simpa using hempty)) hlt.le]

/-- A walk deletes only batches of one to `resetBatch` keys: any two deletes that agree on those
give the same walk. -/
theorem resetWalk_congr (scan : Nat → σ → Except Failure (List String × Nat) × σ) :
    ∀ (pages : Nat) (cursor : Option Nat) (batch : List String) (removed : Int64) (s : σ),
      batch.length < resetBatch →
      resetWalk scan del' pages cursor batch removed s = resetWalk scan del pages cursor batch removed s
  | 0, cursor, batch, removed, s, hlt => by
    rw [resetWalk_done (.inl rfl), resetWalk_done (.inl rfl), flushBatch_congr hagree _ _ _ hlt]
  | pages + 1, none, batch, removed, s, hlt => by
    rw [resetWalk_done (.inr rfl), resetWalk_done (.inr rfl), flushBatch_congr hagree _ _ _ hlt]
  | pages + 1, some c, batch, removed, s, hlt => by
    rw [resetWalk_page, resetWalk_page]
    rcases scan c s with ⟨_ | ⟨page, next⟩, s₁⟩
    · rfl
    · dsimp only
      rw [takePage_congr hagree page batch removed s₁ hlt]
      have hlt' := takePage_batch_lt del page batch removed s₁ hlt
      rcases htp : takePage del page batch removed s₁ with
        ⟨⟨removed', f⟩ | ⟨batch', removed'⟩, s₂⟩
      · rfl
      · exact resetWalk_congr scan pages _ batch' removed' s₂ (hlt' _ _ _ htp)

end Batches

end StoreView

/-- The reset of the counters, over any key-value store seen through `V` whose delete and scan
are sound, from a state it can be in, asking for at most `pages` pages. Whatever page or delete
fails, some keys are gone, each once and each a counter key that held a value: the reset reports
exactly their number, they hold nothing after it, and every other key holds what it held. A
failure is reported as `scan limits: <cause>` for a page or `reset limits: <cause>` for a delete,
and a failed page leaves the batch it was filling in place. When the scan hands out every
counter key within the pages asked for and the reset reports no failure, no counter key holds a
value any more. No delete holds more than `resetBatch` keys: deletes that agree on batches of one
to `resetBatch` keys give the same reset. -/
theorem reset_removes_limit_keys {σ : Type} (V : StoreView σ)
    (scan : Nat → σ → Except Failure (List String × Nat) × σ)
    (del : List String → σ → Except Failure Nat × σ) (hscan : V.ScanSound scan)
    (hdel : V.DeleteSound del) (s₀ : σ) (hwf : V.wf s₀) (pages : Nat) :
    let r := resetWalk scan del pages (some 0) [] 0 s₀
    (∃ gone : List String, gone.Nodup ∧ (∀ k ∈ gone, (V.lookup s₀ k).isSome ∧ V.counter k) ∧
      r.1.1 = Int64.ofNat gone.length ∧ ∀ k, V.lookup r.2 k = if k ∈ gone then none else V.lookup s₀ k) ∧
    (r.1.2 = none ∨ (∃ f : Failure, r.1.2 = some (.context "scan limits" f.fault)) ∨
      ∃ f : Failure, r.1.2 = some (.context "reset limits" f.fault)) ∧
    (∀ owed left, V.ScanCovers scan del owed left → left 0 s₀ < pages → r.1.2 = none →
      ∀ k, (V.lookup s₀ k).isSome → V.counter k → V.lookup r.2 k = none) ∧
    ∀ del' : List String → σ → Except Failure Nat × σ,
      (∀ b s, 0 < b.length → b.length ≤ resetBatch → del' b s = del b s) →
      resetWalk scan del' pages (some 0) [] 0 s₀ = r := by
  intro r
  obtain ⟨gone, batch, hprog⟩ :=
    StoreView.resetWalk_progress hscan hdel pages (some 0) [] 0 s₀ [] (StoreView.Progress.start hwf)
  refine ⟨⟨gone, hprog.nodup, fun k hk => hprog.counted k (List.mem_append_left _ hk),
      hprog.count, hprog.store⟩, StoreView.resetWalk_failure pages (some 0) [] 0 s₀,
    fun owed left hcov hleft => ?_,
    fun del' hagree => StoreView.resetWalk_congr hagree scan pages (some 0) [] 0 s₀ (by simp [resetBatch])⟩
  refine StoreView.resetWalk_covers hscan hdel hcov pages (some 0) [] 0 s₀ []
    (StoreView.Progress.start hwf) (fun k hk hcounter => ?_) (fun c hc => ?_)
  · exact .inr (.inr ⟨0, rfl, hcov.start s₀ k hwf hk hcounter⟩)
  · obtain rfl := Option.some.inj hc
    exact hleft

/-- The key-value server at `now` as the reset sees it: a key holds its live value, the counter
keys are those under the prefix, and the server's entries have distinct keys. -/
def remoteView (now : Instant) : StoreView Connection :=
  ⟨fun c k => c.server.lookup now k, fun k => ∃ key, k = remoteKey key,
    fun c => c.server.WellKeyed⟩

/-- A page of the server's scan holds every live counter key and ends the walk. -/
theorem remotePages_ok {expired : Bool} {now : Instant} {cursor : Nat} {c : Connection}
    {page : List String} {next : Nat} (h : (remotePages expired now cursor c).1 = .ok (page, next)) :
    page = limitKeys c.server now ∧ next = 0 := by
  unfold remotePages remoteSend at h
  split at h
  · cases h
  · dsimp only at h
    rcases Connection.scan_cases c now cursor (remotePrefix ++ "*") resetBatch with hs | ⟨f, hs⟩
    · rw [hs] at h
      simp only [Except.ok.injEq, Prod.mk.injEq] at h
      exact ⟨h.1.symm, h.2.symm⟩
    · rw [hs] at h
      cases h

theorem remotePages_sound (expired : Bool) (now : Instant) :
    (remoteView now).ScanSound (remotePages expired now) where
  unchanged cursor c := by
    unfold remotePages remoteSend
    split
    · rfl
    · dsimp only
      rcases Connection.scan_cases c now cursor (remotePrefix ++ "*") resetBatch with hs | ⟨f, hs⟩ <;>
        rw [hs]
  live cursor c page next hwf hpage k hk := by
    obtain ⟨rfl, -⟩ := remotePages_ok hpage
    exact (mem_limitKeys hwf now k).mp hk

theorem remoteDelete_sound (expired : Bool) (now : Instant) :
    (remoteView now).DeleteSound (remoteDelete expired now) where
  ok b c n c' hwf hdel := by
    unfold remoteDelete remoteSend at hdel
    split at hdel
    · cases hdel
    · dsimp only at hdel
      rcases Connection.del_cases c now b with hd | ⟨f, hd⟩
      · rw [hd] at hdel
        simp only [Prod.mk.injEq, Except.ok.injEq] at hdel
        obtain ⟨rfl, rfl⟩ := hdel
        refine ⟨hwf.without b, ⟨_, (nodup_eraseDups b).filter _, fun k => ?_, rfl⟩,
          fun k => Server.lookup_without c.server now b k⟩
        simp [List.mem_filter, List.mem_eraseDups, remoteView]
      · rw [hd] at hdel
        cases hdel
  error b c f c' hdel := by
    unfold remoteDelete remoteSend at hdel
    split at hdel
    · exact (Prod.mk.inj hdel).2.symm
    · dsimp only at hdel
      rcases Connection.del_cases c now b with hd | ⟨f', hd⟩
      · rw [hd] at hdel
        cases hdel
      · rw [hd] at hdel
        exact (Prod.mk.inj hdel).2.symm

/-- The server's scan covers the counter keys: its first page holds every live one. -/
theorem remotePages_covers (expired : Bool) (now : Instant) :
    (remoteView now).ScanCovers (remotePages expired now) (remoteDelete expired now)
      (fun _ c => limitKeys c.server now) (fun _ _ => 0) where
  start c k hwf hlive hcounter := (mem_limitKeys hwf now k).mpr ⟨hlive, hcounter⟩
  page cursor c page next _ hpage k hk _ := .inl ((remotePages_ok hpage).1 ▸ hk)
  nearer cursor c page next _ hpage hnext := absurd (remotePages_ok hpage).2 hnext
  keeps b c n c' hwf hdel cursor k hk hlive := by
    have hwf' := ((remoteDelete_sound expired now).ok b c n c' hwf hdel).1
    exact (mem_limitKeys hwf' now k).mpr ⟨hlive, ((mem_limitKeys hwf now k).mp hk).2⟩
  no_further _ _ _ _ _ _ _ := le_refl 0

/-- The reset of the counter store on the key-value server of this library. On a server whose
entries have distinct keys, whatever fails, the reset reports how many keys it deleted, each a
live counter key deleted once, and every other key holds what it held; when it reports no
failure, no counter key holds a value any more. -/
theorem remote_reset_clears (expired : Bool) (now : Instant) (c : Connection)
    (hwf : c.server.WellKeyed) :
    let r := (CounterOps.remote expired).reset now c
    (∃ gone : List String, gone.Nodup ∧ (∀ k ∈ gone, k ∈ limitKeys c.server now) ∧
      r.1.1 = Int64.ofNat gone.length ∧
      ∀ k, r.2.server.lookup now k = if k ∈ gone then none else c.server.lookup now k) ∧
    (r.1.2 = none → ∀ k ∈ limitKeys c.server now, r.2.server.lookup now k = none) := by
  intro r
  have hstart : (remoteView now).Progress c [] [] 0 c := StoreView.Progress.start hwf
  obtain ⟨gone, batch, hprog⟩ := StoreView.resetWalk_progress (remotePages_sound expired now)
    (remoteDelete_sound expired now) resetPages (some 0) [] 0 c [] hstart
  refine ⟨⟨gone, hprog.nodup, fun k hk => (mem_limitKeys hwf now k).mpr
      (hprog.counted k (List.mem_append_left _ hk)), hprog.count, hprog.store⟩,
    fun hnone k hk => ?_⟩
  obtain ⟨hlive, hcounter⟩ := (mem_limitKeys hwf now k).mp hk
  refine StoreView.resetWalk_covers (remotePages_sound expired now) (remoteDelete_sound expired now)
    (remotePages_covers expired now) resetPages (some 0) [] 0 c [] hstart
    (fun k hk hcounter => .inr (.inr ⟨0, rfl, (mem_limitKeys hwf now k).mpr ⟨hk, hcounter⟩⟩))
    (fun _ _ => by simp [resetPages]) hnone k hlive hcounter

/-- A server with two counters and another key: the server's scan and delete are sound and its
entries have distinct keys, so the reset run on it behaves as stated. -/
theorem reset_removes_limit_keys_beside_other_keys :
    let c : Connection := ⟨⟨[("LIMITS:a", ⟨"1", none⟩), ("other", ⟨"2", none⟩),
      ("LIMITS:b", ⟨"3", none⟩)], none⟩, false⟩
    let V := remoteView 0
    let r := resetWalk (remotePages false 0) (remoteDelete false 0) resetPages (some 0) [] 0 c
    V.ScanSound (remotePages false 0) ∧ V.DeleteSound (remoteDelete false 0) ∧ V.wf c ∧
    (∃ gone : List String, gone.Nodup ∧ (∀ k ∈ gone, (V.lookup c k).isSome ∧ V.counter k) ∧
      r.1.1 = Int64.ofNat gone.length ∧ ∀ k, V.lookup r.2 k = if k ∈ gone then none else V.lookup c k) ∧
    (r.1.2 = none ∨ (∃ f : Failure, r.1.2 = some (.context "scan limits" f.fault)) ∨
      ∃ f : Failure, r.1.2 = some (.context "reset limits" f.fault)) ∧
    (∀ owed left, V.ScanCovers (remotePages false 0) (remoteDelete false 0) owed left →
      left 0 c < resetPages → r.1.2 = none →
      ∀ k, (V.lookup c k).isSome → V.counter k → V.lookup r.2 k = none) ∧
    ∀ del' : List String → Connection → Except Failure Nat × Connection,
      (∀ b s, 0 < b.length → b.length ≤ resetBatch → del' b s = remoteDelete false 0 b s) →
      resetWalk (remotePages false 0) del' resetPages (some 0) [] 0 c = r := by
  intro c V r
  have hwf : V.wf c := (by decide : c.server.WellKeyed)
  exact ⟨remotePages_sound false 0, remoteDelete_sound false 0, hwf,
    reset_removes_limit_keys V _ _ (remotePages_sound false 0) (remoteDelete_sound false 0) c hwf
      resetPages⟩

end Quota

end Admission
