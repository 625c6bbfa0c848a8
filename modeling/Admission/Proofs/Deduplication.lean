import Mathlib
import Admission.Gateway.World
import Admission.Proofs.Independence

/-!
# Holding back repeated notifications

A deduplicator remembers, for each key, the instant it last let a notification through
(`Dedup.lastSent`). A notification sent less than the time to live after the last one let
through under its key is dropped; any other goes through and becomes the last one.

Along a run of sends at nondecreasing instants the history holds, for each key, the instant of
the latest send that went through (`Dedup.run_lastSent`), and that instant is the greatest of
all sends under the key that went through (`le_of_find?_reverse`). So a notification goes
through exactly when no notification under its key went through less than the time to live
before it (`Dedup.run_forwarded_iff`). The key names the notification's kind, user and router
(`Notification.key_eq_iff`), and a run restricted to one key answers as the whole run does
(`Dedup.run_filter_key`).

In a running gateway the in-memory deduplicator decides before the sink is reached, and the
history it leaves does not depend on what the sink does; a deduplicator on the key-value server
lets a notification through when it cannot record it.

Main statement: `deduplication_window`.
-/

namespace Admission.Notify

open Quota Quota.MemoryStore

/-- A deduplication key determines the kind's name, the user and the router, whatever the
name: the user and the router are read from the right. -/
theorem dedupKey_inj {k k' : String} {u u' r r' : Int64} (h : dedupKey k u r = dedupKey k' u' r') :
    k = k' ∧ u = u' ∧ r = r' := by
  have hl := congrArg String.toList h
  simp only [dedupKey, String.toList_append] at hl
  obtain ⟨hl, hrouter⟩ := eq_of_append_sep_eq (separators_not_mem_toString _).1
    (separators_not_mem_toString _).1 hl
  obtain ⟨hl, huser⟩ := eq_of_append_sep_eq (separators_not_mem_toString _).1
    (separators_not_mem_toString _).1 hl
  refine ⟨String.toList_inj.mp (List.append_cancel_left hl), ?_, ?_⟩
  · exact Int64.toInt_inj.mp (Int.repr_inj.mp (String.toList_inj.mp huser))
  · exact Int64.toInt_inj.mp (Int.repr_inj.mp (String.toList_inj.mp hrouter))

theorem Kind.name_inj {k k' : Kind} (h : k.name = k'.name) : k = k' := by
  cases k <;> cases k' <;> simp_all [Kind.name]

/-- Two notifications share a key exactly when they share kind, user and router. -/
theorem Notification.key_eq_iff (n m : Notification) :
    n.key = m.key ↔ n.kind = m.kind ∧ n.user = m.user ∧ n.router = m.router := by
  constructor
  · intro h
    obtain ⟨hkind, huser, hrouter⟩ := dedupKey_inj h
    exact ⟨Kind.name_inj hkind, huser, hrouter⟩
  · rintro ⟨hkind, huser, hrouter⟩
    simp [Notification.key, hkind, huser, hrouter]

namespace Dedup

/-- The instant a key was last let through, if it ever was. -/
def lastSent (d : Dedup) (key : String) : Option Instant :=
  (d.sentAt.find? (·.1 == key)).map Prod.snd

@[simp] theorem lastSent_create (ttl : Span) (key : String) : (create ttl).lastSent key = none :=
  rfl

@[simp] theorem ttl_record (d : Dedup) (key : String) (now : Instant) :
    (admits.record d key now).ttl = d.ttl := rfl

/-- Recording a key makes `now` its last instant and leaves every other key's. -/
theorem lastSent_record (d : Dedup) (key j : String) (now : Instant) :
    (admits.record d key now).lastSent j = if key = j then some now else d.lastSent j := by
  unfold lastSent admits.record
  by_cases hj : key = j
  · simp [hj]
  · have hfilter : (d.sentAt.filter fun p => p.1 != key).find? (·.1 == j) =
        d.sentAt.find? (·.1 == j) := by
      rw [List.find?_filter]
      congr 1
      funext p
      by_cases hp : p.1 = j
      · have hjk : j ≠ key := fun h => hj h.symm
        simp [hp, hjk]
      · simp [hp]
    simp [hj, hfilter]

/-- A send goes through unless its key went through less than the time to live ago. -/
theorem admits_eq (d : Dedup) (now : Instant) (key : String) :
    d.admits now key = match d.lastSent key with
      | some at_ => if now.since at_ < d.ttl then (false, d) else (true, admits.record d key now)
      | none => (true, admits.record d key now) := rfl

/-- The span from an earlier instant compares with a time to live as the exact distance does:
the saturation at the greatest span never changes the answer. -/
theorem since_lt_iff {t u : Instant} (h : u ≤ t) (ttl : Span) :
    t.since u < ttl ↔ t - u < ttl.toInt := by
  have hcap := Int64.toInt_lt ttl
  have hfloor := Int64.le_toInt ttl
  simp only [Instant] at *
  unfold Instant.since Span.clamp
  rw [if_neg (by norm_num; omega)]
  split
  · rename_i hbig
    constructor
    · intro hlt
      rw [Int64.lt_iff_toInt_lt] at hlt
      have : Span.greatest.toInt = 9223372036854775807 := by decide
      omega
    · intro hlt
      norm_num at hcap
      omega
  · rename_i hsmall
    have hback : (Int64.ofInt (t - u)).toInt = t - u :=
      Int64.toInt_ofInt_of_le (by norm_num; omega) (by norm_num; omega)
    rw [Int64.lt_iff_toInt_lt, hback]

/-- Whether a notification sent at an instant goes through, and the history after it: the
deduplicator asked under the notification's key. -/
def forward (e : Instant × Notification) (d : Dedup) : Bool × Dedup := d.admits e.1 e.2.key

/-- The answer to a send depends only on the time to live and the last instant of its key. -/
theorem forward_fst_congr {d d' : Dedup} (e : Instant × Notification) (httl : d.ttl = d'.ttl)
    (hlast : d.lastSent e.2.key = d'.lastSent e.2.key) : (forward e d).1 = (forward e d').1 := by
  unfold forward
  rw [admits_eq, admits_eq, hlast, httl]
  cases d'.lastSent e.2.key with
  | none => rfl
  | some a => by_cases hlt : e.1.since a < d'.ttl <;> simp [hlt]

@[simp] theorem ttl_forward (e : Instant × Notification) (d : Dedup) :
    (forward e d).2.ttl = d.ttl := by
  unfold forward
  rw [admits_eq]
  split
  · split <;> rfl
  · rfl

/-- A send that goes through becomes the last one under its key; one that is dropped changes
nothing. Other keys keep their last instant. -/
theorem lastSent_forward (e : Instant × Notification) (d : Dedup) (j : String) :
    (forward e d).2.lastSent j =
      if (forward e d).1 = true ∧ e.2.key = j then some e.1 else d.lastSent j := by
  unfold forward
  rw [admits_eq]
  split
  · split
    · simp
    · simp [lastSent_record]
  · simp [lastSent_record]

/-- The instant of the latest send in a trace that went through under a key. -/
def lastForwarded (trace : List ((Instant × Notification) × Bool)) (key : String) :
    Option Instant :=
  (trace.reverse.find? fun x => x.2 && x.1.2.key == key).map (·.1.1)

/-- Along every run from a fresh deduplicator, each key's last instant is the instant of the
latest send under it that went through, and the time to live stays. -/
theorem run_lastSent (ttl : Span) (events : List (Instant × Notification)) (key : String) :
    (replay forward (create ttl) events).1.ttl = ttl ∧
      (replay forward (create ttl) events).1.lastSent key =
        lastForwarded (replay forward (create ttl) events).2 key := by
  induction events using List.reverseRecOn with
  | nil => exact ⟨rfl, rfl⟩
  | append_singleton events e ih =>
    obtain ⟨httl, hlast⟩ := ih
    rw [replay_append_singleton]
    refine ⟨by rw [ttl_forward, httl], ?_⟩
    rw [lastSent_forward, hlast]
    unfold lastForwarded
    by_cases hfwd : (forward e (replay forward (create ttl) events).1).1 = true <;>
      by_cases hkey : e.2.key = key <;> simp [hfwd, hkey]

end Dedup

/-- In a trace at nondecreasing instants, the latest entry with a property has the greatest
instant among the entries with it. -/
theorem le_of_find?_reverse {p : (Instant × Notification) × Bool → Bool} :
    ∀ {trace : List ((Instant × Notification) × Bool)} {y : (Instant × Notification) × Bool},
      (trace.map (·.1.1)).Pairwise (· ≤ ·) → trace.reverse.find? p = some y →
        ∀ x ∈ trace, p x = true → x.1.1 ≤ y.1.1 := by
  intro trace
  induction trace using List.reverseRecOn with
  | nil => intro y _ _ x hx; simp at hx
  | append_singleton trace z ih =>
    intro y hsorted hfind x hx hpx
    simp only [List.map_append, List.map_singleton, List.pairwise_append, List.pairwise_singleton,
      List.mem_singleton, List.mem_map] at hsorted
    obtain ⟨hsorted, -, hlast⟩ := hsorted
    simp only [List.reverse_append, List.reverse_singleton, List.singleton_append,
      List.find?_cons] at hfind
    rcases List.mem_append.mp hx with hx | hx
    · cases hpz : p z with
      | true =>
        rw [hpz] at hfind
        cases hfind
        exact hlast _ ⟨x, hx, rfl⟩ _ rfl
      | false =>
        rw [hpz] at hfind
        exact ih hsorted hfind x hx hpx
    · rw [List.mem_singleton] at hx
      subst hx
      rw [hpx] at hfind
      cases hfind
      exact le_refl _

namespace Dedup

/-- The answer to a send after a run at no later instants: it goes through exactly when no send
under its key went through less than the time to live before it. -/
theorem forward_after_run (ttl : Span) {events : List (Instant × Notification)}
    (hsorted : (events.map Prod.fst).Pairwise (· ≤ ·)) {e : Instant × Notification}
    (hlater : ∀ c ∈ events, c.1 ≤ e.1) :
    (forward e (replay forward (create ttl) events).1).1 = true ↔
      ¬∃ y ∈ (replay forward (create ttl) events).2,
        y.2 = true ∧ y.1.2.key = e.2.key ∧ e.1 - y.1.1 < ttl.toInt := by
  obtain ⟨httl, hlast⟩ := run_lastSent ttl events e.2.key
  have hcalls := replay_calls forward (create ttl) events
  have htimes : ((replay forward (create ttl) events).2.map (·.1.1)).Pairwise (· ≤ ·) := by
    rw [show (fun x : (Instant × Notification) × Bool => x.1.1) = Prod.fst ∘ Prod.fst from rfl,
      ← List.map_map, hcalls]
    exact hsorted
  have hevent : ∀ y ∈ (replay forward (create ttl) events).2, y.1 ∈ events := fun y hy =>
    hcalls ▸ List.mem_map_of_mem hy
  generalize (replay forward (create ttl) events) = st at httl hlast htimes hevent
  obtain ⟨d, trace⟩ := st
  simp only at httl hlast htimes hevent ⊢
  unfold forward
  rw [admits_eq, hlast]
  unfold lastForwarded
  cases hfind : trace.reverse.find? (fun x => x.2 && x.1.2.key == e.2.key) with
  | none =>
    simp only [Option.map_none]
    have hnone := List.find?_eq_none.mp hfind
    simp only [List.mem_reverse, Bool.and_eq_true, beq_iff_eq, not_and] at hnone
    simp only [true_iff, not_exists, not_and]
    intro y hy hfwd hkey
    exact absurd hkey (hnone y hy hfwd)
  | some y₀ =>
    simp only [Option.map_some]
    have hy₀ := List.find?_some hfind
    have hmem : y₀ ∈ trace := List.mem_reverse.mp (List.mem_of_find?_eq_some hfind)
    simp only [Bool.and_eq_true, beq_iff_eq] at hy₀
    have hle : y₀.1.1 ≤ e.1 := hlater y₀.1 (hevent y₀ hmem)
    have hmax := le_of_find?_reverse htimes hfind
    rw [httl]
    split
    · rename_i hlt
      rw [since_lt_iff hle] at hlt
      simp only [Bool.false_eq_true, false_iff, not_not]
      exact ⟨y₀, hmem, hy₀.1, hy₀.2, hlt⟩
    · rename_i hge
      rw [since_lt_iff hle] at hge
      simp only [true_iff, not_exists, not_and]
      intro y hy hfwd hkey hlt
      have hyle := hmax y hy (by simp [hfwd, hkey])
      simp only [Instant] at *
      omega

/-- Every send of a run at nondecreasing instants goes through exactly when no earlier send
under its key went through less than the time to live before it. -/
theorem run_forwarded_iff (ttl : Span) {events : List (Instant × Notification)}
    (hsorted : (events.map Prod.fst).Pairwise (· ≤ ·)) :
    ∀ pre x post, (replay forward (create ttl) events).2 = pre ++ x :: post →
      (x.2 = true ↔ ¬∃ y ∈ pre, y.2 = true ∧ y.1.2.key = x.1.2.key ∧ x.1.1 - y.1.1 < ttl.toInt) := by
  induction events using List.reverseRecOn with
  | nil => intro pre x post h; simp [replay] at h
  | append_singleton events e ih =>
    intro pre x post h
    simp only [List.map_append, List.map_singleton, List.pairwise_append, List.pairwise_singleton,
      List.mem_singleton, List.mem_map] at hsorted
    obtain ⟨hsorted', -, hlast⟩ := hsorted
    have hlater : ∀ c ∈ events, c.1 ≤ e.1 := fun c hc => hlast _ ⟨c, hc, rfl⟩ _ rfl
    rw [replay_append_singleton] at h
    rcases List.eq_nil_or_concat post with rfl | ⟨post', z, rfl⟩
    · obtain ⟨rfl, rfl⟩ := List.append_singleton_inj.mp h
      exact forward_after_run ttl hsorted' hlater
    · rw [List.concat_eq_append, ← List.cons_append, ← List.append_assoc] at h
      exact ih hsorted' pre x post' (List.append_singleton_inj.mp h).1

/-- Three sends of one quota notice, the second 5 ns after the first and the third 10 ns after
it, under a time to live of 10 ns: the second is held back. -/
example : let n : Notification := ⟨.quotaExceeded, 1, 2, "", none⟩
    (replay forward (create 10) [(0, n), (5, n), (10, n)]).2.map (·.2) = [true, false, true] := by
  decide

/-- A run restricted to the sends under one key answers those sends as the whole run does:
sends under other keys never hold one back. -/
theorem run_filter_key (ttl : Span) (events : List (Instant × Notification)) (key : String) :
    (replay forward (create ttl) events).2.filter (fun x => x.1.2.key = key) =
      (replay forward (create ttl) (events.filter fun e => e.2.key = key)).2 := by
  have hagree : ∀ events : List (Instant × Notification),
      (replay forward (create ttl) events).1.ttl =
          (replay forward (create ttl) (events.filter fun e => e.2.key = key)).1.ttl ∧
        (replay forward (create ttl) events).1.lastSent key =
          (replay forward (create ttl) (events.filter fun e => e.2.key = key)).1.lastSent key ∧
        (replay forward (create ttl) events).2.filter (fun x => x.1.2.key = key) =
          (replay forward (create ttl) (events.filter fun e => e.2.key = key)).2 := by
    intro events
    induction events using List.reverseRecOn with
    | nil => exact ⟨rfl, rfl, rfl⟩
    | append_singleton events e ih =>
      obtain ⟨httl, hlast, htrace⟩ := ih
      by_cases he : e.2.key = key
      · have hfilter : (events ++ [e]).filter (fun e => e.2.key = key) =
            events.filter (fun e => e.2.key = key) ++ [e] := by
          simp [he]
        have hsame := forward_fst_congr e httl (he ▸ hlast)
        rw [hfilter, replay_append_singleton, replay_append_singleton]
        refine ⟨by simp only [ttl_forward, httl], ?_, ?_⟩
        · rw [lastSent_forward, lastSent_forward, hsame, hlast]
        · rw [List.filter_append, htrace, hsame]
          simp [he]
      · have hfilter : (events ++ [e]).filter (fun e => e.2.key = key) =
            events.filter (fun e => e.2.key = key) := by
          simp [he]
        rw [hfilter, replay_append_singleton]
        refine ⟨by simp only [ttl_forward, httl], ?_, ?_⟩
        · rw [lastSent_forward, if_neg (fun h => he h.2), hlast]
        · rw [List.filter_append, htrace]
          simp [he]
  exact (hagree events).2.2

end Dedup

end Admission.Notify

namespace Admission.Gateway

open Notify Dedup

/-- The in-memory deduplicator decides at the wall clock, before the sink is reached: a dropped
notification reaches no sink, and the history and the clock after a send are the
deduplicator's own, whatever the sink does. -/
theorem notify_memory {g : Setup} {ttl : Span} {sink : SinkChoice}
    (hg : g.notifier = some (.memory ttl, sink)) (n : Notification) (w : World) :
    ∃ deliver, g.notify = some deliver ∧
      (deliver n w).2.dedup = (forward (w.wall, n) w.dedup).2 ∧ (deliver n w).2.wall = w.wall + 1 ∧
      ((forward (w.wall, n) w.dedup).1 = false →
        deliver n w = (.ok (), { w with wall := w.wall + 1, dedup := (forward (w.wall, n) w.dedup).2 })) := by
  simp only [Setup.notify, hg, Option.map_some, Option.some.injEq, exists_eq_left']
  simp only [passes, World.tick, forward]
  cases sink <;> by_cases hfwd : (w.dedup.admits w.wall n.key).1 = true <;> simp [hfwd]

/-- A deduplicator on the key-value server lets a notification through when it cannot record
it. -/
theorem passes_remote_of_error {ttl : Span} {n : Notification} {w : World} {f : KeyValue.Failure}
    {c : KeyValue.Connection}
    (h : w.remote.setIfAbsent w.now n.key (toString w.wall.unixSeconds) ttl = (.error f, c)) :
    (passes (.remote ttl) n w).1 = true := by
  simp only [passes, World.tick]
  rw [h]

end Admission.Gateway

namespace Admission.Notify

open Quota Dedup Gateway

/-- Notifications are held back for a time to live per key. Take a deduplicator with time to
live `d` and any run of sends at nondecreasing instants. A send goes through exactly when no
earlier send under its key went through less than `d` before it, and the key names the kind, the
user and the router. So sends under one key that go through are at least `d` apart, and the
sends under one key answer as they would with no other key in the run. In a running gateway,
what the in-memory deduplicator decides and remembers does not depend on the sink behind it,
which a dropped notification never reaches; and a deduplicator on the key-value server that
cannot record a key lets the notification through. -/
theorem deduplication_window (d : Span) (events : List (Instant × Notification))
    (hsorted : (events.map Prod.fst).Pairwise (· ≤ ·)) :
    (∀ pre x post, (replay forward (create d) events).2 = pre ++ x :: post →
      (x.2 = true ↔
        ¬∃ y ∈ pre, y.2 = true ∧ y.1.2.key = x.1.2.key ∧ x.1.1 - y.1.1 < d.toInt)) ∧
    (∀ n m : Notification,
      n.key = m.key ↔ n.kind = m.kind ∧ n.user = m.user ∧ n.router = m.router) ∧
    (∀ pre x mid y post, (replay forward (create d) events).2 = pre ++ x :: mid ++ y :: post →
      x.2 = true → y.2 = true → x.1.2.key = y.1.2.key → d.toInt ≤ y.1.1 - x.1.1) ∧
    (∀ key, (replay forward (create d) events).2.filter (fun x => x.1.2.key = key) =
      (replay forward (create d) (events.filter fun e => e.2.key = key)).2) ∧
    (∀ (g : Setup) ttl sink (n : Notification) (w : World),
      g.notifier = some (.memory ttl, sink) →
      ∃ deliver, g.notify = some deliver ∧
        (deliver n w).2.dedup = (forward (w.wall, n) w.dedup).2 ∧
        (deliver n w).2.wall = w.wall + 1 ∧
        ((forward (w.wall, n) w.dedup).1 = false →
          deliver n w =
            (.ok (), { w with wall := w.wall + 1, dedup := (forward (w.wall, n) w.dedup).2 }))) ∧
    (∀ ttl (n : Notification) (w : World) f c,
      w.remote.setIfAbsent w.now n.key (toString w.wall.unixSeconds) ttl = (.error f, c) →
        (passes (.remote ttl) n w).1 = true) := by
  have hforwarded := run_forwarded_iff d hsorted
  refine ⟨hforwarded, Notification.key_eq_iff, ?_, run_filter_key d events,
    fun g ttl sink n w hg => notify_memory hg n w, fun ttl n w f c h => passes_remote_of_error h⟩
  intro pre x mid y post htrace hx hy hkey
  have hnone := (hforwarded (pre ++ x :: mid) y post htrace).mp hy
  by_contra hlt
  exact hnone ⟨x, by simp, hx, hkey, by omega⟩

/-- Three quota notices of one user on one router under a time to live of 10 ns, sent at 0, 5
and 10 ns. -/
theorem deduplication_window_three_notices :
    let n : Notification := ⟨.quotaExceeded, 1, 2, "", none⟩
    let events : List (Instant × Notification) := [(0, n), (5, n), (10, n)]
    (events.map Prod.fst).Pairwise (· ≤ ·) ∧
    (∀ pre x post, (replay forward (create 10) events).2 = pre ++ x :: post →
      (x.2 = true ↔
        ¬∃ y ∈ pre, y.2 = true ∧ y.1.2.key = x.1.2.key ∧ x.1.1 - y.1.1 < (10 : Span).toInt)) ∧
    (∀ n m : Notification,
      n.key = m.key ↔ n.kind = m.kind ∧ n.user = m.user ∧ n.router = m.router) ∧
    (∀ pre x mid y post, (replay forward (create 10) events).2 = pre ++ x :: mid ++ y :: post →
      x.2 = true → y.2 = true → x.1.2.key = y.1.2.key → (10 : Span).toInt ≤ y.1.1 - x.1.1) ∧
    (∀ key, (replay forward (create 10) events).2.filter (fun x => x.1.2.key = key) =
      (replay forward (create 10) (events.filter fun e => e.2.key = key)).2) ∧
    (∀ (g : Setup) ttl sink (n : Notification) (w : World),
      g.notifier = some (.memory ttl, sink) →
      ∃ deliver, g.notify = some deliver ∧
        (deliver n w).2.dedup = (forward (w.wall, n) w.dedup).2 ∧
        (deliver n w).2.wall = w.wall + 1 ∧
        ((forward (w.wall, n) w.dedup).1 = false →
          deliver n w =
            (.ok (), { w with wall := w.wall + 1, dedup := (forward (w.wall, n) w.dedup).2 }))) ∧
    (∀ ttl (n : Notification) (w : World) f c,
      w.remote.setIfAbsent w.now n.key (toString w.wall.unixSeconds) ttl = (.error f, c) →
        (passes (.remote ttl) n w).1 = true) := by
  intro n events
  have hsorted : (events.map Prod.fst).Pairwise (· ≤ ·) := by decide
  exact ⟨hsorted, deduplication_window 10 events hsorted⟩

end Admission.Notify
