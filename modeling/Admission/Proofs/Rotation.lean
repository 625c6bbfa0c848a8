import Mathlib.Data.Int.CardIntervalMod
import Admission.Proofs.OffsetStore

/-!
# Round-robin rotation over a run of selections

Take a round-robin router `R` whose offset store answers (`Setup.Rotating`) and any run of
selections, of `R` or of other routers, each with or without quality of service. A selection
asks the store for an offset only once it has a candidate, so along the run:

* `R`'s stored offset moves by exactly the number of selections of `R` that reached a
  candidate (`Setup.advancing`): each of them advances it once, and a selection that fails, or
  that selects another router, leaves it (`Rotating.run`);
* the selection of `R` that comes after `k` such selections picks, among its candidates `C`,
  the one at `(o₀ + k) mod |C|`, where `o₀` is the offset the run started from
  (`Rotating.select_pick`);
* so `N` selections in a row over the same `n` candidates pick every position `⌊N / n⌋` or
  `⌈N / n⌉` times (`count_rotation`).

All of it holds while the offset stays below `2^63 - 1`. There the key-value server refuses to
increment: a selection at that offset picks the first candidate and the offset stays
(`rotation_stalls_at_greatest_offset`).
-/

namespace Admission.Gateway

open Routing

/-- Whether a selection of router `id` gets as far as a candidate: the directory has the router
and a provider is left once quality of service has had its say. -/
def Setup.reaches (g : Setup) (id : Int64) (skipQos : Bool) (w : World) : Bool :=
  match w.directory.router id with
  | .ok r => !(g.candidates r skipQos w).isEmpty
  | .error _ => false

/-- Whether a selection of router `id` asks the offset store: it reaches a candidate of a
round-robin router. -/
def Setup.rotates (g : Setup) (id : Int64) (skipQos : Bool) (w : World) : Bool :=
  match w.directory.router id with
  | .ok r => decide (r.strategy = "round_robin") && !(g.candidates r skipQos w).isEmpty
  | .error _ => false

/-- A selection changes the world only through the offset store, and only when it rotates; the
metrics it records may end the run. -/
theorem select_snd (g : Setup) (id : Int64) (skipQos : Bool) (w : World) :
    ∃ c d, (select g.sources id skipQos w).2 =
      { (if g.rotates id skipQos w then (g.nextOffset id w).2 else w) with
        crashed := c, draws := d } := by
  unfold select Setup.rotates
  rw [sources_router]
  cases hr : w.directory.router id with
  | error f => exact ⟨w.crashed, w.draws, rfl⟩
  | ok r =>
    have hcand := candidates_world g r skipQos w
    dsimp only
    revert hcand
    rcases withSignals g.sources r.providers w with ⟨seen, s₁⟩
    dsimp only
    generalize (if skipQos then (seen, s₁) else ((Qos.filter seen).1,
      labelAll g.sources.label ((Qos.filter seen).2.map (·.provider)) s₁)) = after
    rcases after with ⟨cs, s₂⟩
    rintro ⟨rfl, c, rfl⟩
    by_cases hempty : g.candidates r skipQos w = []
    · simp [hempty]
    · have hoff : (offsetFor g.sources r id { w with crashed := c }).2 =
          { (if r.strategy = "round_robin" then (g.nextOffset id w).2 else w) with crashed := c } := by
        unfold offsetFor
        rw [sources_nextOffset]
        by_cases hrr : r.strategy = "round_robin"
        · simp only [Strategy.name, hrr, if_true]
          rw [← nextOffset_crashed_snd]
          rcases g.nextOffset id { w with crashed := c } with ⟨_ | _, _⟩ <;> rfl
        · simp [Strategy.name, hrr]
      have hrotates : (decide (r.strategy = "round_robin") &&
          !(g.candidates r skipQos w).isEmpty) = decide (r.strategy = "round_robin") := by
        simp [hempty]
      simp only [List.isEmpty_iff, hempty, if_false, hrotates, decide_eq_true_eq]
      rcases hoffr : offsetFor g.sources r id { w with crashed := c } with ⟨offset, s₃⟩
      rw [hoffr] at hoff
      dsimp only at hoff
      cases Strategy.parse r.strategy with
      | error f => exact ⟨c, s₃.draws, by rw [hoff]⟩
      | ok strategy =>
        obtain ⟨d, hd⟩ := pick_snd_world strategy offset (g.candidates r skipQos w) s₃
        dsimp only
        rw [sources_draw]
        revert hd
        rcases strategy.pick offset World.draw (g.candidates r skipQos w) s₃ with
          ⟨_ | ⟨p, score⟩, s₄⟩
        · rintro rfl
          exact ⟨c, d, by rw [hoff]⟩
        · rintro rfl
          obtain ⟨c', hc'⟩ := label_world p.id { s₃ with draws := d }
          refine ⟨c', d, ?_⟩
          show World.label p.id { s₃ with draws := d } = _
          rw [hc', hoff]

/-- Router `R` rotates in `w`: its offset store answers, and the directory has it as the
round-robin router `r`. -/
structure Setup.Rotating (g : Setup) (R : Int64) (r : Router) (w : World) : Prop where
  answers : g.OffsetsAnswer R w
  found : w.directory.router R = .ok r
  roundRobin : r.strategy = "round_robin"

/-- The world after a run of selections, each of a router with or without quality of service,
in turn. -/
def Setup.afterSelects (g : Setup) : List (Int64 × Bool) → World → World
  | [], w => w
  | (id, skipQos) :: rest, w => g.afterSelects rest (select g.sources id skipQos w).2

/-- How many selections of a run select router `R` and reach a candidate. -/
def Setup.advancing (g : Setup) (R : Int64) : List (Int64 × Bool) → World → Nat
  | [], _ => 0
  | (id, skipQos) :: rest, w =>
    (if id = R ∧ g.reaches id skipQos w = true then 1 else 0) +
      g.advancing R rest (select g.sources id skipQos w).2

theorem afterSelects_append (g : Setup) (reqs more : List (Int64 × Bool)) (w : World) :
    g.afterSelects (reqs ++ more) w = g.afterSelects more (g.afterSelects reqs w) := by
  induction reqs generalizing w with
  | nil => rfl
  | cons q reqs ih => exact ih _

theorem advancing_append (g : Setup) (R : Int64) (reqs more : List (Int64 × Bool)) (w : World) :
    g.advancing R (reqs ++ more) w =
      g.advancing R reqs w + g.advancing R more (g.afterSelects reqs w) := by
  induction reqs generalizing w with
  | nil => simp [Setup.advancing, Setup.afterSelects]
  | cons q reqs ih =>
    simp only [List.cons_append, Setup.advancing, Setup.afterSelects, ih]
    omega

/-- For a round-robin router, a selection asks the offset store exactly when it reaches a
candidate. -/
theorem Setup.Rotating.rotates_eq {g : Setup} {R : Int64} {r : Router} {w : World}
    (h : g.Rotating R r w) (skipQos : Bool) :
    g.rotates R skipQos w = g.reaches R skipQos w := by
  simp [Setup.rotates, Setup.reaches, h.found, h.roundRobin]

/-- One selection: `R` keeps rotating, and its offset moves by one exactly when the selection is
of `R` and reaches a candidate. -/
theorem Setup.Rotating.step {g : Setup} {R : Int64} {r : Router} {w : World}
    (h : g.Rotating R r w) (id : Int64) (skipQos : Bool)
    (hmax : g.storedOffset R w + (if id = R ∧ g.reaches id skipQos w = true then 1 else 0) ≤
      9223372036854775807) :
    g.Rotating R r (select g.sources id skipQos w).2 ∧
      g.storedOffset R (select g.sources id skipQos w).2 =
        g.storedOffset R w + (if id = R ∧ g.reaches id skipQos w = true then 1 else 0) := by
  obtain ⟨c, d, hc⟩ := select_snd g id skipQos w
  rw [hc, storedOffset_crashed]
  have hrot : ∀ w', g.Rotating R r w' → g.Rotating R r { w' with crashed := c, draws := d } :=
    fun w' h' => ⟨h'.answers, h'.found, h'.roundRobin⟩
  by_cases hid : id = R
  · subst hid
    rw [h.rotates_eq]
    by_cases hreach : g.reaches id skipQos w = true
    · simp only [hreach, true_and, if_true] at hmax ⊢
      obtain ⟨-, hstored, hanswers⟩ := nextOffset_self h.answers h.found (by omega)
      refine ⟨hrot _ ⟨hanswers, ?_, h.roundRobin⟩, hstored⟩
      rw [nextOffset_router h.answers, h.found]
    · simp only [hreach, and_false, if_false, Bool.false_eq_true, Int.add_zero]
      exact ⟨hrot w h, trivial⟩
  · simp only [hid, false_and, if_false, Int.add_zero]
    by_cases hrotates : g.rotates id skipQos w = true
    · simp only [hrotates, if_true]
      obtain ⟨hstored, hanswers⟩ := nextOffset_other h.answers hid
      refine ⟨hrot _ ⟨hanswers, ?_, h.roundRobin⟩, hstored⟩
      rw [nextOffset_router h.answers, h.found]
    · simp only [hrotates, Bool.false_eq_true, if_false]
      exact ⟨hrot w h, trivial⟩

/-- A whole run: `R` keeps rotating, and its offset has moved by the number of selections of `R`
that reached a candidate, while that stays at most `2^63 - 1`. -/
theorem Setup.Rotating.run {g : Setup} {R : Int64} {r : Router} {w : World}
    (h : g.Rotating R r w) (reqs : List (Int64 × Bool))
    (hmax : g.storedOffset R w + g.advancing R reqs w ≤ 9223372036854775807) :
    g.Rotating R r (g.afterSelects reqs w) ∧
      g.storedOffset R (g.afterSelects reqs w) = g.storedOffset R w + g.advancing R reqs w := by
  induction reqs generalizing w with
  | nil => exact ⟨h, by simp [Setup.afterSelects, Setup.advancing]⟩
  | cons q reqs ih =>
    obtain ⟨id, skipQos⟩ := q
    have hrest_nonneg : (0 : Int) ≤ g.advancing R reqs (select g.sources id skipQos w).2 :=
      Int.natCast_nonneg _
    have hsplit : g.storedOffset R w + g.advancing R ((id, skipQos) :: reqs) w =
        (g.storedOffset R w + (if id = R ∧ g.reaches id skipQos w = true then 1 else 0)) +
          g.advancing R reqs (select g.sources id skipQos w).2 := by
      simp only [Setup.advancing]
      split <;> push_cast <;> omega
    obtain ⟨h', hstored⟩ := h.step id skipQos (by omega)
    obtain ⟨hrest, hrest_stored⟩ := ih h' (by omega)
    refine ⟨hrest, ?_⟩
    rw [hsplit, ← hstored, ← hrest_stored]
    rfl

/-- A selection of a rotating router that reaches its candidates picks the one at the stored
offset modulo their number, while the offset is below `2^63 - 1`. -/
theorem Setup.Rotating.select_pick {g : Setup} {R : Int64} {r : Router} {w : World}
    (h : g.Rotating R r w) (skipQos : Bool) (hmax : g.storedOffset R w < 9223372036854775807)
    (hne : g.candidates r skipQos w ≠ [])
    (hlen : (g.candidates r skipQos w).length ≤ 9223372036854775808) :
    ∃ p, (g.candidates r skipQos w)[(g.storedOffset R w %
        (g.candidates r skipQos w).length).toNat]? = some p ∧
      (select g.sources R skipQos w).1 = .ok ⟨r, .roundRobin, p, none⟩ := by
  have hoffset : g.offsetIn R w = Int64.ofInt (g.storedOffset R w) := by
    unfold Setup.offsetIn
    rw [(nextOffset_self h.answers h.found hmax).1]
  have hround : (Int64.ofInt (g.storedOffset R w)).toInt = g.storedOffset R w :=
    Int64.toInt_ofInt_of_le (storedOffset_bounds g R w).1 (by omega)
  obtain ⟨p, hp, hpick⟩ := pick_roundRobin World.draw w (Int64.ofInt (g.storedOffset R w)) hne hlen
  rw [hround] at hp
  refine ⟨p, hp, ?_⟩
  have hparse : Strategy.parse "round_robin" = .ok .roundRobin := rfl
  rw [select_world g R skipQos w h.found, if_neg hne, h.roundRobin, hparse]
  simp only [if_true, hoffset, hpick]
  rfl

/-- The selection of `R` that follows any run picks the candidate at the starting offset plus
the number of selections of `R` that reached a candidate in the run. -/
theorem Setup.Rotating.select_after {g : Setup} {R : Int64} {r : Router} {w : World}
    (h : g.Rotating R r w) (reqs : List (Int64 × Bool)) (skipQos : Bool)
    (hmax : g.storedOffset R w + g.advancing R reqs w < 9223372036854775807)
    (hne : g.candidates r skipQos (g.afterSelects reqs w) ≠ [])
    (hlen : (g.candidates r skipQos (g.afterSelects reqs w)).length ≤ 9223372036854775808) :
    ∃ p, (g.candidates r skipQos (g.afterSelects reqs w))[((g.storedOffset R w +
        g.advancing R reqs w) % (g.candidates r skipQos (g.afterSelects reqs w)).length).toNat]? =
        some p ∧
      (select g.sources R skipQos (g.afterSelects reqs w)).1 = .ok ⟨r, .roundRobin, p, none⟩ := by
  obtain ⟨hrun, hstored⟩ := h.run reqs (by omega)
  rw [← hstored] at hmax ⊢
  exact hrun.select_pick skipQos hmax hne hlen

/-- In a run of selections of `R` alone that each see the same candidates, the first `j`
selections all reach a candidate. -/
theorem Setup.Rotating.advancing_take {g : Setup} {R : Int64} {r : Router} {w : World}
    (h : g.Rotating R r w) (skips : List Bool) {cs : List Provider} (hne : cs ≠ [])
    (hmax : g.storedOffset R w + skips.length ≤ 9223372036854775807)
    (hcs : ∀ j (hj : j < skips.length),
      g.candidates r skips[j] (g.afterSelects ((skips.take j).map (R, ·)) w) = cs) :
    ∀ j ≤ skips.length, g.advancing R ((skips.take j).map (R, ·)) w = j := by
  intro j hj
  induction j with
  | zero => rfl
  | succ j ih =>
    have hj' : j < skips.length := by omega
    have hprev := ih (by omega)
    have htake : (skips.take (j + 1)).map (R, ·) = (skips.take j).map (R, ·) ++ [(R, skips[j])] := by
      rw [List.take_add_one, List.getElem?_eq_getElem hj', Option.toList_some, List.map_append,
        List.map_singleton]
    obtain ⟨hrun, -⟩ := h.run ((skips.take j).map (R, ·)) (by rw [hprev]; omega)
    have hreach : g.reaches R skips[j] (g.afterSelects ((skips.take j).map (R, ·)) w) = true := by
      unfold Setup.reaches
      rw [hrun.found]
      dsimp only
      rw [hcs j hj']
      simpa using hne
    rw [htake, advancing_append, hprev]
    simp only [Setup.advancing, hreach, and_self, if_true]

/-- `N` selections of `R` in a row that each see the same candidates `cs` pick the candidates at
the starting offset plus `0, 1, …, N - 1`, modulo their number. -/
theorem Setup.Rotating.select_sequence {g : Setup} {R : Int64} {r : Router} {w : World}
    (h : g.Rotating R r w) (skips : List Bool) {cs : List Provider} (hne : cs ≠ [])
    (hlen : cs.length ≤ 9223372036854775808)
    (hmax : g.storedOffset R w + skips.length ≤ 9223372036854775807)
    (hcs : ∀ j (hj : j < skips.length),
      g.candidates r skips[j] (g.afterSelects ((skips.take j).map (R, ·)) w) = cs) :
    ∀ j (hj : j < skips.length), ∃ p, cs[((g.storedOffset R w + j) % cs.length).toNat]? = some p ∧
      (select g.sources R skips[j] (g.afterSelects ((skips.take j).map (R, ·)) w)).1 =
        .ok ⟨r, .roundRobin, p, none⟩ := by
  intro j hj
  have hadv := h.advancing_take skips hne hmax hcs j (by omega)
  have hpick := h.select_after ((skips.take j).map (R, ·)) skips[j] (by rw [hadv]; omega)
    (by rw [hcs j hj]; exact hne) (by rw [hcs j hj]; exact hlen)
  rwa [hadv, hcs j hj] at hpick

/-- Stepping through `N` consecutive offsets from `o`, each of `n` positions comes up `⌊N / n⌋`
or `⌈N / n⌉` times. -/
theorem count_rotation (o : Int) {n : Nat} (hn : 0 < n) (N : Nat) {i : Nat} (hi : i < n) :
    Nat.count (fun j => (o + j) % n = i) N = N / n ∨
      Nat.count (fun j => (o + j) % n = i) N = (N + n - 1) / n := by
  set v := ((i - o) % n).toNat with hv_def
  have hv : (v : Int) = (i - o) % n := Int.toNat_of_nonneg (Int.emod_nonneg _ (by omega))
  have hvn : v < n := by
    have := Int.emod_lt_of_pos (i - o) (by omega : (0 : Int) < n)
    omega
  have hiff : ∀ j : Nat, (o + j) % n = i ↔ j ≡ v [MOD n] := by
    intro j
    have hi' : (i : Int) % n = i := Int.emod_eq_of_lt (by omega) (by omega)
    rw [Nat.ModEq, ← Int.natCast_inj, Int.natCast_mod, Int.natCast_mod, hv,
      Int.emod_emod_of_dvd _ (dvd_refl _)]
    constructor
    · intro h
      have h' : o + j ≡ o + (i - o) [ZMOD n] := by
        unfold Int.ModEq
        rw [h, add_sub_cancel, hi']
      exact Int.ModEq.add_left_cancel' o h'
    · intro h
      have h' := Int.ModEq.add_left o h
      unfold Int.ModEq at h'
      rw [add_sub_cancel, hi'] at h'
      exact h'
  simp only [hiff]
  rw [Nat.count_modEq_card _ hn, Nat.mod_eq_of_lt hvn]
  by_cases hlt : v < N % n
  · right
    have hmod := Nat.mod_lt N hn
    have hceil : (N + n - 1) / n = N / n + 1 := by
      have hsplit : N + n - 1 = n * (N / n) + (N % n + n - 1) := by
        have := Nat.div_add_mod N n
        omega
      have hone : (N % n + n - 1) / n = 1 :=
        Nat.div_eq_of_lt_le (by rw [Nat.one_mul]; omega) (by rw [Nat.add_mul, Nat.one_mul]; omega)
      rw [hsplit, Nat.mul_add_div hn, hone]
    rw [if_pos hlt, hceil]
  · left
    rw [if_neg hlt, Nat.add_zero]

/-- Along every run from `w`, router `R`'s offset has moved by exactly the number of selections
of `R` that reached a candidate, while that stays at most `2^63 - 1`. -/
def Setup.OffsetCountsPicks (g : Setup) (R : Int64) (w : World) : Prop :=
  ∀ reqs : List (Int64 × Bool),
    g.storedOffset R w + g.advancing R reqs w ≤ 9223372036854775807 →
      g.storedOffset R (g.afterSelects reqs w) = g.storedOffset R w + g.advancing R reqs w

/-- After every run from `w` in which `k` selections of `R` reached a candidate, a selection
of `R` with candidates `C` picks `C[(o₀ + k) mod |C|]`, `o₀` being the offset in `w`, while
`o₀ + k` is below `2^63 - 1`. -/
def Setup.PicksInTurn (g : Setup) (R : Int64) (r : Router) (w : World) : Prop :=
  ∀ (reqs : List (Int64 × Bool)) (skipQos : Bool),
    let w' := g.afterSelects reqs w
    let cs := g.candidates r skipQos w'
    g.storedOffset R w + g.advancing R reqs w < 9223372036854775807 → cs ≠ [] →
      cs.length ≤ 9223372036854775808 →
      ∃ p, cs[((g.storedOffset R w + g.advancing R reqs w) % cs.length).toNat]? = some p ∧
        (select g.sources R skipQos w').1 = .ok ⟨r, .roundRobin, p, none⟩

/-- `N` selections of `R` in a row from `w` that each see the same candidates `cs` pick the
ones at the offset in `w` plus `0, 1, …, N - 1`, modulo their number, so each position
`⌊N / |cs|⌋` or `⌈N / |cs|⌉` times, while the offset plus `N` is at most `2^63 - 1`. -/
def Setup.PicksEvenly (g : Setup) (R : Int64) (r : Router) (w : World) : Prop :=
  ∀ (skips : List Bool) (cs : List Provider), cs ≠ [] → cs.length ≤ 9223372036854775808 →
    g.storedOffset R w + skips.length ≤ 9223372036854775807 →
    (∀ j (hj : j < skips.length),
      g.candidates r skips[j] (g.afterSelects ((skips.take j).map (R, ·)) w) = cs) →
    (∀ j (hj : j < skips.length), ∃ p, cs[((g.storedOffset R w + j) % cs.length).toNat]? = some p ∧
      (select g.sources R skips[j] (g.afterSelects ((skips.take j).map (R, ·)) w)).1 =
        .ok ⟨r, .roundRobin, p, none⟩) ∧
    ∀ i < cs.length,
      Nat.count (fun j => (g.storedOffset R w + j) % cs.length = i) skips.length =
          skips.length / cs.length ∨
        Nat.count (fun j => (g.storedOffset R w + j) % cs.length = i) skips.length =
          (skips.length + cs.length - 1) / cs.length

/-- Round robin is exact and fair over every run of selections, whatever the tracker holds:
for a round-robin router whose offset store answers, the offset moves once for each selection
of the router that reaches a candidate and for no other selection, each such selection picks
the candidate at the next offset, and a stretch of selections over the same candidates picks
each of them equally often up to one. -/
theorem round_robin_rotation (g : Setup) (R : Int64) (r : Router) (w : World)
    (h : g.Rotating R r w) :
    g.OffsetCountsPicks R w ∧ g.PicksInTurn R r w ∧ g.PicksEvenly R r w := by
  refine ⟨fun reqs hmax => (h.run reqs hmax).2, fun reqs skipQos hmax hne hlen =>
    h.select_after reqs skipQos hmax hne hlen, ?_⟩
  intro skips cs hne hlen hmax hcs
  have hpos : 0 < cs.length := List.length_pos_iff.mpr hne
  exact ⟨h.select_sequence skips hne hlen hmax hcs,
    fun i hi => count_rotation _ hpos skips.length hi⟩

/-- The rotation of a router whose offset lives on the key-value server, at 5, with an in-memory
tracker. -/
theorem round_robin_rotation_on_key_value_store :
    let r : Router := ⟨7, "chat", "round_robin",
      [⟨"a", "m", QosConfig.none, Signals.none⟩, ⟨"b", "m", QosConfig.none, Signals.none⟩]⟩
    let g : Setup := {
      limiter := ⟨.sliding, "rl"⟩, master := 0, counters := .memory .truthful,
      failMessage := "store down", qosFallback := false, tracker := some .memory,
      tuning := Tracker.Tuning.default, dispatcher := none, notifier := none,
      offsets := .remote, roleCache := none, usersFail := false, version := "", probes := [],
      admin := true, storeTimeout := 250 * Span.millisecond }
    let w := { World.create 0 (.catalog (Directory.Catalog.ofLists [] [] [r])) Span.hour with
      remote := KeyValue.Connection.connect ⟨[(offsetKey 7, ⟨"5", none⟩)], none⟩ }
    g.Rotating 7 r w ∧ g.OffsetCountsPicks 7 w ∧ g.PicksInTurn 7 r w ∧ g.PicksEvenly 7 r w := by
  dsimp only
  refine ⟨?rotating, round_robin_rotation _ 7 _ _ ?rotating⟩
  exact ⟨⟨rfl, rfl, (fun _ hout => nomatch hout), rfl⟩, rfl, rfl⟩

/-- At the greatest offset the key-value server refuses to increment, so the rotation stalls:
with `2^63 - 1` under router 7's key, a selection among three candidates picks the first, not
the one at `(2^63 - 1) mod 3 = 1`, and the offset stays where it was. -/
theorem rotation_stalls_at_greatest_offset :
    let a : Provider := ⟨"a", "m", QosConfig.none, Signals.none⟩
    let r : Router := ⟨7, "chat", "round_robin",
      [a, ⟨"b", "m", QosConfig.none, Signals.none⟩, ⟨"c", "m", QosConfig.none, Signals.none⟩]⟩
    let g : Setup := {
      limiter := ⟨.sliding, "rl"⟩, master := 0, counters := .memory .truthful,
      failMessage := "store down", qosFallback := false, tracker := none,
      tuning := Tracker.Tuning.default, dispatcher := none, notifier := none,
      offsets := .remote, roleCache := none, usersFail := false, version := "", probes := [],
      admin := true, storeTimeout := 250 * Span.millisecond }
    let w := { World.create 0 (.catalog (Directory.Catalog.ofLists [] [] [r])) Span.hour with
      remote := KeyValue.Connection.connect
        ⟨[(offsetKey 7, ⟨"9223372036854775807", none⟩)], none⟩ }
    g.storedOffset 7 w = 9223372036854775807 ∧
      (select g.sources 7 false w).1 = .ok ⟨r, .roundRobin, a, none⟩ ∧
      g.storedOffset 7 (select g.sources 7 false w).2 = 9223372036854775807 :=
  ⟨rfl, rfl, by
    obtain ⟨c, d, hc⟩ := select_snd _ 7 false _
    rw [hc, storedOffset_crashed]
    rfl⟩

end Admission.Gateway
