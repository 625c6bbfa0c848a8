import Admission.Gateway.World
import Admission.Proofs.CycleRestart

/-!
# What a selection answers

A selection looks the router up, attaches the tracker's measurements to its providers, leaves
out the providers their policies reject, and lets the router's strategy pick among the rest.
This module states each of those steps on its own terms and puts them together for a running
gateway (`select_behaviour`).

* A provider's policies reject it exactly when it is not in warn-only mode and one of its
  known measurements is strictly above its ceiling (`Qos.crossed`); the filter keeps the
  others in order (`Qos.filter_fst`).
* Round robin picks the candidate at the offset taken modulo the number of candidates, for
  any pool that a 64-bit length can count (`pick_roundRobin`); least busy picks the first
  candidate with the least load (`FirstLeast`, `pick_leastBusy`); shuffle draws from the
  whole pool, which for a single candidate is that candidate (`pick_shuffle`).
* In a running gateway, reading the tracker changes nothing and recording metrics only ever
  marks the run as crashed, so the offset a round-robin pick uses is the one the offset store
  answers in the world the selection started from.

When the tracker gives no readings, because there is none, the router has no providers or
the tracker fails, the providers keep the measurements they were stored with.
-/

namespace Admission

namespace Qos

/-- Whether a provider's settings reject its measurements: outside warn-only mode, a known
performance indicator strictly above its threshold, or a known count of requests in flight
strictly above its maximum. -/
def crossed (p : Provider) : Bool :=
  !p.qos.warnOnly &&
    ((match p.qos.performanceThreshold, p.signals.performanceIndicator with
      | some t, some x => Binary64.lt t x
      | _, _ => false) ||
     match p.qos.maxParallelRequests, p.signals.parallelRequests with
      | some m, some n => decide (m.toInt < n.toInt)
      | _, _ => false)

/-- A provider passes its policies exactly when its settings do not reject its measurements. -/
theorem firstRejecting_eq_none_iff (p : Provider) :
    firstRejecting (policiesFor p.qos) p.signals = none ↔ crossed p = false := by
  rcases p with ⟨id, model, ⟨threshold, maximum, warnOnly⟩, ⟨indicator, parallel⟩⟩
  cases warnOnly <;> cases threshold <;> cases maximum <;> cases indicator <;>
    cases parallel <;>
    simp [firstRejecting, policiesFor, ceilings, crossed, Policy.admits, Ceiling.admits]

/-- The filter keeps, in order, the providers whose settings do not reject them. -/
theorem filter_fst (providers : List Provider) :
    (filter providers).1 = providers.filter fun p => !crossed p := by
  induction providers with
  | nil => rfl
  | cons p ps ih =>
    unfold filter at ih ⊢
    rw [List.foldr_cons]
    cases h : firstRejecting (policiesFor p.qos) p.signals with
    | none =>
      have hpass := (firstRejecting_eq_none_iff p).mp h
      simp [hpass, ih]
    | some pol =>
      have hreject : crossed p = true := by
        cases hc : crossed p with
        | true => rfl
        | false => simp [(firstRejecting_eq_none_iff p).mpr hc] at h
      simp [hreject, ih]

end Qos

/-- The candidate `best` stands at index `i` of `seen`, carries the least load of all of them,
and every candidate before it carries more. -/
def FirstLeast (seen : List Provider) (i : Nat) (best : Provider) : Prop :=
  seen[i]? = some best ∧ (∀ q ∈ seen, best.load.toInt ≤ q.load.toInt) ∧
    ∀ j < i, ∀ q, seen[j]? = some q → best.load.toInt < q.load.toInt

/-- A lone candidate is the first with the least load. -/
theorem FirstLeast.singleton (p : Provider) : FirstLeast [p] 0 p := by
  refine ⟨rfl, ?_, ?_⟩
  · simp
  · intro j hj
    omega

/-- One more candidate: it takes over when it carries strictly less load, and the earlier
choice stands otherwise. -/
theorem FirstLeast.step {seen : List Provider} {i : Nat} {best : Provider}
    (h : FirstLeast seen i best) (p : Provider) :
    FirstLeast (seen ++ [p]) (if p.load.toInt < best.load.toInt then seen.length else i)
      (if p.load.toInt < best.load.toInt then p else best) := by
  obtain ⟨hat, hmin, hfirst⟩ := h
  have hi : i < seen.length := (List.getElem?_eq_some_iff.mp hat).1
  by_cases hless : p.load.toInt < best.load.toInt
  · simp only [hless, if_true]
    refine ⟨by simp, ?_, ?_⟩
    · intro q hq
      rcases List.mem_append.mp hq with hq | hq
      · have := hmin q hq
        omega
      · obtain rfl := List.mem_singleton.mp hq
        exact Int.le_refl _
    · intro j hj q hq
      rw [List.getElem?_append_left hj] at hq
      have := hmin q (List.mem_of_getElem? hq)
      omega
  · simp only [hless, if_false]
    refine ⟨by rw [List.getElem?_append_left hi]; exact hat, ?_, ?_⟩
    · intro q hq
      rcases List.mem_append.mp hq with hq | hq
      · exact hmin q hq
      · rw [List.mem_singleton.mp hq]
        omega
    · intro j hj q hq
      rw [List.getElem?_append_left (Nat.lt_trans hj hi)] at hq
      exact hfirst j hj q hq

/-- The scan of least busy ends on the first candidate with the least load, whatever prefix it
has already scanned. -/
theorem leastLoaded_firstLeast :
    ∀ (rest seen : List Provider) (i : Nat) (best : Provider), FirstLeast seen i best →
      ∃ k, FirstLeast (seen ++ rest) k (leastLoaded best rest)
  | [], seen, i, best, h => ⟨i, by simpa [leastLoaded] using h⟩
  | p :: ps, seen, i, best, h => by
    obtain ⟨k, hk⟩ := leastLoaded_firstLeast ps (seen ++ [p]) _ _ (h.step p)
    refine ⟨k, ?_⟩
    have hscan : leastLoaded best (p :: ps) =
        leastLoaded (if p.load.toInt < best.load.toInt then p else best) ps := by
      by_cases hless : p.load.toInt < best.load.toInt <;> simp [leastLoaded, hless]
    rw [hscan]
    simpa using hk

section Picks

variable {σ : Type} (draw : Draw σ) (st : σ)

/-- Round robin picks the candidate at the offset modulo the number of candidates, for a pool
of at most `2^63` candidates, and leaves the generator alone. -/
theorem pick_roundRobin (offset : Int64) {cs : List Provider} (hne : cs ≠ [])
    (hlen : cs.length ≤ 9223372036854775808) :
    ∃ p, cs[(offset.toInt % cs.length).toNat]? = some p ∧
      Strategy.roundRobin.pick offset draw cs st = (.ok (p, none), st) := by
  have hpos : 0 < cs.length := List.length_pos_iff.mpr hne
  have hnormal := Cycle.start_normal hne hlen offset
  obtain ⟨p, hp, hcall⟩ := hnormal.call_eq
  have hoffset : (Cycle.start cs offset).offset.toInt = offset.toInt % cs.length :=
    Cycle.toInt_normalize offset hpos hlen
  have hnext : ∃ c', (Cycle.start cs offset).next = .ok (p, c') := by
    revert hcall
    unfold Cycle.call
    rcases (Cycle.start cs offset).next with f | ⟨x, c'⟩ <;> simp +contextual
  obtain ⟨c', hnext⟩ := hnext
  refine ⟨p, by rwa [hoffset] at hp, ?_⟩
  cases cs with
  | nil => exact absurd rfl hne
  | cons c rest =>
    show (((Cycle.start (c :: rest) offset).next.map fun x => (x.1, none)), st) = _
    rw [hnext]
    rfl

/-- Least busy picks the first candidate with the least load and reports that load. -/
theorem pick_leastBusy (offset : Int64) {cs : List Provider} (hne : cs ≠ []) :
    ∃ i p, FirstLeast cs i p ∧
      Strategy.leastBusy.pick offset draw cs st =
        (.ok (p, some (Binary64.ofInt p.load.toInt)), st) := by
  cases cs with
  | nil => exact absurd rfl hne
  | cons c rest =>
    obtain ⟨k, hk⟩ := leastLoaded_firstLeast rest [c] 0 c (FirstLeast.singleton c)
    exact ⟨k, leastLoaded c rest, hk, rfl⟩

/-- Shuffle picks the candidate the generator draws, one of the pool. -/
theorem pick_shuffle (offset : Int64) {cs : List Provider} (hne : cs ≠ []) :
    ∃ p ∈ cs, ∃ st', Strategy.shuffle.pick offset draw cs st = (.ok (p, none), st') := by
  cases cs with
  | nil => exact absurd rfl hne
  | cons c rest =>
    exact ⟨(c :: rest).get (draw rest.length st).1, List.get_mem _ _, _, rfl⟩

/-- A cycle over some items never fails for want of one. -/
theorem Cycle.next_ne_noCandidates {α : Type} {c : Cycle α} (hne : c.items ≠ []) :
    c.next ≠ .error (.sentinel .noCandidates) := by
  have hempty : c.items.isEmpty = false := List.isEmpty_eq_false_iff.mpr hne
  unfold Cycle.next
  simp only [hempty, Bool.false_eq_true, if_false]
  split <;> simp

/-- A pick among candidates never fails for want of one: round robin may meet an offset outside
the pool only as a runtime failure, which is no such refusal. -/
theorem pick_ne_noCandidates (strategy : Strategy) (offset : Int64) {cs : List Provider}
    (hne : cs ≠ []) :
    (strategy.pick offset draw cs st).1 ≠ .error (.sentinel .noCandidates) := by
  cases cs with
  | nil => exact absurd rfl hne
  | cons c rest =>
    cases strategy with
    | roundRobin =>
      show ((Cycle.start (c :: rest) offset).next.map fun x => (x.1, none)) ≠ _
      have hnext := Cycle.next_ne_noCandidates (c := Cycle.start (c :: rest) offset)
        (List.cons_ne_nil c rest)
      rcases hres : (Cycle.start (c :: rest) offset).next with f | x
      · rw [hres] at hnext
        simpa [Except.map] using hnext
      · simp [Except.map]
    | leastBusy => simp [Strategy.pick]
    | shuffle => simp [Strategy.pick]

/-- A pick reads the generator's state only: two states with the same draws give the same
pick. -/
theorem pick_fst_of_draw {strategy : Strategy} {offset : Int64} {cs : List Provider} {st' : σ}
    (hdraw : ∀ n, (draw n st).1 = (draw n st').1) :
    (strategy.pick offset draw cs st).1 = (strategy.pick offset draw cs st').1 := by
  unfold Strategy.pick
  split
  · rfl
  · rfl
  · rfl
  · simp only [hdraw]

end Picks

namespace Gateway

open Routing Tracker KeyValue Quota

@[simp] theorem sources_router (g : Setup) (id : Int64) (w : World) :
    g.sources.router id w = (w.directory.router id, w) := rfl

@[simp] theorem sources_snapshot (g : Setup) : g.sources.snapshot = g.snapshot g.expired := rfl

@[simp] theorem sources_nextOffset (g : Setup) : g.sources.nextOffset = g.nextOffset := rfl

@[simp] theorem sources_label (g : Setup) : g.sources.label = World.label := rfl

@[simp] theorem sources_draw (g : Setup) : g.sources.draw = World.draw := rfl

/-- A snapshot on the key-value server leaves the client as it was: `MGET` writes nothing. -/
theorem remote_snapshot_snd (expired : Bool) (now : Instant) (ids : List String)
    (c : Connection) : (Remote.snapshot expired now ids c).2 = c := by
  rcases c with ⟨server, closed⟩
  unfold Remote.snapshot snapshotVia remoteCall Connection.mget Connection.call Server.mget
    Server.command
  by_cases hids : ids.isEmpty
  · simp [hids]
  · simp only [hids]
    by_cases hexp : expired
    · simp [hexp]
    · cases closed with
      | true => simp [hexp]
      | false =>
        cases houtage : server.outage with
        | none => simp [hexp]
        | some o => by_cases hcover : o.covers "MGET" <;> simp [hexp, hcover]

/-- Reading the tracker leaves the world as it was. -/
theorem snapshot_world (g : Setup) (expired : Bool)
    {read : List String → World → Except Fault Readings × World}
    (h : g.snapshot expired = some read) (ids : List String) (w : World) : (read ids w).2 = w := by
  unfold Setup.snapshot at h
  cases htracker : g.tracker with
  | none => simp [htracker] at h
  | some choice =>
    simp only [htracker, Option.map_some, Option.some.injEq] at h
    subst h
    cases choice with
    | remote => simp [remote_snapshot_snd]
    | _ => rfl

/-- Recording metrics only ever marks the run as crashed. -/
theorem label_world (id : String) (w : World) :
    ∃ c, World.label id w = { w with crashed := c } := by
  unfold World.label World.crash
  split
  · exact ⟨w.crashed, rfl⟩
  · exact ⟨_, rfl⟩

theorem labelAll_world (ids : List String) (w : World) :
    ∃ c, labelAll World.label ids w = { w with crashed := c } := by
  induction ids generalizing w with
  | nil => exact ⟨w.crashed, rfl⟩
  | cons id ids ih =>
    obtain ⟨c, hc⟩ := ih (World.label id w)
    obtain ⟨c₁, hc₁⟩ := label_world id w
    refine ⟨c, ?_⟩
    simp only [labelAll, List.foldl_cons] at hc ⊢
    rw [hc, hc₁]

/-- Whether the run has crashed does not change what the offset store answers. -/
theorem nextOffset_crashed (g : Setup) (id : Int64) (w : World) (c : Option String) :
    (g.nextOffset id { w with crashed := c }).1 = (g.nextOffset id w).1 := by
  unfold Setup.nextOffset
  cases g.offsets with
  | remote =>
    dsimp only
    split <;> rfl
  | _ => rfl

/-- The providers of a router as a selection in `w` sees them: with the tracker's readings
attached, a provider the readings miss getting no measurements; as stored when there is no
tracker, no provider or no readings. -/
def Setup.seenProviders (g : Setup) (providers : List Provider) (w : World) : List Provider :=
  match g.snapshot g.expired, providers with
  | some read, _ :: _ =>
    match (read (providers.map (·.id)) w).1 with
    | .ok readings => providers.map fun p => { p with signals := readings.get p.id }
    | .error _ => providers
  | _, _ => providers

/-- The candidates of a selection of router `r`: the providers it sees, less those whose
settings reject them unless quality of service is skipped. -/
def Setup.candidates (g : Setup) (r : Router) (skipQos : Bool) (w : World) : List Provider :=
  if skipQos then g.seenProviders r.providers w
  else (g.seenProviders r.providers w).filter fun p => !Qos.crossed p

/-- The offset a round-robin pick of router `id` uses in `w`: the store's, 0 when it fails. -/
def Setup.offsetIn (g : Setup) (id : Int64) (w : World) : Int64 :=
  match (g.nextOffset id w).1 with
  | .ok o => o
  | .error _ => 0

/-- Attaching the tracker's readings sees the providers as `seenProviders` says, and leaves the
world but for a crash. -/
theorem withSignals_world (g : Setup) (providers : List Provider) (w : World) :
    (withSignals g.sources providers w).1 = g.seenProviders providers w ∧
      ∃ c, (withSignals g.sources providers w).2 = { w with crashed := c } := by
  unfold withSignals Setup.seenProviders
  rw [sources_snapshot]
  cases hsnap : g.snapshot g.expired with
  | none => exact ⟨rfl, w.crashed, rfl⟩
  | some read =>
    cases providers with
    | nil => exact ⟨rfl, w.crashed, rfl⟩
    | cons p ps =>
      have hstay := snapshot_world g g.expired hsnap ((p :: ps).map (·.id)) w
      dsimp only
      cases hread : read ((p :: ps).map (·.id)) w with
      | mk answer s =>
        have hs : w = s := by
          rw [hread] at hstay
          exact hstay.symm
        subst hs
        cases answer with
        | ok readings => exact ⟨rfl, labelAll_world _ _⟩
        | error f => exact ⟨rfl, w.crashed, rfl⟩

/-- The candidates of a selection and the world after they are known: the world it started
from, but for a crash. -/
theorem candidates_world (g : Setup) (r : Router) (skipQos : Bool) (w : World) :
    let (seen, s) := withSignals g.sources r.providers w
    let (cs, s) := if skipQos then (seen, s)
      else ((Qos.filter seen).1, labelAll g.sources.label ((Qos.filter seen).2.map (·.provider)) s)
    cs = g.candidates r skipQos w ∧ ∃ c, s = { w with crashed := c } := by
  obtain ⟨hseen, c, hs⟩ := withSignals_world g r.providers w
  rcases hsig : withSignals g.sources r.providers w with ⟨seen, s⟩
  rw [hsig] at hseen hs
  subst hseen hs
  cases skipQos with
  | true => exact ⟨rfl, c, rfl⟩
  | false =>
    obtain ⟨c', hc'⟩ := labelAll_world ((Qos.filter (g.seenProviders r.providers w)).2.map
      (·.provider)) { w with crashed := c }
    refine ⟨by simp [Setup.candidates, Qos.filter_fst], c', ?_⟩
    exact hc'

/-- Advancing a rotation offset leaves the generator alone. -/
theorem nextOffset_draws (g : Setup) (id : Int64) (w : World) :
    (g.nextOffset id w).2.draws = w.draws := by
  unfold Setup.nextOffset
  cases g.offsets with
  | remote =>
    dsimp only
    split <;> rfl
  | _ => rfl

/-- Taking the offset for a pick leaves the generator alone. -/
theorem offsetFor_draws (g : Setup) (r : Router) (id : Int64) (w : World) :
    (offsetFor g.sources r id w).2.draws = w.draws := by
  unfold offsetFor
  split
  · rw [sources_nextOffset]
    have hdraws := nextOffset_draws g id w
    revert hdraws
    rcases g.nextOffset id w with ⟨_ | _, w'⟩ <;> exact fun h => h
  · rfl

/-- The offset a pick of router `r` uses, taken in a world that differs from `w` only by a
crash: the store's answer in `w` for round robin, 0 for any other strategy. -/
theorem offsetFor_fst (g : Setup) (r : Router) (id : Int64) (w : World) (c : Option String) :
    (offsetFor g.sources r id { w with crashed := c }).1 =
      if r.strategy = "round_robin" then g.offsetIn id w else 0 := by
  unfold offsetFor Setup.offsetIn
  rw [sources_nextOffset]
  have hsame := nextOffset_crashed g id w c
  by_cases hrr : r.strategy = "round_robin"
  · simp only [Strategy.name, hrr, if_true] at hsame ⊢
    revert hsame
    rcases g.nextOffset id { w with crashed := c } with ⟨_ | o, _⟩ <;>
      rcases g.nextOffset id w with ⟨_ | o', _⟩ <;> simp
  · simp [Strategy.name, hrr]

/-- A pick in a running gateway changes nothing but the number of draws. -/
theorem pick_snd_world (strategy : Strategy) (offset : Int64) (cs : List Provider) (w : World) :
    ∃ d, (strategy.pick offset World.draw cs w).2 = { w with draws := d } := by
  unfold Strategy.pick
  split
  · exact ⟨w.draws, rfl⟩
  · exact ⟨w.draws, rfl⟩
  · exact ⟨w.draws, rfl⟩
  · exact ⟨w.draws + 1, rfl⟩

/-- A draw reads the number of draws only. -/
theorem draw_fst_of_draws {w w' : World} (h : w.draws = w'.draws) (n : Nat) :
    (World.draw n w).1 = (World.draw n w').1 := by
  simp [World.draw, h]

/-- A selection of a router the directory has: no candidates, then an unknown strategy, fail;
otherwise the strategy picks among the candidates, round robin at the offset the store answers
in the world the selection started from, shuffle drawing from that world's generator. -/
theorem select_world (g : Setup) (id : Int64) (skipQos : Bool) (w : World) {r : Router}
    (hr : w.directory.router id = .ok r) :
    (select g.sources id skipQos w).1 =
      if g.candidates r skipQos w = [] then .error (.sentinel .noCandidates)
      else
        match Strategy.parse r.strategy with
        | .error f => .error (.context ("router " ++ toString id.toInt) f)
        | .ok strategy =>
          (strategy.pick (if r.strategy = "round_robin" then g.offsetIn id w else 0) World.draw
            (g.candidates r skipQos w) w).1.map fun (p, score) => ⟨r, strategy, p, score⟩ := by
  have hcand := candidates_world g r skipQos w
  unfold select
  rw [sources_router, hr]
  dsimp only
  revert hcand
  rcases withSignals g.sources r.providers w with ⟨seen, s₁⟩
  dsimp only
  generalize (if skipQos then (seen, s₁) else ((Qos.filter seen).1,
    labelAll g.sources.label ((Qos.filter seen).2.map (·.provider)) s₁)) = after
  rcases after with ⟨cs, s₂⟩
  rintro ⟨rfl, c, rfl⟩
  by_cases hempty : g.candidates r skipQos w = []
  · simp [hempty]
  · have hoffset := offsetFor_fst g r id w c
    have hdraws := offsetFor_draws g r id { w with crashed := c }
    simp only [List.isEmpty_iff, hempty, if_false]
    rcases hoff : offsetFor g.sources r id { w with crashed := c } with ⟨offset, s₃⟩
    rw [hoff] at hoffset hdraws
    simp only at hoffset hdraws
    subst hoffset
    cases Strategy.parse r.strategy with
    | error f => rfl
    | ok strategy =>
      dsimp only
      rw [sources_draw, pick_fst_of_draw World.draw w (draw_fst_of_draws hdraws.symm)]
      rcases strategy.pick _ World.draw (g.candidates r skipQos w) s₃ with
        ⟨_ | ⟨p, score⟩, s₄⟩ <;> rfl

/-- The whole behaviour of a selection in a running gateway. A router the directory cannot give
fails the selection with the directory's failure. Otherwise the candidates are the router's
providers with the tracker's readings attached (no measurements for a provider the readings
miss, and the stored ones when the tracker gives no readings), less, unless quality of service
is skipped, those not in warn-only mode with a known measurement strictly above its ceiling,
in order. The selection fails with `noCandidates` exactly when there are none. Otherwise an
unknown strategy fails as `router <id>: <cause>`; round robin picks the candidate at the
offset the store answers (0 when it fails) modulo the number of candidates; least busy picks
the first candidate with the least load and reports that load; shuffle, or no strategy at all,
picks one of the candidates, the one the generator draws. -/
theorem select_behaviour (g : Setup) (id : Int64) (skipQos : Bool) (w : World) :
    match w.directory.router id with
    | .error f => (select g.sources id skipQos w).1 = .error f
    | .ok r =>
      let cs := g.candidates r skipQos w
      ((select g.sources id skipQos w).1 = .error (.sentinel .noCandidates) ↔ cs = []) ∧
      (cs ≠ [] → ∀ f, Strategy.parse r.strategy = .error f →
        (select g.sources id skipQos w).1 = .error (.context ("router " ++ toString id.toInt) f)) ∧
      (cs ≠ [] → r.strategy = "round_robin" → cs.length ≤ 9223372036854775808 →
        ∃ p, cs[((g.offsetIn id w).toInt % cs.length).toNat]? = some p ∧
          (select g.sources id skipQos w).1 = .ok ⟨r, .roundRobin, p, none⟩) ∧
      (cs ≠ [] → r.strategy = "least_busy" → ∃ i p, FirstLeast cs i p ∧
        (select g.sources id skipQos w).1 =
          .ok ⟨r, .leastBusy, p, some (Binary64.ofInt p.load.toInt)⟩) ∧
      (cs ≠ [] → (r.strategy = "shuffle" ∨ r.strategy = "") →
        ∃ p ∈ cs, (select g.sources id skipQos w).1 = .ok ⟨r, .shuffle, p, none⟩) := by
  cases hr : w.directory.router id with
  | error f => simp [select, hr]
  | ok r =>
    have hsel := select_world g id skipQos w hr
    dsimp only
    refine ⟨?_, ?_, ?_, ?_, ?_⟩
    · rw [hsel]
      by_cases hempty : g.candidates r skipQos w = []
      · simp [hempty]
      · simp only [hempty, if_false, iff_false]
        cases Strategy.parse r.strategy with
        | error f => simp
        | ok strategy =>
          have hpick := pick_ne_noCandidates World.draw w strategy
            (if r.strategy = "round_robin" then g.offsetIn id w else 0) hempty
          rcases hres : (strategy.pick _ World.draw (g.candidates r skipQos w) w).1 with f | x
          · rw [hres] at hpick
            simpa [hres, Except.map] using hpick
          · simp [hres, Except.map]
    · intro hne f hparse
      rw [hsel, if_neg hne, hparse]
    · intro hne hrr hlen
      have hparse : Strategy.parse r.strategy = .ok .roundRobin := by simp [Strategy.parse, hrr]
      obtain ⟨p, hp, hpick⟩ := pick_roundRobin World.draw w (g.offsetIn id w) hne hlen
      refine ⟨p, hp, ?_⟩
      rw [hsel, if_neg hne, hparse]
      simp [hrr, hpick, Except.map]
    · intro hne hlb
      have hparse : Strategy.parse r.strategy = .ok .leastBusy := by simp [Strategy.parse, hlb]
      obtain ⟨i, p, hfirst, hpick⟩ := pick_leastBusy World.draw w 0 hne
      refine ⟨i, p, hfirst, ?_⟩
      rw [hsel, if_neg hne, hparse]
      simp [hlb, hpick, Except.map]
    · intro hne hsh
      have hparse : Strategy.parse r.strategy = .ok .shuffle := by
        rcases hsh with hsh | hsh <;> simp [Strategy.parse, hsh]
      have hnrr : ¬r.strategy = "round_robin" := by rcases hsh with hsh | hsh <;> simp [hsh]
      obtain ⟨p, hp, w', hpick⟩ := pick_shuffle World.draw w 0 hne
      refine ⟨p, hp, ?_⟩
      rw [hsel, if_neg hne, hparse]
      simp [hnrr, hpick, Except.map]

/-- A failed snapshot does not clear measurements: over a directory that stored router 7's
only provider with ten requests in flight against a ceiling of five, a selection with a failing
tracker still sees the ten and finds no candidate, although the provider with no measurements
would pass its policy. -/
theorem stored_signals_outlive_failed_snapshot :
    let p : Provider := ⟨"a", "m", ⟨none, some 5, false⟩, ⟨none, some 10⟩⟩
    let g : Setup := {
      limiter := ⟨.sliding, "rl"⟩, master := 0, counters := .memory .truthful,
      failMessage := "store down", qosFallback := false, tracker := some .broken,
      tuning := Tuning.default, dispatcher := none, notifier := none, offsets := .directory,
      roleCache := none, usersFail := false, version := "", probes := [], admin := true,
      storeTimeout := 250 * Span.millisecond }
    let w := World.create 0
      (.catalog (Directory.Catalog.ofLists [] [] [⟨7, "chat", "round_robin", [p]⟩])) Span.hour
    (select g.sources 7 false w).1 = .error (.sentinel .noCandidates) ∧
      [{ p with signals := Signals.none }].filter (fun q => !Qos.crossed q) ≠ [] :=
  ⟨rfl, by decide⟩

end Gateway

end Admission
