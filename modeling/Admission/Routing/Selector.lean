import Admission.Routing.Pick
import Admission.Qos.Policy
import Admission.Signals.Tracker

/-!
# Selecting a provider

A selection picks the provider of a router that serves a request:

1. the router is looked up; its failure is the selection's;
2. its providers get their current measurements from the tracker, when there is one and the
   router has providers; if the tracker cannot answer, the providers keep the measurements
   they were stored with;
3. unless quality of service is skipped, the providers its policies reject are left out, and
   with none left the answer is `noCandidates`;
4. a round-robin router takes the next rotation offset (0 when the offset store fails);
5. the router's strategy is read, an unknown one failing as `router <id>: <cause>`, and it
   picks among the candidates, a shuffle drawing from the sources' generator.

Along the way the selection records metrics labelled with provider ids, and reports each such
id (`Sources.label`): every provider with a measurement from the tracker, every provider a
policy rejects, and the pick.
-/

namespace Admission.Routing

open Tracker

/-- The outcome of a selection. -/
structure Selection where
  /-- The router, as looked up. -/
  router : Router
  /-- Its strategy. -/
  strategy : Strategy
  /-- The provider the strategy picked. -/
  provider : Provider
  /-- The load score of the pick, for a strategy that ranks by load. -/
  score : Option Binary64
  deriving Repr

/-- What a selection reads, with state `σ`. -/
structure Sources (σ : Type) where
  /-- The router with an id. -/
  router : Int64 → σ → Except Fault Router × σ
  /-- The tracker's measurements of providers, when there is a tracker. -/
  snapshot : Option (List String → σ → Except Fault Readings × σ)
  /-- The next rotation offset of a router. -/
  nextOffset : Int64 → σ → Except Fault Int64 × σ
  /-- Records a metric labelled with a provider id. -/
  label : String → σ → σ
  /-- The generator a shuffling strategy draws from. -/
  draw : Draw σ

/-- Records a metric for each provider id in turn. -/
def labelAll (label : String → σ → σ) (ids : List String) (s : σ) : σ :=
  ids.foldl (fun s id => label id s) s

/-- Providers with their current measurements; each provider with a measurement is labelled. -/
def withSignals (src : Sources σ) (providers : List Provider) (s : σ) : List Provider × σ :=
  match src.snapshot, providers with
  | none, ps => (ps, s)
  | _, [] => ([], s)
  | some read, ps =>
    match read (ps.map (·.id)) s with
    | (.ok r, s) =>
      let ps := ps.map fun p => { p with signals := r.get p.id }
      let measured := ps.filter fun p =>
        p.signals.performanceIndicator.isSome || p.signals.parallelRequests.isSome
      (ps, labelAll src.label (measured.map (·.id)) s)
    | (.error _, s) => (ps, s)

/-- The rotation offset for a router's pick: the store's, or 0 when it fails. -/
def offsetFor (src : Sources σ) (r : Router) (id : Int64) (s : σ) : Int64 × σ :=
  if r.strategy = Strategy.roundRobin.name then
    match src.nextOffset id s with
    | (.ok o, s) => (o, s)
    | (.error _, s) => (0, s)
  else (0, s)

/-- Selects a provider of the router `id`; `skipQos` leaves the policies out. -/
def select (src : Sources σ) (id : Int64) (skipQos : Bool) (s : σ) : Except Fault Selection × σ :=
  match src.router id s with
  | (.error f, s) => (.error f, s)
  | (.ok r, s) =>
    let (candidates, s) := withSignals src r.providers s
    let (candidates, s) := if skipQos then (candidates, s)
      else
        let (kept, rejected) := Qos.filter candidates
        (kept, labelAll src.label (rejected.map (·.provider)) s)
    if candidates.isEmpty then (.error (.sentinel .noCandidates), s)
    else
      let (offset, s) := offsetFor src r id s
      match Strategy.parse r.strategy with
      | .error f => (.error (.context ("router " ++ toString id.toInt) f), s)
      | .ok strategy =>
        match strategy.pick offset src.draw candidates s with
        | (.error f, s) => (.error f, s)
        | (.ok (p, score), s) => (.ok ⟨r, strategy, p, score⟩, src.label p.id s)

end Admission.Routing
