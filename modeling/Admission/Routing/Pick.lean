import Admission.Router
import Admission.Routing.Cycle
import Admission.Binary64.Arith

/-!
# Picking a provider

How each strategy picks among a non-empty list of candidates:

* round robin: the candidate at the offset, brought into range as a `Cycle` does;
* least busy: the first candidate with the fewest requests in flight, an unknown count being
  zero; its count is reported as the load score;
* shuffle: the candidate at a uniform random draw. The draw comes from a generator whose state
  the pick threads through (`Draw`): it names one of the `n + 1` candidates of a pool.

An empty list has nothing to pick: `noCandidates`.
-/

namespace Admission

/-- A uniform random draw among `n + 1` candidates, from a generator with state `σ`: an index of
them, and the generator's next state. -/
def Draw (σ : Type) : Type := (n : Nat) → σ → Fin (n + 1) × σ

/-- The requests in flight of a provider, zero when unknown. -/
def Provider.load (p : Provider) : Int64 := p.signals.parallelRequests.getD 0

/-- The first provider with the least load among `best` and the rest. -/
def leastLoaded (best : Provider) : List Provider → Provider
  | [] => best
  | p :: ps => if p.load.toInt < best.load.toInt then leastLoaded p ps else leastLoaded best ps

/-- The pick of a strategy among candidates: the provider, with the load score when the strategy
ranks by load. Round robin uses the rotation offset, shuffle a draw from the generator `draw`,
whose state `st` the pick passes on. -/
def Strategy.pick (s : Strategy) (offset : Int64) (draw : Draw σ) (candidates : List Provider)
    (st : σ) : Except Fault (Provider × Option Binary64) × σ :=
  match s, candidates with
  | _, [] => (.error (.sentinel .noCandidates), st)
  | .roundRobin, cs => ((Cycle.start cs offset).next.map fun (p, _) => (p, none), st)
  | .leastBusy, c :: cs =>
    let p := leastLoaded c cs
    (.ok (p, some (Binary64.ofInt p.load.toInt)), st)
  | .shuffle, c :: cs =>
    let (i, st) := draw cs.length st
    (.ok ((c :: cs).get i, none), st)

end Admission
