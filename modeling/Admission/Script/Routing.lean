import Admission.Script.Basic
import Admission.Routing.Pick
import Admission.Qos.Policy

/-!
# Scripts on routing

* `cycle`: a rotation cycle over `items` from `offset`, driven by the steps `next` and
  `offset`.
* `qos_apply`: one ceiling against one set of signals.
* `qos_filter`: the quality-of-service filter over a provider list.
* `strategy`: one strategy's pick among candidates.
* `parse_routing_strategy`: the strategy a text names.

A shuffle among several candidates is reported without the member drawn, as `"shuffled":true`,
since which member it is does not follow from the inputs.
-/

namespace Admission.Script

/-- A provider-list field. -/
def providers (j : Json) (name : String) : Option (List Provider) :=
  field j name (Reader.list Provider.reader Provider.zero) []

/-- Runs the steps of a cycle script. -/
def cycleSteps : Cycle String → List String → List Json
  | _, [] => []
  | c, s :: ss =>
    if s = "next" then
      match c.next with
      | .ok (x, c') => .object [("item", .string x), ("offset", .int c'.offset.toInt)] :: cycleSteps c' ss
      | .error f => (fault f).push "offset" (.int c.offset.toInt) :: cycleSteps c ss
    else if s = "offset" then .object [("offset", .int c.offset.toInt)] :: cycleSteps c ss
    else badInput :: cycleSteps c ss

/-- `cycle {items, offset, steps}`. -/
def cycle (j : Json) : Json := orBad do
  let items ← texts j "items"
  let offset ← int j "offset"
  let steps ← texts j "steps"
  pure (results (cycleSteps (Cycle.start items offset) steps))

/-- `qos_apply {policy, threshold, max_parallel, performance_indicator, parallel_requests}`. -/
def qosApply (j : Json) : Json := orBad do
  let policy ← text j "policy"
  let threshold ← float j "threshold"
  let maxParallel ← int j "max_parallel"
  let indicator ← floatOpt j "performance_indicator"
  let parallel ← intOpt j "parallel_requests"
  let ceiling ← if policy = "performance_threshold" then some (Qos.Ceiling.performance threshold)
    else if policy = "parallel_requests_threshold" then some (Qos.Ceiling.parallel maxParallel)
    else none
  pure (.object [("allowed", .bool (ceiling.admits ⟨indicator, parallel⟩)), ("name", .string ceiling.name)])

/-- `qos_filter {providers}`. -/
def qosFilter (j : Json) : Json := orBad do
  let ps ← providers j "providers"
  let (eligible, rejected) := Qos.filter ps
  pure (.object [
    ("eligible", Json.strings (eligible.map (·.id))),
    ("rejected", .array (rejected.map fun r =>
      .object [("provider", .string r.provider), ("policy", .string r.policy)])),
    ("policies", .array (ps.map fun p => Json.strings ((Qos.policiesFor p.qos).map (·.name))))])

/-- A pick as an answer. A shuffle among several candidates shows no member, since which one it
draws does not follow from the inputs; it shows that the member drawn is one of them. -/
def pickJson (name : String) (shuffled : Bool) (candidates : List Provider) (p : Provider)
    (score : Option Binary64) : Json :=
  if shuffled then
    .object [("name", .string name), ("provider", .null), ("score", .null),
      ("shuffled", .bool true), ("in_pool", .bool (candidates.any (·.id == p.id)))]
  else .object [("name", .string name), ("provider", .string p.id), ("score", Json.floatOpt score)]

/-- The draw of a script: the first candidate. -/
def firstDraw : Draw Unit := fun _ u => (0, u)

/-- `strategy {kind, offset, candidates}`. -/
def strategy (j : Json) : Json := orBad do
  let kind ← text j "kind"
  let offset ← int j "offset"
  let candidates ← providers j "candidates"
  pure <| match Strategy.parse kind with
    | .error f => fault f
    | .ok s =>
      match (s.pick offset firstDraw candidates ()).1 with
      | .error f => (fault f).push "name" (.string s.name)
      | .ok (p, score) =>
        pickJson s.name (s == .shuffle && 1 < candidates.length) candidates p score

/-- `parse_routing_strategy {s}`. -/
def parseRoutingStrategy (j : Json) : Json := orBad do
  let s ← text j "s"
  pure <| match Strategy.parse s with
    | .ok st => .object [("strategy", .string st.name)]
    | .error f => fault f

end Admission.Script
