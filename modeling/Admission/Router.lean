import Admission.Provider
import Admission.Fault
import Admission.Text.Quoted

/-!
# Routers

A router is a named model endpoint with an ordered pool of providers and a routing strategy:
round robin, shuffle (a uniformly random member) or least busy (the fewest requests in
flight). The strategy is kept as the text it was configured with; the empty text means
shuffle, and any other unknown text is refused when a request is routed.
-/

namespace Admission

/-- How a router picks among its candidates. -/
inductive Strategy where
  /-- Each member in turn, by a shared offset. -/
  | roundRobin
  /-- A uniformly random member. -/
  | shuffle
  /-- The first member with the fewest requests in flight. -/
  | leastBusy
  deriving DecidableEq, Repr, Inhabited

namespace Strategy

/-- The strategy's name. -/
def name : Strategy → String
  | .roundRobin => "round_robin"
  | .shuffle => "shuffle"
  | .leastBusy => "least_busy"

/-- The strategy a configured text names; the empty text is shuffle. Any other text is refused
as `unknown routing strategy "<text>"`. -/
def parse (s : String) : Except Fault Strategy :=
  if s = "round_robin" then .ok .roundRobin
  else if s = "shuffle" ∨ s = "" then .ok .shuffle
  else if s = "least_busy" then .ok .leastBusy
  else .error (.text ("unknown routing strategy " ++ Text.quote s))

end Strategy

/-- A model endpoint with an ordered provider pool. -/
structure Router where
  /-- The router's id. -/
  id : Int64
  /-- Its name. -/
  name : String
  /-- Its routing strategy, as configured. -/
  strategy : String
  /-- Its providers, in order. -/
  providers : List Provider
  deriving DecidableEq, Repr, Inhabited

namespace Router

/-- An empty router. -/
def zero : Router := ⟨0, "", "", []⟩

/-- Reads `{"id", "name", "strategy", "providers"}`. -/
def reader : Reader Router :=
  Reader.object [
    ("id", Reader.field (·.id) (fun r v => { r with id := v }) Reader.int64),
    ("name", Reader.field (·.name) (fun r v => { r with name := v }) Reader.string),
    ("strategy", Reader.field (·.strategy) (fun r v => { r with strategy := v }) Reader.string),
    ("providers", Reader.field (·.providers) (fun r v => { r with providers := v })
      (Reader.list Provider.reader Provider.zero))]

/-- Writes a provider's configuration, its signals left out. -/
def providerJson (p : Provider) : Json :=
  .object [("id", .string p.id), ("model", .string p.model),
    ("qos", .object [("performance_threshold", Json.floatOpt p.qos.performanceThreshold),
      ("max_parallel_requests", Json.intOpt (p.qos.maxParallelRequests.map Int64.toInt)),
      ("warn_only", .bool p.qos.warnOnly)])]

/-- Writes a router as `{"id", "name", "strategy", "providers"}`. -/
def toJson (r : Router) : Json :=
  .object [("id", .int r.id.toInt), ("name", .string r.name), ("strategy", .string r.strategy),
    ("providers", .array (r.providers.map providerJson))]

end Router

end Admission
