import Admission.Provider
import Admission.Binary64.Arith

/-!
# Quality-of-service policies

A provider's settings give at most two ceilings: on its performance indicator and on its
requests in flight. A ceiling rejects a provider only when the signal is known and strictly
above it. In warn-only mode the ceilings are wrapped in one warning policy, which reports a
crossing and admits anyway.

`Qos.filter` keeps, in order, the providers every policy admits, and lists each rejected
provider with the first policy that rejected it.
-/

namespace Admission.Qos

/-- A ceiling on one signal. -/
inductive Ceiling where
  /-- The performance indicator must not exceed the threshold. -/
  | performance (threshold : Binary64)
  /-- The requests in flight must not exceed the maximum. -/
  | parallel (max : Int64)
  deriving DecidableEq, Repr

/-- A policy a provider is held to. -/
inductive Policy where
  /-- A ceiling that rejects. -/
  | enforce (c : Ceiling)
  /-- Ceilings that are only reported; the provider is admitted. -/
  | warn (cs : List Ceiling)
  deriving DecidableEq, Repr

namespace Ceiling

/-- The ceiling's name. -/
def name : Ceiling → String
  | .performance _ => "performance_threshold"
  | .parallel _ => "parallel_requests_threshold"

/-- Whether the signals stay within the ceiling: an unknown signal always does. -/
def admits (s : Signals) : Ceiling → Bool
  | .performance t =>
    match s.performanceIndicator with
    | some x => !(Binary64.lt t x)
    | none => true
  | .parallel m =>
    match s.parallelRequests with
    | some n => !(m.toInt < n.toInt)
    | none => true

end Ceiling

namespace Policy

/-- The policy's name. -/
def name : Policy → String
  | .enforce c => c.name
  | .warn _ => "warning_log"

/-- Whether the policy admits the signals; a warning policy always does. -/
def admits (s : Signals) : Policy → Bool
  | .enforce c => c.admits s
  | .warn _ => true

end Policy

/-- The ceilings a provider's settings give: performance first, then requests in flight. -/
def ceilings (cfg : QosConfig) : List Ceiling :=
  (cfg.performanceThreshold.map Ceiling.performance).toList ++
    (cfg.maxParallelRequests.map Ceiling.parallel).toList

/-- The policies a provider is held to: its ceilings, or one warning policy over them in
warn-only mode. -/
def policiesFor (cfg : QosConfig) : List Policy :=
  let cs := ceilings cfg
  if cfg.warnOnly && !cs.isEmpty then [.warn cs] else cs.map .enforce

/-- The first policy that rejects the signals, if any. -/
def firstRejecting (policies : List Policy) (s : Signals) : Option Policy :=
  policies.find? (fun p => !p.admits s)

/-- A provider left out, with the name of the policy that rejected it. -/
structure Rejection where
  /-- The provider's id. -/
  provider : String
  /-- The rejecting policy's name. -/
  policy : String
  deriving DecidableEq, Repr

/-- The providers every policy admits, in order, and the rejections, in order. -/
def filter (providers : List Provider) : List Provider × List Rejection :=
  providers.foldr (fun p (eligible, rejected) =>
    match firstRejecting (policiesFor p.qos) p.signals with
    | some pol => (eligible, ⟨p.id, pol.name⟩ :: rejected)
    | none => (p :: eligible, rejected)) ([], [])

end Admission.Qos
