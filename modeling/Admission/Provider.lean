import Admission.Json.Number

/-!
# Providers

A provider is one backend serving a model behind a router. Its quality-of-service settings
bound the load it accepts: a ceiling on its performance indicator (a smoothed latency in
seconds) and a ceiling on its requests in flight; in warn-only mode a crossed ceiling is only
reported. Its signals are the live measurements those ceilings are compared with; either may
be unknown.
-/

namespace Admission

/-- The quality-of-service settings of a provider. -/
structure QosConfig where
  /-- The highest acceptable performance indicator. -/
  performanceThreshold : Option Binary64
  /-- The most requests in flight. -/
  maxParallelRequests : Option Int64
  /-- Whether crossing a ceiling is only reported. -/
  warnOnly : Bool
  deriving DecidableEq, Repr, Inhabited

/-- The live measurements of a provider. -/
structure Signals where
  /-- The smoothed latency in seconds, once a request has completed. -/
  performanceIndicator : Option Binary64
  /-- The requests in flight. -/
  parallelRequests : Option Int64
  deriving DecidableEq, Repr, Inhabited

/-- A backend behind a router. -/
structure Provider where
  /-- The provider's id, unique within its router. -/
  id : String
  /-- The model it serves. -/
  model : String
  /-- Its quality-of-service settings. -/
  qos : QosConfig
  /-- Its live measurements. -/
  signals : Signals
  deriving DecidableEq, Repr, Inhabited

namespace QosConfig

/-- No ceilings. -/
def none : QosConfig := ⟨.none, .none, false⟩

/-- Reads `{"performance_threshold", "max_parallel_requests", "warn_only"}`. -/
def reader : Reader QosConfig :=
  Reader.object [
    ("performance_threshold", Reader.field (·.performanceThreshold)
      (fun q v => { q with performanceThreshold := v }) (Reader.option Reader.float Binary64.zero)),
    ("max_parallel_requests", Reader.field (·.maxParallelRequests)
      (fun q v => { q with maxParallelRequests := v }) (Reader.option Reader.int64 0)),
    ("warn_only", Reader.field (·.warnOnly) (fun q v => { q with warnOnly := v }) Reader.bool)]

end QosConfig

namespace Signals

/-- Nothing measured. -/
def none : Signals := ⟨.none, .none⟩

/-- Reads `{"performance_indicator", "parallel_requests"}`. -/
def reader : Reader Signals :=
  Reader.object [
    ("performance_indicator", Reader.field (·.performanceIndicator)
      (fun s v => { s with performanceIndicator := v }) (Reader.option Reader.float Binary64.zero)),
    ("parallel_requests", Reader.field (·.parallelRequests)
      (fun s v => { s with parallelRequests := v }) (Reader.option Reader.int64 0))]

end Signals

namespace Provider

/-- A provider with no id, model, ceilings or measurements. -/
def zero : Provider := ⟨"", "", .none, .none⟩

/-- Reads `{"id", "model", "qos", "signals"}`. -/
def reader : Reader Provider :=
  Reader.object [
    ("id", Reader.field (·.id) (fun p v => { p with id := v }) Reader.string),
    ("model", Reader.field (·.model) (fun p v => { p with model := v }) Reader.string),
    ("qos", Reader.field (·.qos) (fun p v => { p with qos := v }) QosConfig.reader),
    ("signals", Reader.field (·.signals) (fun p v => { p with signals := v }) Signals.reader)]

end Provider

end Admission
