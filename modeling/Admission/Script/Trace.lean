import Admission.Script.Basic
import Admission.Telemetry.Trace
import Admission.Telemetry.Exporter

/-!
# The `telemetry` script

`telemetry {endpoint, service, version, trace_id, span_id}` starts tracing, reports whether a
tracer is available, stops tracing, and gives the trace id a request sent with the two ids
would report. Tracing that does not start, for an endpoint that is not a dial target,
answers a backend error in `init` and the trace id alone: nothing is reported of a tracer,
and nothing is stopped.
-/

namespace Admission.Script

/-- `telemetry {endpoint, service, version, trace_id, span_id}`. -/
def telemetry (j : Json) : Json := orBad do
  let endpoint ← text j "endpoint"
  let _ ← text j "service"
  let _ ← text j "version"
  let traceId ← text j "trace_id"
  let spanId ← text j "span_id"
  let traced := ("trace_id", Json.string (Telemetry.reportedTraceId traceId spanId))
  if endpoint.isEmpty || Telemetry.endpointReads endpoint then
    pure (.object [("init", .string "ok"), ("tracer", .bool true), ("shutdown", Json.ok), traced])
  else
    let refused := Json.object [("error", .string "error"), ("message", .string "<backend error>")]
    pure (.object [("init", refused), traced])

end Admission.Script
