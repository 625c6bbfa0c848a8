/-!
# Trace identities

A request may carry a trace: a 16-byte trace id and an 8-byte span id, each written as
lowercase hex (32 and 16 digits). An id with another length, a character other than
`0-9a-f`, or only zero bytes is invalid, and a trace whose span id is invalid is not carried
at all. The trace id a request reports is its trace's id in lowercase hex, or the empty text
when it carries none.

Tracing itself never fails to start: spans go nowhere without an exporter endpoint, and an
exporter connects only when it first sends.
-/

namespace Admission.Telemetry

/-- Whether a text is `n` lowercase hex digits, not all zero. -/
def validId (n : Nat) (s : String) : Bool :=
  s.length = n && s.all (fun (c : Char) => c.isDigit || ('a' ≤ c && c ≤ 'f')) &&
    s.any (fun (c : Char) => c ≠ '0')

/-- A trace id: 32 lowercase hex digits, not all zero. -/
def validTraceId (s : String) : Bool := validId 32 s

/-- A span id: 16 lowercase hex digits, not all zero. -/
def validSpanId (s : String) : Bool := validId 16 s

/-- The trace id a request reports, given the ids it was sent with. -/
def reportedTraceId (traceId spanId : String) : String :=
  if validTraceId traceId && validSpanId spanId then traceId else ""

end Admission.Telemetry
