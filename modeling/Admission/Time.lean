/-!
# Instants and spans

An instant is a count of nanoseconds since the start of year 1 (UTC); the instant 0 itself
serves as "no instant", for an expiry that never comes. A span is a signed 64-bit count of
nanoseconds, and span arithmetic wraps at 64 bits.

Adding a span to an instant is exact. The span between two instants saturates at the least
and greatest span, so a distance beyond about 292 years reads as that bound.
-/

namespace Admission

/-- Nanoseconds since the start of year 1; 0 stands for no instant. -/
abbrev Instant := Int

/-- A signed count of nanoseconds, wrapping at 64 bits. -/
abbrev Span := Int64

namespace Span

/-- One millisecond. -/
def millisecond : Span := 1000000
/-- One second. -/
def second : Span := 1000000000
/-- One minute. -/
def minute : Span := 60000000000
/-- One hour. -/
def hour : Span := 3600000000000
/-- One day. -/
def day : Span := 86400000000000

/-- The least span. -/
def least : Span := Int64.ofInt (-9223372036854775808)
/-- The greatest span. -/
def greatest : Span := Int64.ofInt 9223372036854775807

/-- A count of nanoseconds as a span, saturated at the least and greatest spans. -/
def clamp (n : Int) : Span :=
  if n < -9223372036854775808 then least
  else if 9223372036854775807 < n then greatest
  else Int64.ofInt n

end Span

namespace Instant

/-- The Unix epoch, 1970-01-01T00:00:00Z. -/
def unixEpoch : Instant := 62135596800 * 1000000000

/-- The instant a number of seconds after the Unix epoch. -/
def ofUnixSeconds (s : Int) : Instant := unixEpoch + s * 1000000000

/-- Whether this is the absent instant. -/
def isZero (t : Instant) : Bool := t == 0

/-- The instant a span later (earlier for a negative span). -/
def add (t : Instant) (d : Span) : Instant := t + d.toInt

/-- The span from `u` to `t`, saturated. -/
def since (t u : Instant) : Span := Span.clamp (t - u)

/-- The whole seconds since the Unix epoch, rounded toward negative infinity. -/
def unixSeconds (t : Instant) : Int := (t - unixEpoch) / 1000000000

end Instant

end Admission
