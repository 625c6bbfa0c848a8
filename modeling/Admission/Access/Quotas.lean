import Admission.Limit

/-!
# A role's quotas on one router

The four quotas a limit list gives a router. Each starts at zero, which denies; each limit on
the router sets its dimension, a later one overriding an earlier one, and a limit on the
router of an unknown dimension sets nothing but still marks the router as found. A router is
denied when any of the four quotas is exactly zero; an absent value is unlimited.
-/

namespace Admission.Access

/-- The four quotas of a router; none is unlimited. -/
structure Quotas where
  /-- Requests per minute. -/
  rpm : Option Int64
  /-- Requests per day. -/
  rpd : Option Int64
  /-- Input tokens per minute. -/
  tpm : Option Int64
  /-- Input tokens per day. -/
  tpd : Option Int64
  deriving DecidableEq, Repr

namespace Quotas

/-- All four quotas zero. -/
def zero : Quotas := ⟨some 0, some 0, some 0, some 0⟩

/-- The quota of a dimension; none for an unknown dimension. -/
def value (q : Quotas) (t : LimitType) : Option Int64 :=
  if t = .rpm then q.rpm else if t = .rpd then q.rpd
  else if t = .tpm then q.tpm else if t = .tpd then q.tpd else none

/-- The quotas with one dimension set; unchanged for an unknown dimension. -/
def set (q : Quotas) (t : LimitType) (v : Option Int64) : Quotas :=
  if t = .rpm then { q with rpm := v } else if t = .rpd then { q with rpd := v }
  else if t = .tpm then { q with tpm := v } else if t = .tpd then { q with tpd := v } else q

/-- Whether some quota is exactly zero. -/
def denied (q : Quotas) : Bool :=
  LimitType.all.any (fun t => q.value t == some 0)

/-- Writes `{"rpm", "rpd", "tpm", "tpd"}`. -/
def toJson (q : Quotas) : Json :=
  .object [("rpm", Json.intOpt (q.rpm.map Int64.toInt)), ("rpd", Json.intOpt (q.rpd.map Int64.toInt)),
    ("tpm", Json.intOpt (q.tpm.map Int64.toInt)), ("tpd", Json.intOpt (q.tpd.map Int64.toInt))]

end Quotas

/-- The quotas a limit list gives a router, and whether any limit is on the router. -/
def aggregate (limits : List Limit) (router : Int64) : Quotas × Bool :=
  limits.foldl (fun (q, found) l =>
    if l.router = router then (q.set l.type l.value, true) else (q, found)) (Quotas.zero, false)

end Admission.Access
