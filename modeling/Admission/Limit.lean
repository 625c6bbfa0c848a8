import Admission.Json.Reader

/-!
# Limits

A limit caps one quota dimension of one router for a role. Four dimensions are known:
requests per minute and per day, and input tokens per minute and per day, named `rpm`, `rpd`,
`tpm` and `tpd`. A limit type is kept as the name it was given, so an unknown name travels
through unchanged and describes itself.

A limit without a value is unlimited; a value of zero denies the router.
-/

namespace Admission

/-- A quota dimension, by name. -/
structure LimitType where
  /-- The name as written: `rpm`, `rpd`, `tpm`, `tpd` or any other text. -/
  name : String
  deriving DecidableEq, Repr, Inhabited, Hashable

namespace LimitType

/-- Requests per minute. -/
def rpm : LimitType := ⟨"rpm"⟩
/-- Requests per day. -/
def rpd : LimitType := ⟨"rpd"⟩
/-- Input tokens per minute. -/
def tpm : LimitType := ⟨"tpm"⟩
/-- Input tokens per day. -/
def tpd : LimitType := ⟨"tpd"⟩

/-- The known dimensions, in the order a request is checked against them. -/
def all : List LimitType := [rpm, rpd, tpm, tpd]

/-- Whether the name is one of the four known dimensions. -/
def valid (t : LimitType) : Bool := all.contains t

/-- The unit in words, as denial messages write it; an unknown name describes itself. -/
def describe (t : LimitType) : String :=
  if t = rpm then "requests per minute"
  else if t = rpd then "requests per day"
  else if t = tpm then "input tokens per minute"
  else if t = tpd then "input tokens per day"
  else t.name

/-- Whether the dimension counts per day (`rpd`, `tpd`) rather than per minute. -/
def daily (t : LimitType) : Bool := t = rpd || t = tpd

end LimitType

/-- A role's quota on one router. -/
structure Limit where
  /-- The router the quota applies to. -/
  router : Int64
  /-- The dimension. -/
  type : LimitType
  /-- The cap; none means unlimited, zero means denied. -/
  value : Option Int64
  deriving DecidableEq, Repr, Inhabited

namespace Limit

/-- The empty limit a reader starts from. -/
def zero : Limit := ⟨0, ⟨""⟩, none⟩

/-- Reads a limit from `{"router", "type", "value"}`. -/
def reader : Reader Limit :=
  Reader.object [
    ("router", Reader.field (·.router) (fun l v => { l with router := v }) Reader.int64),
    ("type", Reader.field (·.type.name) (fun l v => { l with type := ⟨v⟩ }) Reader.string),
    ("value", Reader.field (·.value) (fun l v => { l with value := v }) (Reader.option Reader.int64 0))]

/-- Writes a limit as `{"router", "type", "value"}`. -/
def toJson (l : Limit) : Json :=
  .object [("router", .int l.router.toInt), ("type", .string l.type.name),
    ("value", Json.intOpt (l.value.map Int64.toInt))]

end Limit

end Admission
