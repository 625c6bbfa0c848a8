import Admission.Limit

/-!
# Faults

Why an operation failed. A fault is a chain: context added by each layer around a cause at the
bottom. The cause is one of the named conditions every layer recognises (`Sentinel`), an
exhausted quota, a plain message, or a failure of a store client whose wording is not
specified.

`Fault.message` is the text a caller sees: each layer's context, a colon and a blank, then
the cause. `Fault.kind` classifies a fault: an exhausted quota first, else the named condition
at the bottom, else the general kind `error`.
-/

namespace Admission

/-- The conditions every layer recognises by identity. -/
inductive Sentinel where
  /-- The caller has no limit on the router. -/
  | modelNotFound
  /-- A quota of the router is zero or missing. -/
  | insufficientPermission
  /-- A quota is exhausted. -/
  | rateLimitExceeded
  /-- No provider of the router can take the request. -/
  | noCandidates
  /-- No router has the id. -/
  | routerNotFound
  /-- No user has the id. -/
  | userNotFound
  /-- No role has the id. -/
  | roleNotFound
  deriving DecidableEq, Repr

namespace Sentinel

/-- The message of the condition. -/
def message : Sentinel → String
  | .modelNotFound => "model not found"
  | .insufficientPermission => "insufficient permissions to access the model"
  | .rateLimitExceeded => "rate limit exceeded"
  | .noCandidates => "no candidates available"
  | .routerNotFound => "router not found"
  | .userNotFound => "user not found"
  | .roleNotFound => "role not found"

/-- The name under which the condition is reported. -/
def kind : Sentinel → String
  | .modelNotFound => "ErrModelNotFound"
  | .insufficientPermission => "ErrInsufficientPermission"
  | .rateLimitExceeded => "ErrRateLimitExceeded"
  | .noCandidates => "ErrNoCandidates"
  | .routerNotFound => "ErrRouterNotFound"
  | .userNotFound => "ErrUserNotFound"
  | .roleNotFound => "ErrRoleNotFound"

/-- The order in which a fault's conditions are looked for when it is classified. -/
def precedence : List Sentinel :=
  [.modelNotFound, .insufficientPermission, .rateLimitExceeded, .noCandidates, .routerNotFound,
    .userNotFound, .roleNotFound]

end Sentinel

/-- An exhausted quota: its dimension, its cap, and what is left of it if that is known. -/
structure QuotaExceeded where
  /-- The exhausted dimension. -/
  type : LimitType
  /-- The cap, 0 when the limit had none. -/
  limit : Int64
  /-- What is left, when the store could say. -/
  remaining : Option Int64
  deriving DecidableEq, Repr

/-- `<limit> <unit in words> exceeded (remaining: <n or unknown>).` -/
def QuotaExceeded.message (q : QuotaExceeded) : String :=
  let left := match q.remaining with
    | some r => toString r.toInt
    | none => "unknown"
  toString q.limit.toInt ++ " " ++ q.type.describe ++ " exceeded (remaining: " ++ left ++ ")."

/-- Why an operation failed. -/
inductive Fault where
  /-- A named condition. -/
  | sentinel (s : Sentinel)
  /-- An exhausted quota; it is also the condition `rateLimitExceeded`. -/
  | quota (q : QuotaExceeded)
  /-- Context added around a cause: the message is `what: cause`. -/
  | context (what : String) (cause : Fault)
  /-- A failure known only by its message. -/
  | text (message : String)
  /-- A failure inside a store client; its wording is not specified. -/
  | backend
  deriving DecidableEq, Repr

namespace Fault

/-- The text a caller sees. -/
def message : Fault → String
  | .sentinel s => s.message
  | .quota q => q.message
  | .context what cause => what ++ ": " ++ cause.message
  | .text m => m
  | .backend => "<backend error>"

/-- The exhausted quota in the chain, if any. -/
def quota? : Fault → Option QuotaExceeded
  | .quota q => some q
  | .context _ cause => cause.quota?
  | _ => none

/-- Whether the chain carries the named condition; an exhausted quota carries
`rateLimitExceeded`. -/
def has (f : Fault) (s : Sentinel) : Bool :=
  match f with
  | .sentinel t => t == s
  | .quota _ => s == .rateLimitExceeded
  | .context _ cause => cause.has s
  | _ => false

/-- The named condition a fault is reported under: the first in `Sentinel.precedence` that the
chain carries. -/
def sentinel? (f : Fault) : Option Sentinel := Sentinel.precedence.find? f.has

/-- The kind a fault is reported under. -/
def kind (f : Fault) : String :=
  match f.quota?, f.sentinel? with
  | some _, _ => "RateLimitError"
  | none, some s => s.kind
  | none, none => "error"

/-- The fault as a JSON report: its kind and message, and for an exhausted quota its
dimension, cap and remainder. -/
def toJson (f : Fault) : Json :=
  match f.quota? with
  | some q => .object [("error", .string "RateLimitError"), ("message", .string f.message),
      ("limit_type", .string q.type.name), ("limit", .int q.limit.toInt),
      ("remaining", Json.intOpt (q.remaining.map Int64.toInt))]
  | none => .object [("error", .string f.kind), ("message", .string f.message)]

end Fault

end Admission
