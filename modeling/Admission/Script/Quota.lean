import Admission.Script.Basic
import Admission.Quota.Limiter
import Admission.Access.Quotas
import Admission.Role
import Admission.Notify.Notification

/-!
# Scripts on quotas

* `limit_type`: whether a dimension is known, and its unit in words.
* `rate_limit_error`: the message of an exhausted quota.
* `has_permission`: exact membership of a permission.
* `notification_key`: the deduplication key of a notification.
* `aggregate`: a limit list's quotas on one router.
* `item`: a rate-limit item's window and storage key.
* `weighted`: the weighted count of a sliding window.
-/

namespace Admission.Script

/-- `limit_type {type}`. -/
def limitType (j : Json) : Json := orBad do
  let t ← text j "type"
  pure (.object [("valid", .bool (LimitType.valid ⟨t⟩)), ("describe", .string (LimitType.describe ⟨t⟩))])

/-- `rate_limit_error {type, limit, remaining}`. -/
def rateLimitError (j : Json) : Json := orBad do
  let t ← text j "type"
  let limit ← int j "limit"
  let remaining ← intOpt j "remaining"
  let f : Fault := .quota ⟨⟨t⟩, limit, remaining⟩
  pure (.object [("message", .string f.message),
    ("is_rate_limit_exceeded", .bool (f.has .rateLimitExceeded))])

/-- `has_permission {permissions, permission}`. -/
def hasPermissionScript (j : Json) : Json := orBad do
  let ps ← texts j "permissions"
  let p ← text j "permission"
  pure (.object [("has", .bool (hasPermission ps p))])

/-- `notification_key {type, user_id, router_id, data}`: the notification's `data`, an object
of any members, takes no part in the key, but a `data` that is not an object makes the script
unreadable. -/
def notificationKey (j : Json) : Json := orBad do
  let t ← text j "type"
  let user ← int j "user_id"
  let router ← int j "router_id"
  let _ ← field j "data" (Reader.map (fun v _ => some v) Json.null) []
  pure (.object [("key", .string (Notify.dedupKey t user router))])

/-- A limit-list field. -/
def limits (j : Json) (name : String) : Option (List Limit) :=
  field j name (Reader.list Limit.reader Limit.zero) []

/-- `aggregate {limits, router_id}`. -/
def aggregate (j : Json) : Json := orBad do
  let ls ← limits j "limits"
  let router ← int j "router_id"
  let (q, found) := Access.aggregate ls router
  pure (.object [("found", .bool found), ("denied", .bool q.denied), ("quotas", q.toJson)])

/-- The granularity a text names: `day`, or minute for anything else. -/
def granularity (s : String) : Quota.Granularity := if s = "day" then .day else .minute

/-- `item {constructor, amount, multiples, granularity, base}`. -/
def item (j : Json) : Json := orBad do
  let ctor ← text j "constructor"
  let amount ← int j "amount"
  let multiples ← int j "multiples"
  let g ← text j "granularity"
  let base ← text j "base"
  let it : Quota.Item :=
    if ctor = "per_minute" then .perMinute amount
    else if ctor = "per_day" then .perDay amount
    else ⟨amount, multiples, granularity g⟩
  pure (.object [("storage_key", .string (it.storageKey base)), ("expiry_ns", .int it.expiry.toInt),
    ("granularity", .string it.granularity.name), ("granularity_ns", .int it.granularity.span.toInt)])

/-- `weighted {previous_count, previous_ttl_ns, current_count, current_ttl_ns, expiry_ns}`. -/
def weighted (j : Json) : Json := orBad do
  let pc ← int j "previous_count"
  let pt ← int j "previous_ttl_ns"
  let cc ← int j "current_count"
  let ct ← int j "current_ttl_ns"
  let e ← int j "expiry_ns"
  pure (.object [("weighted", .int (Quota.SlidingState.weighted ⟨pc, pt, cc, ct⟩ e).toInt)])

end Admission.Script
