import Admission.Script.Limiter
import Admission.Directory.Cache
import Admission.Notify.Notification

/-!
# The `cache` and `dedup` scripts

Both run on the wall clock, which the scripts model as a clock that moves one nanosecond
between consecutive steps: an entry stored for no time or less is gone at the next step, and
one stored for an hour outlives any script.

* `cache`: steps `role_key {role_id}`, `set {key, entry, ttl_ns}`, `get {key}` and
  `delete {key}` on one in-memory role cache.
* `dedup {ttl_ns, keys}`: whether each key in turn gets through one deduplicator.
-/

namespace Admission.Script

open Directory

/-- An optional role-entry field: `null` is an entry stored empty. -/
def roleEntry (j : Json) (name : String) : Option (Option RoleEntry) :=
  field j name (Reader.option RoleEntry.reader RoleEntry.zero) none

/-- A step of a `cache` script, its fields read as given. -/
structure CacheStep where
  /-- What to do: `role_key`, `set`, `get` or `delete`. -/
  action : String
  /-- A role id. -/
  roleId : Int64
  /-- A key. -/
  key : String
  /-- An entry to store; none for an entry stored empty. -/
  entry : Option RoleEntry
  /-- How long to keep the entry. -/
  ttl : Span

/-- Reads the fields of a cache step; none when one has the wrong shape. -/
def CacheStep.read (s : Json) : Option CacheStep := do
  let action ← text s "do"
  let id ← int s "role_id"
  let key ← text s "key"
  let e ← roleEntry s "entry"
  let ttl ← int s "ttl_ns"
  pure ⟨action, id, key, e, ttl⟩

/-- Runs one step of a `cache` script; an unknown step answers `bad_input`. -/
def cacheStep (st : Instant × MemoryCache) (s : CacheStep) : Json × (Instant × MemoryCache) :=
  let (now, c) := st
  let next := now + 1
  let (j, c) : Json × MemoryCache :=
    if s.action = "role_key" then (.object [("key", .string (roleKey s.roleId))], c)
    else if s.action = "set" then (Json.ok, c.set now s.key s.entry s.ttl)
    else if s.action = "get" then
      match c.get now s.key with
      | none => (.object [("found", .bool false)], c)
      | some e =>
        (.object [("found", .bool true),
          ("entry", match e with
            | some e => e.toListsJson
            | none => .null)], c)
    else if s.action = "delete" then (Json.ok, c.delete s.key)
    else (badInput, c)
  (j, (next, c))

/-- `cache {steps}`: a step with a field of the wrong shape makes the whole script
unreadable. -/
def cache (j : Json) : Json := orBad do
  let ss ← (← steps j).mapM CacheStep.read
  pure (results (runSteps cacheStep ss (fakeStart, MemoryCache.empty)).1)

/-- Lets each key through the deduplicator in turn, one nanosecond apart. -/
def dedupRun (now : Instant) : List String → Notify.Dedup → List Bool
  | [], _ => []
  | k :: ks, d =>
    let (ok, d) := d.admits now k
    ok :: dedupRun (now + 1) ks d

/-- `dedup {ttl_ns, keys}`. -/
def dedup (j : Json) : Json := orBad do
  let ttl ← int j "ttl_ns"
  let ks ← texts j "keys"
  pure (results ((dedupRun fakeStart ks (Notify.Dedup.create ttl)).map Json.bool))

end Admission.Script
