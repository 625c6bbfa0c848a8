import Admission.Role
import Admission.Time

/-!
# The role cache

What the directory remembers about a role between lookups: its limits and its permissions,
kept under `cache:role:<id>` for a time to live. An entry whose time is up (the clock strictly
past its expiry) is as good as absent.

A list the directory never produced (rather than an empty one) is kept as `none`, so that an
entry written out as JSON reads `null` there, as the directory's own answer did.
-/

namespace Admission.Directory

/-- What the cache keeps for a role. -/
structure RoleEntry where
  /-- The role's limits; none when the directory gave no list. -/
  limits : Option (List Limit)
  /-- The role's permissions; none when the directory gave no list. -/
  permissions : Option (List String)
  deriving DecidableEq, Repr

namespace RoleEntry

/-- An entry with no lists. -/
def zero : RoleEntry := ⟨none, none⟩

/-- Reads `{"limits", "permissions"}`; `null` lists stay absent. -/
def reader : Reader RoleEntry :=
  Reader.object [
    ("limits", Reader.field (·.limits) (fun e v => { e with limits := v })
      (fun j old => match j with
        | .null => some none
        | _ => (Reader.list Limit.reader Limit.zero j (old.getD [])).map some)),
    ("permissions", Reader.field (·.permissions) (fun e v => { e with permissions := v })
      (fun j old => match j with
        | .null => some none
        | _ => (Reader.list Reader.string "" j (old.getD [])).map some))]

/-- Writes `{"limits", "permissions"}`, an absent list as `null`. -/
def toJson (e : RoleEntry) : Json :=
  .object [
    ("limits", match e.limits with
      | some ls => .array (ls.map Limit.toJson)
      | none => .null),
    ("permissions", match e.permissions with
      | some ps => Json.strings ps
      | none => .null)]

/-- Writes `{"limits", "permissions"}`, an absent list as `[]`. -/
def toListsJson (e : RoleEntry) : Json :=
  .object [("limits", .array ((e.limits.getD []).map Limit.toJson)),
    ("permissions", Json.strings (e.permissions.getD []))]

end RoleEntry

/-- The cache key of a role. -/
def roleKey (role : Int64) : String := "cache:role:" ++ toString role.toInt

/-- A cached value and when it dies. -/
structure Slot where
  /-- The entry; none for an entry that was stored empty. -/
  entry : Option RoleEntry
  /-- The instant after which it is gone. -/
  expiresAt : Instant
  deriving DecidableEq, Repr

/-- The in-memory role cache. -/
structure MemoryCache where
  /-- The slots by key, the newest first. -/
  slots : List (String × Slot)
  deriving Repr

namespace MemoryCache

/-- An empty cache. -/
def empty : MemoryCache := ⟨[]⟩

/-- The entry under a key unless its time is up: `some e` for a hit. -/
def get (c : MemoryCache) (now : Instant) (key : String) : Option (Option RoleEntry) :=
  match (c.slots.find? (fun ks => ks.1 == key)).map Prod.snd with
  | some s => if s.expiresAt < now then none else some s.entry
  | none => none

/-- Stores an entry for `ttl` from `now`. -/
def set (c : MemoryCache) (now : Instant) (key : String) (e : Option RoleEntry) (ttl : Span) :
    MemoryCache :=
  ⟨(key, ⟨e, now.add ttl⟩) :: c.slots.filter (fun ks => ks.1 != key)⟩

/-- Forgets a key. -/
def delete (c : MemoryCache) (key : String) : MemoryCache :=
  ⟨c.slots.filter (fun ks => ks.1 != key)⟩

end MemoryCache

end Admission.Directory
