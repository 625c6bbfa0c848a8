import Admission.Router
import Admission.Role
import Admission.Fault

/-!
# The in-memory catalog

A catalog holds the roles, users and routers of a directory in memory, with the rotation
offset of each router. Each is stored under its id, and storing one again replaces it in
place, so a lookup sees the last one stored.

* A missing role is `roleNotFound`, a missing user `userNotFound` and a missing router
  `routerNotFound`; nothing else can fail.
* A router's rotation offset starts at 0; `nextOffset` gives the offset and advances it by
  one (wrapping at the 64-bit bounds), and only for a router of the catalog.
-/

namespace Admission.Directory

/-- Stores `x` under its key: in place of the entry with that key, or last. -/
def upsert [BEq κ] (key : α → κ) (x : α) : List α → List α
  | [] => [x]
  | y :: ys => if key y == key x then x :: ys else y :: upsert key x ys

/-- Roles, users and routers in memory, with the rotation offset of each router. -/
structure Catalog where
  /-- The roles, each under its id. -/
  roles : List Role
  /-- The users, each under its id. -/
  users : List Identity
  /-- The routers, each under its id. -/
  routers : List Router
  /-- The rotation offset of each router that has advanced. -/
  offsets : List (Int64 × Int64)
  deriving Repr

namespace Catalog

/-- A catalog with nothing in it. -/
def empty : Catalog := ⟨[], [], [], []⟩

/-- Stores a role. -/
def putRole (c : Catalog) (r : Role) : Catalog := { c with roles := upsert (·.id) r c.roles }

/-- Stores a user. -/
def putUser (c : Catalog) (u : Identity) : Catalog := { c with users := upsert (·.id) u c.users }

/-- Stores a router. -/
def putRouter (c : Catalog) (r : Router) : Catalog :=
  { c with routers := upsert (·.id) r c.routers }

/-- A catalog holding roles, users and routers, stored in that order. -/
def ofLists (roles : List Role) (users : List Identity) (routers : List Router) : Catalog :=
  let c := roles.foldl putRole empty
  let c := users.foldl putUser c
  routers.foldl putRouter c

/-- The role with an id. -/
def role (c : Catalog) (id : Int64) : Except Fault Role :=
  match c.roles.find? (·.id == id) with
  | some r => .ok r
  | none => .error (.sentinel .roleNotFound)

/-- The user with an id. -/
def user (c : Catalog) (id : Int64) : Except Fault Identity :=
  match c.users.find? (·.id == id) with
  | some u => .ok u
  | none => .error (.sentinel .userNotFound)

/-- The router with an id. -/
def router (c : Catalog) (id : Int64) : Except Fault Router :=
  match c.routers.find? (·.id == id) with
  | some r => .ok r
  | none => .error (.sentinel .routerNotFound)

/-- The limits of a role. -/
def limits (c : Catalog) (id : Int64) : Except Fault (List Limit) := (c.role id).map (·.limits)

/-- The permissions of a role. -/
def permissions (c : Catalog) (id : Int64) : Except Fault (List String) :=
  (c.role id).map (·.permissions)

/-- The rotation offset of a router: 0 until it first advances. -/
def offset (c : Catalog) (id : Int64) : Int64 :=
  ((c.offsets.find? (·.1 == id)).map Prod.snd).getD 0

/-- The rotation offset of a router, advanced by one for the next caller. -/
def nextOffset (c : Catalog) (id : Int64) : Except Fault Int64 × Catalog :=
  match c.router id with
  | .error f => (.error f, c)
  | .ok _ =>
    let o := c.offset id
    (.ok o, { c with offsets := upsert Prod.fst (id, o + 1) c.offsets })

end Catalog

end Admission.Directory
