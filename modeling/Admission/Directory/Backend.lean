import Admission.Directory.Catalog
import Admission.Directory.Tables

/-!
# Directory backends

Where a gateway's users, roles and routers come from. Every backend answers the same
questions: a user by id, a role's limits and permissions, a router by id, and the next
rotation offset of a router; and it takes new entries.

* The in-memory catalog returns routers as they were stored and never fails except for a
  missing entry; storing an entry again replaces it.
* The database keeps the rules of its schema, reads a router's strategy when it returns the
  router, and can be closed, after which every call fails.
-/

namespace Admission.Directory

/-- A directory backend. -/
inductive Backend where
  /-- The in-memory catalog. -/
  | catalog (c : Catalog)
  /-- The database tables. -/
  | tables (db : Database)
  deriving Repr

namespace Backend

/-- The user with an id. -/
def user : Backend → Int64 → Except Fault Identity
  | .catalog c, id => c.user id
  | .tables db, id => db.user id

/-- The limits of a role. -/
def limits : Backend → Int64 → Except Fault (List Limit)
  | .catalog c, id => c.limits id
  | .tables db, id => db.limits id

/-- The permissions of a role. -/
def permissions : Backend → Int64 → Except Fault (List String)
  | .catalog c, id => c.permissions id
  | .tables db, id => db.permissions id

/-- The router with an id. -/
def router : Backend → Int64 → Except Fault Router
  | .catalog c, id => c.router id
  | .tables db, id => db.router id

/-- The rotation offset of a router, advanced for the next caller. -/
def nextOffset : Backend → Int64 → Except Fault Int64 × Backend
  | .catalog c, id => let (r, c) := c.nextOffset id; (r, .catalog c)
  | .tables db, id => let (r, db) := db.nextOffset id; (r, .tables db)

/-- Stores a role. -/
def putRole : Backend → Role → Except Fault Unit × Backend
  | .catalog c, r => (.ok (), .catalog (c.putRole r))
  | .tables db, r => let (e, db) := db.createRole r; (e, .tables db)

/-- Stores a router. -/
def putRouter : Backend → Router → Except Fault Unit × Backend
  | .catalog c, r => (.ok (), .catalog (c.putRouter r))
  | .tables db, r => let (e, db) := db.createRouter r; (e, .tables db)

/-- Stores a user. -/
def putUser : Backend → Identity → Except Fault Unit × Backend
  | .catalog c, u => (.ok (), .catalog (c.putUser u))
  | .tables db, u => let (e, db) := db.createUser u; (e, .tables db)

/-- Whether the backend answers; the catalog always does. -/
def ping : Backend → Except Fault Unit
  | .catalog _ => .ok ()
  | .tables db => db.ping

/-- Closes the backend; the catalog has nothing to close. -/
def close : Backend → Backend
  | .catalog c => .catalog c
  | .tables db => .tables db.close

end Backend

end Admission.Directory
