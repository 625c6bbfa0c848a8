import Admission.Script.Limiter
import Admission.Directory.Tables

/-!
# The `postgres` script

Steps on one database, fresh and without its schema: `ensure_schema`,
`create_router {router_def}`, `create_role {role}`, `create_user {user_def}`,
`get_router {router}`, `next_offset {router}`, `resolve_limits {role_id}`,
`resolve_permissions {role_id}`, `get_user {user}`, `db_ping` and `db_close`. A write missing
what it writes is bad input.
-/

namespace Admission.Script

open Directory

/-- The fields a database step may carry. -/
structure DatabaseStep where
  /-- What to do. -/
  action : String
  /-- A router to write. -/
  routerDef : Option Router
  /-- A role to write. -/
  role : Option Role
  /-- A user to write. -/
  userDef : Option Identity
  /-- A router id. -/
  router : Int64
  /-- A role id. -/
  roleId : Int64
  /-- A user id. -/
  user : Int64

/-- Reads the fields of a database step. -/
def DatabaseStep.read (s : Json) : Option DatabaseStep := do
  let action ← text s "do"
  let routerDef ← field s "router_def" (Reader.option Router.reader Router.zero) none
  let role ← field s "role" (Reader.option Role.reader Role.zero) none
  let userDef ← field s "user_def" (Reader.option Identity.reader Identity.zero) none
  let router ← int s "router"
  let roleId ← int s "role_id"
  let user ← int s "user"
  pure ⟨action, routerDef, role, userDef, router, roleId, user⟩

/-- Answers `ok` or the fault of a write. -/
def written (r : Except Fault Unit × Database) : Json × Database :=
  (answerOr r.1 (fun _ => Json.ok), r.2)

/-- Runs one step of a `postgres` script; none when it is unknown or incomplete. -/
def databaseAction (st : DatabaseStep) (db : Database) : Option (Json × Database) :=
  let act := st.action
  if act = "ensure_schema" then some (written db.ensureSchema)
  else if act = "create_router" then st.routerDef.map fun r => written (db.createRouter r)
  else if act = "create_role" then st.role.map fun r => written (db.createRole r)
  else if act = "create_user" then st.userDef.map fun u => written (db.createUser u)
  else if act = "get_router" then some (answerOr (db.router st.router) Router.toJson, db)
  else if act = "next_offset" then
    let (r, db) := db.nextOffset st.router
    some (answerOr r (fun o => intAnswer "offset" o.toInt), db)
  else if act = "resolve_limits" then
    some (answerOr (db.limits st.roleId)
      (fun ls => .object [("limits", .array (ls.map Limit.toJson))]), db)
  else if act = "resolve_permissions" then
    some (answerOr (db.permissions st.roleId)
      (fun ps => .object [("permissions", Json.strings ps)]), db)
  else if act = "get_user" then some (answerOr (db.user st.user) Identity.toJson, db)
  else if act = "db_ping" then
    some ((answerOr db.ping (fun _ => Json.ok)).push "name" (.string "directory"), db)
  else if act = "db_close" then some (Json.ok, db.close)
  else none

/-- Runs one step of a `postgres` script. -/
def databaseStep (db : Database) (s : Json) : Json × Database :=
  match DatabaseStep.read s with
  | none => (badInput, db)
  | some st => (databaseAction st db).getD (badInput, db)

/-- `postgres {steps}`. -/
def database (j : Json) : Json := orBad do
  let ss ← steps j
  pure (results (runSteps databaseStep ss Database.fresh).1)

end Admission.Script
