import Admission.Router
import Admission.Role
import Admission.Fault

/-!
# The relational directory

A directory kept in database tables: routers (with a rotation offset), their providers (with
a position), roles (with a permission list), their limits, and users. The tables exist once
the schema has been applied; applying it again keeps what they hold.

The database refuses a row that breaks a rule of the schema:

* an id already present (for a provider, within its router; for a limit, the same role,
  router and type);
* a role name already present;
* a limit of a type other than `rpm`, `rpd`, `tpm`, `tpd`, or with a negative value;
* a limit or a user naming a role, or a limit or provider naming a router, that does not exist.

A router with its providers, and a role with its limits, are each written in one transaction:
a refused row leaves nothing of it behind. Every failure names what was being done
(`insert provider <id>: <cause>`); a refusal, or a query before the schema exists, is a client
failure whose wording is not specified. Once the database is closed every call fails with
`sql: database is closed`, a transaction already at its start (`begin: …`).
-/

namespace Admission.Directory

/-- A row of the routers table. -/
structure RouterRow where
  /-- The router's id. -/
  id : Int64
  /-- Its name. -/
  name : String
  /-- Its strategy, as stored. -/
  strategy : String
  /-- Its rotation offset. -/
  offset : Int64
  deriving DecidableEq, Repr

/-- A row of the providers table. -/
structure ProviderRow where
  /-- The provider's id. -/
  id : String
  /-- Its router. -/
  router : Int64
  /-- Its place in the router's pool. -/
  position : Nat
  /-- The provider as stored, without measurements. -/
  provider : Provider
  deriving DecidableEq, Repr

/-- A row of the roles table. -/
structure RoleRow where
  /-- The role's id. -/
  id : Int64
  /-- Its name. -/
  name : String
  /-- Its permissions, in order. -/
  permissions : List String
  deriving DecidableEq, Repr

/-- A row of the limits table. -/
structure LimitRow where
  /-- The role. -/
  role : Int64
  /-- The limit. -/
  limit : Limit
  deriving DecidableEq, Repr

/-- The tables of the schema. -/
structure Tables where
  /-- The routers. -/
  routers : List RouterRow
  /-- The providers. -/
  providers : List ProviderRow
  /-- The roles. -/
  roles : List RoleRow
  /-- The limits. -/
  limits : List LimitRow
  /-- The users. -/
  users : List Identity
  deriving Repr

/-- A database that may hold the tables. -/
structure Database where
  /-- The tables, once the schema has been applied. -/
  tables : Option Tables
  /-- Whether the database was closed. -/
  closed : Bool
  deriving Repr

/-- Why the database refused or failed a call. -/
def closedFault : Fault := .text "sql: database is closed"

namespace Tables

/-- Empty tables. -/
def empty : Tables := ⟨[], [], [], [], []⟩

/-- The tables with a router and its providers, or none if a row is refused: the provider
that was refused, if it was one. -/
def insertRouter (t : Tables) (r : Router) : Except (Option String) Tables :=
  if t.routers.any (·.id == r.id) then .error none
  else
    let strategy := if r.strategy.isEmpty then Strategy.shuffle.name else r.strategy
    let t := { t with routers := t.routers ++ [⟨r.id, r.name, strategy, 0⟩] }
    let rec go (t : Tables) (i : Nat) : List Provider → Except (Option String) Tables
      | [] => .ok t
      | p :: ps =>
        if t.providers.any (fun q => q.router == r.id && q.id == p.id) then .error (some p.id)
        else go { t with providers := t.providers ++
          [⟨p.id, r.id, i, { p with signals := Signals.none }⟩] } (i + 1) ps
    go t 0 r.providers

/-- Whether the schema accepts a limit of a role. -/
def limitFits (t : Tables) (role : Int64) (l : Limit) : Bool :=
  l.type.valid && (l.value.map (fun v => decide (0 ≤ v))).getD true &&
    t.routers.any (·.id == l.router) && t.roles.any (·.id == role) &&
    !t.limits.any (fun m => m.role == role && m.limit.router == l.router && m.limit.type == l.type)

/-- The tables with a role and its limits, or none if a row is refused: `true` when it was a
limit. -/
def insertRole (t : Tables) (r : Role) : Except Bool Tables :=
  if t.roles.any (fun x => x.id == r.id || x.name == r.name) then .error false
  else
    let t := { t with roles := t.roles ++ [⟨r.id, r.name, r.permissions⟩] }
    r.limits.foldlM (fun t l =>
      if t.limitFits r.id l then .ok { t with limits := t.limits ++ [⟨r.id, l⟩] }
      else .error true) t

/-- The tables with a user, or none if the row is refused. -/
def insertUser (t : Tables) (u : Identity) : Option Tables :=
  if t.users.any (·.id == u.id) || !t.roles.any (·.id == u.role) then none
  else some { t with users := t.users ++ [{ u with limits := none }] }

/-- Inserts a provider row into a list sorted by position, then id. -/
def insertByPosition (p : ProviderRow) : List ProviderRow → List ProviderRow
  | [] => [p]
  | q :: qs =>
    if p.position < q.position || (p.position == q.position && p.id < q.id) then p :: q :: qs
    else q :: insertByPosition p qs

/-- Inserts a limit into a list sorted by router, then type. -/
def insertByRouter (l : Limit) : List Limit → List Limit
  | [] => [l]
  | m :: ms =>
    if l.router < m.router || (l.router == m.router && l.type.name < m.type.name) then l :: m :: ms
    else m :: insertByRouter l ms

end Tables

namespace Database

/-- A database with no schema. -/
def fresh : Database := ⟨none, false⟩

/-- The tables for a statement, or why it failed: closed, or no schema yet. -/
def use (db : Database) (what : String) : Except Fault Tables :=
  if db.closed then .error (.context what closedFault)
  else
    match db.tables with
    | some t => .ok t
    | none => .error (.context what .backend)

/-- Applies the schema. -/
def ensureSchema (db : Database) : Except Fault Unit × Database :=
  if db.closed then (.error (.context "apply schema" closedFault), db)
  else (.ok (), { db with tables := some (db.tables.getD Tables.empty) })

/-- Writes a router and its providers in one transaction. -/
def createRouter (db : Database) (r : Router) : Except Fault Unit × Database :=
  if db.closed then (.error (.context "begin" closedFault), db)
  else
    match db.use "insert router" with
    | .error f => (.error f, db)
    | .ok t =>
      match t.insertRouter r with
      | .ok t => (.ok (), { db with tables := some t })
      | .error none => (.error (.context "insert router" .backend), db)
      | .error (some p) => (.error (.context ("insert provider " ++ p) .backend), db)

/-- Writes a role and its limits in one transaction. -/
def createRole (db : Database) (r : Role) : Except Fault Unit × Database :=
  if db.closed then (.error (.context "begin" closedFault), db)
  else
    match db.use "insert role" with
    | .error f => (.error f, db)
    | .ok t =>
      match t.insertRole r with
      | .ok t => (.ok (), { db with tables := some t })
      | .error false => (.error (.context "insert role" .backend), db)
      | .error true => (.error (.context "insert limit" .backend), db)

/-- Writes a user. -/
def createUser (db : Database) (u : Identity) : Except Fault Unit × Database :=
  match db.use "insert user" with
  | .error f => (.error f, db)
  | .ok t =>
    match t.insertUser u with
    | some t => (.ok (), { db with tables := some t })
    | none => (.error (.context "insert user" .backend), db)

/-- The router with an id, its strategy read and its providers in pool order. -/
def router (db : Database) (id : Int64) : Except Fault Router := do
  let t ← db.use "query router"
  match t.routers.find? (·.id == id) with
  | none => .error (.sentinel .routerNotFound)
  | some row =>
    match Strategy.parse row.strategy with
    | .error f => .error (.context ("router " ++ toString id.toInt) f)
    | .ok s =>
      let rows := (t.providers.filter (·.router == id)).foldr Tables.insertByPosition []
      .ok ⟨row.id, row.name, s.name, rows.map (·.provider)⟩

/-- The rotation offset of a router, advanced for the next caller. -/
def nextOffset (db : Database) (id : Int64) : Except Fault Int64 × Database :=
  match db.use "advance rotation offset" with
  | .error f => (.error f, db)
  | .ok t =>
    match t.routers.find? (·.id == id) with
    | none => (.error (.sentinel .routerNotFound), db)
    | some row =>
      let routers := t.routers.map fun r => if r.id == id then { r with offset := r.offset + 1 } else r
      (.ok row.offset, { db with tables := some { t with routers := routers } })

/-- The limits of a role, by router and then type. -/
def limits (db : Database) (role : Int64) : Except Fault (List Limit) := do
  let t ← db.use "query limits"
  if !t.roles.any (·.id == role) then .error (.sentinel .roleNotFound)
  else .ok (((t.limits.filter (·.role == role)).map (·.limit)).foldr Tables.insertByRouter [])

/-- The permissions of a role, in stored order. -/
def permissions (db : Database) (role : Int64) : Except Fault (List String) := do
  let t ← db.use "query permissions"
  match t.roles.find? (·.id == role) with
  | some r => .ok r.permissions
  | none => .error (.sentinel .roleNotFound)

/-- The user with an id. -/
def user (db : Database) (id : Int64) : Except Fault Identity := do
  let t ← db.use "query user"
  match t.users.find? (·.id == id) with
  | some u => .ok u
  | none => .error (.sentinel .userNotFound)

/-- Whether the database answers. -/
def ping (db : Database) : Except Fault Unit :=
  if db.closed then .error closedFault else .ok ()

/-- Closes the database. -/
def close (db : Database) : Database := { db with closed := true }

/-- One write of a seed, a refusal added to those before it with what was refused. -/
def loadOne {α : Type} (label : α → String) (write : Database → α → Except Fault Unit × Database)
    (acc : List (String × Fault) × Database) (x : α) : List (String × Fault) × Database :=
  match write acc.2 x with
  | (.ok (), db) => (acc.1, db)
  | (.error f, db) => (acc.1 ++ [(label x, f)], db)

/-- Writes the routers, then the roles, then the users, each on its own: the writes refused,
in order, each with what it was (`router 1`, `role 2`, `user 3`). -/
def load (db : Database) (routers : List Router) (roles : List Role) (users : List Identity) :
    List (String × Fault) × Database :=
  let acc := routers.foldl (loadOne (fun r => "router " ++ toString r.id.toInt) createRouter) ([], db)
  let acc := roles.foldl (loadOne (fun r => "role " ++ toString r.id.toInt) createRole) acc
  users.foldl (loadOne (fun u => "user " ++ toString u.id.toInt) createUser) acc

end Database

end Admission.Directory
