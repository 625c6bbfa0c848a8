import Admission.Limit

/-!
# Roles and identities

A role grants permissions (plain names; `admin` is the one the gateway itself asks for) and
carries limits, at most one per router and dimension in a well-formed directory. An identity
is an authenticated caller: a user id, a role, a priority for the work it dispatches, and
optionally limits of its own that replace its role's.
-/

namespace Admission

/-- A named set of permissions and limits. -/
structure Role where
  /-- The role's id. -/
  id : Int64
  /-- Its name. -/
  name : String
  /-- Its permissions, in order. -/
  permissions : List String
  /-- Its limits, in order. -/
  limits : List Limit
  deriving DecidableEq, Repr, Inhabited

/-- Whether a permission list holds a permission, compared exactly. -/
def hasPermission (permissions : List String) (p : String) : Bool := permissions.contains p

/-- The permission that unlocks the administrative actions. -/
def adminPermission : String := "admin"

/-- An authenticated caller. -/
structure Identity where
  /-- The user id. -/
  id : Int64
  /-- The user's role. -/
  role : Int64
  /-- The priority of the work it dispatches. -/
  priority : Int64
  /-- Limits of its own, replacing its role's; none means use the role's. -/
  limits : Option (List Limit)
  deriving DecidableEq, Repr, Inhabited

namespace Role

/-- An empty role. -/
def zero : Role := ⟨0, "", [], []⟩

/-- Reads `{"id", "name", "permissions", "limits"}`. -/
def reader : Reader Role :=
  Reader.object [
    ("id", Reader.field (·.id) (fun r v => { r with id := v }) Reader.int64),
    ("name", Reader.field (·.name) (fun r v => { r with name := v }) Reader.string),
    ("permissions", Reader.field (·.permissions) (fun r v => { r with permissions := v })
      (Reader.list Reader.string "")),
    ("limits", Reader.field (·.limits) (fun r v => { r with limits := v })
      (Reader.list Limit.reader Limit.zero))]

/-- Writes a role as `{"id", "name", "permissions", "limits"}`. -/
def toJson (r : Role) : Json :=
  .object [("id", .int r.id.toInt), ("name", .string r.name),
    ("permissions", Json.strings r.permissions), ("limits", .array (r.limits.map Limit.toJson))]

end Role

namespace Identity

/-- An identity with id 0, role 0, priority 0 and no limits of its own. -/
def zero : Identity := ⟨0, 0, 0, none⟩

/-- The identity of a known id with nothing else known. -/
def ofId (id : Int64) : Identity := { zero with id := id }

/-- Reads `{"id", "role", "priority", "limits"}`; a missing or `null` limit list leaves the
role's limits in force, while `[]` gives no limits at all. -/
def reader : Reader Identity :=
  Reader.object [
    ("id", Reader.field (·.id) (fun i v => { i with id := v }) Reader.int64),
    ("role", Reader.field (·.role) (fun i v => { i with role := v }) Reader.int64),
    ("priority", Reader.field (·.priority) (fun i v => { i with priority := v }) Reader.int64),
    ("limits", fun j i => match j with
      | .null => some { i with limits := none }
      | _ => (Reader.list Limit.reader Limit.zero j (i.limits.getD [])).map
          fun ls => { i with limits := some ls })]

/-- Writes `{"id", "role", "priority"}`. -/
def toJson (i : Identity) : Json :=
  .object [("id", .int i.id.toInt), ("role", .int i.role.toInt), ("priority", .int i.priority.toInt)]

end Identity

end Admission
