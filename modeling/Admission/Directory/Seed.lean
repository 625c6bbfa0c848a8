import Admission.Yaml.Decode
import Admission.Text.Expand
import Admission.Router
import Admission.Role

/-!
# Seeds

A seed lists the routers, roles and users a directory starts with, written in YAML:

```
routers:
  - id: 1
    name: chat
    strategy: round_robin
    providers:
      - {id: p1, model: small, qos: {performance_threshold: 0.8}}
roles:
  - {id: 1, name: default, permissions: [read_metric], limits: [{router: 1, type: rpm, value: 10}]}
users:
  - {id: 7, role: 1, priority: 2}
```

Reading a seed expands `${VAR}` and `$VAR` first, then reads the YAML; a syntax error or a
value of the wrong type fails it (`SeedError.parse`). Each router's strategy is then
normalised (an empty one is `shuffle`; an unknown one is an error naming the router's place),
and the whole seed is validated:

* router ids are unique, and within a router provider ids are present and unique;
* role ids are unique; each limit has a known type, a value that is not negative, and a router
  of the seed;
* user ids are unique, and each user's role is a role of the seed.

The first problem found, in that order, is the error.
-/

namespace Admission.Directory

open Yaml

/-- A seed: routers, roles and users in the order written. -/
structure Seed where
  /-- The roles. -/
  roles : List Role
  /-- The users, with no limits of their own. -/
  users : List Identity
  /-- The routers. -/
  routers : List Router
  deriving Repr

/-- Why a seed could not be read. -/
inductive SeedError where
  /-- The text is not YAML of the right shape: the reader's message for a syntax error or a
  failure that stopped it, none for values of the wrong type. -/
  | parse (message : Option String)
  /-- The seed is not valid: the message says why. -/
  | invalid (message : String)
  /-- Reading the text ended with a runtime panic, with the runtime's message. -/
  | panic (message : String)
  deriving DecidableEq, Repr

namespace Seed

/-- An empty seed. -/
def empty : Seed := ⟨[], [], []⟩

/-- Reads a limit `{router, type, value}`. -/
def limitDecoder : Decoder Limit :=
  Decoder.record [
    Decoder.field "router" (·.router) (fun l v => { l with router := v }) Decoder.int64,
    Decoder.field "type" (·.type.name) (fun l v => { l with type := ⟨v⟩ }) Decoder.string,
    Decoder.field "value" (·.value) (fun l v => { l with value := v })
      (Decoder.option Decoder.int64 0)]

/-- Reads a role `{id, name, permissions, limits}`. -/
def roleDecoder : Decoder Role :=
  Decoder.record [
    Decoder.field "id" (·.id) (fun r v => { r with id := v }) Decoder.int64,
    Decoder.field "name" (·.name) (fun r v => { r with name := v }) Decoder.string,
    Decoder.field "permissions" (·.permissions) (fun r v => { r with permissions := v })
      (Decoder.list Decoder.string ""),
    Decoder.field "limits" (·.limits) (fun r v => { r with limits := v })
      (Decoder.list limitDecoder Limit.zero)]

/-- Reads a user `{id, role, priority}`. -/
def userDecoder : Decoder Identity :=
  Decoder.record [
    Decoder.field "id" (·.id) (fun u v => { u with id := v }) Decoder.int64,
    Decoder.field "role" (·.role) (fun u v => { u with role := v }) Decoder.int64,
    Decoder.field "priority" (·.priority) (fun u v => { u with priority := v }) Decoder.int64]

/-- Reads a provider's quality-of-service settings. -/
def qosDecoder : Decoder QosConfig :=
  Decoder.record [
    Decoder.field "performance_threshold" (·.performanceThreshold)
      (fun q v => { q with performanceThreshold := v }) (Decoder.option Decoder.float Binary64.zero),
    Decoder.field "max_parallel_requests" (·.maxParallelRequests)
      (fun q v => { q with maxParallelRequests := v }) (Decoder.option Decoder.int64 0),
    Decoder.field "warn_only" (·.warnOnly) (fun q v => { q with warnOnly := v }) Decoder.bool]

/-- Reads a provider `{id, model, qos}`; its signals are never read from a seed. -/
def providerDecoder : Decoder Provider :=
  Decoder.record [
    Decoder.field "id" (·.id) (fun p v => { p with id := v }) Decoder.string,
    Decoder.field "model" (·.model) (fun p v => { p with model := v }) Decoder.string,
    Decoder.field "qos" (·.qos) (fun p v => { p with qos := v }) qosDecoder]

/-- Reads a router `{id, name, strategy, providers}`. -/
def routerDecoder : Decoder Router :=
  Decoder.record [
    Decoder.field "id" (·.id) (fun r v => { r with id := v }) Decoder.int64,
    Decoder.field "name" (·.name) (fun r v => { r with name := v }) Decoder.string,
    Decoder.field "strategy" (·.strategy) (fun r v => { r with strategy := v }) Decoder.string,
    Decoder.field "providers" (·.providers) (fun r v => { r with providers := v })
      (Decoder.list providerDecoder Provider.zero)]

/-- Reads a seed `{roles, users, routers}`. -/
def decoder : Decoder Seed :=
  Decoder.record [
    Decoder.field "roles" (·.roles) (fun s v => { s with roles := v })
      (Decoder.list roleDecoder Role.zero),
    Decoder.field "users" (·.users) (fun s v => { s with users := v })
      (Decoder.list userDecoder Identity.zero),
    Decoder.field "routers" (·.routers) (fun s v => { s with routers := v })
      (Decoder.list routerDecoder Router.zero)]

/-- Normalises each router's strategy, failing at the first unknown one. -/
def normalize : Nat → List Router → Except SeedError (List Router)
  | _, [] => .ok []
  | i, r :: rs =>
    match Strategy.parse r.strategy with
    | .error f => .error (.invalid ("seed: routers[" ++ toString i ++ "]: " ++ f.message))
    | .ok s =>
      match normalize (i + 1) rs with
      | .ok rs => .ok ({ r with strategy := s.name } :: rs)
      | .error e => .error e

/-- The first provider problem of a router at place `i`, if any. -/
def providerProblem (i : Nat) (r : Router) : Option String :=
  let rec go (j : Nat) (seen : List String) : List Provider → Option String
    | [] => none
    | p :: ps =>
      if p.id.isEmpty then
        some ("seed: routers[" ++ toString i ++ "].providers[" ++ toString j ++ "]: id is required")
      else if seen.contains p.id then
        some ("seed: router " ++ toString r.id.toInt ++ ": duplicate provider id " ++ Text.quote p.id)
      else go (j + 1) (p.id :: seen) ps
  go 0 [] r.providers

/-- The first router problem, if any; `seen` holds the ids so far. -/
def routerProblem (i : Nat) (seen : List Int64) : List Router → Option String
  | [] => none
  | r :: rs =>
    if seen.contains r.id then some ("seed: duplicate router id " ++ toString r.id.toInt)
    else
      match providerProblem i r with
      | some m => some m
      | none => routerProblem (i + 1) (r.id :: seen) rs

/-- The first limit problem of a role at place `i`, if any. -/
def limitProblem (i : Nat) (routers : List Int64) (j : Nat) : List Limit → Option String
  | [] => none
  | l :: ls =>
    let place := "seed: roles[" ++ toString i ++ "].limits[" ++ toString j ++ "]: "
    if !l.type.valid then some (place ++ "invalid type " ++ Text.quote l.type.name)
    else if (l.value.map (fun v => decide (v < 0))).getD false then
      some (place ++ "value must not be negative")
    else if !routers.contains l.router then
      some (place ++ "unknown router " ++ toString l.router.toInt)
    else limitProblem i routers (j + 1) ls

/-- The first role problem, if any; `seen` holds the ids so far. -/
def roleProblem (routers : List Int64) (i : Nat) (seen : List Int64) : List Role → Option String
  | [] => none
  | r :: rs =>
    if seen.contains r.id then some ("seed: duplicate role id " ++ toString r.id.toInt)
    else
      match limitProblem i routers 0 r.limits with
      | some m => some m
      | none => roleProblem routers (i + 1) (r.id :: seen) rs

/-- The first user problem, if any; `seen` holds the ids so far. -/
def userProblem (roles : List Int64) (i : Nat) (seen : List Int64) : List Identity → Option String
  | [] => none
  | u :: us =>
    if seen.contains u.id then some ("seed: duplicate user id " ++ toString u.id.toInt)
    else if !roles.contains u.role then
      some ("seed: users[" ++ toString i ++ "]: unknown role " ++ toString u.role.toInt)
    else userProblem roles (i + 1) (u.id :: seen) us

/-- The first problem of a seed, if any. -/
def problem (s : Seed) : Option String :=
  match routerProblem 0 [] s.routers with
  | some m => some m
  | none =>
    match roleProblem (s.routers.map (·.id)) 0 [] s.roles with
    | some m => some m
    | none => userProblem (s.roles.map (·.id)) 0 [] s.users

/-- Reads a seed from its text, with `lookup` giving the variables. -/
def parse (lookup : String → String) (text : String) : Except SeedError Seed :=
  let expanded := Expand.expand lookup text
  match readDocument decoder empty expanded with
  | .error (.fatal m) => .error (.parse (some m))
  | .error .mismatch => .error (.parse none)
  | .error (.panic m) => .error (.panic m)
  | .ok s =>
    match normalize 0 s.routers with
    | .error e => .error e
    | .ok routers =>
      let s := { s with routers := routers }
      match s.problem with
      | some m => .error (.invalid m)
      | none => .ok s

/-- Writes a seed as `{"roles", "users", "routers"}`. -/
def toJson (s : Seed) : Json :=
  .object [("roles", .array (s.roles.map Role.toJson)),
    ("users", .array (s.users.map Identity.toJson)),
    ("routers", .array (s.routers.map Router.toJson))]

end Seed

end Admission.Directory
