import Admission.Script.Stores
import Admission.Script.KeyValue
import Admission.Script.Cloud
import Admission.Script.Seed
import Admission.Script.Gateway
import Admission.Gateway.Launch

/-!
# The `gateway_main` script

Runs the gateway process, entered as `run` (the default) or `main`, with the variables of
`env` over the fixed environment, and then runs the steps against it.

Around the process:

* `redis`: whether the key-value server runs, holding `redis_keys` and failing as
  `redis_fail` says;
* `pg_seed`: routers, roles and users written into the database first; the writes refused are
  listed in `setup_errors`, each with what it was;
* `seed_yaml`: a seed file, whose path is given to the process as `SEED_FILE`;
* `aws`, `aws_fail`: the cloud, whose configuration fails when `aws_fail` names `config`;
* `busy_addr`: the process's listening address is taken.

Placeholders in the values of `env` name the live stores: `{{REDIS}}`, `{{PG}}`, and
`{{DEAD}}` and `{{DEAD_PG}}` for stores where nothing answers.

Settings that fail validation answer `invalid_config`. A process that stops before serving
reports why in `run_error`. A serving process answers the steps: the key-value server's own
steps, `aws_requests`, and `request`, which never reaches the process's listening address; then it is told
to stop, and stops.
-/

namespace Admission.Script

open KeyValue Gateway Directory

/-- The URL of the live database. -/
def databaseUrl : String := "postgres://gateway@/directory?host=/run/pg&sslmode=disable"

/-- A key-value URL where nothing answers, with a short dial timeout. -/
def deadServerUrl : String := "redis://127.0.0.1:1/0?dial_timeout=200ms&max_retries=-1"

/-- A database URL where nothing answers. -/
def deadDatabaseUrl : String := "postgres://gateway@127.0.0.1:1/directory?sslmode=disable"

/-- The path the seed file is written to. -/
def seedPath : String := "/tmp/gateway-seed.yaml"

/-- The address the process listens on. -/
def listenAddr : String := "127.0.0.1:18080"

/-- A text with the placeholders of the live and dead stores filled in. -/
def fillStores (s : String) : String :=
  let s := s.replace "\x7b\x7bDEAD_PG\x7d\x7d" deadDatabaseUrl
  let s := s.replace "\x7b\x7bDEAD\x7d\x7d" deadServerUrl
  let s := s.replace "\x7b\x7bPG\x7d\x7d" databaseUrl
  s.replace tcpPlaceholder ("unix://" ++ serverSocket ++ "?db=0&max_retries=-1")

/-- The process's environment: its address and seed file, then `env`, then the fixed
variables; the first value of a name counts. -/
def processEnvironment (env : List (String × String)) (seeded : Bool) :
    List (String × String) :=
  [("ADDR", listenAddr)] ++ (if seeded then [("SEED_FILE", seedPath)] else []) ++
    (env.map fun (k, v) => (k, fillStores v)) ++ fixedEnvironment

/-- The key-value server before the process starts. -/
def startingServer (keys : List (String × String)) (outage : Json) : Server :=
  let s := keys.foldl (fun s kv => s.write kv.1 ⟨kv.2, none⟩) Server.empty
  match outage with
  | .object _ => ((serverStep "redis_fail" outage fakeStart s).map Prod.snd).getD s
  | _ => s

/-- Runs one step against a serving process. -/
def processStep (cloud : Bool) (server : Option Server) (s : Json) : Json × Option Server :=
  match text s "do" with
  | none => (badInput, server)
  | some action =>
    if action = "request" then (.object [("error", .string "http")], server)
    else if action.startsWith "redis_" then
      match server with
      | none => (.object [("error", .string "no_redis")], server)
      | some srv =>
        match serverStep action s fakeStart srv with
        | some (j, srv) => (j, some srv)
        | none => (badInput, server)
    else if action = "aws_requests" then
      (if cloud then noRequests else .object [("error", .string "no_aws")], server)
    else (badInput, server)

/-- The answer to a process that stopped before serving. A seed file's failure is a general
error here: its own message, or `parse seed: ` and the reader's message, where values of the
wrong type are a library error whose wording is not specified. -/
def startFailureJson : StartFailure → Json
  | .fault f => fault f
  | .seed (.invalid m) => .object [("error", .string "error"), ("message", .string m)]
  | .seed (.panic m) => .object [("error", .string "panic"), ("message", .string m)]
  | .seed (.parse m) =>
    .object [("error", .string "error"),
      ("message", .string ("parse seed: " ++ m.getD "<backend error>"))]

/-- `gateway_main {entry, env, seed_yaml, redis, redis_keys, redis_fail, pg_seed, aws,
secrets, aws_fail, busy_addr, steps}`. -/
def gatewayMain (j : Json) : Json := orBad do
  let entry ← text j "entry"
  if entry ≠ "" && entry ≠ "run" && entry ≠ "main" then none
  let env ← textMap j "env"
  let seedYaml ← text j "seed_yaml"
  let redis ← flag j "redis"
  let keys ← textMap j "redis_keys"
  let outage ← field j "redis_fail" (fun v _ => some v) .null
  let pgSeed ← field j "pg_seed" (Reader.option seedReader Seed.empty) none
  let aws ← flag j "aws"
  let _ ← textMap j "secrets"
  let awsFail ← textMap j "aws_fail"
  let busy ← flag j "busy_addr"
  let ss ← steps j
  let vars := processEnvironment env (!seedYaml.isEmpty)
  match Config.load (environmentOf vars) with
  | .error m => pure (invalidConfig m)
  | .ok cfg =>
    let (refused, db) := match pgSeed with
      | some seed => Database.fresh.ensureSchema.2.load seed.routers seed.roles seed.users
      | none => ([], Database.fresh)
    let around : Surroundings := {
      server := if redis then some (startingServer keys outage) else none,
      socket := serverSocket,
      database := (databaseUrl, db),
      seedFile := if seedYaml.isEmpty then none else some (seedPath, seedYaml),
      readFile := FileSystem.readFile,
      environment := envValue (vars.filter settable),
      cloudConfigFails := aws && configFails awsFail,
      portTaken := busy,
      now := fakeStart }
    let (server, outcome) := start cfg around
    let answer : Json := match outcome with
      | .ok () =>
        let rs := (runSteps (processStep aws) ss server).1
        .object [("results", .array rs), ("started", .bool true), ("stopped", .bool true)]
      | .error e =>
        .object [("results", .array []), ("started", .bool false), ("stopped", .bool true),
          ("run_error", startFailureJson e)]
    pure (match pgSeed with
      | some _ => answer.push "setup_errors" (.array (refused.map fun (what, f) =>
          (fault f).push "what" (.string what)))
      | none => answer)

end Admission.Script
