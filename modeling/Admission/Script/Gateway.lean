import Admission.Gateway.World
import Admission.Http.RequestLine
import Admission.Script.Limiter
import Admission.Script.Seed
import Admission.Script.Cloud

/-!
# The `gateway` script

A whole gateway, its parts chosen by the script, over a directory filled from a seed (JSON,
stored as given, or YAML, read and validated as a seed file is). Steps drive the admission
service, the tracker, the stores and the HTTP interface, and look at what the parts hold.

Decisions whose pick could have been a random draw show no provider or model (`null`) and
`"shuffled": true`; so do the jobs they dispatched.

A request is built from its method and target as a test client builds it
(`Request.build`). A runtime failure ends the run, and the whole script is then answered
`{"error":"panic","message":...}`: a request that cannot be built, or a metric labelled with
a provider id that is not UTF-8.

With `directory: "postgres"` the directory is the database: the seed is written into it
first (routers, then roles, then users), the writes it refuses are listed in
`setup_errors`, role lookups always go through the role cache, and the steps `db_ping` and
`db_close` reach the database.
-/

namespace Admission.Script

open Gateway Directory Routing Tracker Notify Http KeyValue Quota

/-- The members of measurements: `performance_indicator` and `parallel_requests`. -/
def signalsMembers (s : Signals) : List (String × Json) :=
  [("performance_indicator", Json.floatOpt s.performanceIndicator),
    ("parallel_requests", Json.intOpt (s.parallelRequests.map Int64.toInt))]

/-- Whether a pick of the router could have been any of several providers: the router, as the
directory has it, shuffles and has more than one provider. -/
def pickHidden (w : World) (router : Int64) : Bool :=
  match w.directory.router router with
  | .ok r =>
    match Strategy.parse r.strategy with
    | .ok .shuffle => 1 < r.providers.length
    | _ => false
  | .error _ => false

/-- The provider and model of a pick, or `null` for both and `"shuffled": true` when hidden. -/
def pickMembers (hidden : Bool) (provider model : String) (providerKey : String) :
    List (String × Json) :=
  if hidden then [(providerKey, .null), ("model", .null), ("shuffled", .bool true)]
  else [(providerKey, .string provider), ("model", .string model)]

/-- The answer to an admission: the decision without its request id, its load score `null` when
there is none. -/
def decisionJson (w : World) (d : Decision) : Json :=
  .object ([("router_id", .int d.router.toInt)] ++
    pickMembers (pickHidden w d.router) d.provider d.model "provider" ++
    [("strategy", .string d.strategy), ("load_score", Json.floatOpt d.loadScore)])

/-- The answer to a selection: the decision it makes, with the chosen provider's measurements. -/
def selectionJson (w : World) (router : Int64) (sel : Selection) : Json :=
  let hidden := pickHidden w router
  .object ([("router_id", .int router.toInt)] ++
    pickMembers hidden sel.provider.id sel.provider.model "provider" ++
    [("strategy", .string sel.strategy.name), ("load_score", Json.floatOpt sel.score),
      ("signals", if hidden then .null else .object (signalsMembers sel.provider.signals))])

/-- A dispatched job. -/
def jobJson (w : World) (j : Job) : Json :=
  .object ([("user_id", .int j.user.toInt), ("priority", .int j.priority.toInt),
    ("router_id", .int j.router.toInt)] ++
    pickMembers (pickHidden w j.router) j.provider j.model "provider_id" ++
    [("prompt_tokens", Json.intOpt (j.promptTokens.map Int64.toInt))])

/-- The body of an admitted request's answer, its pick hidden as a decision's is. -/
def hidePick (w : World) (body : Json) : Json :=
  match body.get? "router_id" with
  | some (.number n) =>
    match Decimal.readInt64 n with
    | some router =>
      let shuffles := match body.get? "strategy" with
        | some (.string s) => s == Strategy.shuffle.name
        | _ => false
      if shuffles && pickHidden w router then
        (Json.object (body.members.map fun (k, v) =>
          if k == "provider" || k == "model" then (k, .null) else (k, v))).push
          "shuffled" (.bool true)
      else body
    | none => body
  | _ => body

/-- A received notification. -/
def noticeJson (n : Notification) : Json :=
  .object ([("type", .string n.kind.name), ("user_id", .int n.user.toInt),
    ("router_id", .int n.router.toInt), ("message", .string n.message)] ++
    match n.quota with
    | some (t, cap) => [("data", .object [("limit_type", .string t.name), ("limit", .int cap.toInt)])]
    | none => [])

/-- The answer to an HTTP request: status, content type, whether a request id was set, the
quota and method headers, and the body, parsed when it is JSON (without its request id). -/
def responseJson (w : World) (r : Response) : Json :=
  let contentType := r.header "Content-Type"
  let shown := ["X-RateLimit-Limit", "X-RateLimit-Remaining", "Allow"].filterMap fun n =>
    let v := r.header n
    if v.isEmpty then none else some (n, Json.string v)
  let body : String × Json :=
    match r.body, contentType.startsWith "application/json" with
    | .json j, true => ("body", hidePick w (j.erase "request_id"))
    | _, _ => ("body_text", .string r.bodyText)
  .object [("status", .int r.status), ("content_type", .string contentType),
    ("has_request_id", .bool !(r.header "X-Request-ID").isEmpty), ("headers", .object shown), body]

/-- The counter store a `storage` name picks. -/
def counterChoice (name message : String) : Option CounterChoice :=
  if name = "" || name = "memory" then some (.memory .truthful)
  else if name = "broken" then some (.memory (.broken message))
  else if name = "no_expiry" then some (.memory .noExpiry)
  else if name = "ttl_error" then some (.memory (.ttlFails message))
  else if name = "clear_error" then some (.memory (.clearFails message))
  else if name = "redis" then some .remote
  else none

/-- The tracker a `tracker` name picks. -/
def trackerChoice (name : String) : Option (Option TrackerChoice) :=
  if name = "" || name = "memory" then some (some .memory)
  else if name = "none" then some none
  else if name = "broken" then some (some .broken)
  else if name = "cancel_broken" then some (some .cancelBroken)
  else if name = "redis" then some (some .remote)
  else none

/-- The dispatcher a `dispatcher` name picks. -/
def dispatchChoice (name queue : String) : Option (Option DispatchChoice) :=
  if name = "" || name = "memory" then some (some .memory)
  else if name = "none" then some none
  else if name = "broken" then some (some .broken)
  else if name = "sqs" then some (some (.queue queue))
  else none

/-- The notifier a `notifier` name picks. -/
def notifierChoice (name topic : String) (ttl : Span) : Option (Option (DedupChoice × SinkChoice)) :=
  if name = "" || name = "memory" then some (some (.none, .memory))
  else if name = "dedup" then some (some (.memory ttl, .memory))
  else if name = "none" then some none
  else if name = "broken" then some (some (.none, .broken))
  else if name = "dedup_redis" then some (some (.remote ttl, .memory))
  else if name = "sns" then some (some (.none, .topic topic))
  else if name = "sns_dedup" then some (some (.memory ttl, .topic topic))
  else if name = "sns_dedup_redis" then some (some (.remote ttl, .topic topic))
  else none

/-- The offset store an `offset_store` name picks. -/
def offsetChoice (name : String) : Option OffsetChoice :=
  if name = "" || name = "directory" then some .directory
  else if name = "memory" then some .memory
  else if name = "broken" then some .broken
  else if name = "redis" then some .remote
  else none

/-- The role cache a `role_cache_backend` name picks. -/
def cacheChoice (name : String) : Option CacheChoice :=
  if name = "" || name = "memory" then some .memory
  else if name = "redis" then some .remote
  else none

/-- A readiness probe as written: `{"name", "error", "kind"}`. -/
structure ProbeSpec where
  /-- The dependency's name. -/
  name : String
  /-- Its error; empty when healthy. -/
  error : String
  /-- `redis` or `postgres` for a real probe; anything else for a fixed one. -/
  kind : String

/-- Reads `{"name", "error", "kind"}`. -/
def ProbeSpec.reader : Reader ProbeSpec :=
  Reader.object [
    ("name", Reader.field (·.name) (fun p v => { p with name := v }) Reader.string),
    ("error", Reader.field (·.error) (fun p v => { p with error := v }) Reader.string),
    ("kind", Reader.field (·.kind) (fun p v => { p with kind := v }) Reader.string)]

/-- The probe a written probe stands for: a real one for the kinds `redis` and `postgres`,
else one that always answers with the written error. -/
def ProbeSpec.probe (p : ProbeSpec) : Probe :=
  if p.kind = "redis" then .counterStore
  else if p.kind = "postgres" then .directory
  else .fixed p.name (if p.error.isEmpty then none else some p.error)

/-- A seed user `{"id", "role", "priority"}`; any limits it gives are not read. -/
def seedUserReader : Reader Identity :=
  Reader.object [
    ("id", Reader.field (·.id) (fun i v => { i with id := v }) Reader.int64),
    ("role", Reader.field (·.role) (fun i v => { i with role := v }) Reader.int64),
    ("priority", Reader.field (·.priority) (fun i v => { i with priority := v }) Reader.int64)]

/-- A JSON seed `{"roles", "users", "routers"}`. -/
def seedReader : Reader Seed :=
  Reader.object [
    ("roles", Reader.field (·.roles) (fun s v => { s with roles := v })
      (Reader.list Role.reader Role.zero)),
    ("users", Reader.field (·.users) (fun s v => { s with users := v })
      (Reader.list seedUserReader Identity.zero)),
    ("routers", Reader.field (·.routers) (fun s v => { s with routers := v })
      (Reader.list Router.reader Router.zero))]

/-- What a gateway script uses beyond its parts. -/
structure Stage where
  /-- Whether any part uses the key-value server. -/
  remote : Bool
  /-- Whether any part uses the cloud. -/
  cloud : Bool

/-- The fields a gateway step may carry. -/
structure GatewayStep where
  /-- What to do. -/
  action : String
  /-- A user id to look up, if one is given. -/
  user : Option Int64
  /-- An identity given in full. -/
  identity : Option Identity
  /-- A router id. -/
  router : Int64
  /-- The prompt's tokens. -/
  promptTokens : Option Int64
  /-- Whether to skip quality of service. -/
  withoutQos : Bool
  /-- A provider id. -/
  provider : String
  /-- A latency. -/
  latency : Span
  /-- Whether the request failed. -/
  failed : Bool
  /-- Provider ids. -/
  providers : List String
  /-- A clock step. -/
  ns : Int64
  /-- A role to store. -/
  role : Option Role
  /-- A router to store. -/
  routerDef : Option Router
  /-- A user to store. -/
  userDef : Option Identity
  /-- A role id (or, for `get_user`, a user id). -/
  roleId : Int64
  /-- An HTTP method. -/
  method : String
  /-- An HTTP target. -/
  path : String
  /-- HTTP headers. -/
  headers : List (String × String)
  /-- An HTTP body. -/
  body : String

/-- Reads the fields of a gateway step. -/
def GatewayStep.read (s : Json) : Option GatewayStep := do
  let action ← text s "do"
  let user ← intOpt s "user"
  let identity ← field s "identity" (Reader.option Identity.reader Identity.zero) none
  let router ← int s "router"
  let promptTokens ← intOpt s "prompt_tokens"
  let withoutQos ← flag s "without_qos"
  let provider ← text s "provider"
  let latency ← int s "latency_ns"
  let failed ← flag s "failed"
  let providers ← texts s "providers"
  let ns ← int s "ns"
  let role ← field s "role" (Reader.option Role.reader Role.zero) none
  let routerDef ← field s "router_def" (Reader.option Router.reader Router.zero) none
  let userDef ← field s "user_def" (Reader.option Identity.reader Identity.zero) none
  let roleId ← int s "role_id"
  let method ← text s "method"
  let path ← text s "path"
  let headers ← field s "headers" (Reader.map Reader.string "") []
  let body ← text s "body"
  pure ⟨action, user, identity, router, promptTokens, withoutQos, provider, latency, failed,
    providers, ns, role, routerDef, userDef, roleId, method, path, headers, body⟩

/-- Answers `ok` or the fault. -/
def okOr (r : Except Fault Unit) : Json := answerOr r (fun _ => Json.ok)

/-- The answer to an absent tracker. -/
def noTracker : Json := .object [("error", .string "no_tracker")]

/-- Runs one step of a gateway script; none when the step is unknown or incomplete. -/
def gatewayAction (g : Setup) (stage : Stage) (st : GatewayStep) (s : Json) (w : World) :
    Option (Json × World) :=
  let act := st.action
  if act = "admit" then
    let who : Except Fault Identity := match st.identity, st.user with
      | some i, _ => .ok i
      | none, some u => w.directory.user u
      | none, none => .ok Identity.zero
    match who with
    | .error f => some (fault f, w)
    | .ok who =>
      let (r, w) := g.service.admitRequest who st.router st.promptTokens w
      some (answerOr r (decisionJson w), w)
  else if act = "select" then
    let (r, w) := select g.sources st.router st.withoutQos w
    some (answerOr r (selectionJson w st.router), w)
  else if act = "complete" then
    let (r, w) := g.service.complete st.provider st.latency st.failed w
    some (okOr r, w)
  else if act = "acquire" || act = "release" || act = "cancel" then
    match g.tracking with
    | none => some (noTracker, w)
    | some t =>
      let (r, w) := if act = "acquire" then t.acquire st.provider w
        else if act = "release" then t.release st.provider st.latency st.failed w
        else t.cancel st.provider w
      some (okOr r, w)
  else if act = "snapshot" then
    match g.snapshot false with
    | none => some (noTracker, w)
    | some read =>
      let (r, w) := read st.providers w
      some (answerOr r (fun rs =>
        .object [("signals", .array (rs.map fun (id, sg) =>
            .object ([("id", .string id)] ++ signalsMembers sg))),
          ("size", .int rs.size)]), w)
  else if act = "advance" then some (Json.ok, { w with now := w.now + st.ns.toInt })
  else if act = "jobs" then some (.object [("jobs", .array (w.jobs.map (jobJson w)))], w)
  else if act = "notifications" then
    some (.object [("notifications", .array (w.notices.map noticeJson))], w)
  else if act = "reset_limits" then
    let (r, w) := g.limiter.reset g.counterOps w.now w
    some (okOr r, w)
  else if act = "put_role" then
    st.role.map fun r => let (x, d) := w.directory.putRole r; (okOr x, { w with directory := d })
  else if act = "put_router" then
    st.routerDef.map fun r =>
      let (x, d) := w.directory.putRouter r
      (okOr x, { w with directory := d })
  else if act = "put_user" then
    st.userDef.map fun u => let (x, d) := w.directory.putUser u; (okOr x, { w with directory := d })
  else if act = "invalidate_role" then
    match g.invalidate with
    | none => some (.object [("error", .string "no_role_cache")], w)
    | some drop => let (r, w) := drop st.roleId w; some (okOr r, w)
  else if act = "resolve_limits" || act = "resolve_permissions" then
    let (r, w) : Except Fault RoleEntry × World := match g.roleCache with
      | none => (freshEntry w.directory st.roleId, w)
      | some _ => g.roleEntry st.roleId w
    some (answerOr r (fun e =>
      if act = "resolve_limits" then
        .object [("limits", .array ((e.limits.getD []).map Limit.toJson))]
      else .object [("permissions", Json.strings (e.permissions.getD []))]), w)
  else if act = "get_user" then some (answerOr (w.directory.user st.roleId) Identity.toJson, w)
  else if act = "get_router" then some (answerOr (w.directory.router st.router) Router.toJson, w)
  else if act = "next_offset" then
    let (r, d) := w.directory.nextOffset st.router
    some (answerOr r (fun o => intAnswer "offset" o.toInt), { w with directory := d })
  else if act = "request" then
    match Request.build st.method st.path st.headers st.body with
    | .error e => some (.null, w.crash ("invalid NewRequest arguments; " ++ e))
    | .ok req =>
      let (resp, w) := g.api.serve req w
      some (responseJson w resp, w)
  else if act = "aws_requests" then
    some (if stage.cloud then .object [("requests", .array [])] else .object [("error", .string "no_aws")], w)
  else if act = "aws_fail" then
    some (if stage.cloud then Json.ok else .object [("error", .string "no_aws")], w)
  else if act = "db_close" || act = "db_ping" then
    match w.directory with
    | .catalog _ => none
    | .tables db =>
      if act = "db_close" then some (Json.ok, { w with directory := .tables db.close })
      else some ((okOr db.ping).push "name" (.string "directory"), w)
  else
    let _ := s
    none

/-- Runs one step of a gateway script, given with its fields read: the key-value server's
own steps when a part uses the server, else a step of the gateway; an unknown step answers
`bad_input`. -/
def gatewayStep (g : Setup) (stage : Stage) (w : World) (step : GatewayStep × Json) :
    Json × World :=
  let (st, s) := step
  let server := if stage.remote then serverStep st.action s w.now w.remote.server else none
  match server with
  | some (j, srv) => (j, { w with remote := { w.remote with server := srv } })
  | none => (gatewayAction g stage st s w).getD (badInput, w)

/-- Runs the steps of a gateway script in turn: their answers, or the message of the runtime
failure that ended the run. -/
def runGateway (step : World → α → Json × World) : List α → World → Except String (List Json)
  | [], _ => .ok []
  | s :: ss, w =>
    let (j, w) := step w s
    match w.crashed with
    | some m => .error m
    | none => (runGateway step ss w).map (j :: ·)

/-- The answer to a run that a runtime failure ended. -/
def crashed (message : String) : Json :=
  .object [("error", .string "panic"), ("message", .string message)]

/-- The directory a script chose: whether it is the database. -/
def tablesChoice (name : String) : Option Bool :=
  if name = "" || name = "memory" then some false
  else if name = "postgres" then some true
  else none

/-- `gateway {seed | seed_yaml, parts…, steps}`. A step with a field of the wrong shape makes
the whole script unreadable. A `seed_yaml` that is given, even empty, is read in place of
`seed`. The seed is checked first, then the storage and the rate-limit strategy, then the other
parts; the role cache's backend only when there is a role cache. -/
def gateway (j : Json) : Json := orBad do
  let ss ← (← steps j).mapM fun s => (GatewayStep.read s).map (·, s)
  let storage ← text j "storage"
  let message ← text j "fail_message"
  let message := if message.isEmpty then "store down" else message
  let strategy ← text j "rate_limit_strategy"
  let master ← int j "master_user_id"
  let fallback ← flag j "qos_fallback"
  let trackerName ← text j "tracker"
  let alpha ← floatOpt j "alpha"
  let penalty ← intOpt j "failure_penalty_ns"
  let dispatcherName ← text j "dispatcher"
  let notifierName ← text j "notifier"
  let dedupTtl ← intOpt j "dedup_ttl_ns"
  let offsetName ← text j "offset_store"
  let roleCache ← flag j "role_cache"
  let cacheTtl ← intOpt j "role_cache_ttl_ns"
  let cacheName ← text j "role_cache_backend"
  let usersFail ← flag j "users_fail"
  let version ← text j "version"
  let specs ← field j "health_checkers" (Reader.list ProbeSpec.reader ⟨"", "", ""⟩) []
  let admin ← field j "admin" (Reader.option Reader.bool false) none
  let storeTimeout ← intOpt j "store_timeout_ns"
  let queue ← text j "queue_url"
  let topic ← text j "topic_arn"
  let awsFail ← field j "aws_fail" (Reader.map Reader.string "") []
  let seedYaml ← field j "seed_yaml" (Reader.option Reader.string "") none
  let seedJson ← field j "seed" seedReader Seed.empty
  let directoryName ← text j "directory"
  let seed : Except SeedError Seed := match seedYaml with
    | some text => Seed.parse (envValue fixedEnvironment) text
    | none => .ok seedJson
  match seed with
  | .error e => pure (seedError e)
  | .ok seed =>
    let counters ← counterChoice storage message
    match WindowKind.parse (if strategy.isEmpty then "sliding_window" else strategy) with
    | .error f => pure (fault f)
    | .ok kind =>
      let tables ← tablesChoice directoryName
      let tracker ← trackerChoice trackerName
      let dispatcher ← dispatchChoice dispatcherName queue
      let notifier ← notifierChoice notifierName topic (dedupTtl.getD Span.hour)
      let offsets ← offsetChoice offsetName
      let roleCache := roleCache || tables
      let cache ← if roleCache then cacheChoice cacheName else some .memory
      let probes := specs.map ProbeSpec.probe
      let cloud := (match dispatcher with
        | some (.queue _) => true
        | _ => false) || (match notifier with
        | some (_, .topic _) => true
        | _ => false)
      if cloud && awsFail.any (·.1 == "config") then pure (fault cloudConfigFault)
      else
        let g : Setup := {
          limiter := ⟨kind, "rl"⟩, master, counters, failMessage := message,
          qosFallback := fallback, tracker,
          tuning := ⟨alpha.getD Tuning.default.alpha, penalty.getD Tuning.default.failurePenalty⟩,
          dispatcher, notifier, offsets,
          roleCache := if roleCache then some (cache, cacheTtl.getD Span.hour) else none,
          usersFail, version, probes, admin := admin.getD true,
          storeTimeout := storeTimeout.getD (250 * Span.millisecond) }
        let remote := counters == .remote || tracker == some .remote || offsets == .remote ||
          (match notifier with
            | some (.remote _, _) => true
            | _ => false) ||
          (roleCache && cache == .remote) || probes.contains .counterStore
        let run (directory : Backend) : Except String Json :=
          let w := World.create fakeStart directory (dedupTtl.getD Span.hour)
          (runGateway (gatewayStep g ⟨remote, cloud⟩) ss w).map results
        let answer (r : Except String Json) (more : Json → Json) : Json :=
          match r with
          | .ok j => more j
          | .error m => crashed m
        if tables then
          let (refused, db) := Database.fresh.ensureSchema.2.load seed.routers seed.roles seed.users
          pure (answer (run (.tables db)) fun j =>
            j.push "setup_errors" (.array (refused.map (fault ·.2))))
        else pure (answer (run (.catalog (Catalog.ofLists seed.roles seed.users seed.routers))) id)

end Admission.Script
