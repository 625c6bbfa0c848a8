import Admission.Http.Route
import Admission.Service
import Admission.Json.Number
import Admission.Json.Parse
import Admission.Decimal.Read

/-!
# The gateway's HTTP interface

Routes:

* `POST /v1/admissions`: the caller is named by `X-User-ID`; the body is
  `{"router_id", "prompt_tokens"}`. An admitted request is answered 200 with its decision and
  an `X-Request-ID` header; a refusal by its cause: an exhausted quota 429 (with
  `X-RateLimit-Limit` and, when known, `X-RateLimit-Remaining`), a missing model or router 404,
  a missing permission 403, no candidate 503, anything else 500 `internal error`.
* `POST /v1/providers/{id}/completions`: the body is `{"latency_ms", "failed"}`; a negative
  latency is refused, and a completion is answered 204.
* `GET /health`, `GET /health/live` and `GET /health/ready`: the last reports each dependency;
  only the counter store may fail without making the gateway not ready (it is then listed as
  degraded, since quotas fail open).
* `/admin/...`, when enabled: `POST /admin/limits/reset` and, with a role cache,
  `POST /admin/roles/{id}/invalidate`, for the master user or a role with the `admin`
  permission.

The caller is looked up among the users: a missing user is 404 unless it is the master user,
who needs no entry; a failed lookup is 500. A header that is not a 64-bit integer is 400, a
missing one 401. Every JSON error is `{"error": {"message", "type": "error", "code"}}`.
-/

namespace Admission

/-- A decision as JSON: `{"request_id", "router_id", "model", "provider", "strategy"}`, with
`"load_score"` when there is one. -/
def Decision.toJson (d : Decision) : Json :=
  .object ([("request_id", .string d.requestId), ("router_id", .int d.router.toInt),
    ("model", .string d.model), ("provider", .string d.provider),
    ("strategy", .string d.strategy)] ++
    match d.loadScore with
    | some x => [("load_score", Json.float x)]
    | none => [])

end Admission

namespace Admission.Http

open Routing

/-- What the HTTP interface reaches, with state `σ`. -/
structure Api (σ : Type) where
  /-- The admission service. -/
  service : Service σ
  /-- The user with an id. -/
  user : Int64 → σ → Except Fault Identity × σ
  /-- The permissions of a role. -/
  permissions : Int64 → σ → Except Fault (List String) × σ
  /-- Clears every quota counter. -/
  resetLimits : σ → Except Fault Unit × σ
  /-- Drops a role from the role cache, when there is one. -/
  invalidate : Option (Int64 → σ → Except Fault Unit × σ)
  /-- Checks each dependency: its name and, when it failed, the error. -/
  probe : σ → List (String × Option String) × σ
  /-- The user that passes every check. -/
  master : Int64
  /-- Whether the administrative routes are mounted. -/
  admin : Bool
  /-- The version reported by the health routes. -/
  version : String

/-- The handlers of the gateway's routes. -/
inductive Endpoint where
  /-- `POST /v1/admissions`. -/
  | admissions
  /-- `POST /v1/providers/{id}/completions`. -/
  | completions
  /-- `GET /health`. -/
  | health
  /-- `GET /health/live`. -/
  | live
  /-- `GET /health/ready`. -/
  | ready
  /-- `GET /metrics`. -/
  | metrics
  /-- Everything under `/admin/`. -/
  | admin
  /-- `POST /admin/limits/reset`. -/
  | resetLimits
  /-- `POST /admin/roles/{id}/invalidate`. -/
  | invalidateRole
  deriving DecidableEq, Repr

/-- A pattern for one method and a literal path with wildcards written `*`. -/
def pattern (method : Option String) (path : List String) (subtree : Bool) : Pattern :=
  ⟨method, path.map (fun s => if s == "*" then .wildcard else .literal s), subtree⟩

/-- The gateway's routes; the administrative subtree only when enabled. -/
def mainRoutes (admin : Bool) : List (Pattern × Endpoint) :=
  [(pattern (some "POST") ["v1", "admissions"] false, .admissions),
   (pattern (some "POST") ["v1", "providers", "*", "completions"] false, .completions),
   (pattern (some "GET") ["health"] false, .health),
   (pattern (some "GET") ["health", "live"] false, .live),
   (pattern (some "GET") ["health", "ready"] false, .ready),
   (pattern (some "GET") ["metrics"] false, .metrics)] ++
  (if admin then [(pattern none ["admin"] true, .admin)] else [])

/-- The administrative routes; role invalidation only with a role cache. -/
def adminRoutes (roleCache : Bool) : List (Pattern × Endpoint) :=
  [(pattern (some "POST") ["admin", "limits", "reset"] false, .resetLimits)] ++
  (if roleCache then [(pattern (some "POST") ["admin", "roles", "*", "invalidate"] false, .invalidateRole)]
   else [])

/-- What an admission request asks for. -/
structure Ask where
  /-- The router, which is required. -/
  router : Option Int64
  /-- The prompt's tokens. -/
  promptTokens : Option Int64

/-- Reads `{"router_id", "prompt_tokens"}`. -/
def Ask.reader : Reader Ask :=
  Reader.object [
    ("router_id", Reader.field (·.router) (fun a v => { a with router := v })
      (Reader.option Reader.int64 0)),
    ("prompt_tokens", Reader.field (·.promptTokens) (fun a v => { a with promptTokens := v })
      (Reader.option Reader.int64 0))]

/-- A completion report. -/
structure Report where
  /-- The latency in milliseconds. -/
  latencyMs : Int64
  /-- Whether the request failed. -/
  failed : Bool

/-- Reads `{"latency_ms", "failed"}`. -/
def Report.reader : Reader Report :=
  Reader.object [
    ("latency_ms", Reader.field (·.latencyMs) (fun r v => { r with latencyMs := v }) Reader.int64),
    ("failed", Reader.field (·.failed) (fun r v => { r with failed := v }) Reader.bool)]

/-- The first JSON value of a body, read by `r` from `zero`; none when the body does not
start with one of the right shape. -/
def decodeBody (r : Reader α) (zero : α) (body : String) : Option α :=
  (Json.parseFirst body).bind (r · zero)

namespace Api

/-- The caller named by `X-User-ID`, or the response that refuses the request. -/
def identify (api : Api σ) (req : Request) (s : σ) : Except Response Identity × σ :=
  let raw := req.header "X-User-ID"
  if raw.isEmpty then (.error (Response.failure 401 "missing user id"), s)
  else
    match Decimal.readInt64 raw with
    | none => (.error (Response.failure 400 "invalid user id"), s)
    | some id =>
      match api.user id s with
      | (.ok u, s) => (.ok u, s)
      | (.error f, s) =>
        if f.has .userNotFound then
          if id == api.master then (.ok (Identity.ofId id), s)
          else (.error (Response.failure 404 f.message), s)
        else (.error (Response.failure 500 "internal error"), s)

/-- The response to a refused admission. -/
def refusal (f : Fault) : Response :=
  match f.quota? with
  | some q =>
    let r := (Response.failure 429 q.message).withHeader "X-RateLimit-Limit" (toString q.limit.toInt)
    match q.remaining with
    | some n => r.withHeader "X-RateLimit-Remaining" (toString n.toInt)
    | none => r
  | none =>
    if f.has .modelNotFound || f.has .routerNotFound then Response.failure 404 f.message
    else if f.has .insufficientPermission then Response.failure 403 f.message
    else if f.has .noCandidates then Response.failure 503 f.message
    else Response.failure 500 "internal error"

/-- `POST /v1/admissions`. -/
def admission (api : Api σ) (req : Request) (s : σ) : Response × σ :=
  match api.identify req s with
  | (.error r, s) => (r, s)
  | (.ok who, s) =>
    match decodeBody Ask.reader ⟨none, none⟩ req.body with
    | none => (Response.failure 400 "invalid request body", s)
    | some ⟨none, _⟩ => (Response.failure 400 "router_id is required", s)
    | some ⟨some router, tokens⟩ =>
      match api.service.admitRequest who router tokens s with
      | (.error f, s) => (refusal f, s)
      | (.ok d, s) => ((Response.json 200 d.toJson).withHeader "X-Request-ID" d.requestId, s)

/-- `POST /v1/providers/{id}/completions`. -/
def completion (api : Api σ) (provider : String) (req : Request) (s : σ) : Response × σ :=
  match decodeBody Report.reader ⟨0, false⟩ req.body with
  | none => (Response.failure 400 "invalid request body", s)
  | some rep =>
    if rep.latencyMs < 0 then (Response.failure 400 "latency_ms must not be negative", s)
    else
      match api.service.complete provider (rep.latencyMs * Span.millisecond) rep.failed s with
      | (.error _, s) => (Response.failure 500 "internal error", s)
      | (.ok (), s) => (Response.empty 204, s)

/-- The readiness report of probe results, with its status code. Later results under a name
replace earlier ones. -/
def readiness (version : String) (results : List (String × Option String)) : Response :=
  let deps := results.foldl (fun acc (name, e) => Reader.assocSet acc name e) []
  let depJson : List (String × Json) := deps.map fun (name, e) =>
    (name, match e with
      | none => .object [("status", .string "ok")]
      | some m => .object ([("status", .string "error")] ++
          (if m.isEmpty then [] else [("error", .string m)])))
  let failing := deps.filter (·.2.isSome)
  let degraded := (failing.filter (·.1 == "counter_store")).map (·.1)
  let ready := failing.all (·.1 == "counter_store")
  let members : List (String × Json) :=
    [("status", .string (if ready then "ready" else "not_ready"))] ++
    (if version.isEmpty then [] else [("version", .string version)]) ++
    (if depJson.isEmpty then [] else [("dependencies", .object depJson)]) ++
    (if degraded.isEmpty then [] else [("degraded", Json.strings degraded)])
  Response.json (if ready then 200 else 503) (.object members)

/-- Runs an administrative handler for the master user or a role with `admin`. -/
def asAdmin (api : Api σ) (req : Request) (s : σ) (run : σ → Response × σ) : Response × σ :=
  match api.identify req s with
  | (.error r, s) => (r, s)
  | (.ok who, s) =>
    if who.id == api.master then run s
    else
      match api.permissions who.role s with
      | (.error _, s) => (Response.failure 500 "internal error", s)
      | (.ok perms, s) =>
        if hasPermission perms adminPermission then run s
        else (Response.failure 403 (Fault.sentinel .insufficientPermission).message, s)

/-- `POST /admin/limits/reset`. -/
def reset (api : Api σ) (s : σ) : Response × σ :=
  match api.resetLimits s with
  | (.error _, s) => (Response.failure 500 "failed to reset limits", s)
  | (.ok (), s) => (Response.json 200 (.object [("status", .string "reset")]), s)

/-- `POST /admin/roles/{id}/invalidate`. -/
def invalidateRole (api : Api σ) (raw : String) (s : σ) : Response × σ :=
  match Decimal.readInt64 raw, api.invalidate with
  | none, _ => (Response.failure 400 "invalid role id", s)
  | some _, none => (Response.plainError 404 "404 page not found", s)
  | some id, some drop =>
    match drop id s with
    | (.error _, s) => (Response.failure 500 "failed to invalidate role", s)
    | (.ok (), s) => (Response.empty 204, s)

/-- Serves a request under `/admin/`. -/
def serveAdmin (api : Api σ) (req : Request) (s : σ) : Response × σ :=
  match route (adminRoutes api.invalidate.isSome) req with
  | .respond r => (r, s)
  | .handle .resetLimits _ => api.asAdmin req s api.reset
  | .handle .invalidateRole ps => api.asAdmin req s (api.invalidateRole (ps.headD ""))
  | .handle _ _ => (Response.plainError 404 "404 page not found", s)

/-- Serves a request. -/
def serve (api : Api σ) (req : Request) (s : σ) : Response × σ :=
  match route (mainRoutes api.admin) req with
  | .respond r => (r, s)
  | .handle .admissions _ => api.admission req s
  | .handle .completions ps => api.completion (ps.headD "") req s
  | .handle .health _ =>
    (Response.json 200 (.object [("status", .string "healthy"), ("version", .string api.version)]), s)
  | .handle .live _ => (Response.json 200 (.object [("status", .string "ok")]), s)
  | .handle .ready _ =>
    let (results, s) := api.probe s
    (readiness api.version results, s)
  | .handle .metrics _ => (⟨200, [("Content-Type", "text/plain; version=0.0.4; charset=utf-8")], .text ""⟩, s)
  | .handle .admin _ => api.serveAdmin req s
  | .handle _ _ => (Response.plainError 404 "404 page not found", s)

end Api

end Admission.Http
