import Admission.Config.Settings
import Admission.Secrets.StoreUrls
import Admission.KeyValue.Dial
import Admission.Directory.Tables
import Admission.Directory.Seed
import Admission.Quota.Remote
import Admission.Quota.Limiter
import Admission.Quota.Window
import Admission.Telemetry.Exporter

/-!
# Starting the gateway process

Given valid settings, the gateway starts in this order, and the first failure stops it:

0. with an exporter endpoint, tracing starts; it fails only for an endpoint that is not a
   dial target (`init telemetry: <cause>`);
1. with a secret name, the store URLs are loaded from the cloud secret store, over those of
   the settings (`load store urls: <cause>`); building the secret-store client fails first
   when the cloud configuration cannot load;
2. with a key-value URL, a client is opened on it and the server pinged
   (`parse redis url: …`, `ping redis: …`);
3. with a database URL, the database is pinged (`ping database: <cause>`) and its schema
   applied; otherwise the seed file, when one is named, is read (`read seed: <cause>` for a
   file that cannot be read, or the seed's own error); otherwise the directory starts empty;
4. the quota counters are reset when the settings ask for it; a failure is only logged;
5. a round-robin offset store on the key-value server needs a key-value URL;
6. the job queue and the notification topic, when named, build cloud clients, which fail when
   the cloud configuration cannot load;
7. the HTTP server listens on its address (`server error: <cause>` when the address is taken).

The process then serves until it is told to stop, and stops cleanly.
-/

namespace Admission.Gateway

open Config Directory KeyValue

/-- What the process finds around it when it starts. -/
structure Surroundings where
  /-- The key-value server on its socket, if one runs. -/
  server : Option Server
  /-- The socket path of the key-value server. -/
  socket : String
  /-- The URL of the database that answers, and the database. -/
  database : String × Database
  /-- The seed file that exists, with its path and text, if any. -/
  seedFile : Option (String × String)
  /-- The machine's other files: the text at a path, or the reason it cannot be read. -/
  readFile : String → Except String String
  /-- The value of each variable a seed file's text is expanded with. -/
  environment : String → String
  /-- Whether the cloud configuration fails to load. -/
  cloudConfigFails : Bool
  /-- Whether the server's listening address is already taken. -/
  portTaken : Bool
  /-- The clock reading at start. -/
  now : Instant

/-- Why the process stopped before serving. -/
inductive StartFailure where
  /-- A failure with its message. -/
  | fault (f : Fault)
  /-- The seed file could not be used. -/
  | seed (e : SeedError)
  deriving Repr

/-- The failure of building a cloud client whose configuration cannot load. -/
def cloudConfigFault : Fault :=
  .context "load aws config"
    (.text ("invalid value AWS_MAX_ATTEMPTS=not-a-number, " ++ Fault.backend.message))

/-- A cloud client is built: it fails when the cloud configuration cannot load. -/
def buildCloudClient (s : Surroundings) : Except StartFailure Unit :=
  if s.cloudConfigFails then .error (.fault cloudConfigFault) else .ok ()

/-- Step 0: tracing, which fails only for an exporter endpoint that is not a dial target. -/
def startTracing (cfg : Settings) : Except StartFailure Unit :=
  if cfg.otlpEndpoint.isEmpty || Telemetry.endpointReads cfg.otlpEndpoint then .ok ()
  else .error (.fault (.context "init telemetry" .backend))

/-- Step 1: the store URLs, from the secret store when a secret is named. -/
def storeUrls (cfg : Settings) (s : Surroundings) : Except StartFailure Secrets.StoreUrls := do
  let urls : Secrets.StoreUrls := ⟨cfg.redisUrl, cfg.databaseUrl⟩
  if cfg.secretsName.isEmpty then return urls
  buildCloudClient s
  match Secrets.loadStoreUrls Secrets.cloudSecrets cfg.secretsName urls with
  | .ok u => pure u
  | .error e => .error (.fault (.context "load store urls" e.fault))

/-- Step 2: whether the key-value server is used, after pinging it. -/
def openKeyValue (url : String) (s : Surroundings) : Except StartFailure Bool :=
  if url.isEmpty then .ok false
  else
    let server := s.server.getD Server.empty
    let socket := if s.server.isSome then s.socket else ""
    match (ClientOptions.reach url socket server).1 with
    | .ok _ => .ok true
    | .error f => .error (.fault f)

/-- Step 3: the directory. -/
def openDirectory (cfg : Settings) (url : String) (s : Surroundings) : Except StartFailure Unit :=
  if !url.isEmpty then
    if url ≠ s.database.1 || !s.database.2.ping.toBool then
      .error (.fault (.context "ping database" .backend))
    else
      match s.database.2.ensureSchema.1 with
      | .ok () => .ok ()
      | .error f => .error (.fault f)
  else if cfg.seedFile.isEmpty then .ok ()
  else
    let content : Except String String := match s.seedFile with
      | some (path, text) => if path = cfg.seedFile then .ok text else s.readFile cfg.seedFile
      | none => s.readFile cfg.seedFile
    match content with
    | .error m => .error (.seed (.invalid ("read seed: " ++ m)))
    | .ok text =>
      match Seed.parse s.environment text with
      | .ok _ => .ok ()
      | .error e => .error (.seed e)

/-- Step 4: the key-value server after the quota counters are reset, if they are kept there
and the settings ask for it. -/
def resetCounters (cfg : Settings) (remote : Bool) (s : Surroundings) : Option Server :=
  match s.server with
  | some server =>
    if remote && cfg.resetLimitsOnStart then
      let limiter : Quota.Limiter := ⟨.sliding, cfg.rateLimitPrefix⟩
      some (limiter.reset (Quota.CounterOps.remote false) s.now (Connection.connect server)).2.server
    else some server
  | none => none

/-- Starts the process: the key-value server as the process leaves it, and whether the
process serves or why it stopped. -/
def start (cfg : Settings) (s : Surroundings) : Option Server × Except StartFailure Unit :=
  match (do startTracing cfg; storeUrls cfg s) with
  | .error e => (s.server, .error e)
  | .ok urls =>
    match openKeyValue urls.redisUrl s with
    | .error e => (s.server, .error e)
    | .ok remote =>
      match openDirectory cfg urls.databaseUrl s with
      | .error e => (s.server, .error e)
      | .ok () =>
        let server := resetCounters cfg remote s
        let rest : Except StartFailure Unit := do
          if cfg.rotationStore = "redis" && !remote then
            throw (.fault (.text "rotation store \"redis\" needs a redis url"))
          if !cfg.dispatchQueueUrl.isEmpty then buildCloudClient s
          if !cfg.notificationsTopicArn.isEmpty then buildCloudClient s
          if s.portTaken then throw (.fault (.context "server error" .backend))
        (server, rest)

end Admission.Gateway
