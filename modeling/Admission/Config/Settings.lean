import Admission.Text.Duration
import Admission.Text.Quoted
import Admission.Decimal.Read
import Admission.Decimal.Format
import Admission.Json.Number

/-!
# Gateway settings

The gateway is configured by environment variables, each with a default that applies when the
variable is unset or empty:

| variable | field | default |
|---|---|---|
| `ADDR` | `addr` | `:8080` |
| `LOG_LEVEL` | `logLevel` | `info` |
| `RATE_LIMIT_STRATEGY` | `rateLimitStrategy` | `sliding_window` |
| `RATE_LIMIT_PREFIX` | `rateLimitPrefix` | `rl` |
| `STORE_TIMEOUT` | `storeTimeout` | 250 ms |
| `MASTER_USER_ID` | `masterUserId` | 0 |
| `RESET_LIMITS_ON_START` | `resetLimitsOnStart` | true |
| `ROTATION_STORE` | `rotationStore` | `directory` |
| `ROLE_CACHE_TTL` | `roleCacheTtl` | 1 min |
| `QOS_FALLBACK_UNFILTERED` | `qosFallbackUnfiltered` | false |
| `SIGNALS_ALPHA` | `signalsAlpha` | 0.2 |
| `NOTIFICATION_DEDUP_TTL` | `notificationDedupTtl` | 1 h |
| `SHUTDOWN_TIMEOUT` | `shutdownTimeout` | 30 s |

and the texts `REDIS_URL`, `DATABASE_URL`, `OTLP_ENDPOINT`, `AWS_REGION`, `SECRETS_NAME`,
`SEED_FILE`, `DISPATCH_QUEUE_URL`, `NOTIFICATIONS_TOPIC_ARN`, empty by default.

A duration is duration text, else a whole number of seconds (the product wrapping at 64 bits);
an integer is decimal; a float uses the float syntax; a flag is true exactly when it reads
`true`. A value that does not read keeps the default.

`Settings.validate` lists every problem, in a fixed order; loading fails with all of them.
-/

namespace Admission.Config

/-- The gateway's settings. -/
structure Settings where
  /-- The listening address. -/
  addr : String
  /-- The log level. -/
  logLevel : String
  /-- The key-value server's URL. -/
  redisUrl : String
  /-- The directory database's URL. -/
  databaseUrl : String
  /-- The trace collector's endpoint. -/
  otlpEndpoint : String
  /-- The cloud region. -/
  awsRegion : String
  /-- The secret holding the store URLs. -/
  secretsName : String
  /-- How quotas are counted. -/
  rateLimitStrategy : String
  /-- The first part of every quota key. -/
  rateLimitPrefix : String
  /-- The bound on each quota store call. -/
  storeTimeout : Span
  /-- The user that passes unchecked. -/
  masterUserId : Int64
  /-- Whether quotas are cleared at start. -/
  resetLimitsOnStart : Bool
  /-- The seed file. -/
  seedFile : String
  /-- Where round-robin offsets are kept. -/
  rotationStore : String
  /-- How long a role stays cached. -/
  roleCacheTtl : Span
  /-- Whether an empty filtered pool falls back to every provider. -/
  qosFallbackUnfiltered : Bool
  /-- The smoothing factor of provider signals. -/
  signalsAlpha : Binary64
  /-- The dispatch queue's URL. -/
  dispatchQueueUrl : String
  /-- The notification topic. -/
  notificationsTopicArn : String
  /-- How long a notification key stays quiet. -/
  notificationDedupTtl : Span
  /-- How long shutdown may take. -/
  shutdownTimeout : Span
  deriving Repr

/-- The variables a settings load reads, as a lookup. -/
abbrev Environment := String → Option String

/-- A variable's value, none when unset or empty. -/
def lookup (env : Environment) (key : String) : Option String :=
  match env key with
  | some "" => none
  | v => v

/-- A text variable. -/
def text (env : Environment) (key default : String) : String := (lookup env key).getD default

/-- A duration variable: duration text, else whole seconds. -/
def duration (env : Environment) (key : String) (default : Span) : Span :=
  match lookup env key with
  | none => default
  | some v =>
    match Duration.parse v with
    | some d => d
    | none =>
      match Decimal.readInt64 v with
      | some n => n * Span.second
      | none => default

/-- An integer variable. -/
def integer (env : Environment) (key : String) (default : Int64) : Int64 :=
  match lookup env key with
  | none => default
  | some v => (Decimal.readInt64 v).getD default

/-- A float variable. -/
def float (env : Environment) (key : String) (default : Binary64) : Binary64 :=
  match lookup env key with
  | none => default
  | some v => (Decimal.readFloat v).getD default

/-- A flag variable: true exactly when it reads `true`. -/
def flag (env : Environment) (key : String) (default : Bool) : Bool :=
  match lookup env key with
  | none => default
  | some v => v == "true"

/-- The default smoothing factor, 0.2. -/
def defaultAlpha : Binary64 := Binary64.ofRatio 1 5

/-- The settings the variables give, before validation. -/
def read (env : Environment) : Settings where
  addr := text env "ADDR" ":8080"
  logLevel := text env "LOG_LEVEL" "info"
  redisUrl := text env "REDIS_URL" ""
  databaseUrl := text env "DATABASE_URL" ""
  otlpEndpoint := text env "OTLP_ENDPOINT" ""
  awsRegion := text env "AWS_REGION" ""
  secretsName := text env "SECRETS_NAME" ""
  rateLimitStrategy := text env "RATE_LIMIT_STRATEGY" "sliding_window"
  rateLimitPrefix := text env "RATE_LIMIT_PREFIX" "rl"
  storeTimeout := duration env "STORE_TIMEOUT" (250 * Span.millisecond)
  masterUserId := integer env "MASTER_USER_ID" 0
  resetLimitsOnStart := flag env "RESET_LIMITS_ON_START" true
  seedFile := text env "SEED_FILE" ""
  rotationStore := text env "ROTATION_STORE" "directory"
  roleCacheTtl := duration env "ROLE_CACHE_TTL" Span.minute
  qosFallbackUnfiltered := flag env "QOS_FALLBACK_UNFILTERED" false
  signalsAlpha := float env "SIGNALS_ALPHA" defaultAlpha
  dispatchQueueUrl := text env "DISPATCH_QUEUE_URL" ""
  notificationsTopicArn := text env "NOTIFICATIONS_TOPIC_ARN" ""
  notificationDedupTtl := duration env "NOTIFICATION_DEDUP_TTL" Span.hour
  shutdownTimeout := duration env "SHUTDOWN_TIMEOUT" (30 * Span.second)

/-- The settings `validate` looks at. -/
structure Checked where
  /-- The key-value server's URL. -/
  redisUrl : String
  /-- The secret holding the store URLs. -/
  secretsName : String
  /-- The cloud region. -/
  awsRegion : String
  /-- How quotas are counted. -/
  rateLimitStrategy : String
  /-- The first part of every quota key. -/
  rateLimitPrefix : String
  /-- The bound on each quota store call. -/
  storeTimeout : Span
  /-- Where round-robin offsets are kept. -/
  rotationStore : String
  /-- The smoothing factor of provider signals. -/
  signalsAlpha : Binary64
  /-- The dispatch queue's URL. -/
  dispatchQueueUrl : String
  /-- The notification topic. -/
  notificationsTopicArn : String
  deriving Repr

/-- The validated part of the settings. -/
def Settings.checked (s : Settings) : Checked :=
  ⟨s.redisUrl, s.secretsName, s.awsRegion, s.rateLimitStrategy, s.rateLimitPrefix,
    s.storeTimeout, s.rotationStore, s.signalsAlpha, s.dispatchQueueUrl, s.notificationsTopicArn⟩

/-- Every problem with the settings, in order. -/
def Checked.problems (c : Checked) : List String :=
  let strategy :=
    if c.rateLimitStrategy = "fixed_window" || c.rateLimitStrategy = "sliding_window" ||
        c.rateLimitStrategy = "moving_window" then []
    else ["RATE_LIMIT_STRATEGY: unknown strategy " ++ Text.quote c.rateLimitStrategy]
  let rotation :=
    if c.rotationStore = "directory" then []
    else if c.rotationStore = "redis" then
      (if c.redisUrl.isEmpty && c.secretsName.isEmpty then ["ROTATION_STORE=redis requires REDIS_URL"]
       else [])
    else ["ROTATION_STORE: unknown store " ++ Text.quote c.rotationStore]
  let keyPrefix := if c.rateLimitPrefix.isEmpty then ["RATE_LIMIT_PREFIX must not be empty"] else []
  let timeout := if c.storeTimeout ≤ 0 then ["STORE_TIMEOUT must be positive"] else []
  let a := c.signalsAlpha
  let alpha :=
    if Binary64.le a Binary64.zero || Binary64.lt (Binary64.ofInt 1) a then
      ["SIGNALS_ALPHA must be in (0, 1], got " ++ Decimal.text Decimal.Layout.plain a]
    else []
  let aws :=
    if (!c.dispatchQueueUrl.isEmpty || !c.notificationsTopicArn.isEmpty || !c.secretsName.isEmpty)
        && c.awsRegion.isEmpty then ["AWS_REGION is required when an AWS integration is configured"]
    else []
  strategy ++ rotation ++ keyPrefix ++ timeout ++ alpha ++ aws

/-- The problems joined into one message, one per line; none when there are none. -/
def Checked.validate (c : Checked) : Option String :=
  match c.problems with
  | [] => none
  | p :: ps => some (ps.foldl (fun acc q => acc ++ "\n" ++ q) p)

/-- Loads and validates the settings. -/
def load (env : Environment) : Except String Settings :=
  let s := read env
  match s.checked.validate with
  | some m => .error m
  | none => .ok s

/-- The settings as `{"addr", …}`, durations in nanoseconds under `*_ns` names. -/
def Settings.toJson (s : Settings) : Json :=
  .object [
    ("addr", .string s.addr), ("log_level", .string s.logLevel),
    ("redis_url", .string s.redisUrl), ("database_url", .string s.databaseUrl),
    ("otlp_endpoint", .string s.otlpEndpoint), ("aws_region", .string s.awsRegion),
    ("secrets_name", .string s.secretsName),
    ("rate_limit_strategy", .string s.rateLimitStrategy),
    ("rate_limit_prefix", .string s.rateLimitPrefix),
    ("store_timeout_ns", .int s.storeTimeout.toInt),
    ("master_user_id", .int s.masterUserId.toInt),
    ("reset_limits_on_start", .bool s.resetLimitsOnStart),
    ("seed_file", .string s.seedFile), ("rotation_store", .string s.rotationStore),
    ("role_cache_ttl_ns", .int s.roleCacheTtl.toInt),
    ("qos_fallback_unfiltered", .bool s.qosFallbackUnfiltered),
    ("signals_alpha", Json.float s.signalsAlpha),
    ("dispatch_queue_url", .string s.dispatchQueueUrl),
    ("notifications_topic_arn", .string s.notificationsTopicArn),
    ("notification_dedup_ttl_ns", .int s.notificationDedupTtl.toInt),
    ("shutdown_timeout_ns", .int s.shutdownTimeout.toInt)]

end Admission.Config
