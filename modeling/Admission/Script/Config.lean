import Admission.Script.Basic
import Admission.Config.Settings
import Admission.Secrets.StoreUrls

/-!
# The `config_load` and `config_validate` scripts

* `config_load {env}`: the settings from exactly the given variables. A variable the process
  environment could not hold (an empty name, a name with `=` or a NUL, a value with a NUL)
  is left out.
* `config_validate {config}`: the problems with the settings given directly.
* `secrets_load {secrets, name, base}`: the store URLs from a fixed set of secrets.

A failure answers `{"error":"invalid_config","message":...}` with every problem, one per line.
-/

namespace Admission.Script

open Config

/-- A text-to-text map field. -/
def textMap (j : Json) (name : String) : Option (List (String × String)) :=
  field j name (Reader.map Reader.string "") []

/-- Whether the process environment can hold a variable. -/
def settable (kv : String × String) : Bool :=
  !kv.1.isEmpty && !kv.1.contains '=' && !kv.1.contains (Char.ofNat 0) &&
    !kv.2.contains (Char.ofNat 0)

/-- An environment holding exactly the variables given. -/
def environmentOf (vars : List (String × String)) : Environment := fun k =>
  ((vars.filter settable).find? (fun kv => kv.1 == k)).map Prod.snd

/-- The answer to settings that fail validation. -/
def invalidConfig (m : String) : Json :=
  .object [("error", .string "invalid_config"), ("message", .string m)]

/-- `config_load {env}`. -/
def configLoad (j : Json) : Json := orBad do
  let vars ← textMap j "env"
  match load (environmentOf vars) with
  | .ok s => pure s.toJson
  | .error m => pure (invalidConfig m)

/-- Reads the settings `validate` looks at. -/
def checkedReader : Reader Checked :=
  Reader.object [
    ("redis_url", Reader.field (·.redisUrl) (fun c v => { c with redisUrl := v }) Reader.string),
    ("secrets_name", Reader.field (·.secretsName) (fun c v => { c with secretsName := v })
      Reader.string),
    ("aws_region", Reader.field (·.awsRegion) (fun c v => { c with awsRegion := v }) Reader.string),
    ("rate_limit_strategy", Reader.field (·.rateLimitStrategy)
      (fun c v => { c with rateLimitStrategy := v }) Reader.string),
    ("rate_limit_prefix", Reader.field (·.rateLimitPrefix)
      (fun c v => { c with rateLimitPrefix := v }) Reader.string),
    ("store_timeout_ns", Reader.field (·.storeTimeout) (fun c v => { c with storeTimeout := v })
      Reader.int64),
    ("rotation_store", Reader.field (·.rotationStore) (fun c v => { c with rotationStore := v })
      Reader.string),
    ("signals_alpha", Reader.field (·.signalsAlpha) (fun c v => { c with signalsAlpha := v })
      Reader.float),
    ("dispatch_queue_url", Reader.field (·.dispatchQueueUrl)
      (fun c v => { c with dispatchQueueUrl := v }) Reader.string),
    ("notifications_topic_arn", Reader.field (·.notificationsTopicArn)
      (fun c v => { c with notificationsTopicArn := v }) Reader.string)]

/-- Settings with every field empty or zero. -/
def Checked.zero : Checked := ⟨"", "", "", "", "", 0, "", Binary64.zero, "", ""⟩

/-- `config_validate {config}`. -/
def configValidate (j : Json) : Json := orBad do
  let c ← field j "config" checkedReader Checked.zero
  match c.validate with
  | none => pure Json.ok
  | some m => pure (invalidConfig m)

/-- A store-URL field. -/
def storeUrls (j : Json) (name : String) : Option Secrets.StoreUrls :=
  field j name Secrets.StoreUrls.reader Secrets.StoreUrls.zero

/-- `secrets_load {secrets, name, base}`: the URLs, with the failure's fields beside the known
URLs when loading fails; an undecodable secret is reported as `decode_error` alone. -/
def secretsLoad (j : Json) : Json := orBad do
  let secrets ← textMap j "secrets"
  let name ← text j "name"
  let base ← storeUrls j "base"
  match Secrets.loadStoreUrls (Secrets.fixedSecrets secrets) name base with
  | .ok u => pure u.toJson
  | .error (.decode _) => pure (base.toJson.push "error" (.string "decode_error"))
  | .error (.fetch f) =>
    pure ((base.toJson.push "error" (.string f.kind)).push "message" (.string f.message))

end Admission.Script
