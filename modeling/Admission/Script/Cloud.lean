import Admission.Script.Limiter
import Admission.Script.Config
import Admission.Gateway.Launch

/-!
# The cloud services

The gateway reaches three cloud services: a queue for jobs, a topic for notifications and a
secret store. A script may make their configuration fail to load (`aws_fail` naming
`config`); building any cloud client then fails at once. Otherwise the clients are built, but
no request reaches the services: every call fails, and the services record no request.

The `secrets_aws {secrets, aws_fail, region, steps}` script reads the secret store: steps
`get {name}`, `load_urls {name, base}`, `set_ttl {ns}` and `requests`.
-/

namespace Admission.Script

/-- Whether a failure map makes the cloud configuration fail to load. -/
def configFails (fails : List (String × String)) : Bool := fails.any (·.1 == "config")

/-- The answer listing the requests the cloud services received: none. -/
def noRequests : Json := .object [("requests", .array [])]

/-- Runs one step of a `secrets_aws` script. -/
def secretsStep (s : Json) : Json := orBad do
  let action ← text s "do"
  if action = "get" then
    let name ← text s "name"
    pure (answerOr (Secrets.cloudSecrets name) fun v => .object [("value", .string v)])
  else if action = "load_urls" then
    let name ← text s "name"
    let base ← storeUrls s "base"
    match Secrets.loadStoreUrls Secrets.cloudSecrets name base with
    | .ok u => pure u.toJson
    | .error e =>
      let f := e.fault
      pure ((base.toJson.push "error" (.string f.kind)).push "message" (.string f.message))
  else if action = "set_ttl" then
    let _ ← int s "ns"
    pure Json.ok
  else if action = "requests" then pure noRequests
  else none

/-- `secrets_aws {secrets, aws_fail, region, steps}`. -/
def secretsCloud (j : Json) : Json := orBad do
  let ss ← steps j
  let _ ← textMap j "secrets"
  let _ ← text j "region"
  let fails ← textMap j "aws_fail"
  if configFails fails then pure (fault Gateway.cloudConfigFault)
  else pure (results (ss.map secretsStep))

end Admission.Script
