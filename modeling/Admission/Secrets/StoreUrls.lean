import Admission.Json.Parse
import Admission.Json.Reader
import Admission.Fault

/-!
# Store URLs from a secret

The URLs of the key-value server and of the directory database may be kept in a secret, as a
JSON object `{"redis_url", "database_url"}`. Loading them starts from URLs already known and
replaces each one the secret gives a non-empty value for. A secret that cannot be fetched, or
whose text is not such an object, leaves the known URLs as they were and reports why.

Secrets come either from a fixed set or from the cloud secret store, which no request reaches.
-/

namespace Admission.Secrets

/-- The URLs of the two stores. -/
structure StoreUrls where
  /-- The key-value server's URL. -/
  redisUrl : String
  /-- The directory database's URL. -/
  databaseUrl : String
  deriving DecidableEq, Repr

namespace StoreUrls

/-- No URLs. -/
def zero : StoreUrls := ⟨"", ""⟩

/-- Reads `{"redis_url", "database_url"}`. -/
def reader : Reader StoreUrls :=
  Reader.object [
    ("redis_url", Reader.field (·.redisUrl) (fun u v => { u with redisUrl := v }) Reader.string),
    ("database_url", Reader.field (·.databaseUrl) (fun u v => { u with databaseUrl := v })
      Reader.string)]

/-- Writes `{"redis_url", "database_url"}`. -/
def toJson (u : StoreUrls) : Json :=
  .object [("redis_url", .string u.redisUrl), ("database_url", .string u.databaseUrl)]

/-- The known URLs with each non-empty one of `given` in its place. -/
def override (base given : StoreUrls) : StoreUrls :=
  ⟨if given.redisUrl.isEmpty then base.redisUrl else given.redisUrl,
    if given.databaseUrl.isEmpty then base.databaseUrl else given.databaseUrl⟩

end StoreUrls

/-- Why loading the URLs failed. -/
inductive LoadFailure where
  /-- The secret could not be fetched. -/
  | fetch (f : Fault)
  /-- The secret's text is not a URL object. -/
  | decode (name : String)
  deriving DecidableEq, Repr

/-- The failure as a fault: `decode secret <name>: <cause>` for an undecodable text. -/
def LoadFailure.fault : LoadFailure → Fault
  | .fetch f => f
  | .decode name => .context ("decode secret " ++ name) .backend

/-- The URLs a secret's text gives over the known ones. -/
def decodeUrls (name text : String) (base : StoreUrls) : Except LoadFailure StoreUrls :=
  match (Json.parse text).bind (Reader.run StoreUrls.reader StoreUrls.zero) with
  | some given => .ok (base.override given)
  | none => .error (.decode name)

/-- Loads the URLs from the secret `name`, fetched by `fetch`. -/
def loadStoreUrls (fetch : String → Except Fault String) (name : String) (base : StoreUrls) :
    Except LoadFailure StoreUrls :=
  match fetch name with
  | .error f => .error (.fetch f)
  | .ok text => decodeUrls name text base

/-- The cloud secret store as the gateway reaches it: no request gets through, so every fetch
fails as `get secret <name>: <cause>`. -/
def cloudSecrets (name : String) : Except Fault String :=
  .error (.context ("get secret " ++ name) .backend)

/-- A fixed set of secrets: the last value given under a name. -/
def fixedSecrets (secrets : List (String × String)) (name : String) : Except Fault String :=
  match (secrets.reverse.find? (fun kv => kv.1 == name)).map Prod.snd with
  | some v => .ok v
  | none => .error (.text ("secret " ++ name ++ " not found"))

end Admission.Secrets
