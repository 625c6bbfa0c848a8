import Admission.Script.Basic
import Admission.KeyValue.Dial

/-!
# Where the stores listen

Scripts name the live stores by placeholders that are filled in before anything reads them:

* `{{REDIS_SOCK}}`: the socket path of the key-value server;
* `{{REDIS}}`: a TCP address of the key-value server, which never answers: the server only
  listens on its socket.

The `redis_storage_new {url}` script opens a quota store on a URL with its placeholders
filled in, pings it and closes it: `ok`, or why it could not (`parse redis url: …`,
`ping redis: …`).
-/

namespace Admission.Script

open KeyValue

/-- The socket path of the key-value server. -/
def serverSocket : String := "/run/kv/server.sock"

/-- A TCP address of the key-value server. -/
def serverTcp : String := "127.0.0.1:6379"

/-- The placeholder of the server's socket path. -/
def socketPlaceholder : String := "\x7b\x7bREDIS_SOCK\x7d\x7d"

/-- The placeholder of the server's TCP address. -/
def tcpPlaceholder : String := "\x7b\x7bREDIS\x7d\x7d"

/-- A text with the server's placeholders filled in. -/
def fillServer (s : String) : String :=
  (s.replace socketPlaceholder serverSocket).replace tcpPlaceholder serverTcp

/-- `redis_storage_new {url}`. -/
def storageNew (j : Json) : Json := orBad do
  let url ← text j "url"
  match (ClientOptions.reach (fillServer url) serverSocket Server.empty).1 with
  | .ok _ => pure Json.ok
  | .error f => pure (fault f)

end Admission.Script
