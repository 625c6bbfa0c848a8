import Admission.Script.Basic
import Admission.KeyValue.Server

/-!
# Steps on the key-value server

Every script that runs against the key-value server accepts these steps, which act on the
server directly:

* `redis_fail {message, commands}`: the named commands (every command when none is named)
  fail from now on with `message`, by default `ERR store down`;
* `redis_ok`: the server answers again;
* `redis_set {key, value}`: stores a value without expiry;
* `redis_fill {key, count, value}`: stores the value under `key0`, `key1`, … (at most 5000 keys);
* `redis_dump`: every live key in byte order, with its value and remaining life in nanoseconds
  (-1 without expiry); the values of `notify:` keys are clock readings and are written
  `<unix time>`.

Their fields are read leniently: a value of the wrong shape leaves its field at the zero
value (an item of the wrong shape in `commands` names the empty command), and the step still
runs.
-/

namespace Admission.Script

open KeyValue

/-- The most keys one fill stores. -/
def fillLimit : Nat := 5000

/-- The answer to `redis_dump`. -/
def dumpJson (s : Server) (now : Instant) : Json :=
  let cell (kc : String × Cell) : Json :=
    let (k, c) := kc
    let value := if k.startsWith "notify:" then "<unix time>" else c.value
    let ttl : Int := match c.expiresAt with
      | some t => t - now
      | none => -1
    .object [("key", .string k), ("value", .string value), ("ttl_ns", .int ttl)]
  .object [("keys", .array ((s.liveCells now).map cell))]

/-- The keys `key0 … key(n-1)` with a value. -/
def fillCells (key value : String) (n : Nat) : List (String × String) :=
  (List.range n).map fun i => (key ++ toString i, value)

/-- A field of a server step, read leniently: a value of the wrong shape is left at its zero
value, and a list of texts keeps its other items. -/
def serverField (j : Json) (name : String) (r : Reader α) (zero : α) : α :=
  (field j name (Reader.lenient r) zero).getD zero

/-- Runs a step on the server if it is one of the server's own: its answer and the server
after it, or none for any other step. The step's fields are read leniently, so a server step
always runs. -/
def serverStep (action : String) (j : Json) (now : Instant) (s : Server) :
    Option (Json × Server) :=
  let str (name : String) : String := serverField j name Reader.string ""
  if action = "redis_fail" then
    let m := str "message"
    let cs := serverField j "commands" (Reader.list (Reader.lenient Reader.string) "") []
    some (Json.ok, s.fail ⟨if m.isEmpty then "ERR store down" else m, cs⟩)
  else if action = "redis_ok" then some (Json.ok, s.recover)
  else if action = "redis_set" then some (Json.ok, s.write (str "key") ⟨str "value", none⟩)
  else if action = "redis_fill" then
    let n := serverField j "count" Reader.int64 0
    let cells := fillCells (str "key") (str "value") (min fillLimit n.toInt.toNat)
    some (Json.ok, cells.foldl (fun s kv => s.write kv.1 ⟨kv.2, none⟩) s)
  else if action = "redis_dump" then some (dumpJson s now, s)
  else none

end Admission.Script
