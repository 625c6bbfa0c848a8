import Admission.KeyValue.Client
import Admission.Text.Url
import Admission.Text.Duration
import Admission.Decimal.Read

/-!
# Reaching the key-value server from a URL

A client is described by a URL:

* `redis://` or `rediss://` (TLS) for TCP: the host and its number, and an optional database
  number as the only path segment;
* `unix://` for a unix socket: the path, which must not be blank.

User information gives a user name and password. The query sets options; the last value of
a key counts:

* `db` (a number, which overrides the path's);
* numbers: `protocol`, `max_retries`, `pool_size`, `min_idle_conns`, `max_idle_conns`,
  `max_active_conns`, `max_concurrent_dials`;
* `client_name`;
* durations, a whole number of seconds (zero or less turns the timeout off) or a duration
  text: `min_retry_backoff`, `max_retry_backoff`, `dial_timeout`, `read_timeout`,
  `write_timeout`, `pool_timeout`, `conn_max_idle_time` (else
  `idle_timeout`), `conn_max_lifetime` (else `max_conn_age`) and `conn_max_lifetime_jitter`;
* a flag (`true`, `1`, `false`, `0` or empty): `pool_fifo`, and for TLS `skip_verify`, whose
  value is not checked.

An empty value leaves an option unset. Any other key, a value that does not read, or another
scheme refuses the URL.

Connecting then dials the address, greets the server (a server that does not know the
greeting is used as it is), authenticates when a password is given, selects a database above
0 and names the client when a name is given; a failure of any of these but the greeting fails
the connection. Only the server's own socket answers a dial, and a dial timeout turned off
with zero or less gives up at once.

A timeout shorter than the quickest exchange (`tooShort`, under 50 microseconds) has passed
before the exchange is done: such a dial timeout fails the dial, and such a read or write
timeout fails the greeting with `i/o timeout`.
-/

namespace Admission.KeyValue

/-- How a client reaches the server. -/
inductive Network where
  /-- A TCP address. -/
  | tcp
  /-- A unix socket path. -/
  | unix
  deriving DecidableEq, Repr

/-- The settings of a client that decide whether it connects. -/
structure ClientOptions where
  /-- The network. -/
  network : Network
  /-- The address or socket path. -/
  address : String
  /-- The user name. -/
  username : String
  /-- The password. -/
  password : String
  /-- The database number. -/
  db : Int64
  /-- The client's name. -/
  clientName : String
  /-- The dial timeout; zero for the default, below zero for one that gives up at once. -/
  dialTimeout : Span
  /-- The read timeout; zero for the default, below zero for none. -/
  readTimeout : Span
  /-- The write timeout; zero for the default, below zero for none. -/
  writeTimeout : Span
  deriving DecidableEq, Repr

namespace ClientOptions

/-- The last value of a key, and the query without the key. -/
def take (q : List (String × String)) (key : String) : String × List (String × String) :=
  ((Url.queryValues q key).getLastD "", q.filter (·.1 ≠ key))

/-- Whether a value reads as a number or is empty. -/
def numberOk (v : String) : Bool := v.isEmpty || (Decimal.readInt64 v).isSome

/-- A duration value: whole seconds, zero or less for none (`-1 ns`), or a duration text. -/
def durationValue (v : String) : Option Span :=
  if v.isEmpty then some 0
  else
    match Decimal.readInt64 v with
    | some i => some (if i ≤ 0 then -1 else i * Span.second)
    | none => Duration.parse v

/-- Whether a value reads as a flag. -/
def flagOk (v : String) : Bool := ["", "true", "1", "false", "0"].contains v

/-- The options every scheme reads from the query, given what the address set; none when a
value does not read or a key is left over. -/
def withQuery (o : ClientOptions) (tls : Bool) (q : List (String × String)) :
    Option ClientOptions := do
  let (db, q) := take q "db"
  let o ← if db.isEmpty then some o else (Decimal.readInt64 db).map fun d => { o with db := d }
  let checkAll (kind : String → Bool) (keys : List String) (q : List (String × String)) :
      Bool × List (String × String) :=
    keys.foldl (fun (ok, q) k => let (v, q) := take q k; (ok && kind v, q)) (true, q)
  let (numbersOk, q) := checkAll numberOk
    ["protocol", "max_retries", "pool_size", "min_idle_conns", "max_idle_conns",
      "max_active_conns", "max_concurrent_dials"] q
  let (name, q) := take q "client_name"
  let (dial, q) := take q "dial_timeout"
  let (read, q) := take q "read_timeout"
  let (write, q) := take q "write_timeout"
  let idle := if (Url.queryValues q "conn_max_idle_time").isEmpty then "idle_timeout"
    else "conn_max_idle_time"
  let life := if (Url.queryValues q "conn_max_lifetime").isEmpty then "max_conn_age"
    else "conn_max_lifetime"
  let (durationsOk, q) := checkAll (fun v => (durationValue v).isSome)
    ["min_retry_backoff", "max_retry_backoff", "pool_timeout", idle, life,
      "conn_max_lifetime_jitter"] q
  let (fifo, q) := take q "pool_fifo"
  let dialTimeout ← durationValue dial
  let readTimeout ← durationValue read
  let writeTimeout ← durationValue write
  if !(numbersOk && durationsOk && flagOk fifo) then none
  let q := if tls then (take q "skip_verify").2 else q
  if !q.isEmpty then none
  pure { o with clientName := name, dialTimeout, readTimeout, writeTimeout }

/-- Reads the options of a URL; none when it is refused. -/
def read (text : String) : Option ClientOptions := do
  let u ← Url.read text
  let (user, password) := match u.user with
    | some i => (i.username, i.password.getD "")
    | none => ("", "")
  let q := Url.queryPairs u.rawQuery
  if u.scheme = "redis" || u.scheme = "rediss" then
    let db ← match u.path.splitOn "/" |>.filter (· ≠ "") with
      | [] => some 0
      | [d] => Decimal.readInt64 d
      | _ => none
    withQuery ⟨.tcp, u.host, user, password, db, "", 0, 0, 0⟩ (u.scheme = "rediss") q
  else if u.scheme = "unix" then
    if u.path.trimAscii.isEmpty then none
    withQuery ⟨.unix, u.path, user, password, 0, "", 0, 0, 0⟩ false q
  else none

/-- The failure of an exchange whose deadline passed. -/
def timedOut : String := "i/o timeout"

/-- Whether a timeout is set and too short for any exchange to finish within it. -/
def tooShort (t : Span) : Bool := 0 < t && t < 50000

/-- Dials the server listening on `socket` and sets up the connection: the server after the
setup commands, or why it failed. -/
def connect (o : ClientOptions) (socket : String) (s : Server) : Except String Unit × Server :=
  if o.network ≠ .unix || o.address ≠ socket || o.dialTimeout < 0 || tooShort o.dialTimeout then
    (.error ("dial " ++ o.address ++ ": connection refused"), s)
  else if tooShort o.writeTimeout || tooShort o.readTimeout then (.error timedOut, s)
  else
    let (_, s) := s.unknown "HELLO"
    let (auth, s) := if o.password.isEmpty then (.ok (), s) else s.unknown "AUTH"
    match auth with
    | .error e => (.error e, s)
    | .ok () =>
      let (sel, s) := if 0 < o.db then s.selectDb else (.ok (), s)
      let (named, s) := if o.clientName.isEmpty then (.ok (), s) else s.unknown "CLIENT"
      match sel, named with
      | .error e, _ => (.error e, s)
      | _, .error e => (.error e, s)
      | .ok (), .ok () => (.ok (), s)

/-- Opens a client on a URL and pings the server on `socket`: `parse redis url: <cause>` when
the URL is refused, `ping redis: <cause>` when the connection or the ping fails; a timed-out
exchange shows its cause. -/
def reach (url socket : String) (s : Server) : Except Fault ClientOptions × Server :=
  match read url with
  | none => (.error (.context "parse redis url" .backend), s)
  | some o =>
    match o.connect socket s with
    | (.error e, s) =>
      (.error (.context "ping redis" (if e = timedOut then .text e else .backend)), s)
    | (.ok (), s) =>
      match s.ping with
      | (.error _, s) => (.error (.context "ping redis" .backend), s)
      | (.ok (), s) => (.ok o, s)

end ClientOptions

end Admission.KeyValue
