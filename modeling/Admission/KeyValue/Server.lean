import Admission.Time
import Admission.Text.Glob

/-!
# A key-value server

The shared store behind quotas, signals, role caches, round-robin offsets and notification
deduplication: text values under text keys, each with an optional expiry on the caller's
clock. A value is dead once the clock reaches its expiry, and a dead value is as good as
absent to every command.

The server can be told to fail (`Outage`): from then on every command it names (all commands
when it names none) answers an error reply carrying the outage's message instead of running.

Each command is a function of the clock reading and the server, giving its reply, or the
error reply, beside the server after it. Server-side scripts are not supported: a script call
always answers an error reply. Neither are greetings, authentication or client commands:
they answer an unknown-command error. `SELECT` accepts any database and changes nothing.
-/

namespace Admission.KeyValue

/-- A stored value. -/
structure Cell where
  /-- The text stored. -/
  value : String
  /-- When the value dies, if ever. -/
  expiresAt : Option Instant
  deriving DecidableEq, Repr

/-- Whether a value is still alive at `now`. -/
def Cell.alive (now : Instant) (c : Cell) : Bool :=
  match c.expiresAt with
  | none => true
  | some t => now < t

/-- A failure the server was told to show. -/
structure Outage where
  /-- The text of every error reply. -/
  message : String
  /-- The commands that fail, in any case; every command when empty. -/
  commands : List String
  deriving DecidableEq, Repr

/-- The command names of an outage, compared in upper case. -/
def Outage.covers (o : Outage) (command : String) : Bool :=
  o.commands.isEmpty || o.commands.any (fun c => c.toUpper == command.toUpper)

/-- The error reply to an integer command on a value that is not an integer. -/
def notAnInteger : String := "ERR value is not an integer or out of range"

/-- The error reply to an increment past 64 bits. -/
def wouldOverflow : String := "ERR increment or decrement would overflow"

/-- The error reply to a set with an expiry that is not positive. -/
def invalidExpiry : String := "ERR invalid expire time in 'set' command"

/-- The error reply to a script call. -/
def noScript : String := "NOSCRIPT No matching script. Please use EVAL."

/-- How a set treats the existing expiry and value. -/
structure SetMode where
  /-- Set only when the key holds no live value. -/
  onlyIfAbsent : Bool
  /-- The new life in milliseconds; none for no expiry. -/
  lifeMs : Option Int
  /-- Keep the expiry the key already has. -/
  keepTtl : Bool
  deriving DecidableEq, Repr

/-- The state of the server. -/
structure Server where
  /-- Values by key, in order of first write. -/
  cells : List (String × Cell)
  /-- The failure it shows, if any. -/
  outage : Option Outage
  deriving Repr

namespace Server

/-- A server with no values that answers every command. -/
def empty : Server := ⟨[], none⟩

/-- The live value under a key. -/
def lookup (s : Server) (now : Instant) (key : String) : Option Cell :=
  match s.cells.find? (fun kc => kc.1 == key) with
  | some (_, c) => if c.alive now then some c else none
  | none => none

/-- Stores a value under a key, in place of any earlier one. -/
def write (s : Server) (key : String) (c : Cell) : Server :=
  if s.cells.any (fun kc => kc.1 == key) then
    { s with cells := s.cells.map (fun kc => if kc.1 == key then (key, c) else kc) }
  else { s with cells := s.cells ++ [(key, c)] }

/-- Removes a key. -/
def remove (s : Server) (key : String) : Server :=
  { s with cells := s.cells.filter (fun kc => kc.1 != key) }

/-- The live keys, in byte order. -/
def liveKeys (s : Server) (now : Instant) : List String :=
  ((s.cells.filter (fun kc => kc.2.alive now)).map Prod.fst).mergeSort (fun a b => decide (a ≤ b))

/-- The live entries, in byte order of their keys. -/
def liveCells (s : Server) (now : Instant) : List (String × Cell) :=
  (s.cells.filter (fun kc => kc.2.alive now)).mergeSort (fun a b => decide (a.1 ≤ b.1))

/-- Sets a failure. -/
def fail (s : Server) (o : Outage) : Server := { s with outage := some o }

/-- Clears the failure. -/
def recover (s : Server) : Server := { s with outage := none }

/-- Runs a command unless the outage names it. -/
def command (s : Server) (name : String) (run : Server → Except String α × Server) :
    Except String α × Server :=
  match s.outage with
  | some o => if o.covers name then (.error o.message, s) else run s
  | none => run s

/-- `PING`. -/
def ping (s : Server) : Except String Unit × Server :=
  s.command "PING" fun s => (.ok (), s)

/-- `GET`: the live value, if any. -/
def get (s : Server) (now : Instant) (key : String) : Except String (Option String) × Server :=
  s.command "GET" fun s => (.ok ((s.lookup now key).map Cell.value), s)

/-- `MGET`: the live value of each key. -/
def mget (s : Server) (now : Instant) (keys : List String) :
    Except String (List (Option String)) × Server :=
  s.command "MGET" fun s => (.ok (keys.map fun k => (s.lookup now k).map Cell.value), s)

/-- `SET` with its options, or `SETNX` when the name says so: whether the value was stored. -/
def set (s : Server) (name : String) (now : Instant) (key value : String) (mode : SetMode) :
    Except String Bool × Server :=
  s.command name fun s =>
    match mode.lifeMs with
    | some ms =>
      if ms ≤ 0 then (.error invalidExpiry, s)
      else if mode.onlyIfAbsent && (s.lookup now key).isSome then (.ok false, s)
      else (.ok true, s.write key ⟨value, some (now + ms * 1000000)⟩)
    | none =>
      let old := s.lookup now key
      if mode.onlyIfAbsent && old.isSome then (.ok false, s)
      else
        let expiry := if mode.keepTtl then old.bind Cell.expiresAt else none
        (.ok true, s.write key ⟨value, expiry⟩)

/-- `PTTL`: -2 for a missing key, -1 for one without expiry, else the whole milliseconds
left. -/
def pttl (s : Server) (now : Instant) (key : String) : Except String Int × Server :=
  s.command "PTTL" fun s =>
    match s.lookup now key with
    | none => (.ok (-2), s)
    | some ⟨_, none⟩ => (.ok (-1), s)
    | some ⟨_, some t⟩ => (.ok ((t - now) / 1000000), s)

/-- `DEL`: how many of the keys held a live value. -/
def del (s : Server) (now : Instant) (keys : List String) : Except String Nat × Server :=
  s.command "DEL" fun s =>
    let live := (keys.eraseDups).filter (fun k => (s.lookup now k).isSome)
    (.ok live.length, keys.foldl remove s)

/-- Reads a stored integer the way the server does: `0`, or an optional `-` and digits without
a leading zero, within 64 bits. -/
def readInteger (v : String) : Option Int :=
  let digits (ds : List Char) : Option Nat :=
    match ds with
    | d :: _ =>
      if d != '0' && ds.all Char.isDigit then
        some (ds.foldl (fun a c => a * 10 + (c.toNat - '0'.toNat)) 0)
      else none
    | [] => none
  let n : Option Int := match v.toList with
    | ['0'] => some 0
    | '-' :: ds => (digits ds).map fun n => -(n : Int)
    | ds => (digits ds).map fun n => (n : Int)
  n.bind fun n => if -9223372036854775808 ≤ n ∧ n ≤ 9223372036854775807 then some n else none

/-- `INCR`: the value after adding one; the expiry is kept. -/
def incr (s : Server) (now : Instant) (key : String) : Except String Int × Server :=
  s.command "INCR" fun s =>
    let (old, expiry) := match s.lookup now key with
      | some c => (readInteger c.value, c.expiresAt)
      | none => (some 0, none)
    match old with
    | none => (.error notAnInteger, s)
    | some n =>
      if n = 9223372036854775807 then (.error wouldOverflow, s)
      else (.ok (n + 1), s.write key ⟨toString (n + 1), expiry⟩)

/-- `SCAN` from a cursor, with a pattern and a page size: every live key the pattern matches, in
byte order, in one page that ends the walk (cursor `0`), whatever the cursor and the size. -/
def scan (s : Server) (now : Instant) (_cursor : Nat) (pattern : String) (_count : Nat) :
    Except String (List String × Nat) × Server :=
  s.command "SCAN" fun s => (.ok ((s.liveKeys now).filter (Glob.accepts pattern), 0), s)

/-- `SELECT` of a database: every database is the same one. -/
def selectDb (s : Server) : Except String Unit × Server :=
  s.command "SELECT" fun s => (.ok (), s)

/-- A command the server does not know, such as `HELLO`, `AUTH` or `CLIENT`. -/
def unknown (s : Server) (name : String) : Except String Unit × Server :=
  s.command name fun s => (.error ("ERR unknown command '" ++ name ++ "'"), s)

/-- A script call: the cached form is unknown and the plain form is refused. -/
def script (s : Server) : Except String Unit × Server :=
  match s.command "EVALSHA" fun s => (.error noScript, s) with
  | (.error _, s) => s.command "EVAL" fun s => (.error "ERR scripting is disabled", s)
  | r => r

end Server

end Admission.KeyValue
