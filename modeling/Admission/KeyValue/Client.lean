import Admission.KeyValue.Server
import Admission.Fault

/-!
# The key-value client

What a caller of the key-value server sees. A call fails in one of three ways: the server
answered an error reply, the client was closed before the call, or the caller's deadline had
passed before the call went out. A closed client fails every later call, closing it again
included.

Expirations are given as spans, as the caller holds them, and sent as the server wants them:
a positive span as whole milliseconds (at least one), `-1 ns` as "keep the current expiry",
anything else as no expiry at all. Values read back are the server's text.
-/

namespace Admission.KeyValue

/-- Why a call failed. -/
inductive Failure where
  /-- The server answered an error reply with this text. -/
  | reply (message : String)
  /-- The client had been closed. -/
  | closed
  /-- The caller's deadline had passed. -/
  | deadline
  deriving DecidableEq, Repr

namespace Failure

/-- The text of the failure. -/
def text : Failure → String
  | .reply m => m
  | .closed => "redis: client is closed"
  | .deadline => "context deadline exceeded"

/-- The failure as a fault: a server reply is a client failure whose wording is not
specified; the other two keep their text. -/
def fault : Failure → Fault
  | .reply _ => .backend
  | f => .text f.text

end Failure

/-- A client's view of the server. -/
structure Connection where
  /-- The server. -/
  server : Server
  /-- Whether the client was closed. -/
  closed : Bool
  deriving Repr

namespace Connection

/-- An open client on a server. -/
def connect (s : Server) : Connection := ⟨s, false⟩

/-- Sends one command. -/
def call (c : Connection) (run : Server → Except String α × Server) :
    Except Failure α × Connection :=
  if c.closed then (.error .closed, c)
  else
    match run c.server with
    | (.ok a, s) => (.ok a, { c with server := s })
    | (.error m, s) => (.error (.reply m), { c with server := s })

/-- `PING`. -/
def ping (c : Connection) : Except Failure Unit × Connection := c.call Server.ping

/-- The live value under a key, if any. -/
def get (c : Connection) (now : Instant) (key : String) :
    Except Failure (Option String) × Connection :=
  c.call (·.get now key)

/-- The live values of several keys. -/
def mget (c : Connection) (now : Instant) (keys : List String) :
    Except Failure (List (Option String)) × Connection :=
  c.call (·.mget now keys)

/-- The whole milliseconds of a positive span, at least one. -/
def wholeMs (d : Span) : Int := max 1 (d.toInt / 1000000)

/-- Stores a value with an expiration. -/
def set (c : Connection) (now : Instant) (key value : String) (expiration : Span) :
    Except Failure Unit × Connection :=
  let mode : SetMode :=
    if 0 < expiration then ⟨false, some (wholeMs expiration), false⟩
    else ⟨false, none, expiration == -1⟩
  match c.call (·.set "SET" now key value mode) with
  | (r, c) => (r.map fun _ => (), c)

/-- Stores a value only when the key holds none: whether it did. -/
def setIfAbsent (c : Connection) (now : Instant) (key value : String) (expiration : Span) :
    Except Failure Bool × Connection :=
  if expiration == 0 then c.call (·.set "SETNX" now key value ⟨true, none, false⟩)
  else if expiration == -1 then c.call (·.set "SET" now key value ⟨true, none, true⟩)
  else c.call (·.set "SET" now key value ⟨true, some (if 0 < expiration then wholeMs expiration
    else expiration.toInt / 1000000), false⟩)

/-- The remaining life of a key in milliseconds; -2 when missing, -1 without expiry. -/
def pttl (c : Connection) (now : Instant) (key : String) : Except Failure Int × Connection :=
  c.call (·.pttl now key)

/-- Removes keys: how many held a value. -/
def del (c : Connection) (now : Instant) (keys : List String) : Except Failure Nat × Connection :=
  c.call (·.del now keys)

/-- Adds one to an integer value. -/
def incr (c : Connection) (now : Instant) (key : String) : Except Failure Int × Connection :=
  c.call (·.incr now key)

/-- A page of the live keys a pattern matches, from a cursor, and the cursor to go on from. -/
def scan (c : Connection) (now : Instant) (cursor : Nat) (pattern : String) (count : Nat) :
    Except Failure (List String × Nat) × Connection :=
  c.call (·.scan now cursor pattern count)

/-- A script call; it always fails. -/
def script (c : Connection) : Except Failure Unit × Connection := c.call Server.script

/-- Closes the client; closing a closed client fails. -/
def close (c : Connection) : Except Failure Unit × Connection :=
  if c.closed then (.error .closed, c) else (.ok (), { c with closed := true })

end Connection

end Admission.KeyValue
