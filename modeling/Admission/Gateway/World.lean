import Admission.Http.Api
import Admission.Access.Checker
import Admission.Quota.Remote
import Admission.Signals.Remote
import Admission.Directory.Backend
import Admission.Directory.Cache
import Admission.Json.Parse

/-!
# A running gateway

The parts of a gateway, each chosen at start, and the state they share: a fake clock for
quotas and the key-value server, a wall clock for the in-memory caches, the quota counters,
the key-value server, the directory, the role cache, the load tracker, the rotation offsets,
the dispatched jobs and the notifications received.

How each choice behaves:

* A part that is *broken* fails every call with the configured message.
* The tracker, the dispatcher and the notifier may be absent; without a tracker, providers
  carry the measurements they were stored with.
* Jobs sent to a queue and notifications sent to a topic go to a cloud endpoint that cannot be
  reached: every send fails as a client failure.
* The wall clock moves one nanosecond at each reading, so within a run an entry stored with a
  time to live of an hour stays, and one stored with none or a negative one is gone at once.
* A call bounded by the store deadline fails without being sent when the deadline is under a
  millisecond: it has passed by the time the call would go out.
* A metric labelled with a provider id that is not UTF-8 (`Text.Stray`) ends the run: the
  metrics registry refuses the label value.
-/

namespace Admission.Gateway

open Quota KeyValue Tracker Directory Routing Notify Access Http

/-- Where the quota counters live. -/
inductive CounterChoice where
  /-- In memory, under an interference. -/
  | memory (i : Interference)
  /-- On the key-value server. -/
  | remote
  deriving DecidableEq, Repr

/-- How provider load is tracked. -/
inductive TrackerChoice where
  /-- In memory. -/
  | memory
  /-- Every call fails. -/
  | broken
  /-- In memory, but cancelling fails. -/
  | cancelBroken
  /-- On the key-value server. -/
  | remote
  deriving DecidableEq, Repr

/-- Where admitted jobs go. -/
inductive DispatchChoice where
  /-- Into a list kept in memory. -/
  | memory
  /-- Nowhere: every hand-off fails. -/
  | broken
  /-- To a cloud queue. -/
  | queue (url : String)
  deriving DecidableEq, Repr

/-- How repeated notifications are held back. -/
inductive DedupChoice where
  /-- Not at all. -/
  | none
  /-- By a history in memory, for a time to live. -/
  | memory (ttl : Span)
  /-- By keys on the key-value server, for a time to live. -/
  | remote (ttl : Span)
  deriving DecidableEq, Repr

/-- Where notifications go. -/
inductive SinkChoice where
  /-- Into a list kept in memory. -/
  | memory
  /-- Nowhere: every send fails. -/
  | broken
  /-- To a cloud topic. -/
  | topic (arn : String)
  deriving DecidableEq, Repr

/-- Where rotation offsets live. -/
inductive OffsetChoice where
  /-- In the directory. -/
  | directory
  /-- In memory, for any router id. -/
  | memory
  /-- Nowhere: every call fails. -/
  | broken
  /-- On the key-value server. -/
  | remote
  deriving DecidableEq, Repr

/-- Where the role cache lives. -/
inductive CacheChoice where
  /-- In memory. -/
  | memory
  /-- On the key-value server, as JSON under the role's key. -/
  | remote
  deriving DecidableEq, Repr

/-- A readiness probe. -/
inductive Probe where
  /-- A dependency with a fixed health: healthy, or failing with the error. -/
  | fixed (name : String) (error : Option String)
  /-- The key-value server, reported as the counter store. -/
  | counterStore
  /-- The directory's database. -/
  | directory
  deriving DecidableEq, Repr

/-- The choices a gateway starts with. -/
structure Setup where
  /-- The limiter that counts quotas. -/
  limiter : Limiter
  /-- The user that passes every check. -/
  master : Int64
  /-- Where the quota counters live. -/
  counters : CounterChoice
  /-- The failure message of every broken part. -/
  failMessage : String
  /-- Whether a selection with no candidate is retried without quality of service. -/
  qosFallback : Bool
  /-- The tracker, if any. -/
  tracker : Option TrackerChoice
  /-- How completions feed the performance indicator. -/
  tuning : Tuning
  /-- The dispatcher, if any. -/
  dispatcher : Option DispatchChoice
  /-- The notifier, if any: how it holds back repeats and where it sends. -/
  notifier : Option (DedupChoice × SinkChoice)
  /-- Where rotation offsets live. -/
  offsets : OffsetChoice
  /-- The role cache, if any, with its time to live. -/
  roleCache : Option (CacheChoice × Span)
  /-- Whether the HTTP interface's user lookup fails. -/
  usersFail : Bool
  /-- The version the health routes report. -/
  version : String
  /-- The readiness probes, in order. -/
  probes : List Probe
  /-- Whether the administrative routes are mounted. -/
  admin : Bool
  /-- The deadline of the selector's calls to its stores. -/
  storeTimeout : Span

/-- The state a gateway's parts share. -/
structure World where
  /-- The fake clock of quotas and of the key-value server. -/
  now : Instant
  /-- The wall clock. -/
  wall : Instant
  /-- The in-memory quota counters. -/
  counters : MemoryStore
  /-- The client of the key-value server. -/
  remote : Connection
  /-- The directory. -/
  directory : Backend
  /-- The in-memory role cache. -/
  cache : MemoryCache
  /-- The in-memory load tracker. -/
  board : Board
  /-- The in-memory rotation offsets. -/
  offsets : List (Int64 × Int64)
  /-- The jobs dispatched to memory, in order. -/
  jobs : List Job
  /-- The notifications received in memory, in order. -/
  notices : List Notification
  /-- The in-memory history of notifications let through. -/
  dedup : Dedup
  /-- How many request ids were issued. -/
  issued : Nat
  /-- How many random draws were made: the state of the generator, which draws the count
  modulo the size of the pool. -/
  draws : Nat
  /-- The message of the runtime failure that ended the run, once one has. -/
  crashed : Option String

namespace World

/-- A world at `start` over a directory, with everything else empty. -/
def create (start : Instant) (directory : Backend) (dedupTtl : Span) : World :=
  ⟨start, start, MemoryStore.empty, Connection.connect Server.empty, directory, MemoryCache.empty,
    Board.empty, [], [], [], Dedup.create dedupTtl, 0, 0, none⟩

/-- Reads the wall clock, which then moves on by a nanosecond. -/
def tick (w : World) : Instant × World := (w.wall, { w with wall := w.wall + 1 })

/-- A random draw among `n + 1` candidates: the number of draws so far, modulo `n + 1`. -/
def draw : Draw World := fun n w =>
  (⟨w.draws % (n + 1), Nat.mod_lt _ n.succ_pos⟩, { w with draws := w.draws + 1 })

/-- Ends the run with a runtime failure; a run that has already ended keeps its first one. -/
def crash (message : String) (w : World) : World :=
  { w with crashed := w.crashed <|> some message }

/-- Records a metric labelled with a provider id. The metrics registry refuses a label value
that is not UTF-8, and that ends the run. -/
def label (id : String) (w : World) : World :=
  if Text.Stray.isWellFormed id then w
  else w.crash ("label value " ++ Text.quote id ++ " is not valid UTF-8")

end World

/-- Whether a call with this deadline has none left when it would go out. -/
def Setup.expired (g : Setup) : Bool := g.storeTimeout < Span.millisecond

/-- The failure of a broken part. -/
def Setup.broken (g : Setup) : Fault := .text g.failMessage

/-- The quota counters. -/
def Setup.counterOps (g : Setup) : CounterOps World :=
  match g.counters with
  | .memory i => (CounterOps.memory i).focus World.counters (fun w m => { w with counters := m })
  | .remote => (CounterOps.remote false).focus World.remote (fun w c => { w with remote := c })

/-- A role's limits and permissions from the directory. -/
def freshEntry (d : Backend) (role : Int64) : Except Fault RoleEntry := do
  let ls ← d.limits role
  let ps ← d.permissions role
  pure ⟨some ls, some ps⟩

/-- Stores an entry in the role cache; a failure is ignored. -/
def Setup.storeEntry (g : Setup) (key : String) (e : RoleEntry) (w : World) : World :=
  match g.roleCache with
  | none => w
  | some (.memory, ttl) =>
    let (t, w) := w.tick
    { w with cache := w.cache.set t key (some e) ttl }
  | some (.remote, ttl) =>
    { w with remote := (w.remote.set w.now key (Json.render e.toJson) ttl).2 }

/-- The cached entry under a key, if the cache has a readable one. -/
def Setup.cachedEntry (g : Setup) (key : String) (w : World) : Option RoleEntry × World :=
  match g.roleCache with
  | none => (none, w)
  | some (.memory, _) =>
    let (t, w) := w.tick
    ((w.cache.get t key).map (·.getD RoleEntry.zero), w)
  | some (.remote, _) =>
    match w.remote.get w.now key with
    | (.ok (some v), c) =>
      ((Json.parse v).bind (RoleEntry.reader · RoleEntry.zero), { w with remote := c })
    | (_, c) => (none, { w with remote := c })

/-- A role's entry: from the cache when it has one, else from the directory, then cached. -/
def Setup.roleEntry (g : Setup) (role : Int64) (w : World) : Except Fault RoleEntry × World :=
  let key := roleKey role
  match g.cachedEntry key w with
  | (some e, w) => (.ok e, w)
  | (none, w) =>
    match freshEntry w.directory role with
    | .error f => (.error f, w)
    | .ok e => (.ok e, g.storeEntry key e w)

/-- A role's limits, through the cache when there is one. -/
def Setup.limitsOf (g : Setup) (role : Int64) (w : World) : Except Fault (List Limit) × World :=
  match g.roleCache with
  | none => (w.directory.limits role, w)
  | some _ => let (r, w) := g.roleEntry role w; (r.map (·.limits.getD []), w)

/-- A role's permissions, through the cache when there is one. -/
def Setup.permissionsOf (g : Setup) (role : Int64) (w : World) :
    Except Fault (List String) × World :=
  match g.roleCache with
  | none => (w.directory.permissions role, w)
  | some _ => let (r, w) := g.roleEntry role w; (r.map (·.permissions.getD []), w)

/-- The key of a router's offset on the key-value server. -/
def offsetKey (router : Int64) : String := "router:offset:" ++ toString router.toInt

/-- The next rotation offset of a router. -/
def Setup.nextOffset (g : Setup) (router : Int64) (w : World) : Except Fault Int64 × World :=
  match g.offsets with
  | .directory => let (r, d) := w.directory.nextOffset router; (r, { w with directory := d })
  | .memory =>
    let o := ((w.offsets.find? (·.1 == router)).map Prod.snd).getD 0
    (.ok o, { w with offsets := upsert Prod.fst (router, o + 1) w.offsets })
  | .broken => (.error g.broken, w)
  | .remote =>
    let what := "advance offset of router " ++ toString router.toInt
    match remoteCall g.expired what w.remote (·.incr w.now (offsetKey router)) with
    | (.ok n, c) => (.ok (Int64.ofInt n - 1), { w with remote := c })
    | (.error f, c) => (.error f, { w with remote := c })

/-- The tracker's measurements of providers, within `expired`'s deadline. -/
def Setup.snapshot (g : Setup) (expired : Bool) :
    Option (List String → World → Except Fault Readings × World) :=
  g.tracker.map fun
    | .broken => fun _ w => (.error g.broken, w)
    | .remote => fun ids w =>
      let (r, c) := Remote.snapshot expired w.now ids w.remote
      (r, { w with remote := c })
    | _ => fun ids w => (.ok (w.board.snapshot ids), w)

/-- What the selector reads. -/
def Setup.sources (g : Setup) : Sources World where
  router id w := (w.directory.router id, w)
  snapshot := g.snapshot g.expired
  nextOffset := g.nextOffset
  label := World.label
  draw := World.draw

/-- The in-memory tracker's operations. -/
def boardTracking : Tracking World where
  acquire id w := (.ok (), { w with board := w.board.acquire id })
  release _ _ _ w := (.ok (), w)
  cancel id w := (.ok (), { w with board := w.board.cancel id })

/-- The tracker's operations. -/
def Setup.tracking (g : Setup) : Option (Tracking World) :=
  g.tracker.map fun
    | .memory => { boardTracking with
        release := fun id l f w => (.ok (), { w with board := w.board.release g.tuning id l f }) }
    | .cancelBroken => { boardTracking with
        release := fun id l f w => (.ok (), { w with board := w.board.release g.tuning id l f }),
        cancel := fun _ w => (.error g.broken, w) }
    | .broken => ⟨fun _ w => (.error g.broken, w), fun _ _ _ w => (.error g.broken, w),
        fun _ w => (.error g.broken, w)⟩
    | .remote =>
      let onServer (run : Connection → Except Fault Unit × Connection) (w : World) :=
        let (r, c) := run w.remote
        (r, { w with remote := c })
      ⟨fun id => onServer (Remote.acquire id), fun id _ _ => onServer (Remote.release id),
        fun id => onServer (Remote.cancel id)⟩

/-- The dispatcher. -/
def Setup.enqueue (g : Setup) : Option (Job → World → Except Fault Unit × World) :=
  g.dispatcher.map fun
    | .memory => fun j w => (.ok (), { w with jobs := w.jobs ++ [j] })
    | .broken => fun _ w => (.error g.broken, w)
    | .queue _ => fun _ w => (.error (.context "send message" .backend), w)

/-- Whether a notification gets past the deduplication. -/
def passes (dedup : DedupChoice) (n : Notification) (w : World) : Bool × World :=
  match dedup with
  | .none => (true, w)
  | .memory _ =>
    let (t, w) := w.tick
    let (ok, d) := w.dedup.admits t n.key
    (ok, { w with dedup := d })
  | .remote ttl =>
    let (t, w) := w.tick
    match w.remote.setIfAbsent w.now n.key (toString t.unixSeconds) ttl with
    | (.ok fresh, c) => (fresh, { w with remote := c })
    | (.error _, c) => (true, { w with remote := c })

/-- The notifier. -/
def Setup.notify (g : Setup) : Option (Notification → World → Except Fault Unit × World) :=
  g.notifier.map fun (dedup, sink) n w =>
    let (go, w) := passes dedup n w
    if !go then (.ok (), w)
    else
      match sink with
      | .memory => (.ok (), { w with notices := w.notices ++ [n] })
      | .broken => (.error g.broken, w)
      | .topic _ => (.error (.context "publish notification" .backend), w)

/-- The admission service. -/
def Setup.service (g : Setup) : Service World where
  check who router tokens w :=
    (Checker.mk g.limiter g.master).check g.counterOps (some g.limitsOf) w.now who router tokens w
  select router skip w := select g.sources router skip w
  tracking := g.tracking
  enqueue := g.enqueue
  notify := g.notify
  qosFallback := g.qosFallback
  fresh w := (toString w.issued, { w with issued := w.issued + 1 })
  clock := World.tick

/-- Drops a role from the role cache. -/
def Setup.invalidate (g : Setup) : Option (Int64 → World → Except Fault Unit × World) :=
  g.roleCache.map fun (choice, _) role w =>
    match choice with
    | .memory => (.ok (), { w with cache := w.cache.delete (roleKey role) })
    | .remote =>
      match w.remote.del w.now [roleKey role] with
      | (.ok _, c) => (.ok (), { w with remote := c })
      | (.error f, c) => (.error f.fault, { w with remote := c })

/-- Runs one readiness probe. -/
def runProbe (p : Probe) (w : World) : (String × Option String) × World :=
  match p with
  | .fixed name e => ((name, e), w)
  | .counterStore =>
    let (r, c) := w.remote.ping
    let e := match r with
      | .ok () => none
      | .error f => some f.text
    (("counter_store", e), { w with remote := c })
  | .directory =>
    let e := match w.directory.ping with
      | .ok () => none
      | .error f => some f.message
    (("directory", e), w)

/-- Runs the readiness probes in order. -/
def runProbes : List Probe → World → List (String × Option String) × World
  | [], w => ([], w)
  | p :: ps, w =>
    let (r, w) := runProbe p w
    let (rs, w) := runProbes ps w
    (r :: rs, w)

/-- The HTTP interface. -/
def Setup.api (g : Setup) : Api World where
  service := g.service
  user id w := if g.usersFail then (.error g.broken, w) else (w.directory.user id, w)
  permissions := g.permissionsOf
  resetLimits w := g.limiter.reset g.counterOps w.now w
  invalidate := g.invalidate
  probe := runProbes g.probes
  master := g.master
  admin := g.admin
  version := g.version

end Admission.Gateway
