import Admission.Time
import Admission.Limit

/-!
# Notifications

A notification tells operators that a user hit a quota (`quota_exceeded`) or that a router
had no provider to offer (`no_candidates`). Notifications are deduplicated by the key
`notify:<type>:<user>:<router>`: within a time to live of the last one forwarded under a key,
another one under that key is dropped.
-/

namespace Admission.Notify

/-- What a notification reports. -/
inductive Kind where
  /-- A quota was exhausted. -/
  | quotaExceeded
  /-- A router had no provider to offer. -/
  | noCandidates
  deriving DecidableEq, Repr

/-- The kind's name. -/
def Kind.name : Kind → String
  | .quotaExceeded => "quota_exceeded"
  | .noCandidates => "no_candidates"

/-- A notification. -/
structure Notification where
  /-- What it reports. -/
  kind : Kind
  /-- The user concerned; 0 for none. -/
  user : Int64
  /-- The router concerned. -/
  router : Int64
  /-- A sentence for operators. -/
  message : String
  /-- For a quota: its dimension and cap. -/
  quota : Option (LimitType × Int64)
  deriving DecidableEq, Repr

/-- The deduplication key of a kind, user and router. -/
def dedupKey (kind : String) (user router : Int64) : String :=
  "notify:" ++ kind ++ ":" ++ toString user.toInt ++ ":" ++ toString router.toInt

/-- The deduplication key of a notification. -/
def Notification.key (n : Notification) : String := dedupKey n.kind.name n.user n.router

/-- When each key was last let through. -/
structure Dedup where
  /-- How long a key stays quiet after it was let through. -/
  ttl : Span
  /-- The last instant each key was let through. -/
  sentAt : List (String × Instant)
  deriving Repr

namespace Dedup

/-- A deduplicator with no history. -/
def create (ttl : Span) : Dedup := ⟨ttl, []⟩

/-- Whether a notification under `key` goes through at `now`: not when the key went through
less than the time to live ago. Letting it through records `now`. -/
def admits (d : Dedup) (now : Instant) (key : String) : Bool × Dedup :=
  match (d.sentAt.find? (fun p => p.1 == key)).map Prod.snd with
  | some at_ => if now.since at_ < d.ttl then (false, d) else (true, record d key now)
  | none => (true, record d key now)
where
  /-- The history with `key` last let through at `now`. -/
  record (d : Dedup) (key : String) (now : Instant) : Dedup :=
    { d with sentAt := (key, now) :: d.sentAt.filter (fun p => p.1 != key) }

end Dedup

end Admission.Notify
