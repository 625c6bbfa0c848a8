import Admission.Quota.Sliding

/-!
# The in-memory counter store

Counters by key. An entry holds a count, an expiry instant (the absent instant for none) and a
log of timed amounts for moving windows. An entry is dead once the clock reaches its expiry;
a dead entry is dropped by the first operation that looks at its key, and until then it still
counts towards the store's size.

Operations (each takes the clock reading `now`):

* `incr` adds to a counter, creating it with expiry `now + window`; an existing counter keeps
  its expiry.
* `acquireEntry` admits an amount into a moving window when the amounts logged in the last
  window, plus it, stay within the limit; the log is pruned to the last window on the way,
  and an admitted amount renews the expiry.
* `acquireSliding` admits an amount into a sliding window when the weighted count plus it
  stays within the limit. Before that the current counter becomes the previous one once less
  than a window of its life is left; the new current counter then lives that remainder plus a
  window. A first counter lives two windows.

A sliding window keeps its current counter under its key and its previous counter under the
key followed by a slash and `-1` (`previousKey`).
-/

namespace Admission.Quota

/-- A stored counter. -/
structure Entry where
  /-- The count. -/
  value : Int64
  /-- When it dies; the absent instant for never. -/
  expiresAt : Instant
  /-- Timed amounts of a moving window, oldest first. -/
  log : List (Instant × Int64)
  deriving DecidableEq, Repr, Inhabited

/-- The key of the previous counter of a sliding window. -/
def previousKey (key : String) : String := key ++ "/-1"

/-- The remaining life reported for a missing counter. -/
def ttlMissing : Span := -2

/-- The remaining life reported for a counter that never expires. -/
def ttlNoExpiry : Span := -1

/-- Counters by key, each key at most once. -/
structure MemoryStore where
  /-- The entries. -/
  entries : List (String × Entry)
  deriving Repr, Inhabited

namespace MemoryStore

/-- No counters. -/
def empty : MemoryStore := ⟨[]⟩

/-- The entry stored under a key, dead or alive. -/
def find? (s : MemoryStore) (key : String) : Option Entry :=
  (s.entries.find? (fun p => p.1 == key)).map Prod.snd

/-- The store without a key. -/
def erase (s : MemoryStore) (key : String) : MemoryStore :=
  ⟨s.entries.filter (fun p => p.1 != key)⟩

/-- The store with a key set to an entry. -/
def put (s : MemoryStore) (key : String) (e : Entry) : MemoryStore :=
  if s.entries.any (fun p => p.1 == key) then
    ⟨s.entries.map (fun p => if p.1 == key then (key, e) else p)⟩
  else ⟨s.entries ++ [(key, e)]⟩

/-- Whether an entry is dead at `now`. -/
def Entry.dead (e : Entry) (now : Instant) : Bool := !e.expiresAt.isZero && e.expiresAt ≤ now

/-- The live entry under a key; a dead one is dropped. -/
def lookup (s : MemoryStore) (now : Instant) (key : String) : Option Entry × MemoryStore :=
  match s.find? key with
  | none => (none, s)
  | some e => if Entry.dead e now then (none, s.erase key) else (some e, s)

/-- The remaining life of the counter under a key: `ttlMissing`, `ttlNoExpiry`, or the span
to its expiry. -/
def pttl (s : MemoryStore) (now : Instant) (key : String) : Span × MemoryStore :=
  match s.lookup now key with
  | (none, s') => (ttlMissing, s')
  | (some e, s') => (if e.expiresAt.isZero then ttlNoExpiry else e.expiresAt.since now, s')

/-- Adds to a counter, creating it with expiry `now + window`; the new count. -/
def incr (s : MemoryStore) (now : Instant) (key : String) (window : Span) (amount : Int64) :
    Int64 × MemoryStore :=
  let (found, s) := s.lookup now key
  let e := found.getD ⟨0, now.add window, []⟩
  let e := { e with value := e.value + amount }
  (e.value, s.put key e)

/-- The count under a key, 0 when missing. -/
def get (s : MemoryStore) (now : Instant) (key : String) : Int64 × MemoryStore :=
  match s.lookup now key with
  | (some e, s') => (e.value, s')
  | (none, s') => (0, s')

/-- Removes a counter and its previous counter. -/
def clear (s : MemoryStore) (key : String) : MemoryStore :=
  (s.erase key).erase (previousKey key)

/-- Removes everything; the number of entries removed, dead ones included. -/
def reset (s : MemoryStore) : Int64 × MemoryStore :=
  (Int64.ofNat s.entries.length, empty)

/-- The sum of a log's amounts, wrapping at 64 bits. -/
def logTotal (log : List (Instant × Int64)) : Int64 := log.foldl (fun a p => a + p.2) 0

/-- The log entries after the window's start, `now - window`. -/
def recent (log : List (Instant × Int64)) (now : Instant) (window : Span) :
    List (Instant × Int64) :=
  log.filter (fun p => now.add (-window) < p.1)

/-- Admits an amount into a moving window if the last window's amounts plus it stay within
the limit. -/
def acquireEntry (s : MemoryStore) (now : Instant) (key : String) (limit : Int64) (window : Span)
    (amount : Int64) : Bool × MemoryStore :=
  if limit < amount then (false, s)
  else
    let (found, s) := s.lookup now key
    let e := found.getD ⟨0, 0, []⟩
    let kept := recent e.log now window
    if limit < logTotal kept + amount then (false, s.put key { e with log := kept })
    else (true, s.put key { e with log := kept ++ [(now, amount)], expiresAt := now.add window })

/-- The oldest instant and the total of the last window's amounts; the absent instant and 0
when there are none. The stored log is pruned to the window. -/
def movingWindow (s : MemoryStore) (now : Instant) (key : String) (window : Span) :
    (Instant × Int64) × MemoryStore :=
  match s.lookup now key with
  | (none, s') => ((0, 0), s')
  | (some e, s') =>
    let kept := recent e.log now window
    let s'' := s'.put key { e with log := kept }
    match kept with
    | [] => ((0, 0), s'')
    | (t, _) :: _ => ((t, logTotal kept), s'')

/-- Makes the current counter the previous one once less than a window of its life is left. -/
def shift (s : MemoryStore) (now : Instant) (key : String) (window : Span) : MemoryStore :=
  let (ttl, s) := s.pttl now key
  if 0 < ttl ∧ ttl < window then
    match s.find? key with
    | some cur => (s.put (previousKey key) cur).put key ⟨0, now.add (ttl + window), []⟩
    | none => s
  else s

/-- The two counters of a sliding window, their lives floored at zero. -/
def slidingState (s : MemoryStore) (now : Instant) (key : String) : SlidingState × MemoryStore :=
  let floor0 (d : Span) : Span := if d < 0 then 0 else d
  let (prev, s) := s.lookup now (previousKey key)
  let (prevTtl, s) := s.pttl now (previousKey key)
  let (cur, s) := s.lookup now key
  let (curTtl, s) := s.pttl now key
  let st : SlidingState := {
    previousCount := (prev.map (·.value)).getD 0
    previousTtl := if prev.isSome then floor0 prevTtl else 0
    currentCount := (cur.map (·.value)).getD 0
    currentTtl := if cur.isSome then floor0 curTtl else 0 }
  (st, s)

/-- Admits an amount into a sliding window if the weighted count plus it stays within the
limit. -/
def acquireSliding (s : MemoryStore) (now : Instant) (key : String) (limit : Int64) (window : Span)
    (amount : Int64) : Bool × MemoryStore :=
  if limit < amount then (false, s)
  else
    let s := s.shift now key window
    let (st, s) := s.slidingState now key
    if limit < st.weighted window + amount then (false, s)
    else
      match s.lookup now key with
      | (some e, s') => (true, s'.put key { e with value := e.value + amount })
      | (none, s') => (true, s'.put key ⟨amount, now.add (2 * window), []⟩)

/-- The sliding window's counters after shifting. -/
def slidingWindow (s : MemoryStore) (now : Instant) (key : String) (window : Span) :
    SlidingState × MemoryStore :=
  (s.shift now key window).slidingState now key

end MemoryStore

end Admission.Quota
