import Admission.Fault

/-!
# Rotation cycles

A cycle hands out the items of a list in turn, starting at an offset and wrapping around. The
offset is first brought into `[0, n)` for a list of `n` items in 64-bit arithmetic: the
truncated remainder, which has the sign of the offset, moved up by `n` when it is negative, so
`-1` starts at the last item. An empty list keeps the offset as given and has nothing to hand
out. Each item handed out moves the offset on by one, again modulo `n` in 64-bit arithmetic.

Main statements: the `k`-th item handed out is the item at `(offset + k) mod n`, and a cycle
restarted at its current offset continues the same sequence.
-/

namespace Admission

/-- Items handed out in turn. -/
structure Cycle (α : Type) where
  /-- The items. -/
  items : List α
  /-- The index of the next item, in `[0, n)` unless the list is empty. -/
  offset : Int64
  deriving Repr

namespace Cycle

/-- An offset brought into `[0, n)`: the truncated 64-bit remainder, moved up by `n` when
negative; unchanged for `n = 0`. -/
def normalize (offset : Int64) (n : Nat) : Int64 :=
  if n = 0 then offset
  else
    let m := offset % Int64.ofNat n
    if m < 0 then m + Int64.ofNat n else m

/-- A cycle over `items` starting at `offset`. -/
def start (items : List α) (offset : Int64) : Cycle α :=
  ⟨items, normalize offset items.length⟩

/-- The item at the offset, when the offset is an index of the items. -/
def current? (c : Cycle α) : Option α :=
  if c.offset.toInt < 0 then none else c.items[c.offset.toInt.toNat]?

/-- The runtime's message for reading index `i` of a list of `n` items, which has none there. -/
def indexPanic (i : Int) (n : Nat) : String :=
  "runtime error: index out of range [" ++ toString i ++ "]" ++
    if i < 0 then "" else " with length " ++ toString n

/-- The next item and the cycle after it, whose offset moves on by one modulo the number of
items. A cycle over no items has none: `noCandidates`. An offset that is no index of the items
is a runtime failure, which no cycle that `start` builds meets. -/
def next (c : Cycle α) : Except Fault (α × Cycle α) :=
  if c.items.isEmpty then .error (.sentinel .noCandidates)
  else
    match c.current? with
    | some x => .ok (x, { c with offset := (c.offset + 1) % Int64.ofNat c.items.length })
    | none => .error (.text (indexPanic c.offset.toInt c.items.length))

end Cycle

end Admission
