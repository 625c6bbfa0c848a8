import Mathlib
import Admission.Routing.Cycle

/-!
# Restarting a rotation cycle

A cycle over `n` items started at any 64-bit offset, negative ones and the least one included,
hands out at its `k`-th call the item at `(offset + k) mod n`, the remainder taken in `[0, n)`,
and its offset after `k` calls is that remainder. The offset of a cycle over some items is
always an index of them (`Cycle.Normal`): that is the invariant one call keeps
(`Cycle.Normal.call`), and every run of calls keeps it (`Cycle.after_of_normal`). So a cycle
rebuilt from the offset it reports is the same cycle and goes on with the same sequence. A
cycle over no items keeps its offset as given and fails every call with `noCandidates`.

The arithmetic is the source's: 64-bit truncated remainders, whose sign is the offset's, with
`n` added back to a negative one (`toInt_normalize`), and a successor that may wrap
(`toInt_succ_mod`). A list here is one that a 64-bit length counts, as every list of the source
is: at most `2^63` items.

Main statement: `cycle_restart`.
-/

namespace Admission.Cycle

variable {α : Type}

/-- One call of `next`: its answer, and the cycle it leaves, which a failed call leaves as it
was. -/
def call (c : Cycle α) : Except Fault α × Cycle α :=
  match c.next with
  | .ok (x, c') => (.ok x, c')
  | .error f => (.error f, c)

/-- The cycle after `k` calls. -/
def after (c : Cycle α) : Nat → Cycle α
  | 0 => c
  | k + 1 => c.call.2.after k

/-- The offset is an index of the items. -/
def Normal (c : Cycle α) : Prop := 0 ≤ c.offset.toInt ∧ c.offset.toInt < c.items.length

/-- A count of at most `2^63` items as a 64-bit integer is `n`, or `-2^63` for `2^63` itself;
either way the truncated remainders by it are those by `n`. -/
theorem tmod_ofNat (a : Int) {n : Nat} (hn : n ≤ 9223372036854775808) :
    a.tmod (Int64.ofNat n).toInt = a.tmod n := by
  rcases Nat.lt_or_eq_of_le hn with hlt | rfl
  · rw [Int64.toInt_ofNat_of_lt hlt]
  · have hleast : (Int64.ofNat 9223372036854775808).toInt =
        -((9223372036854775808 : Nat) : Int) := by decide
    rw [hleast, Int.tmod_neg]

/-- Bringing an offset into `[0, n)` gives its remainder that has the sign of `n`, for a count
`n` of at most `2^63`, the least offset `-2^63` included. The truncated remainder has the sign of
the offset and is the mathematical one less `n` exactly when it is negative, which the
correction adds back. -/
theorem toInt_normalize (offset : Int64) {n : Nat} (hpos : 0 < n)
    (hn : n ≤ 9223372036854775808) :
    (normalize offset n).toInt = offset.toInt % n := by
  have hrem : (offset % Int64.ofNat n).toInt = offset.toInt.tmod n := by
    rw [Int64.toInt_mod, tmod_ofNat _ hn]
  have hlo := Int.lt_tmod_of_pos offset.toInt (b := n) (by omega)
  have hhi := Int.tmod_lt_of_pos offset.toInt (b := n) (by omega)
  have hemod := Int.emod_eq_tmod (a := offset.toInt) (b := n)
  have hnonneg := Int.emod_nonneg offset.toInt (b := n) (by omega)
  have hlt := Int.emod_lt_of_pos offset.toInt (b := (n : Int)) (by omega)
  simp only [Int.natAbs_natCast] at hemod
  simp only [normalize, Nat.pos_iff_ne_zero.mp hpos, if_false]
  split
  · rename_i hneg
    rw [Int64.lt_iff_toInt_lt, hrem, Int64.toInt_zero] at hneg
    have hsize : ((Int64.size : Nat) : Int) = 18446744073709551616 := rfl
    rw [Int64.toInt_add, hrem, Int64.toInt_ofNat', Int.add_bmod_bmod,
      Int.bmod_eq_of_le (by omega) (by omega)]
    split at hemod <;> omega
  · rename_i hpos'
    rw [Int64.lt_iff_toInt_lt, hrem, Int64.toInt_zero] at hpos'
    rw [hrem]
    split at hemod <;> omega

/-- Moving an index of `n` items on by one in 64-bit arithmetic gives the next index modulo `n`,
for `n` of at most `2^63`: at `2^63` items the last index wraps to `-2^63`, whose remainder is
`0`. -/
theorem toInt_succ_mod {o : Int64} {n : Nat} (h0 : 0 ≤ o.toInt) (hlt : o.toInt < n)
    (hn : n ≤ 9223372036854775808) :
    ((o + 1) % Int64.ofNat n).toInt = (o.toInt + 1) % n := by
  have hsize : ((Int64.size : Nat) : Int) = 18446744073709551616 := rfl
  rw [Int64.toInt_mod, tmod_ofNat _ hn, Int64.toInt_add, Int64.toInt_one]
  by_cases hfit : o.toInt + 1 < 9223372036854775808
  · rw [Int.bmod_eq_of_le (by omega) (by omega), Int.tmod_eq_emod_of_nonneg (by omega)]
  · have hlast : o.toInt + 1 = n := by omega
    have hwrap : (o.toInt + 1).bmod (2 ^ 64) = -n := by
      rw [hlast, show n = 9223372036854775808 by omega]
      decide
    rw [hwrap, hlast, Int.neg_tmod, Int.tmod_self, Int.emod_self]
    rfl

/-- A cycle started over some items is normal, whatever its offset. -/
theorem start_normal {items : List α} (hne : items ≠ [])
    (hlen : items.length ≤ 9223372036854775808) (offset : Int64) :
    (start items offset).Normal := by
  have hpos : 0 < items.length := List.length_pos_iff.mpr hne
  have hoffset := toInt_normalize offset hpos hlen
  simp only [Normal, start, hoffset]
  exact ⟨Int.emod_nonneg _ (by omega), Int.emod_lt_of_pos _ (by omega)⟩

/-- A normal cycle hands out the item at its offset and moves its offset on by one modulo the
number of items, in 64-bit arithmetic. -/
theorem Normal.call_eq {c : Cycle α} (h : c.Normal) :
    ∃ x, c.items[c.offset.toInt.toNat]? = some x ∧
      c.call = (.ok x, { c with offset := (c.offset + 1) % Int64.ofNat c.items.length }) := by
  have hidx : c.offset.toInt.toNat < c.items.length := by
    have := h.1
    have := h.2
    omega
  have hne : c.items.isEmpty = false := by
    rw [List.isEmpty_eq_false_iff_exists_mem]
    exact ⟨_, List.getElem_mem hidx⟩
  have hcur : c.current? = some c.items[c.offset.toInt.toNat] := by
    simp only [current?, not_lt.mpr h.1, if_false, List.getElem?_eq_getElem hidx]
  refine ⟨c.items[c.offset.toInt.toNat], List.getElem?_eq_getElem hidx, ?_⟩
  simp only [call, next, hne, hcur, Bool.false_eq_true, if_false]

/-- One call keeps a cycle normal: the items stay, and the offset moves on by one modulo their
number. -/
theorem Normal.call {c : Cycle α} (h : c.Normal) (hlen : c.items.length ≤ 9223372036854775808) :
    c.call.2.items = c.items ∧
      c.call.2.offset.toInt = (c.offset.toInt + 1) % c.items.length ∧ c.call.2.Normal := by
  obtain ⟨x, -, hcall⟩ := h.call_eq
  have hpos : (0 : Int) < c.items.length := lt_of_le_of_lt h.1 h.2
  have hnext := toInt_succ_mod h.1 h.2 hlen
  rw [hcall]
  refine ⟨rfl, hnext, ?_⟩
  simp only [Normal, hnext]
  exact ⟨Int.emod_nonneg _ (by omega), Int.emod_lt_of_pos _ hpos⟩

/-- A run of calls from a normal cycle: the items stay, and after `k` calls the offset is the
start offset plus `k`, modulo the number of items. -/
theorem after_of_normal {c : Cycle α} (h : c.Normal)
    (hlen : c.items.length ≤ 9223372036854775808) (k : Nat) :
    (c.after k).items = c.items ∧
      (c.after k).offset.toInt = (c.offset.toInt + k) % c.items.length ∧ (c.after k).Normal := by
  induction k generalizing c with
  | zero =>
    have hmod : c.offset.toInt % c.items.length = c.offset.toInt := Int.emod_eq_of_lt h.1 h.2
    refine ⟨rfl, ?_, h⟩
    simp only [after, Nat.cast_zero, add_zero, hmod]
  | succ k ih =>
    obtain ⟨hitems, hoffset, hnormal⟩ := h.call hlen
    obtain ⟨hitems', hoffset', hnormal'⟩ := ih hnormal (hitems ▸ hlen)
    refine ⟨hitems'.trans hitems, ?_, hnormal'⟩
    calc (c.after (k + 1)).offset.toInt
        = (c.call.2.offset.toInt + k) % c.items.length := by
          rw [after, hoffset', hitems]
      _ = ((c.offset.toInt + 1) % c.items.length + k) % c.items.length := by rw [hoffset]
      _ = (c.offset.toInt + ((k + 1 : Nat) : Int)) % c.items.length := by
          rw [Int.emod_add_emod]
          push_cast
          ring_nf

/-- A normal cycle rebuilt from its own offset is itself. -/
theorem Normal.start_offset {c : Cycle α} (h : c.Normal)
    (hlen : c.items.length ≤ 9223372036854775808) : start c.items c.offset = c := by
  have hpos : 0 < c.items.length := by
    have := h.1
    have := h.2
    omega
  have hoffset : (start c.items c.offset).offset.toInt = c.offset.toInt := by
    simp only [start, toInt_normalize c.offset hpos hlen]
    exact Int.emod_eq_of_lt h.1 h.2
  cases c
  simp only [start, Cycle.mk.injEq, true_and]
  exact Int64.toInt_inj.mp hoffset

/-- A cycle over no items has nothing to hand out: the call fails and leaves it. -/
theorem call_nil (offset : Int64) :
    (start ([] : List α) offset).call = (.error (.sentinel .noCandidates), start [] offset) := rfl

/-- A cycle over no items stays as it is, whatever the number of calls. -/
theorem after_nil (offset : Int64) (k : Nat) : (start ([] : List α) offset).after k = start [] offset := by
  induction k with
  | zero => rfl
  | succ k ih => rw [after, call_nil, ih]

/-- The restart law of rotation cycles. Over a non-empty list of `n` items and from any offset
`o`, the `k`-th call hands out the item at `(o + k) mod n` and the offset after `k` calls is
`(o + k) mod n`, the remainder in `[0, n)`, so every index a call reads is one of the items; a
cycle rebuilt from that offset is the cycle itself, and so has the same future. Over no items,
every call fails with `noCandidates` and the offset stays as given. -/
theorem cycle_restart (items : List α) (offset : Int64)
    (hlen : items.length ≤ 9223372036854775808) :
    (items ≠ [] → ∀ k : Nat,
      (∃ x, items[((offset.toInt + k) % items.length).toNat]? = some x ∧
        ((start items offset).after k).call.1 = .ok x) ∧
      ((start items offset).after k).offset.toInt = (offset.toInt + k) % items.length ∧
      (0 ≤ ((start items offset).after k).offset.toInt ∧
        ((start items offset).after k).offset.toInt < items.length) ∧
      start items ((start items offset).after k).offset = (start items offset).after k) ∧
    (items = [] → ∀ k : Nat,
      ((start items offset).after k).call.1 = .error (.sentinel .noCandidates) ∧
      ((start items offset).after k).offset = offset) := by
  constructor
  · intro hne k
    have hpos : 0 < items.length := List.length_pos_iff.mpr hne
    obtain ⟨hitems, hoffset, hnormal⟩ := after_of_normal (start_normal hne hlen offset) hlen k
    have hrun : ((start items offset).after k).offset.toInt = (offset.toInt + k) % items.length := by
      rw [hoffset]
      simp only [start, toInt_normalize offset hpos hlen, Int.emod_add_emod]
    have hitems' : ((start items offset).after k).items = items := hitems
    obtain ⟨x, hx, hcall⟩ := hnormal.call_eq
    refine ⟨⟨x, ?_, by rw [hcall]⟩, hrun, ?_, ?_⟩
    · rw [hrun, hitems'] at hx
      exact hx
    · have hbounds := hnormal
      rw [Normal, hitems'] at hbounds
      exact hbounds
    · have hrestart := hnormal.start_offset (by rw [hitems']; exact hlen)
      rwa [hitems'] at hrestart
  · rintro rfl k
    rw [after_nil]
    exact ⟨rfl, rfl⟩

/-- Three items started at the least offset, `-2^63`, which is `1` modulo `3`: the third call
hands out the first item. -/
example : ((start ["a", "b", "c"] (-9223372036854775808)).after 2).call.1 = .ok "a" := rfl

/-- The restart law at three items from the least offset. -/
theorem cycle_restart_from_least_offset :
    let items := ["a", "b", "c"]
    let offset : Int64 := -9223372036854775808
    items.length ≤ 9223372036854775808 ∧
    (items ≠ [] → ∀ k : Nat,
      (∃ x, items[((offset.toInt + k) % items.length).toNat]? = some x ∧
        ((start items offset).after k).call.1 = .ok x) ∧
      ((start items offset).after k).offset.toInt = (offset.toInt + k) % items.length ∧
      (0 ≤ ((start items offset).after k).offset.toInt ∧
        ((start items offset).after k).offset.toInt < items.length) ∧
      start items ((start items offset).after k).offset = (start items offset).after k) ∧
    (items = [] → ∀ k : Nat,
      ((start items offset).after k).call.1 = .error (.sentinel .noCandidates) ∧
      ((start items offset).after k).offset = offset) :=
  ⟨by decide, cycle_restart ["a", "b", "c"] (-9223372036854775808) (by decide)⟩

end Admission.Cycle
