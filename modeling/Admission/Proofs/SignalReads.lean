import Mathlib
import Admission.Signals.Remote

/-!
# Reading the shared signals

The tracker shared by the gateway instances keeps a provider's two measurements under
`signals:<id>:parallel` and `signals:<id>:performance`. A snapshot reads both keys of every
provider asked for in one `MGET`, whose reply lists the values in the order of the keys, two per
provider, and pairs the reply off again.

* Pairing off (`pairValues_interleaved`): the values of the interleaved keys, taken two by two,
  give each provider the values of its own two keys.
* The key scheme (`parallelKey_injective`, `performanceKey_injective`,
  `parallelKey_ne_performanceKey`): a provider id is any text, `:parallel` or `:performance`
  inside it included, yet no two ids share a key and no count key is an indicator key. The
  prefix and the suffix cut off, what is left is the id; and the two suffixes end in different
  letters.

Main statement (`snapshot_reads_own_keys`): over any store whose multi-key read answers the
values of the keys in order and changes nothing (`ReadsKeys`), a snapshot of any list of ids,
duplicates and the empty list included, answers with readings for exactly those ids, each read
off the values under its own two keys. The key-value client on an open connection to a server
that answers `MGET` is such a store (`remote_readsKeys`).
-/

namespace Admission.Tracker

open KeyValue Quota

/-- Two ids with the same count key are the same id. -/
theorem parallelKey_injective : Function.Injective parallelKey := fun _ _ h =>
  (String.append_right_inj "signals:").mp ((String.append_left_inj ":parallel").mp h)

/-- Two ids with the same indicator key are the same id. -/
theorem performanceKey_injective : Function.Injective performanceKey := fun _ _ h =>
  (String.append_right_inj "signals:").mp ((String.append_left_inj ":performance").mp h)

/-- No count key is an indicator key, whatever the two ids: a count key ends in `l`, an
indicator key in `e`. -/
theorem parallelKey_ne_performanceKey (p q : String) : parallelKey p ≠ performanceKey q := by
  intro h
  have hlast := congrArg (fun k : String => k.toList.getLast?) h
  simp only [parallelKey, performanceKey, String.toList_append, List.getLast?_append] at hlast
  simp at hlast

/-- The values of the interleaved keys, taken two by two, give each provider the values of its
own keys. -/
theorem pairValues_interleaved (value : String → Option String) (ids : List String) :
    pairValues ids ((ids.flatMap fun id => [parallelKey id, performanceKey id]).map value) =
      ids.map fun id => (id, readSignals (value (parallelKey id)) (value (performanceKey id))) := by
  induction ids with
  | nil => rfl
  | cons id ids ih => simp [pairValues, ih]

/-- Readings listed one per id answer a listed id with its own reading, and know nothing of
any other. -/
theorem get_keyed_map (reading : String → Signals) (ids : List String) (p : String) :
    Readings.get (ids.map fun id => (id, reading id)) p =
      if p ∈ ids then reading p else Signals.none := by
  induction ids with
  | nil => rfl
  | cons id ids ih =>
    by_cases h : id = p
    · subst h
      simp [Readings.get]
    · have hne : p ≠ id := Ne.symm h
      unfold Readings.get at ih ⊢
      rw [List.map_cons, List.find?_cons_of_neg (by simpa using h), ih]
      simp [hne]

/-- A multi-key read that answers, at state `s`, the value `value` gives each key, in the order
of the keys, and leaves the state as it was: what `MGET` does. -/
def ReadsKeys {σ : Type} (mget : List String → σ → Except Fault (List (Option String)) × σ)
    (s : σ) (value : String → Option String) : Prop :=
  ∀ keys, mget keys s = (.ok (keys.map value), s)

/-- On an open client of a server that answers `MGET`, a multiple read answers the live value of
each key, in order, and changes nothing. -/
theorem mget_eq (now : Instant) (keys : List String) (c : Connection) (hopen : c.closed = false)
    (hmget : ∀ o, c.server.outage = some o → o.covers "MGET" = false) :
    c.mget now keys = (.ok (keys.map fun k => (c.server.lookup now k).map Cell.value), c) := by
  obtain ⟨server, closed⟩ := c
  obtain rfl : closed = false := hopen
  unfold Connection.mget Connection.call Server.mget Server.command
  cases hout : server.outage with
  | none => simp [hout]
  | some o => simp [hout, hmget o hout]

/-- The key-value client reads keys as `MGET` does: on an open client of a server that answers
`MGET`, within its deadline, each key's live value. -/
theorem remote_readsKeys (now : Instant) (c : Connection) (hopen : c.closed = false)
    (hmget : ∀ o, c.server.outage = some o → o.covers "MGET" = false) :
    ReadsKeys (fun keys c => remoteCall false "snapshot signals" c (·.mget now keys)) c
      fun k => (c.server.lookup now k).map Cell.value := by
  intro keys
  simp only [remoteCall, Bool.false_eq_true, if_false, mget_eq now keys c hopen hmget]

/-- With a multi-key read that reads keys, a snapshot answers the ids asked for, each paired
with the reading of the values under its own keys, and leaves the state as it was. -/
theorem snapshotVia_eq {σ : Type}
    {mget : List String → σ → Except Fault (List (Option String)) × σ} {s : σ}
    {value : String → Option String} (hread : ReadsKeys mget s value) (ids : List String) :
    snapshotVia mget ids s =
      (.ok (ids.map fun id =>
        (id, readSignals (value (parallelKey id)) (value (performanceKey id)))), s) := by
  by_cases hids : ids.isEmpty
  · rw [List.isEmpty_iff.mp hids]
    rfl
  · unfold snapshotVia
    rw [if_neg hids, hread _]
    simp only [pairValues_interleaved]

/-- A snapshot reads each provider's own signals. Over any store whose multi-key read answers
the value of each key in order and changes nothing, as `MGET` does, whatever the store holds
and whatever ids are asked for, the snapshot answers with readings for exactly those ids; an
id's requests in flight are its count key's value read as a 64-bit integer, and its performance
indicator its indicator key's value read as a float, each unknown when the value is missing or
does not read. No id reads another's values: the keys of different ids differ, and count keys
are never indicator keys. -/
theorem snapshot_reads_own_keys {σ : Type}
    (mget : List String → σ → Except Fault (List (Option String)) × σ) (s : σ)
    (value : String → Option String) (hread : ReadsKeys mget s value) (ids : List String) :
    ∃ r, snapshotVia mget ids s = (.ok r, s) ∧ r.map Prod.fst = ids ∧
      (∀ p ∈ ids,
        (r.get p).parallelRequests = (value (parallelKey p)).bind Decimal.readInt64 ∧
        (r.get p).performanceIndicator = (value (performanceKey p)).bind Decimal.readFloat) ∧
      (∀ p ∉ ids, r.get p = Signals.none) ∧
      Function.Injective parallelKey ∧ Function.Injective performanceKey ∧
      ∀ p q, parallelKey p ≠ performanceKey q := by
  refine ⟨_, snapshotVia_eq hread ids, by simp [Function.comp_def], fun p hp => ?_,
    fun p hp => ?_, parallelKey_injective, performanceKey_injective,
    parallelKey_ne_performanceKey⟩
  · rw [get_keyed_map, if_pos hp]
    exact ⟨rfl, rfl⟩
  · rw [get_keyed_map, if_neg hp]

/-- The key-value client over a server with one provider's count and an unreadable indicator,
and another provider's indicator, reads keys as `MGET` does: a snapshot asking for the first
provider twice and the second once reads each from its own keys. -/
theorem snapshot_reads_own_keys_two_providers :
    let c : Connection := ⟨⟨[("signals:a:parallel", ⟨"3", none⟩),
      ("signals:a:performance", ⟨"fast", none⟩), ("signals:b:performance", ⟨"0.5", none⟩)],
      none⟩, false⟩
    let value : String → Option String := fun k => (c.server.lookup 0 k).map Cell.value
    ReadsKeys (fun keys c => remoteCall false "snapshot signals" c (·.mget 0 keys)) c value ∧
      ∃ r, Remote.snapshot false 0 ["a", "b", "a"] c = (.ok r, c) ∧
        r.map Prod.fst = ["a", "b", "a"] ∧
        (∀ p ∈ ["a", "b", "a"],
          (r.get p).parallelRequests = (value (parallelKey p)).bind Decimal.readInt64 ∧
          (r.get p).performanceIndicator = (value (performanceKey p)).bind Decimal.readFloat) ∧
        (∀ p ∉ ["a", "b", "a"], r.get p = Signals.none) ∧
        Function.Injective parallelKey ∧ Function.Injective performanceKey ∧
        ∀ p q, parallelKey p ≠ performanceKey q := by
  intro c value
  have hread := remote_readsKeys 0 c rfl fun _ h => by cases h
  exact ⟨hread, snapshot_reads_own_keys _ c value hread ["a", "b", "a"]⟩

end Admission.Tracker
