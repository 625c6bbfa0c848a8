import Admission.Proofs.Selection

/-!
# Rotation offsets in their stores

A round-robin router resumes from the offset its store holds: an entry of the in-memory table,
an entry of the in-memory catalog, or the integer under `router:offset:<id>` on the key-value
server, which `INCR` advances. This module reads that offset as an integer
(`Setup.storedOffset`) and shows what asking the store for the next offset does:

* when the store answers (`Setup.OffsetsAnswer`), asking for router `R` returns the stored
  offset and stores it plus one (`nextOffset_self`), as long as it is below `2^63 - 1`; the
  key-value server refuses to go past that bound, and the in-memory stores wrap there;
* asking for any other router leaves `R`'s offset and the store's answering as they were
  (`nextOffset_other`): the catalog keeps one entry per router, and two routers never share
  a key on the server (`offsetKey_inj`).

On the server this rests on reading back what `INCR` writes: every 64-bit integer is written
in decimal and read back as itself (`Server.readInteger_toString`).
-/

namespace Admission

namespace Directory

/-- Storing a pair under its first component replaces the entry with that key, or adds one;
every other key keeps its entry. -/
theorem find?_upsert_fst {κ β : Type} [DecidableEq κ] (x : κ × β) (j : κ) :
    ∀ xs : List (κ × β),
      (upsert Prod.fst x xs).find? (·.1 == j) = if x.1 = j then some x else xs.find? (·.1 == j)
  | [] => by
    by_cases hx : x.1 = j <;> simp [upsert, hx]
  | y :: ys => by
    by_cases hy : y.1 = x.1
    · by_cases hx : x.1 = j <;> simp [upsert, hy, hx]
    · have hrest := find?_upsert_fst x j ys
      by_cases hyj : y.1 = j
      · have hx : ¬x.1 = j := fun h => hy (hyj.trans h.symm)
        have hjx : ¬j = x.1 := fun h => hx h.symm
        simp [upsert, hyj, hx, hjx]
      · simp [upsert, hy, hyj, hrest]

/-- Advancing a router's offset in the catalog leaves its routers as they were. -/
@[simp] theorem Catalog.router_nextOffset (c : Catalog) (id j : Int64) :
    (c.nextOffset id).2.router j = c.router j := by
  unfold Catalog.nextOffset
  split <;> rfl

/-- Advancing an offset in the catalog stores the old one plus one under the router's id; every
other router keeps its offset. -/
theorem Catalog.offset_nextOffset {c : Catalog} {id : Int64} {r : Router}
    (hr : c.router id = .ok r) (j : Int64) :
    (c.nextOffset id).2.offset j = if id = j then c.offset id + 1 else c.offset j := by
  unfold Catalog.nextOffset
  rw [hr]
  unfold Catalog.offset
  rw [find?_upsert_fst]
  by_cases h : id = j <;> simp [h]

end Directory

/-- The decimal digits of a number are digits. -/
theorem all_isDigit_toDigits (n : Nat) : (Nat.toDigits 10 n).all Char.isDigit = true :=
  List.all_eq_true.mpr fun _ hc => Nat.isDigit_of_mem_toDigits (by decide) (by decide) hc

/-- Reading the decimal digits of a number left to right gives the number back. -/
theorem foldl_toDigits (n : Nat) :
    (Nat.toDigits 10 n).foldl (fun a c => a * 10 + (c.toNat - '0'.toNat)) 0 = n := by
  have h := @Nat.ofDigitChars_ten_toDigits n
  rw [Nat.ofDigitChars_eq_foldl] at h
  have hstep : (fun a (c : Char) => a * 10 + (c.toNat - '0'.toNat)) =
      fun a c => 10 * a + (c.toNat - '0'.toNat) := by
    funext a c
    rw [Nat.mul_comm]
  rw [hstep]
  exact h

/-- The decimal digits of a positive number start with a digit other than `0`. -/
theorem toDigits_cons_of_pos {n : Nat} (hn : 0 < n) :
    ∃ d ds, Nat.toDigits 10 n = d :: ds ∧ d ≠ '0' := by
  induction n using Nat.strongRecOn with
  | ind n ih =>
    rw [Nat.toDigits_eq_if (by decide)]
    split
    · exact ⟨_, [], rfl, by simpa using Nat.pos_iff_ne_zero.mp hn⟩
    · obtain ⟨d, ds, hds, hd⟩ := ih (n / 10) (by omega) (by omega)
      exact ⟨d, ds ++ _, by rw [hds]; rfl, hd⟩

/-- The decimal digits of a positive number, as a strict reader takes them: digits only, led by
one other than `0`, and worth the number. -/
theorem toDigits_readable {n : Nat} (hn : 0 < n) :
    ∃ d ds, Nat.toDigits 10 n = d :: ds ∧ d ≠ '0' ∧ (d :: ds).all Char.isDigit = true ∧
      (d :: ds).foldl (fun a c => a * 10 + (c.toNat - '0'.toNat)) 0 = n := by
  obtain ⟨d, ds, hds, hd⟩ := toDigits_cons_of_pos hn
  refine ⟨d, ds, hds, hd, ?_, ?_⟩
  · rw [← hds]
    exact all_isDigit_toDigits n
  · rw [← hds]
    exact foldl_toDigits n

theorem toList_toString_of_nonneg {m : Int} (hm : 0 ≤ m) :
    (toString m).toList = Nat.toDigits 10 m.toNat := by
  rw [Int.toString_eq_repr, Int.repr_eq_if, if_pos hm, Nat.toList_repr]

theorem toList_toString_of_neg {m : Int} (hm : m < 0) :
    (toString m).toList = '-' :: Nat.toDigits 10 (-m).toNat := by
  rw [Int.toString_eq_repr, Int.repr_eq_if, if_neg (by omega), String.toList_append,
    Nat.toList_repr]
  rfl

namespace KeyValue

namespace Server

/-- Writing a key replaces the first entry under it, or adds one last; the entries found under
every other key are the ones found before. -/
theorem find?_write (s : Server) (key k : String) (c : Cell) :
    (s.write key c).cells.find? (·.1 == k) =
      if key = k then some (key, c) else s.cells.find? (·.1 == k) := by
  unfold write
  split
  · rename_i hany
    have hpred : ((fun kc : String × Cell => kc.1 == k) ∘
        fun kc => if kc.1 == key then (key, c) else kc) = fun kc => kc.1 == k := by
      funext kc
      by_cases h : kc.1 = key <;> by_cases hk : key = k <;> simp_all
    simp only [List.find?_map, hpred]
    by_cases hk : key = k
    · subst hk
      obtain ⟨kc, hkc⟩ : ∃ kc, s.cells.find? (·.1 == key) = some kc :=
        Option.isSome_iff_exists.mp (List.find?_isSome.mpr (List.any_eq_true.mp hany))
      have hfst : kc.1 = key := by simpa using List.find?_some hkc
      simp [hkc, hfst]
    · cases hfind : s.cells.find? (·.1 == k) with
      | none => simp [hk]
      | some kc =>
        have hfst : kc.1 = k := by simpa using List.find?_some hfind
        have hne : ¬kc.1 = key := fun h => hk (h ▸ hfst)
        simp [hk, hne]
  · rename_i hany
    have hnone : s.cells.find? (·.1 == key) = none := by
      rw [List.find?_eq_none]
      intro kc hmem hkc
      exact hany (List.any_eq_true.mpr ⟨kc, hmem, hkc⟩)
    by_cases hk : key = k
    · subst hk
      simp [List.find?_append, hnone]
    · simp [List.find?_append, hk]

/-- A written value is the live one under its key while it lives; every other key reads as
before. -/
theorem lookup_write (s : Server) (now : Instant) (key k : String) (c : Cell) :
    (s.write key c).lookup now k =
      if key = k then (if c.alive now then some c else none) else s.lookup now k := by
  unfold lookup
  rw [find?_write]
  by_cases h : key = k <;> simp [h]

@[simp] theorem outage_write (s : Server) (key : String) (c : Cell) :
    (s.write key c).outage = s.outage := by
  unfold write
  split <;> rfl

/-- The server reads back every 64-bit integer written in decimal. -/
theorem readInteger_toString {m : Int} (hlo : -9223372036854775808 ≤ m)
    (hhi : m ≤ 9223372036854775807) : readInteger (toString m) = some m := by
  rcases Int.lt_trichotomy m 0 with hneg | rfl | hpos
  · obtain ⟨d, ds, hds, hd, hall, hfold⟩ := toDigits_readable (n := (-m).toNat) (by omega)
    unfold readInteger
    rw [toList_toString_of_neg hneg, hds]
    split
    · rename_i h
      simp at h
    · rename_i rest h
      simp only [List.cons.injEq, true_and] at h
      subst h
      dsimp only
      rw [if_pos (by simp [hd, hall]), hfold]
      simp only [Option.pure_def, Option.bind_eq_bind, Option.bind_some, Option.map_some]
      rw [if_pos (by omega)]
      congr 1
      omega
    · rename_i _ h
      exact (h _ rfl).elim
  · decide
  · obtain ⟨d, ds, hds, hd, hall, hfold⟩ := toDigits_readable (n := m.toNat) (by omega)
    have hdigit : d.isDigit = true := by simp_all
    have hminus : d ≠ '-' := by
      rintro rfl
      exact absurd hdigit (by decide)
    unfold readInteger
    rw [toList_toString_of_nonneg (by omega), hds]
    split
    · rename_i h
      simp only [List.cons.injEq] at h
      exact absurd h.1 hd
    · rename_i h
      simp only [List.cons.injEq] at h
      exact absurd h.1 hminus
    · dsimp only
      rw [if_pos (by simp [hd, hall]), hfold]
      simp [show ((m.toNat : Nat) : Int) = m by omega, hlo, hhi]

/-- What the server reads as an integer is a 64-bit integer. -/
theorem readInteger_bounds {v : String} {n : Int} (h : readInteger v = some n) :
    -9223372036854775808 ≤ n ∧ n ≤ 9223372036854775807 := by
  unfold readInteger at h
  obtain ⟨m, _, hm⟩ := Option.bind_eq_some_iff.mp h
  split at hm
  · cases hm
    assumption
  · cases hm

/-- The integer `INCR` finds under a key: 0 when no value lives there, none when the live value
is not an integer. -/
def integerAt (s : Server) (now : Instant) (key : String) : Option Int :=
  match s.lookup now key with
  | some c => readInteger c.value
  | none => some 0

theorem integerAt_bounds {s : Server} {now : Instant} {key : String} {n : Int}
    (h : s.integerAt now key = some n) :
    -9223372036854775808 ≤ n ∧ n ≤ 9223372036854775807 := by
  unfold integerAt at h
  split at h
  · exact readInteger_bounds h
  · cases h
    decide

/-- The integers found under keys other than the one written are the ones found before. -/
theorem integerAt_write_of_ne (s : Server) (now : Instant) {key k : String} (c : Cell)
    (hk : key ≠ k) : (s.write key c).integerAt now k = s.integerAt now k := by
  unfold integerAt
  rw [lookup_write, if_neg hk]

/-- A value found is alive. -/
theorem alive_of_lookup {s : Server} {now : Instant} {key : String} {c : Cell}
    (h : s.lookup now key = some c) : c.alive now = true := by
  unfold lookup at h
  split at h
  · split at h
    · cases h
      assumption
    · cases h
  · cases h

/-- `INCR` on a server that answers it, under a key holding an integer below `2^63 - 1`: it
answers the integer plus one and stores that, keeping the expiry. -/
theorem incr_of_integerAt {s : Server} {now : Instant} {key : String} {n : Int}
    (hup : ∀ o, s.outage = some o → o.covers "INCR" = false)
    (hn : s.integerAt now key = some n) (hmax : n < 9223372036854775807) :
    ∃ c, s.incr now key = (.ok (n + 1), s.write key c) ∧
      (s.write key c).integerAt now key = some (n + 1) := by
  have hlo := (integerAt_bounds hn).1
  have hread := readInteger_toString (m := n + 1) (by omega) (by omega)
  have hrun : ∀ r : Server → Except String Int × Server, s.command "INCR" r = r s := by
    intro r
    unfold command
    cases hout : s.outage with
    | none => rfl
    | some o => simp [hup o hout]
  unfold integerAt at hn
  unfold incr
  rw [hrun]
  cases hlook : s.lookup now key with
  | none =>
    rw [hlook] at hn
    cases hn
    refine ⟨⟨toString (0 + 1), none⟩, rfl, ?_⟩
    unfold integerAt
    rw [lookup_write, if_pos rfl]
    exact hread
  | some c =>
    rw [hlook] at hn
    refine ⟨⟨toString (n + 1), c.expiresAt⟩, ?_, ?_⟩
    · simp [hn, show n ≠ 9223372036854775807 by omega]
    · have halive := alive_of_lookup hlook
      unfold integerAt
      rw [lookup_write, if_pos rfl, if_pos (by simpa [Cell.alive] using halive)]
      exact hread

/-- A command runs, or fails with the server as it was. -/
theorem command_cases {α : Type} (s : Server) (name : String)
    (run : Server → Except String α × Server) :
    s.command name run = run s ∨ ∃ m, s.command name run = (.error m, s) := by
  unfold Server.command
  split
  · split
    · exact Or.inr ⟨_, rfl⟩
    · exact Or.inl rfl
  · exact Or.inl rfl

/-- `INCR` either leaves the server as it was or writes under its key. -/
theorem incr_snd (s : Server) (now : Instant) (key : String) :
    (s.incr now key).2 = s ∨ ∃ c, (s.incr now key).2 = s.write key c := by
  unfold incr
  rcases command_cases s "INCR" _ with h | ⟨m, h⟩ <;> rw [h]
  · dsimp only
    split
    · exact .inl rfl
    · split
      · exact .inl rfl
      · exact .inr ⟨_, rfl⟩
  · exact .inl rfl

/-- `INCR` writes under its key only, and leaves the failure the server shows. -/
theorem incr_frame (s : Server) (now : Instant) (key : String) :
    (∀ k, key ≠ k → (s.incr now key).2.integerAt now k = s.integerAt now k) ∧
      (s.incr now key).2.outage = s.outage := by
  rcases incr_snd s now key with h | ⟨c, h⟩ <;> rw [h]
  · exact ⟨fun _ _ => rfl, rfl⟩
  · exact ⟨fun k hk => integerAt_write_of_ne s now c hk, outage_write s key c⟩

end Server

end KeyValue

namespace Gateway

open KeyValue Directory Quota

/-- An offset below the greatest is raised by one exactly. -/
theorem toInt_succ_of_lt {x : Int64} (hmax : x.toInt < 9223372036854775807) :
    (x + 1).toInt = x.toInt + 1 := by
  have hmin := x.le_toInt
  rw [Int64.toInt_add, Int64.toInt_one]
  exact Int.bmod_eq_of_le (by omega) (by omega)

/-- Two 64-bit integers with the same decimal text are equal: the server reads the text back. -/
theorem eq_of_toString_toInt {a b : Int64} (h : toString a.toInt = toString b.toInt) : a = b := by
  have hread := congrArg Server.readInteger h
  rw [Server.readInteger_toString a.le_toInt (by have := a.toInt_lt; omega),
    Server.readInteger_toString b.le_toInt (by have := b.toInt_lt; omega)] at hread
  exact Int64.toInt_inj.mp (Option.some.inj hread)

/-- A key made of a fixed prefix and an id's decimal text names one id. -/
theorem eq_of_prefixed_key {p : String} {a b : Int64}
    (h : p ++ toString a.toInt = p ++ toString b.toInt) : a = b := by
  have hl := congrArg String.toList h
  simp only [String.toList_append] at hl
  exact eq_of_toString_toInt (String.toList_inj.mp (List.append_cancel_left hl))

/-- Two routers never share an offset key: the id is read back from the key's decimal tail. -/
theorem offsetKey_inj {a b : Int64} (h : offsetKey a = offsetKey b) : a = b :=
  eq_of_prefixed_key h

/-- The offset router `R`'s rotation resumes from, as its store holds it: 0 when the store
holds nothing for `R`, or is broken. -/
def Setup.storedOffset (g : Setup) (R : Int64) (w : World) : Int :=
  match g.offsets, w.directory with
  | .directory, .catalog c => (c.offset R).toInt
  | .directory, .tables db =>
    ((db.tables.bind fun t => t.routers.find? (·.id == R)).map (·.offset.toInt)).getD 0
  | .memory, _ => (((w.offsets.find? (·.1 == R)).map Prod.snd).getD 0).toInt
  | .broken, _ => 0
  | .remote, _ => (w.remote.server.integerAt w.now (offsetKey R)).getD 0

/-- The offset store answers every advance of router `R`: the in-memory table always; the
directory when it is the in-memory catalog; the key-value server when the call goes out in
time on an open client, no failure covers `INCR`, and the value under `R`'s key, if any, is an
integer. -/
def Setup.OffsetsAnswer (g : Setup) (R : Int64) (w : World) : Prop :=
  match g.offsets with
  | .directory => ∃ c, w.directory = .catalog c
  | .memory => True
  | .broken => False
  | .remote =>
    g.expired = false ∧ w.remote.closed = false ∧
      (∀ o, w.remote.server.outage = some o → o.covers "INCR" = false) ∧
      (w.remote.server.integerAt w.now (offsetKey R)).isSome

@[simp] theorem storedOffset_crashed (g : Setup) (R : Int64) (w : World) (c : Option String)
    (d : Nat) : g.storedOffset R { w with crashed := c, draws := d } = g.storedOffset R w := rfl

@[simp] theorem offsetsAnswer_crashed (g : Setup) (R : Int64) (w : World) (c : Option String) :
    g.OffsetsAnswer R { w with crashed := c } ↔ g.OffsetsAnswer R w := Iff.rfl

/-- A stored offset is a 64-bit integer. -/
theorem storedOffset_bounds (g : Setup) (R : Int64) (w : World) :
    -9223372036854775808 ≤ g.storedOffset R w ∧ g.storedOffset R w ≤ 9223372036854775807 := by
  have hint64 : ∀ x : Int64, -9223372036854775808 ≤ x.toInt ∧ x.toInt ≤ 9223372036854775807 :=
    fun x => ⟨x.le_toInt, by have := x.toInt_lt; omega⟩
  unfold Setup.storedOffset
  split
  · exact hint64 _
  · rename_i db _ _
    cases db.tables.bind fun t => t.routers.find? (·.id == R) with
    | none => decide
    | some row => exact hint64 row.offset
  · exact hint64 _
  · decide
  · cases hint : w.remote.server.integerAt w.now (offsetKey R) with
    | none => decide
    | some n => exact Server.integerAt_bounds hint

/-- A call to `INCR` leaves the client as it was when it does not go out, and otherwise holds
the server the command leaves. -/
theorem remoteCall_incr_snd (expired : Bool) (what : String) (c : Connection) (now : Instant)
    (key : String) :
    (remoteCall expired what c (·.incr now key)).2 =
      if expired || c.closed then c else { c with server := (c.server.incr now key).2 } := by
  rcases c with ⟨server, closed⟩
  unfold remoteCall Connection.incr Connection.call
  cases expired <;> cases closed
  · dsimp only
    rcases server.incr now key with ⟨_ | _, _⟩ <;> rfl
  all_goals rfl

/-- Advancing an offset changes only the stores of offsets. -/
theorem nextOffset_crashed_snd (g : Setup) (id : Int64) (w : World) (c : Option String) :
    (g.nextOffset id { w with crashed := c }).2 = { (g.nextOffset id w).2 with crashed := c } := by
  unfold Setup.nextOffset
  cases g.offsets with
  | remote =>
    dsimp only
    rcases remoteCall g.expired _ w.remote _ with ⟨_ | _, _⟩ <;> rfl
  | _ => rfl

@[simp] theorem nextOffset_now (g : Setup) (id : Int64) (w : World) :
    (g.nextOffset id w).2.now = w.now := by
  unfold Setup.nextOffset
  cases g.offsets with
  | remote =>
    dsimp only
    split <;> rfl
  | _ => rfl

/-- Advancing an offset leaves the routers of a directory that stores offsets in memory. -/
theorem nextOffset_router {g : Setup} {R : Int64} {w : World} (hA : g.OffsetsAnswer R w)
    (id j : Int64) : (g.nextOffset id w).2.directory.router j = w.directory.router j := by
  unfold Setup.nextOffset
  unfold Setup.OffsetsAnswer at hA
  cases hoff : g.offsets with
  | directory =>
    rw [hoff] at hA
    obtain ⟨c, hc⟩ := hA
    simp [hc, Backend.nextOffset, Backend.router]
  | remote =>
    dsimp only
    split <;> rfl
  | _ => rfl

/-- Asking a store that answers for the next offset of a router the directory has: the stored
offset comes back, and one more is stored, while it is below `2^63 - 1`. -/
theorem nextOffset_self {g : Setup} {R : Int64} {w : World} {r : Router}
    (hA : g.OffsetsAnswer R w) (hr : w.directory.router R = .ok r)
    (hmax : g.storedOffset R w < 9223372036854775807) :
    (g.nextOffset R w).1 = .ok (Int64.ofInt (g.storedOffset R w)) ∧
      g.storedOffset R (g.nextOffset R w).2 = g.storedOffset R w + 1 ∧
      g.OffsetsAnswer R (g.nextOffset R w).2 := by
  unfold Setup.OffsetsAnswer at hA ⊢
  unfold Setup.storedOffset at hmax ⊢
  unfold Setup.nextOffset
  cases hoff : g.offsets with
  | directory =>
    rw [hoff] at hA hmax
    obtain ⟨c, hc⟩ := hA
    rw [hc] at hr hmax
    have hcr : c.router R = .ok r := hr
    simp only [hc, Backend.nextOffset]
    have hnext := Catalog.offset_nextOffset hcr R
    rw [if_pos rfl] at hnext
    refine ⟨?_, ?_, ⟨_, rfl⟩⟩
    · simp [Catalog.nextOffset, hcr]
    · rw [hnext]
      exact toInt_succ_of_lt hmax
  | memory =>
    rw [hoff] at hmax
    refine ⟨by simp, ?_, trivial⟩
    dsimp only
    rw [find?_upsert_fst, if_pos rfl]
    exact toInt_succ_of_lt hmax
  | broken =>
    rw [hoff] at hA
    exact hA.elim
  | remote =>
    rw [hoff] at hA hmax
    obtain ⟨hexp, hopen, hup, hint⟩ := hA
    obtain ⟨n, hn⟩ := Option.isSome_iff_exists.mp hint
    rw [hn] at hmax
    obtain ⟨cell, hincr, hafter⟩ := Server.incr_of_integerAt hup hn hmax
    have hcall : remoteCall g.expired ("advance offset of router " ++ toString R.toInt) w.remote
        (·.incr w.now (offsetKey R)) =
          (.ok (n + 1), { w.remote with server := w.remote.server.write (offsetKey R) cell }) := by
      rcases hw : w.remote with ⟨server, closed⟩
      rw [hw] at hopen hincr
      cases hopen
      simp [remoteCall, Connection.incr, Connection.call, hexp, hincr]
    simp only [hcall, hn]
    refine ⟨by simp, by simp [hafter], hexp, hopen, by simpa using hup, by simp [hafter]⟩
/-- On the key-value server, asking for an offset leaves the world as the `INCR` call leaves
the client, whatever it answers. -/
theorem nextOffset_remote_snd {g : Setup} (hoff : g.offsets = .remote) (id : Int64) (w : World) :
    (g.nextOffset id w).2 = { w with remote := (remoteCall g.expired
      ("advance offset of router " ++ toString id.toInt) w.remote
      (·.incr w.now (offsetKey id))).2 } := by
  unfold Setup.nextOffset
  rw [hoff]
  dsimp only
  rcases remoteCall g.expired _ w.remote _ with ⟨_ | _, _⟩ <;> rfl

/-- Asking for another router's next offset leaves `R`'s offset, and whether its store
answers, as they were. -/
theorem nextOffset_other {g : Setup} {R : Int64} {w : World} (hA : g.OffsetsAnswer R w)
    {id : Int64} (hne : id ≠ R) :
    g.storedOffset R (g.nextOffset id w).2 = g.storedOffset R w ∧
      g.OffsetsAnswer R (g.nextOffset id w).2 := by
  cases hoff : g.offsets with
  | directory =>
    unfold Setup.OffsetsAnswer at hA ⊢
    unfold Setup.storedOffset Setup.nextOffset
    rw [hoff] at hA ⊢
    obtain ⟨c, hc⟩ := hA
    simp only [hc, Backend.nextOffset]
    refine ⟨?_, ⟨_, rfl⟩⟩
    cases hid : c.router id with
    | error f => simp [Catalog.nextOffset, hid]
    | ok r' => simp [Catalog.offset_nextOffset hid R, hne]
  | memory =>
    unfold Setup.OffsetsAnswer Setup.storedOffset Setup.nextOffset
    rw [hoff]
    refine ⟨?_, trivial⟩
    dsimp only
    rw [find?_upsert_fst, if_neg hne]
  | broken =>
    unfold Setup.OffsetsAnswer at hA
    rw [hoff] at hA
    exact hA.elim
  | remote =>
    unfold Setup.OffsetsAnswer at hA ⊢
    unfold Setup.storedOffset
    rw [hoff] at hA ⊢
    obtain ⟨hexp, hopen, hup, hint⟩ := hA
    have hkey : offsetKey id ≠ offsetKey R := fun h => hne (offsetKey_inj h)
    obtain ⟨hframe, houtage⟩ := Server.incr_frame w.remote.server w.now (offsetKey id)
    rw [nextOffset_remote_snd hoff, remoteCall_incr_snd, hexp, hopen]
    simp only [Bool.or_self, Bool.false_eq_true, if_false]
    rw [hframe _ hkey]
    exact ⟨rfl, trivial, trivial, by rwa [houtage], hint⟩

end Gateway

end Admission
