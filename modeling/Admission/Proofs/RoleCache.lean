import Admission.Proofs.EntryCodec

/-!
# The role cache is transparent

With a role cache in front of the directory, a role's limits and permissions are answered from
the cache when it holds the role's entry, and otherwise from the directory, whose answer is then
cached. This module shows that a caller cannot tell the difference: over any run of lookups and
invalidations, each lookup answers what the directory answers.

The argument rests on one invariant, `Setup.Faithful`: every entry the cache holds, at any
instant, is the directory's current answer for its role. A hit then answers as the directory
does, and a miss asks the directory and stores its answer, which keeps the invariant. Three
facts about the parts make this work:

* the directory answers a role's limits and its permissions together: both succeed, or both
  fail with the same named conditions (`Backend.limits_permissions_agree`), so an entry is
  stored only when both queries succeed and a failure reads the same through the entry;
* two roles never share a cache key (`roleKey_inj`);
* on the key-value server the entry is kept as JSON text, which reads back as the entry when
  its texts are UTF-8 (`RoleEntry.decode_encode`).
-/

namespace Admission

/-- Two answers a caller cannot tell apart: equal values, or failures that carry the same
named conditions. -/
def SameAnswer {α : Type} : Except Fault α → Except Fault α → Prop
  | .ok a, .ok b => a = b
  | .error f, .error f' => ∀ s, f.has s = f'.has s
  | _, _ => False

theorem SameAnswer.refl {α : Type} (r : Except Fault α) : SameAnswer r r := by
  cases r <;> simp [SameAnswer]

section Keyed

variable {β : Type}

/-- Dropping the entries under one key leaves the search for another key as it was. -/
theorem find?_filter_other (xs : List (String × β)) {key k : String} (hk : key ≠ k) :
    (xs.filter (fun kx => kx.1 != key)).find? (fun kx => kx.1 == k) =
      xs.find? (fun kx => kx.1 == k) := by
  rw [List.find?_filter]
  congr 1
  funext kx
  by_cases h : kx.1 = k
  · simp [h, Ne.symm hk]
  · simp [h]

theorem find?_filter_self (xs : List (String × β)) (key : String) :
    (xs.filter (fun kx => kx.1 != key)).find? (fun kx => kx.1 == key) = none := by
  rw [List.find?_eq_none]
  intro kx hkx
  simp only [List.mem_filter, bne_iff_ne, ne_eq] at hkx
  simpa using hkx.2

end Keyed

namespace Directory

theorem MemoryCache.get_set (c : MemoryCache) (now t : Instant) (key k : String)
    (e : Option RoleEntry) (ttl : Span) :
    (c.set now key e ttl).get t k =
      if key = k then (if now.add ttl < t then none else some e) else c.get t k := by
  by_cases hk : key = k
  · subst hk
    simp [MemoryCache.get, MemoryCache.set]
  · simp [MemoryCache.get, MemoryCache.set, hk, find?_filter_other c.slots hk]

theorem MemoryCache.get_delete (c : MemoryCache) (t : Instant) (key k : String) :
    (c.delete key).get t k = if key = k then none else c.get t k := by
  by_cases hk : key = k
  · subst hk
    simp only [MemoryCache.get, MemoryCache.delete, find?_filter_self, Option.map_none, if_pos]
  · simp [MemoryCache.get, MemoryCache.delete, hk, find?_filter_other c.slots hk]

/-- The directory answers a role's limits and its permissions together: both succeed, or both
fail carrying the same named conditions. The catalog reads both from the one role record; the
database refuses both alike, and finds the role for both or for neither. -/
theorem Backend.limits_permissions_agree (d : Backend) (role : Int64) :
    (∃ ls ps, d.limits role = .ok ls ∧ d.permissions role = .ok ps) ∨
      ∃ f f', d.limits role = .error f ∧ d.permissions role = .error f' ∧
        ∀ s, f.has s = f'.has s := by
  cases d with
  | catalog c =>
    simp only [Backend.limits, Backend.permissions, Catalog.limits, Catalog.permissions]
    cases c.role role with
    | ok r => exact Or.inl ⟨_, _, rfl, rfl⟩
    | error f => exact Or.inr ⟨f, f, rfl, rfl, fun _ => rfl⟩
  | tables db =>
    simp only [Backend.limits, Backend.permissions, Database.limits, Database.permissions,
      Database.use]
    by_cases hclosed : db.closed = true
    · simp only [hclosed, if_true]
      exact Or.inr ⟨_, _, rfl, rfl, fun _ => rfl⟩
    · simp only [hclosed, Bool.false_eq_true, if_false]
      cases ht : db.tables with
      | none => exact Or.inr ⟨_, _, rfl, rfl, fun _ => rfl⟩
      | some t =>
        cases hf : t.roles.find? (·.id == role) with
        | none =>
          have hany : t.roles.any (·.id == role) = false := by
            rw [List.find?_eq_none] at hf
            simpa using hf
          refine Or.inr ⟨.sentinel .roleNotFound, .sentinel .roleNotFound, ?_, ?_, fun _ => rfl⟩
          · simp only [bind, Except.bind]
            rw [hany]
            rfl
          · simp only [bind, Except.bind]
            rw [hf]
        | some r =>
          have hany : t.roles.any (·.id == role) = true :=
            List.any_eq_true.mpr ⟨r, List.mem_of_find?_eq_some hf, by simpa using List.find?_some hf⟩
          refine Or.inl ⟨((t.limits.filter (·.role == role)).map (·.limit)).foldr
            Tables.insertByRouter [], r.permissions, ?_, ?_⟩
          · simp only [bind, Except.bind]
            rw [hany]
            rfl
          · simp only [bind, Except.bind]
            rw [hf]

end Directory

namespace KeyValue

theorem Server.lookup_remove (s : Server) (now : Instant) (key k : String) :
    (s.remove key).lookup now k = if key = k then none else s.lookup now k := by
  by_cases hk : key = k
  · subst hk
    simp only [Server.lookup, Server.remove, find?_filter_self, if_pos]
  · simp [Server.lookup, Server.remove, hk, find?_filter_other s.cells hk]

/-- A `SET` or `SETNX` keeps the server, or writes a cell holding the value under the key. -/
theorem Server.set_snd (s : Server) (name : String) (now : Instant) (key v : String)
    (mode : SetMode) :
    (s.set name now key v mode).2 = s ∨
      ∃ cell : Cell, cell.value = v ∧ (s.set name now key v mode).2 = s.write key cell := by
  unfold Server.set
  rcases Server.command_cases s name _ with h | ⟨m, h⟩
  · rw [h]
    dsimp only
    split
    · split_ifs
      · exact Or.inl rfl
      · exact Or.inl rfl
      · exact Or.inr ⟨_, rfl, rfl⟩
    · split_ifs
      · exact Or.inl rfl
      · exact Or.inr ⟨_, rfl, rfl⟩
      · exact Or.inr ⟨_, rfl, rfl⟩
  · rw [h]
    exact Or.inl rfl

/-- A `GET` leaves the server as it was, and a value it returns is a live cell's. -/
theorem Connection.get_spec (c : Connection) (now : Instant) (key : String) :
    (c.get now key).2.server = c.server ∧
      ∀ v, (c.get now key).1 = .ok (some v) →
        ∃ cell, c.server.lookup now key = some cell ∧ cell.value = v := by
  unfold Connection.get Connection.call Server.get Server.command
  by_cases hclosed : c.closed = true
  · simp [hclosed]
  · simp only [hclosed, Bool.false_eq_true, if_false]
    cases ho : c.server.outage with
    | none => simp
    | some o =>
      by_cases hcov : o.covers "GET" = true
      · simp [hcov]
      · simp [hcov]

/-- A `SET` leaves the server as it was, or writes a cell holding the value under the key. -/
theorem Connection.set_server (c : Connection) (now : Instant) (key v : String) (ttl : Span) :
    (c.set now key v ttl).2.server = c.server ∨
      ∃ cell : Cell, cell.value = v ∧ (c.set now key v ttl).2.server = c.server.write key cell := by
  unfold Connection.set Connection.call
  by_cases hclosed : c.closed = true
  · simp [hclosed]
  · simp only [hclosed, Bool.false_eq_true, if_false]
    rcases Server.set_snd c.server "SET" now key v
      (if 0 < ttl then ⟨false, some (wholeMs ttl), false⟩ else ⟨false, none, ttl == -1⟩) with
      h | h <;> split <;> simp_all

/-- A `DEL` of one key removes it when it succeeds, and leaves the server as it was when it
fails. -/
theorem Connection.del_one (c : Connection) (now : Instant) (key : String) :
    (∃ n, (c.del now [key]).1 = .ok n ∧ (c.del now [key]).2.server = c.server.remove key) ∨
      (∃ f, (c.del now [key]).1 = .error f ∧ (c.del now [key]).2.server = c.server) := by
  unfold Connection.del Connection.call Server.del
  by_cases hclosed : c.closed = true
  · simp [hclosed]
  · simp only [hclosed, Bool.false_eq_true, if_false]
    rcases Server.command_cases c.server "DEL" _ with h | ⟨m, h⟩
    · rw [h]
      simp
    · rw [h]
      simp

end KeyValue

namespace Gateway

open KeyValue Directory

/-- Two roles never share a cache key. -/
theorem roleKey_inj {a b : Int64} (h : roleKey a = roleKey b) : a = b :=
  eq_of_prefixed_key h

theorem freshEntry_of_ok {d : Backend} {role : Int64} {ls : List Limit} {ps : List String}
    (hl : d.limits role = .ok ls) (hp : d.permissions role = .ok ps) :
    freshEntry d role = .ok ⟨some ls, some ps⟩ := by
  simp only [freshEntry, hl, hp]
  rfl

theorem freshEntry_of_error {d : Backend} {role : Int64} {f : Fault}
    (hl : d.limits role = .error f) : freshEntry d role = .error f := by
  simp only [freshEntry, hl]
  rfl

/-- A role's entry as the directory makes it answers the role's limits as the directory
does. -/
theorem freshEntry_limits (d : Backend) (role : Int64) :
    SameAnswer ((freshEntry d role).map (·.limits.getD [])) (d.limits role) := by
  rcases Backend.limits_permissions_agree d role with ⟨ls, ps, hl, hp⟩ | ⟨f, f', hl, hp, -⟩
  · rw [freshEntry_of_ok hl hp, hl]
    exact rfl
  · rw [freshEntry_of_error hl, hl]
    exact fun _ => rfl

/-- A role's entry as the directory makes it answers the role's permissions as the directory
does: when the limits query fails first, its failure carries the conditions the permissions
query's would. -/
theorem freshEntry_permissions (d : Backend) (role : Int64) :
    SameAnswer ((freshEntry d role).map (·.permissions.getD [])) (d.permissions role) := by
  rcases Backend.limits_permissions_agree d role with ⟨ls, ps, hl, hp⟩ | ⟨f, f', hl, hp, hhas⟩
  · rw [freshEntry_of_ok hl hp, hp]
    exact rfl
  · rw [freshEntry_of_error hl, hp]
    exact hhas

/-- Every role's entry in the directory has UTF-8 texts. -/
def EntriesWellFormed (d : Backend) : Prop :=
  ∀ role e, freshEntry d role = .ok e → e.textsWellFormed = true

/-- The entry the role cache holds under a key at an instant, read as a lookup at that instant
reads it. -/
def Setup.stored (g : Setup) (w : World) (t : Instant) (key : String) : Option RoleEntry :=
  match g.roleCache with
  | none => none
  | some (.memory, _) => (w.cache.get t key).map (·.getD RoleEntry.zero)
  | some (.remote, _) =>
    (w.remote.server.lookup t key).bind fun c =>
      (Json.parse c.value).bind (RoleEntry.reader · RoleEntry.zero)

/-- Every entry the role cache holds, at any instant, is the directory's answer for its role. -/
def Setup.Faithful (g : Setup) (w : World) : Prop :=
  ∀ t role e, g.stored w t (roleKey role) = some e → freshEntry w.directory role = .ok e

/-- What a call may leave in the cache that was not there before: the directory's entry for
`role`, under `role`'s key. -/
def Setup.OnlyAdds (g : Setup) (role : Int64) (d : Backend) (w w' : World) : Prop :=
  ∀ t k e, g.stored w' t k = some e →
    (k = roleKey role ∧ freshEntry d role = .ok e) ∨ g.stored w t k = some e

/-- A call that keeps the directory and adds only the directory's entry keeps the cache
faithful. -/
theorem Setup.Faithful.of_onlyAdds {g : Setup} {w w' : World} {role : Int64}
    (hF : g.Faithful w) (hdir : w'.directory = w.directory)
    (hadd : g.OnlyAdds role w.directory w w') : g.Faithful w' := by
  intro t role' e he
  rw [hdir]
  rcases hadd t _ e he with ⟨hkey, hfresh⟩ | hold
  · rwa [roleKey_inj hkey]
  · exact hF t role' e hold

/-- A cache that holds nothing under `role`'s key at any instant. -/
def Setup.Cleared (g : Setup) (role : Int64) (w : World) : Prop :=
  ∀ t, g.stored w t (roleKey role) = none

/-- A call that adds only another role's entry keeps `role`'s key empty. -/
theorem Setup.Cleared.of_onlyAdds {g : Setup} {w w' : World} {role other : Int64}
    {d : Backend} (hclear : g.Cleared role w) (hne : other ≠ role)
    (hadd : g.OnlyAdds other d w w') : g.Cleared role w' := by
  intro t
  cases he : g.stored w' t (roleKey role) with
  | none => rfl
  | some e =>
    rcases hadd t _ e he with ⟨hkey, -⟩ | hold
    · exact absurd (roleKey_inj hkey).symm hne
    · rw [hclear t] at hold
      cases hold

/-- A call that only drops entries keeps every key that was empty empty. -/
theorem Setup.Cleared.of_drops {g : Setup} {w w' : World} {role : Int64}
    (hclear : g.Cleared role w)
    (hdrop : ∀ t k e, g.stored w' t k = some e → g.stored w t k = some e) :
    g.Cleared role w' := by
  intro t
  cases he : g.stored w' t (roleKey role) with
  | none => rfl
  | some e =>
    have hold := hdrop t _ e he
    rw [hclear t] at hold
    cases hold

/-- A cache lookup leaves the directory and what the cache holds, and a hit is an entry the
cache holds. -/
theorem cachedEntry_spec (g : Setup) (key : String) (w : World) :
    (g.cachedEntry key w).2.directory = w.directory ∧
      g.stored (g.cachedEntry key w).2 = g.stored w ∧
      ∀ e, (g.cachedEntry key w).1 = some e → ∃ t, g.stored w t key = some e := by
  unfold Setup.cachedEntry
  cases hc : g.roleCache with
  | none => simp
  | some choice =>
    obtain ⟨choice, ttl⟩ := choice
    cases choice with
    | memory =>
      refine ⟨rfl, ?_, fun e he => ⟨w.wall, ?_⟩⟩
      · funext t k
        simp [Setup.stored, hc, World.tick]
      · simpa [Setup.stored, hc, World.tick] using he
    | remote =>
      obtain ⟨hserver, hvalue⟩ := Connection.get_spec w.remote w.now key
      have hsame : ∀ c : Connection, c.server = w.remote.server →
          g.stored { w with remote := c } = g.stored w := by
        intro c hcs
        funext t k
        simp [Setup.stored, hc, hcs]
      rcases hget : w.remote.get w.now key with ⟨r, c⟩
      rw [hget] at hserver hvalue
      dsimp only at hserver hvalue
      rcases r with _ | _ | v
      · exact ⟨rfl, hsame c hserver, fun _ he => by cases he⟩
      · exact ⟨rfl, hsame c hserver, fun _ he => by cases he⟩
      · refine ⟨rfl, hsame c hserver, fun e he => ⟨w.now, ?_⟩⟩
        obtain ⟨cell, hcell, hv⟩ := hvalue v rfl
        simp only [Setup.stored, hc, hcell, Option.bind_some, hv]
        exact he

/-- Storing an entry leaves the directory, and the cache then holds that entry under its key
or what it held before; on the key-value server this needs the entry's texts to be UTF-8, so
that its JSON text reads back. -/
theorem storeEntry_spec (g : Setup) (key : String) {e : RoleEntry}
    (he : e.textsWellFormed = true) (w : World) :
    (g.storeEntry key e w).directory = w.directory ∧
      ∀ t k e', g.stored (g.storeEntry key e w) t k = some e' →
        (k = key ∧ e' = e) ∨ g.stored w t k = some e' := by
  unfold Setup.storeEntry
  cases hc : g.roleCache with
  | none => exact ⟨rfl, fun _ _ _ h => Or.inr h⟩
  | some choice =>
    obtain ⟨choice, ttl⟩ := choice
    cases choice with
    | memory =>
      refine ⟨rfl, fun t k e' h => ?_⟩
      simp only [Setup.stored, hc, World.tick, MemoryCache.get_set] at h ⊢
      by_cases hkey : key = k
      · rw [if_pos hkey] at h
        split_ifs at h
        · cases h
        · simp only [Option.map_some, Option.getD_some, Option.some.injEq] at h
          exact Or.inl ⟨hkey.symm, h.symm⟩
      · rw [if_neg hkey] at h
        exact Or.inr h
    | remote =>
      refine ⟨rfl, fun t k e' h => ?_⟩
      rcases Connection.set_server w.remote w.now key (Json.render e.toJson) ttl with
        hs | ⟨cell, hv, hs⟩
      · simp only [Setup.stored, hc, hs] at h ⊢
        exact Or.inr h
      · simp only [Setup.stored, hc, hs, Server.lookup_write] at h ⊢
        by_cases hkey : key = k
        · rw [if_pos hkey] at h
          split_ifs at h
          · rw [Option.bind_some, hv, RoleEntry.decode_encode e he] at h
            exact Or.inl ⟨hkey.symm, (Option.some.inj h).symm⟩
          · cases h
        · rw [if_neg hkey] at h
          exact Or.inr h

/-- Invalidating a role leaves the directory and only drops entries; when it succeeds, nothing
is left under the role's key. -/
theorem invalidate_spec {g : Setup} {inv : Int64 → World → Except Fault Unit × World}
    (hinv : g.invalidate = some inv) (role : Int64) (w : World) :
    (inv role w).2.directory = w.directory ∧
      (∀ t k e, g.stored (inv role w).2 t k = some e → g.stored w t k = some e) ∧
      ((inv role w).1 = .ok () → g.Cleared role (inv role w).2) := by
  unfold Setup.invalidate at hinv
  cases hc : g.roleCache with
  | none => rw [hc] at hinv; cases hinv
  | some choice =>
    obtain ⟨choice, ttl⟩ := choice
    rw [hc] at hinv
    cases hinv
    cases choice with
    | memory =>
      dsimp only
      refine ⟨rfl, fun t k e h => ?_, fun _ t => ?_⟩
      · simp only [Setup.stored, hc, MemoryCache.get_delete] at h ⊢
        split_ifs at h
        · cases h
        · exact h
      · simp [Setup.stored, hc, MemoryCache.get_delete]
    | remote =>
      dsimp only
      have hcases := Connection.del_one w.remote w.now (roleKey role)
      rcases hdel : w.remote.del w.now [roleKey role] with ⟨r, c⟩
      rw [hdel] at hcases
      rcases hcases with ⟨n, hok, hs⟩ | ⟨f, herr, hs⟩
      · dsimp only at hok hs ⊢
        subst hok
        refine ⟨rfl, fun t k e h => ?_, fun _ t => ?_⟩
        · simp only [Setup.stored, hc, hs, Server.lookup_remove] at h ⊢
          split_ifs at h
          · cases h
          · exact h
        · simp [Setup.stored, hc, hs, Server.lookup_remove]
      · dsimp only at herr hs ⊢
        subst herr
        refine ⟨rfl, fun t k e h => ?_, fun hok => by cases hok⟩
        simpa [Setup.stored, hc, hs] using h

section Lookups

variable (g : Setup) (role : Int64) {w : World}

/-- Looking up a role's entry answers as the directory does, keeps the directory, adds at most
the directory's entry for the role, and adds nothing when it fails. -/
theorem roleEntry_spec (hF : g.Faithful w) (hwf : EntriesWellFormed w.directory) :
    (g.roleEntry role w).1 = freshEntry w.directory role ∧
      (g.roleEntry role w).2.directory = w.directory ∧
      g.OnlyAdds role w.directory w (g.roleEntry role w).2 ∧
      ∀ f, (g.roleEntry role w).1 = .error f → g.stored (g.roleEntry role w).2 = g.stored w := by
  obtain ⟨hdir, hst, hhit⟩ := cachedEntry_spec g (roleKey role) w
  unfold Setup.roleEntry
  dsimp only
  rcases hc : g.cachedEntry (roleKey role) w with ⟨_ | e, w1⟩
  all_goals rw [hc] at hdir hst hhit; dsimp only at hdir hst hhit ⊢
  · rw [hdir]
    cases hfresh : freshEntry w.directory role with
    | error f =>
      refine ⟨rfl, hdir, fun t k e h => Or.inr ?_, fun _ _ => hst⟩
      rwa [hst] at h
    | ok e =>
      obtain ⟨hdir', hadd⟩ := storeEntry_spec g (roleKey role) (hwf role e hfresh) w1
      refine ⟨rfl, hdir'.trans hdir, fun t k e' h => ?_, fun _ h => by cases h⟩
      rcases hadd t k e' h with ⟨hk, rfl⟩ | hold
      · exact Or.inl ⟨hk, hfresh⟩
      · exact Or.inr (by rwa [hst] at hold)
  · obtain ⟨t, ht⟩ := hhit e rfl
    refine ⟨(hF t role e ht).symm, hdir, fun t k e' h => Or.inr ?_, fun _ h => by cases h⟩
    rwa [hst] at h

/-- The same for one list of the entry: it answers as the directory's entry does, and a
failure adds nothing. -/
theorem roleEntry_map_spec {α : Type} (pick : RoleEntry → List α) (hF : g.Faithful w)
    (hwf : EntriesWellFormed w.directory) :
    (g.roleEntry role w).1.map pick = (freshEntry w.directory role).map pick ∧
      (g.roleEntry role w).2.directory = w.directory ∧
      g.OnlyAdds role w.directory w (g.roleEntry role w).2 ∧
      ∀ f, (g.roleEntry role w).1.map pick = .error f →
        g.stored (g.roleEntry role w).2 = g.stored w := by
  obtain ⟨hres, hdir, hadd, hfail⟩ := roleEntry_spec g role hF hwf
  refine ⟨by rw [hres], hdir, hadd, fun f hf => ?_⟩
  cases hr : (g.roleEntry role w).1 with
  | ok _ => rw [hr] at hf; cases hf
  | error f' => exact hfail f' hr

theorem limitsOf_spec (hF : g.Faithful w) (hwf : EntriesWellFormed w.directory) :
    SameAnswer (g.limitsOf role w).1 (w.directory.limits role) ∧
      (g.limitsOf role w).2.directory = w.directory ∧
      g.OnlyAdds role w.directory w (g.limitsOf role w).2 ∧
      ∀ f, (g.limitsOf role w).1 = .error f → g.stored (g.limitsOf role w).2 = g.stored w := by
  unfold Setup.limitsOf
  cases g.roleCache with
  | none => exact ⟨SameAnswer.refl _, rfl, fun _ _ _ h => Or.inr h, fun _ _ => rfl⟩
  | some _ =>
    obtain ⟨hres, hdir, hadd, hfail⟩ := roleEntry_map_spec g role (·.limits.getD []) hF hwf
    refine ⟨?_, hdir, hadd, hfail⟩
    show SameAnswer ((g.roleEntry role w).1.map _) _
    rw [hres]
    exact freshEntry_limits w.directory role

theorem permissionsOf_spec (hF : g.Faithful w) (hwf : EntriesWellFormed w.directory) :
    SameAnswer (g.permissionsOf role w).1 (w.directory.permissions role) ∧
      (g.permissionsOf role w).2.directory = w.directory ∧
      g.OnlyAdds role w.directory w (g.permissionsOf role w).2 ∧
      ∀ f, (g.permissionsOf role w).1 = .error f →
        g.stored (g.permissionsOf role w).2 = g.stored w := by
  unfold Setup.permissionsOf
  cases g.roleCache with
  | none => exact ⟨SameAnswer.refl _, rfl, fun _ _ _ h => Or.inr h, fun _ _ => rfl⟩
  | some _ =>
    obtain ⟨hres, hdir, hadd, hfail⟩ := roleEntry_map_spec g role (·.permissions.getD []) hF hwf
    refine ⟨?_, hdir, hadd, hfail⟩
    show SameAnswer ((g.roleEntry role w).1.map _) _
    rw [hres]
    exact freshEntry_permissions w.directory role

end Lookups

/-- A call a caller makes on the cached directory. -/
inductive RoleCall where
  /-- Looks up a role's limits. -/
  | limits (role : Int64)
  /-- Looks up a role's permissions. -/
  | permissions (role : Int64)
  /-- Drops a role's entry from the cache. -/
  | invalidate (role : Int64)
  deriving DecidableEq, Repr

/-- The role a call is about. -/
def RoleCall.role : RoleCall → Int64
  | .limits r | .permissions r | .invalidate r => r

/-- Whether a call looks up `role`'s entry. -/
def RoleCall.looksUp (role : Int64) : RoleCall → Bool
  | .limits r | .permissions r => r == role
  | .invalidate _ => false

/-- The world after one call. -/
def Setup.roleCall (g : Setup) (call : RoleCall) (w : World) : World :=
  match call with
  | .limits role => (g.limitsOf role w).2
  | .permissions role => (g.permissionsOf role w).2
  | .invalidate role =>
    match g.invalidate with
    | some inv => (inv role w).2
    | none => w

/-- The world after a run of calls, in order. -/
def Setup.afterRoleCalls (g : Setup) (calls : List RoleCall) (w : World) : World :=
  calls.foldl (fun w call => g.roleCall call w) w

section Runs

variable (g : Setup) {w : World}

/-- One call keeps the directory and adds at most the directory's entry for its role. -/
theorem roleCall_spec (call : RoleCall) (hF : g.Faithful w)
    (hwf : EntriesWellFormed w.directory) :
    (g.roleCall call w).directory = w.directory ∧
      g.OnlyAdds call.role w.directory w (g.roleCall call w) := by
  cases call with
  | limits role => exact ⟨(limitsOf_spec g role hF hwf).2.1, (limitsOf_spec g role hF hwf).2.2.1⟩
  | permissions role =>
    exact ⟨(permissionsOf_spec g role hF hwf).2.1, (permissionsOf_spec g role hF hwf).2.2.1⟩
  | invalidate role =>
    unfold Setup.roleCall
    cases hinv : g.invalidate with
    | none => exact ⟨rfl, fun _ _ _ h => Or.inr h⟩
    | some inv =>
      obtain ⟨hdir, hdrop, -⟩ := invalidate_spec hinv role w
      exact ⟨hdir, fun t k e h => Or.inr (hdrop t k e h)⟩

/-- A run of calls keeps the directory and the cache faithful. -/
theorem afterRoleCalls_spec (calls : List RoleCall) (hF : g.Faithful w)
    (hwf : EntriesWellFormed w.directory) :
    (g.afterRoleCalls calls w).directory = w.directory ∧ g.Faithful (g.afterRoleCalls calls w) := by
  induction calls generalizing w with
  | nil => exact ⟨rfl, hF⟩
  | cons call calls ih =>
    obtain ⟨hdir, hadd⟩ := roleCall_spec g call hF hwf
    have hF' := hF.of_onlyAdds hdir hadd
    obtain ⟨hdir', hF''⟩ := ih hF' (hdir ▸ hwf)
    exact ⟨hdir'.trans hdir, hF''⟩

/-- Calls that do not look up `role` keep its key empty. -/
theorem afterRoleCalls_cleared {role : Int64} (calls : List RoleCall)
    (hcalls : ∀ c ∈ calls, c.looksUp role = false) (hF : g.Faithful w)
    (hwf : EntriesWellFormed w.directory) (hclear : g.Cleared role w) :
    g.Cleared role (g.afterRoleCalls calls w) := by
  induction calls generalizing w with
  | nil => exact hclear
  | cons call calls ih =>
    obtain ⟨hdir, hadd⟩ := roleCall_spec g call hF hwf
    have hclear' : g.Cleared role (g.roleCall call w) := by
      cases call with
      | invalidate r =>
        unfold Setup.roleCall
        cases hinv : g.invalidate with
        | none => exact hclear
        | some inv => exact hclear.of_drops (invalidate_spec hinv r w).2.1
      | limits r | permissions r =>
        have hne : r ≠ role := by simpa [RoleCall.looksUp] using hcalls _ List.mem_cons_self
        exact hclear.of_onlyAdds hne hadd
    exact ih (fun c hc => hcalls c (List.mem_cons_of_mem _ hc)) (hF.of_onlyAdds hdir hadd)
      (hdir ▸ hwf) hclear'

end Runs

/-- A lookup under a key that holds nothing misses. -/
theorem cachedEntry_of_cleared {g : Setup} {role : Int64} {w : World} (h : g.Cleared role w) :
    (g.cachedEntry (roleKey role) w).1 = none := by
  cases he : (g.cachedEntry (roleKey role) w).1 with
  | none => rfl
  | some e =>
    obtain ⟨t, ht⟩ := (cachedEntry_spec g (roleKey role) w).2.2 e he
    rw [h t] at ht
    cases ht

/-- What a caller sees of a cached directory at `w`: the directory is still `d`; each lookup
answers what `d` answers, the same lists in the same order or a failure carrying the same named
conditions; a failed lookup caches nothing; and after a successful invalidation of a role, its
next lookup goes to the directory, whatever calls on other roles come in between. -/
structure Setup.Transparent (g : Setup) (d : Backend) (w : World) : Prop where
  directory : w.directory = d
  limits : ∀ role, SameAnswer (g.limitsOf role w).1 (d.limits role)
  permissions : ∀ role, SameAnswer (g.permissionsOf role w).1 (d.permissions role)
  limitsFailure : ∀ role f, (g.limitsOf role w).1 = .error f →
    g.stored (g.limitsOf role w).2 = g.stored w
  permissionsFailure : ∀ role f, (g.permissionsOf role w).1 = .error f →
    g.stored (g.permissionsOf role w).2 = g.stored w
  invalidated : ∀ role inv, g.invalidate = some inv → (inv role w).1 = .ok () →
    ∀ later : List RoleCall, (∀ c ∈ later, c.looksUp role = false) →
      (g.cachedEntry (roleKey role) (g.afterRoleCalls later (inv role w).2)).1 = none

/-- A faithful cache in front of a directory whose entries have UTF-8 texts is transparent. -/
theorem Setup.Faithful.transparent {g : Setup} {w : World} (hF : g.Faithful w)
    (hwf : EntriesWellFormed w.directory) : g.Transparent w.directory w where
  directory := rfl
  limits role := (limitsOf_spec g role hF hwf).1
  permissions role := (permissionsOf_spec g role hF hwf).1
  limitsFailure role := (limitsOf_spec g role hF hwf).2.2.2
  permissionsFailure role := (permissionsOf_spec g role hF hwf).2.2.2
  invalidated role inv hinv hok later hlater := by
    obtain ⟨hdir, hdrop, hcleared⟩ := invalidate_spec hinv role w
    have hF' : g.Faithful (inv role w).2 :=
      @Setup.Faithful.of_onlyAdds _ _ _ role hF hdir fun t k e h => Or.inr (hdrop t k e h)
    exact cachedEntry_of_cleared
      (afterRoleCalls_cleared g later hlater hF' (hdir ▸ hwf) (hcleared hok))

/-- The role cache is transparent: from a faithful start, over any run of lookups and
invalidations, the cached directory answers every lookup as the directory does. -/
theorem role_cache_transparent (g : Setup) (w : World) (hF : g.Faithful w)
    (hwf : EntriesWellFormed w.directory) (calls : List RoleCall) :
    g.Transparent w.directory (g.afterRoleCalls calls w) := by
  obtain ⟨hdir, hF'⟩ := afterRoleCalls_spec g calls hF hwf
  have htransparent := hF'.transparent (hdir ▸ hwf)
  rwa [hdir] at htransparent

/-- A fresh world's caches hold nothing, so they are faithful to any directory. -/
theorem Setup.faithful_create (g : Setup) (start : Instant) (d : Backend) (ttl : Span) :
    g.Faithful (World.create start d ttl) := by
  intro t role e he
  unfold Setup.stored at he
  split at he <;>
    simp [World.create, MemoryCache.empty, MemoryCache.get, Connection.connect, Server.empty,
      Server.lookup] at he

/-- A catalog's entries have UTF-8 texts when its roles do. -/
theorem entriesWellFormed_catalog {c : Catalog}
    (h : ∀ r ∈ c.roles, (RoleEntry.mk (some r.limits) (some r.permissions)).textsWellFormed = true) :
    EntriesWellFormed (.catalog c) := by
  intro role e he
  cases hr : c.role role with
  | error f =>
    rw [freshEntry_of_error (f := f) (by rw [Backend.limits, Catalog.limits, hr]; rfl)] at he
    cases he
  | ok r =>
    rw [@freshEntry_of_ok _ _ r.limits r.permissions
      (by rw [Backend.limits, Catalog.limits, hr]; rfl)
      (by rw [Backend.permissions, Catalog.permissions, hr]; rfl)] at he
    cases he
    have hmem : r ∈ c.roles := by
      unfold Catalog.role at hr
      split at hr
      · rename_i r' hfind
        cases hr
        exact List.mem_of_find?_eq_some hfind
      · cases hr
    exact h r hmem

/-- A reader role looked up, invalidated and looked up again through a cache on the key-value
server. -/
theorem role_cache_transparent_on_key_value_store :
    let reader : Role := ⟨1, "reader", ["read"], [⟨7, LimitType.rpm, none⟩, ⟨7, LimitType.tpd, some 500⟩]⟩
    let g : Setup := {
      limiter := ⟨.sliding, "rl"⟩, master := 0, counters := .memory .truthful,
      failMessage := "store down", qosFallback := false, tracker := none,
      tuning := Tracker.Tuning.default, dispatcher := none, notifier := none, offsets := .memory,
      roleCache := some (.remote, Span.hour), usersFail := false, version := "", probes := [],
      admin := true, storeTimeout := 250 * Span.millisecond }
    let w := World.create 0 (.catalog (Catalog.ofLists [reader] [] [])) Span.hour
    g.Faithful w ∧ EntriesWellFormed w.directory ∧
      g.Transparent w.directory
        (g.afterRoleCalls [.limits 1, .permissions 1, .invalidate 1, .limits 2] w) := by
  dsimp only
  refine ⟨?faithful, ?entries, role_cache_transparent _ _ ?faithful ?entries _⟩
  · exact Setup.faithful_create _ _ _ _
  · apply entriesWellFormed_catalog
    simp [Catalog.ofLists, Catalog.putRole, Catalog.empty, upsert, RoleEntry.textsWellFormed,
      Text.Stray.isWellFormed_iff, LimitType.rpm, LimitType.tpd]
    decide

end Gateway

end Admission
