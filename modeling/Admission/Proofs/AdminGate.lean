import Mathlib
import Admission.Http.Api

/-!
# The administrative gate

The administrative routes, the reset of every quota counter and, with a role cache, the
invalidation of a cached role, run their action only for an administrator. The caller is named
by the `X-User-ID` header. It must be a 64-bit integer `id`; then the action runs, on the state
the lookups left, when `id` is the master user's and its lookup finds that user or finds no
user, or when the lookup finds a user whose role's permissions include `admin`. Every other
caller is refused before the action: 401 without a header, 400 for a header that is no 64-bit
integer, 404 for an unknown user other than the master, 403 for a user without `admin`, and
500 when the lookup of the user or of its permissions fails, for the master user as well.

The user repository is only asked to answer the user it is asked for (`LooksUpById`).

Main statements: the gate's decision procedure (`admin_gate_decision`) and the administrative
routes behind it (`admin_actions_need_admin`). Which requests reach those routes is read off the
path rules: a `POST` for `/admin/limits/reset`, and with a role cache one for
`/admin/roles/{id}/invalidate` with an id of letters and digits (`route_resetLimits`,
`route_invalidateRole`). The master user is refused when its lookup fails:
`master_refused_when_lookup_fails`.
-/

namespace Admission.Http

variable {σ : Type}

/-- Only a matched pattern's handler is handed a request. -/
theorem handle_of_match {α : Type} {mux : List (Pattern × α)} {found : Option (Pattern × α × List String)}
    {p : String} {h : α} {ps : List String}
    (hr : (match found with
      | some (_, h, ps) => Routed.handle h ps
      | none =>
        match allowedMethods mux p with
        | [] => .respond (Response.plainError 404 "404 page not found")
        | ms => .respond ((Response.plainError 405 "Method Not Allowed").withHeader "Allow"
          (", ".intercalate ms))) = .handle h ps) :
    ∃ pat, found = some (pat, h, ps) := by
  rcases found with _ | ⟨pat, h', ps'⟩
  · simp only at hr
    split at hr <;> cases hr
  · cases hr
    exact ⟨pat, rfl⟩

/-- A mux hands a request only to one of its own handlers. -/
theorem route_handle_mem {α : Type} {mux : List (Pattern × α)} {req : Request} {h : α}
    {ps : List String} (hr : route mux req = .handle h ps) : ∃ pat, (pat, h) ∈ mux := by
  unfold route at hr
  simp only at hr
  generalize (if (req.method == "CONNECT") = true then escapedPath req.path
    else cleanPath (escapedPath req.path)) = p at hr
  split_ifs at hr
  obtain ⟨pat, hfound⟩ := handle_of_match hr
  obtain ⟨⟨q, g⟩, hmem, hf⟩ := List.exists_of_findSome?_eq_some hfound
  by_cases hacc : q.accepts req.method = true
  · simp only [hacc, if_true] at hf
    obtain ⟨qs, -, heq⟩ := Option.map_eq_some_iff.mp hf
    cases heq
    exact ⟨_, hmem⟩
  · simp [hacc] at hf

/-- Without a role cache the administrative mux has no invalidation route. -/
theorem adminRoutes_no_invalidate {req : Request} {ps : List String} :
    route (adminRoutes false) req ≠ .handle .invalidateRole ps := by
  intro hr
  obtain ⟨pat, hmem⟩ := route_handle_mem hr
  simp [adminRoutes] at hmem

/-- The segments of a path are its characters after the first, split at each `/`. -/
theorem pathSegments_eq (p : String) :
    pathSegments p = ((p.toList.drop 1).splitOnP (· == '/')).map String.ofList := by
  rw [pathSegments, String.splitToList_of_valid, String.Slice.toString_eq, String.toList_copy_drop]

theorem splitOnP_slash_intercalate {segs : List String} (hne : segs ≠ [])
    (hslash : ∀ s ∈ segs, '/' ∉ s.toList) :
    (("/".intercalate segs).toList.splitOnP (· == '/')).map String.ofList = segs := by
  induction segs with
  | nil => exact absurd rfl hne
  | cons a l ih =>
    cases l with
    | nil =>
      rw [List.splitOnP_eq_singleton]
      · simp
      · intro c hc
        simp only [String.intercalate_singleton] at hc
        exact beq_false_of_ne fun h => hslash a (by simp) (h ▸ hc)
    | cons b l =>
      rw [String.intercalate_cons_cons, String.toList_append, String.toList_append,
        List.append_assoc, show ("/" : String).toList = ['/'] from rfl, List.singleton_append,
        List.splitOnP_append_cons_of_forall_mem _ '/' rfl, List.map_cons, String.ofList_toList,
        ih (by simp) (fun s hs => hslash s (List.mem_cons_of_mem _ hs))]
      intro c hc
      exact beq_false_of_ne fun h => hslash a (by simp) (h ▸ hc)

theorem mem_intercalate_slash {segs : List String} {c : Char}
    (hc : c ∈ ("/".intercalate segs).toList) : c = '/' ∨ ∃ s ∈ segs, c ∈ s.toList := by
  induction segs with
  | nil => simp at hc
  | cons a l ih =>
    cases l with
    | nil => exact .inr ⟨a, by simp, by simpa using hc⟩
    | cons b l =>
      rw [String.intercalate_cons_cons, String.toList_append, String.toList_append,
        List.mem_append, List.mem_append] at hc
      rcases hc with (ha | hslash) | hrest
      · exact .inr ⟨a, by simp, ha⟩
      · exact .inl (by simpa using hslash)
      · rcases ih hrest with h | ⟨s, hs, hcs⟩
        · exact .inl h
        · exact .inr ⟨s, List.mem_cons_of_mem _ hs, hcs⟩

/-- A path segment of letters and digits, which no rule of path cleaning or escaping touches. -/
def PlainSegment (s : String) : Prop := s ≠ "" ∧ ∀ c ∈ s.toList, c.isAlphanum = true

theorem PlainSegment.slash_not_mem {s : String} (h : PlainSegment s) : '/' ∉ s.toList :=
  fun hc => absurd (h.2 '/' hc) (by decide)

theorem PlainSegment.ne_dot {s : String} (h : PlainSegment s) : s ≠ "." := by
  rintro rfl
  exact absurd (h.2 '.' (by decide)) (by decide)

theorem PlainSegment.ne_dotdot {s : String} (h : PlainSegment s) : s ≠ ".." := by
  rintro rfl
  exact absurd (h.2 '.' (by decide)) (by decide)

theorem toNat_lt_of_isAlphanum {c : Char} (h : c.isAlphanum = true) : c.toNat < 0x80 := by
  simp only [Char.isAlphanum, Char.isAlpha, Char.isUpper, Char.isLower, Char.isDigit,
    Bool.or_eq_true, Bool.and_eq_true, decide_eq_true_eq] at h
  simp only [UInt32.le_iff_toNat_le] at h
  simp at h
  omega

theorem pathSafe_of_isAlphanum {c : Char} (h : c.isAlphanum = true) : pathSafe c.toNat = true := by
  simp [pathSafe, Char.ofNat_toNat, h, toNat_lt_of_isAlphanum h]

theorem pathSafe_slash : pathSafe '/'.toNat = true := by cbv

theorem cleanSegments_plain {segs : List String} (hplain : ∀ s ∈ segs, PlainSegment s)
    (acc : List String) : cleanSegments acc segs = acc.reverse ++ segs := by
  induction segs generalizing acc with
  | nil => simp [cleanSegments]
  | cons s segs ih =>
    have hs := hplain s (by simp)
    have hempty : s.isEmpty = false := by simpa [String.isEmpty_iff] using hs.1
    rw [cleanSegments, hempty, beq_false_of_ne hs.ne_dot, beq_false_of_ne hs.ne_dotdot,
      ih (fun t ht => hplain t (List.mem_cons_of_mem _ ht)) (s :: acc)]
    simp

theorem pathSegments_rooted {segs : List String} (hne : segs ≠ [])
    (hplain : ∀ s ∈ segs, PlainSegment s) :
    pathSegments ("/" ++ "/".intercalate segs) = segs := by
  rw [pathSegments_eq, String.toList_append, show ("/" : String).toList = ['/'] from rfl,
    List.singleton_append, List.drop_succ_cons, List.drop_zero]
  exact splitOnP_slash_intercalate hne fun s hs => (hplain s hs).slash_not_mem

/-- A rooted path of plain segments is clean already. -/
theorem cleanPath_rooted {segs : List String} (hne : segs ≠ [])
    (hplain : ∀ s ∈ segs, PlainSegment s) :
    cleanPath ("/" ++ "/".intercalate segs) = "/" ++ "/".intercalate segs := by
  have htoList : ("/" ++ "/".intercalate segs).toList = '/' :: ("/".intercalate segs).toList := by
    rw [String.toList_append]; rfl
  have hempty : ("/" ++ "/".intercalate segs).isEmpty = false := by
    rw [Bool.eq_false_iff, ne_eq, String.isEmpty_iff, ← String.toList_inj, htoList]
    simp
  have hstart : ("/" ++ "/".intercalate segs).startsWith "/" = true := by
    rw [String.startsWith_string_iff, htoList]
    exact ⟨_, rfl⟩
  have hend : ("/" ++ "/".intercalate segs).endsWith "/" = false := by
    rw [← String.endsWith_toSlice, String.Slice.endsWith_string_eq_false_iff, String.copy_toSlice,
      htoList]
    rintro ⟨t, ht⟩
    rw [show ("/" : String).toList = ['/'] from rfl] at ht
    have hsplit := splitOnP_slash_intercalate hne fun s hs => (hplain s hs).slash_not_mem
    have hlast : "" ∈ segs := by
      rw [← hsplit]
      rcases t with _ | ⟨a, t⟩
      · rw [List.nil_append] at ht
        rw [← (List.cons.inj ht).2]
        simp
      · rw [List.cons_append] at ht
        rw [← (List.cons.inj ht).2, List.splitOnP_append_cons t [] (by decide)]
        simp
    exact (hplain "" hlast).1 rfl
  rw [cleanPath, hempty, hstart]
  simp only [Bool.false_eq_true, if_false, if_true, hend, Bool.false_and,
    pathSegments_rooted hne hplain, cleanSegments_plain hplain]
  simp

/-- A rooted path of plain segments is a valid escaped path as it stands. -/
theorem validEncoded_rooted {segs : List String} (hplain : ∀ s ∈ segs, PlainSegment s) :
    validEncoded ("/" ++ "/".intercalate segs) = true := by
  rw [validEncoded, List.all_eq_true, String.toList_append]
  intro c hc
  rw [show ("/" : String).toList = ['/'] from rfl, List.singleton_append, List.mem_cons] at hc
  rcases hc with rfl | hc
  · exact Bool.or_eq_true_iff.mpr (.inl pathSafe_slash)
  · rcases mem_intercalate_slash hc with rfl | ⟨s, hs, hcs⟩
    · exact Bool.or_eq_true_iff.mpr (.inl pathSafe_slash)
    · exact Bool.or_eq_true_iff.mpr (.inl (pathSafe_of_isAlphanum ((hplain s hs).2 c hcs)))

/-- A request, other than `CONNECT` and the target `*`, for a path that is valid as sent and
clean goes to the handler of the first pattern that matches it, when that pattern is for its
path alone. -/
theorem route_of_clean {α : Type} {mux : List (Pattern × α)} {req : Request} {pat : Pattern}
    {h : α} {ps : List String} (ht : req.target ≠ "*") (hm : req.method ≠ "CONNECT")
    (hvalid : validEncoded req.path = true) (hclean : cleanPath req.path = req.path)
    (hfound : findRoute mux req.method req.path = some (pat, h, ps)) (hsub : pat.subtree = false) :
    route mux req = .handle h ps := by
  unfold route
  simp [escapedPath, hvalid, hclean, hm, ht, hfound, exactMatch, hsub]

theorem route_rooted {α : Type} {mux : List (Pattern × α)} {req : Request} {segs : List String}
    {pat : Pattern} {h : α} {ps : List String} (ht : req.target ≠ "*")
    (hm : req.method ≠ "CONNECT") (hne : segs ≠ []) (hplain : ∀ s ∈ segs, PlainSegment s)
    (hp : req.path = "/" ++ "/".intercalate segs)
    (hfound : findRoute mux req.method req.path = some (pat, h, ps)) (hsub : pat.subtree = false) :
    route mux req = .handle h ps := by
  refine route_of_clean ht hm ?_ ?_ hfound hsub
  · rw [hp]; exact validEncoded_rooted hplain
  · rw [hp]; exact cleanPath_rooted hne hplain

/-- The administrative mux hands every `POST` for `/admin/limits/reset` to the limits reset. -/
theorem route_resetLimits (roleCache : Bool) {req : Request} (ht : req.target ≠ "*")
    (hm : req.method = "POST") (hp : req.path = "/admin/limits/reset") :
    route (adminRoutes roleCache) req = .handle .resetLimits [] := by
  have hpath : "/admin/limits/reset" = "/" ++ "/".intercalate ["admin", "limits", "reset"] := by
    decide +kernel
  have hfound : findRoute (adminRoutes roleCache) req.method req.path =
      some (pattern (some "POST") ["admin", "limits", "reset"] false, .resetLimits, []) := by
    rw [hm, hp, hpath]
    cases roleCache <;> simp [findRoute, adminRoutes, Pattern.matchPath] <;> decide +kernel
  exact route_rooted ht (by rw [hm]; decide) (by simp) (by simp [PlainSegment]) (hp.trans hpath)
    hfound rfl

/-- With a role cache, the administrative mux hands every `POST` for
`/admin/roles/{id}/invalidate`, for an id of letters and digits, to the invalidation of that
role, with the id percent-decoded. -/
theorem route_invalidateRole {req : Request} {id : String} (ht : req.target ≠ "*")
    (hm : req.method = "POST") (hid : PlainSegment id)
    (hp : req.path = "/admin/roles/" ++ id ++ "/invalidate") :
    route (adminRoutes true) req = .handle .invalidateRole [unescape id] := by
  have hpath : "/admin/roles/" ++ id ++ "/invalidate" =
      "/" ++ "/".intercalate ["admin", "roles", id, "invalidate"] := by
    simp only [String.intercalate_cons_cons, String.intercalate_singleton, String.append_assoc]
    rw [show ("/admin/roles/" : String) = "/" ++ ("admin" ++ ("/" ++ ("roles" ++ "/"))) by simp,
      show ("/invalidate" : String) = "/" ++ "invalidate" by simp]
    simp only [String.append_assoc]
  have hplain : ∀ s ∈ ["admin", "roles", id, "invalidate"], PlainSegment s := by
    simp only [List.mem_cons, List.not_mem_nil, or_false, forall_eq_or_imp, forall_eq]
    exact ⟨by simp [PlainSegment], by simp [PlainSegment], hid, by simp [PlainSegment]⟩
  have hunescape : ∀ s, s = "admin" ∨ s = "roles" ∨ s = "invalidate" → unescape s = s := by
    rintro s (rfl | rfl | rfl) <;> decide +kernel
  have hfound : findRoute (adminRoutes true) req.method req.path =
      some (pattern (some "POST") ["admin", "roles", "*", "invalidate"] false, .invalidateRole,
        [unescape id]) := by
    have hempty : id.isEmpty = false := by simpa [String.isEmpty_iff] using hid.1
    rw [hm, hp, hpath]
    simp only [findRoute, Pattern.matchPath, pathSegments_rooted (by simp) hplain]
    simp [adminRoutes, pattern, Pattern.accepts, matchSegments, hunescape, hempty]
  exact route_rooted ht (by rw [hm]; decide) (by simp) hplain (hp.trans hpath) hfound rfl

namespace Api

/-- The user lookup answers, when it finds one, the user with the id it was asked for. -/
def LooksUpById (api : Api σ) : Prop :=
  ∀ id s u s', api.user id s = (.ok u, s') → u.id = id

/-- A header that reads as a 64-bit integer is not empty. -/
theorem readInt64_isEmpty {raw : String} {id : Int64} (h : Decimal.readInt64 raw = some id) :
    raw.isEmpty = false := by
  cases hraw : raw.isEmpty with
  | false => rfl
  | true =>
    rw [String.isEmpty_iff] at hraw
    have hnone : Decimal.readInt64 "" = none := by decide
    rw [hraw, hnone] at h
    cases h

/-- The caller a request names: refused without a 64-bit id; else the lookup's user, or the
master user with nothing else known when no user has its id. -/
theorem identify_eq (api : Api σ) (req : Request) (s : σ) :
    api.identify req s =
      match Decimal.readInt64 (req.header "X-User-ID") with
      | none =>
        if (req.header "X-User-ID").isEmpty then (.error (Response.failure 401 "missing user id"), s)
        else (.error (Response.failure 400 "invalid user id"), s)
      | some id =>
        match api.user id s with
        | (.ok u, s₁) => (.ok u, s₁)
        | (.error f, s₁) =>
          if f.has .userNotFound then
            if id = api.master then (.ok (Identity.ofId id), s₁)
            else (.error (Response.failure 404 f.message), s₁)
          else (.error (Response.failure 500 "internal error"), s₁) := by
  unfold identify
  cases hread : Decimal.readInt64 (req.header "X-User-ID") with
  | none =>
    by_cases hempty : (req.header "X-User-ID").isEmpty <;> simp [hempty, hread]
  | some id =>
    rw [if_neg (by simp [readInt64_isEmpty hread])]
    simp only [hread]
    cases api.user id s with
    | mk r s₁ =>
      cases r with
      | ok u => rfl
      | error f =>
        dsimp only
        by_cases hmaster : id = api.master <;> simp [hmaster]

end Api

/-- The gate's decision procedure. For any action, the administrative gate refuses a caller
without a header (401) or with one that is not a 64-bit integer (400), before any lookup. For an
id, it looks the user up: a failed lookup is 500 and an unknown user 404, except that the
master user with no entry passes; a found user passes when it is the master user. Any other
found user passes when its role's permissions include `admin`, and is refused with 403 when
they do not and with 500 when they cannot be read. A caller that passes gets the action, on the
state the lookups left; a refused one gets no action. -/
theorem admin_gate_decision (api : Api σ) (hid : api.LooksUpById) (req : Request) (s : σ)
    (run : σ → Response × σ) :
    api.asAdmin req s run =
      match Decimal.readInt64 (req.header "X-User-ID") with
      | none =>
        if (req.header "X-User-ID").isEmpty then (Response.failure 401 "missing user id", s)
        else (Response.failure 400 "invalid user id", s)
      | some id =>
        match api.user id s with
        | (.ok u, s₁) =>
          if id = api.master then run s₁
          else
            match api.permissions u.role s₁ with
            | (.ok perms, s₂) =>
              if adminPermission ∈ perms then run s₂
              else (Response.failure 403 (Fault.sentinel .insufficientPermission).message, s₂)
            | (.error _, s₂) => (Response.failure 500 "internal error", s₂)
        | (.error f, s₁) =>
          if f.has .userNotFound then
            if id = api.master then run s₁ else (Response.failure 404 f.message, s₁)
          else (Response.failure 500 "internal error", s₁) := by
  unfold Api.asAdmin
  rw [Api.identify_eq]
  cases hread : Decimal.readInt64 (req.header "X-User-ID") with
  | none =>
    by_cases hempty : (req.header "X-User-ID").isEmpty <;> simp [hempty]
  | some id =>
    dsimp only
    cases huser : api.user id s with
    | mk r s₁ =>
      cases r with
      | ok u =>
        have hu : u.id = id := hid id s u s₁ huser
        dsimp only
        by_cases hmaster : id = api.master
        · simp [hu, hmaster]
        · have hne : (u.id == api.master) = false := by simp [hu, hmaster]
          simp only [hne, hmaster, if_false, Bool.false_eq_true]
          cases api.permissions u.role s₁ with
          | mk r₂ s₂ =>
            cases r₂ with
            | ok perms => by_cases hadmin : adminPermission ∈ perms <;> simp [hasPermission, hadmin]
            | error g => rfl
      | error f =>
        dsimp only
        by_cases hmissing : f.has .userNotFound
        · by_cases hmaster : id = api.master
          · simp [hmissing, hmaster, Identity.ofId]
          · simp [hmissing, hmaster]
        · simp [hmissing]

/-- A found user other than the master is decided on its role's permissions. -/
theorem asAdmin_of_other {api : Api σ} (hid : api.LooksUpById) {req : Request} {s : σ}
    {run : σ → Response × σ} {id : Int64} {u : Identity} {s₁ : σ}
    (hread : Decimal.readInt64 (req.header "X-User-ID") = some id)
    (huser : api.user id s = (.ok u, s₁)) (hmaster : id ≠ api.master) :
    api.asAdmin req s run =
      match api.permissions u.role s₁ with
      | (.ok perms, s₂) =>
        if adminPermission ∈ perms then run s₂
        else (Response.failure 403 (Fault.sentinel .insufficientPermission).message, s₂)
      | (.error _, s₂) => (Response.failure 500 "internal error", s₂) := by
  rw [admin_gate_decision api hid req s run]
  simp only [hread, huser, if_neg hmaster]

/-- The administrative actions run only for administrators. Take any user and role
repositories whose user lookup answers the user asked for, and any request. A request the
administrative mux hands to the limits reset gets the reset behind the gate; one it hands to a
role's invalidation, which it does only with a role cache, gets behind the gate the
invalidation of the role its path names, which refuses a role id that is no 64-bit integer
with 400 and otherwise drops that role. The gate runs the action, on the state the lookups
left, for a 64-bit `X-User-ID` that is the master user's when its lookup finds that user or
finds no user, and for one whose lookup finds a user whose role's permissions include
`admin`. It refuses every other caller without the action: 401 without a header, 400 for one
that is no 64-bit integer, 404 for an unknown user other than the master, 403 without `admin`,
and 500 when the lookup of the user, the master's included, or of its permissions fails. -/
theorem admin_actions_need_admin (api : Api σ) (hid : api.LooksUpById) (req : Request) (s : σ) :
    (∀ ps, route (adminRoutes api.invalidate.isSome) req = .handle .resetLimits ps →
      api.serveAdmin req s = api.asAdmin req s api.reset) ∧
    (∀ ps, route (adminRoutes api.invalidate.isSome) req = .handle .invalidateRole ps →
      api.invalidate.isSome = true ∧
        api.serveAdmin req s = api.asAdmin req s (api.invalidateRole (ps.headD ""))) ∧
    (∀ raw t, Decimal.readInt64 raw = none →
      api.invalidateRole raw t = (Response.failure 400 "invalid role id", t)) ∧
    (∀ raw id drop t t₁, Decimal.readInt64 raw = some id → api.invalidate = some drop →
      drop id t = (.ok (), t₁) → api.invalidateRole raw t = (Response.empty 204, t₁)) ∧
    (∀ raw id drop t f t₁, Decimal.readInt64 raw = some id → api.invalidate = some drop →
      drop id t = (.error f, t₁) →
        api.invalidateRole raw t = (Response.failure 500 "failed to invalidate role", t₁)) ∧
    (∀ run : σ → Response × σ, (req.header "X-User-ID").isEmpty = true →
      api.asAdmin req s run = (Response.failure 401 "missing user id", s)) ∧
    (∀ run : σ → Response × σ, (req.header "X-User-ID").isEmpty = false →
      Decimal.readInt64 (req.header "X-User-ID") = none →
        api.asAdmin req s run = (Response.failure 400 "invalid user id", s)) ∧
    (∀ (run : σ → Response × σ) id u s₁, Decimal.readInt64 (req.header "X-User-ID") = some id →
      api.user id s = (.ok u, s₁) → id = api.master → api.asAdmin req s run = run s₁) ∧
    (∀ (run : σ → Response × σ) id f s₁, Decimal.readInt64 (req.header "X-User-ID") = some id →
      api.user id s = (.error f, s₁) → f.has .userNotFound = true → id = api.master →
        api.asAdmin req s run = run s₁) ∧
    (∀ (run : σ → Response × σ) id u s₁ perms s₂,
      Decimal.readInt64 (req.header "X-User-ID") = some id → api.user id s = (.ok u, s₁) →
        id ≠ api.master → api.permissions u.role s₁ = (.ok perms, s₂) → adminPermission ∈ perms →
          api.asAdmin req s run = run s₂) ∧
    (∀ (run : σ → Response × σ) id u s₁ perms s₂,
      Decimal.readInt64 (req.header "X-User-ID") = some id → api.user id s = (.ok u, s₁) →
        id ≠ api.master → api.permissions u.role s₁ = (.ok perms, s₂) → adminPermission ∉ perms →
          api.asAdmin req s run =
            (Response.failure 403 (Fault.sentinel .insufficientPermission).message, s₂)) ∧
    (∀ (run : σ → Response × σ) id u s₁ g s₂,
      Decimal.readInt64 (req.header "X-User-ID") = some id → api.user id s = (.ok u, s₁) →
        id ≠ api.master → api.permissions u.role s₁ = (.error g, s₂) →
          api.asAdmin req s run = (Response.failure 500 "internal error", s₂)) ∧
    (∀ (run : σ → Response × σ) id f s₁, Decimal.readInt64 (req.header "X-User-ID") = some id →
      api.user id s = (.error f, s₁) → f.has .userNotFound = true → id ≠ api.master →
        api.asAdmin req s run = (Response.failure 404 f.message, s₁)) ∧
    (∀ (run : σ → Response × σ) id f s₁, Decimal.readInt64 (req.header "X-User-ID") = some id →
      api.user id s = (.error f, s₁) → f.has .userNotFound = false →
        api.asAdmin req s run = (Response.failure 500 "internal error", s₁)) := by
  have hgate := admin_gate_decision api hid req s
  refine ⟨fun ps hr => ?_, fun ps hr => ?_, fun raw t hraw => ?_, fun raw id drop t t₁ hraw hdrop hok => ?_,
    fun raw id drop t f t₁ hraw hdrop herr => ?_, fun run hempty => ?_, fun run hfull hnone => ?_,
    fun run id u s₁ hread huser hmaster => ?_, fun run id f s₁ hread huser hmissing hmaster => ?_,
    fun run id u s₁ perms s₂ hread huser hmaster hperms hadmin => ?_,
    fun run id u s₁ perms s₂ hread huser hmaster hperms hadmin => ?_,
    fun run id u s₁ g s₂ hread huser hmaster hperms => ?_,
    fun run id f s₁ hread huser hmissing hmaster => ?_, fun run id f s₁ hread huser hmissing => ?_⟩
  · simp [Api.serveAdmin, hr]
  · cases hinv : api.invalidate with
    | none => rw [hinv] at hr; exact absurd hr adminRoutes_no_invalidate
    | some drop => exact ⟨rfl, by simp [Api.serveAdmin, hr]⟩
  · simp [Api.invalidateRole, hraw]
  · simp [Api.invalidateRole, hraw, hdrop, hok]
  · simp [Api.invalidateRole, hraw, hdrop, herr]
  · have hnone : Decimal.readInt64 (req.header "X-User-ID") = none := by
      cases hread : Decimal.readInt64 (req.header "X-User-ID") with
      | none => rfl
      | some id => simp [Api.readInt64_isEmpty hread] at hempty
    rw [hgate, hnone, if_pos hempty]
  · rw [hgate, hnone, if_neg (by simp [hfull])]
  · simp only [hgate, hread, huser]
    simp [hmaster]
  · simp only [hgate, hread, huser]
    simp [hmissing, hmaster]
  · rw [asAdmin_of_other hid hread huser hmaster, hperms]
    simp [hadmin]
  · rw [asAdmin_of_other hid hread huser hmaster, hperms]
    simp [hadmin]
  · rw [asAdmin_of_other hid hread huser hmaster, hperms]
  · simp only [hgate, hread, huser]
    simp [hmissing, hmaster]
  · simp only [hgate, hread, huser]
    simp [hmissing]

/-- A gateway stand-in over a count of actions, with a role cache, in which user 5 has role 1
with `admin`: the administrative mux routes the master user's reset, and the master user, who has
no entry, resets the limits; it routes user 5's invalidation of role 4, which drops that role. -/
theorem admin_actions_need_admin_for_master :
    let api : Api Nat := {
      service := ⟨fun _ _ _ n => (.ok (), n), fun _ _ n => (.error (.sentinel .noCandidates), n),
        none, none, none, false, fun n => ("", n), fun n => (0, n)⟩
      user := fun id n =>
        if id = 5 then (.ok ⟨5, 1, 0, none⟩, n) else (.error (.sentinel .userNotFound), n)
      permissions := fun _ n => (.ok [adminPermission], n)
      resetLimits := fun n => (.ok (), n + 1)
      invalidate := some fun _ n => (.ok (), n + 10)
      probe := fun n => ([], n)
      master := 0
      admin := true
      version := "" }
    let req : Request :=
      ⟨"POST", "/admin/limits/reset", "/admin/limits/reset", "", [("X-User-ID", "0")], ""⟩
    let drop : Request := ⟨"POST", "/admin/roles/4/invalidate", "/admin/roles/4/invalidate", "",
      [("X-User-ID", "5")], ""⟩
    api.LooksUpById ∧
    route (adminRoutes api.invalidate.isSome) req = .handle .resetLimits [] ∧
    (api.serveAdmin req 0).2 = 1 ∧
    route (adminRoutes api.invalidate.isSome) drop = .handle .invalidateRole [unescape "4"] ∧
    (api.serveAdmin drop 0).1.status = 204 ∧ (api.serveAdmin drop 0).2 = 10 ∧
    (∀ ps, route (adminRoutes api.invalidate.isSome) req = .handle .resetLimits ps →
      api.serveAdmin req 0 = api.asAdmin req 0 api.reset) ∧
    (∀ ps, route (adminRoutes api.invalidate.isSome) req = .handle .invalidateRole ps →
      api.invalidate.isSome = true ∧
        api.serveAdmin req 0 = api.asAdmin req 0 (api.invalidateRole (ps.headD ""))) ∧
    (∀ raw t, Decimal.readInt64 raw = none →
      api.invalidateRole raw t = (Response.failure 400 "invalid role id", t)) ∧
    (∀ raw id drop t t₁, Decimal.readInt64 raw = some id → api.invalidate = some drop →
      drop id t = (.ok (), t₁) → api.invalidateRole raw t = (Response.empty 204, t₁)) ∧
    (∀ raw id drop t f t₁, Decimal.readInt64 raw = some id → api.invalidate = some drop →
      drop id t = (.error f, t₁) →
        api.invalidateRole raw t = (Response.failure 500 "failed to invalidate role", t₁)) ∧
    (∀ run : Nat → Response × Nat, (req.header "X-User-ID").isEmpty = true →
      api.asAdmin req 0 run = (Response.failure 401 "missing user id", 0)) ∧
    (∀ run : Nat → Response × Nat, (req.header "X-User-ID").isEmpty = false →
      Decimal.readInt64 (req.header "X-User-ID") = none →
        api.asAdmin req 0 run = (Response.failure 400 "invalid user id", 0)) ∧
    (∀ (run : Nat → Response × Nat) id u s₁, Decimal.readInt64 (req.header "X-User-ID") = some id →
      api.user id 0 = (.ok u, s₁) → id = api.master → api.asAdmin req 0 run = run s₁) ∧
    (∀ (run : Nat → Response × Nat) id f s₁, Decimal.readInt64 (req.header "X-User-ID") = some id →
      api.user id 0 = (.error f, s₁) → f.has .userNotFound = true → id = api.master →
        api.asAdmin req 0 run = run s₁) ∧
    (∀ (run : Nat → Response × Nat) id u s₁ perms s₂,
      Decimal.readInt64 (req.header "X-User-ID") = some id → api.user id 0 = (.ok u, s₁) →
        id ≠ api.master → api.permissions u.role s₁ = (.ok perms, s₂) → adminPermission ∈ perms →
          api.asAdmin req 0 run = run s₂) ∧
    (∀ (run : Nat → Response × Nat) id u s₁ perms s₂,
      Decimal.readInt64 (req.header "X-User-ID") = some id → api.user id 0 = (.ok u, s₁) →
        id ≠ api.master → api.permissions u.role s₁ = (.ok perms, s₂) → adminPermission ∉ perms →
          api.asAdmin req 0 run =
            (Response.failure 403 (Fault.sentinel .insufficientPermission).message, s₂)) ∧
    (∀ (run : Nat → Response × Nat) id u s₁ g s₂,
      Decimal.readInt64 (req.header "X-User-ID") = some id → api.user id 0 = (.ok u, s₁) →
        id ≠ api.master → api.permissions u.role s₁ = (.error g, s₂) →
          api.asAdmin req 0 run = (Response.failure 500 "internal error", s₂)) ∧
    (∀ (run : Nat → Response × Nat) id f s₁, Decimal.readInt64 (req.header "X-User-ID") = some id →
      api.user id 0 = (.error f, s₁) → f.has .userNotFound = true → id ≠ api.master →
        api.asAdmin req 0 run = (Response.failure 404 f.message, s₁)) ∧
    (∀ (run : Nat → Response × Nat) id f s₁, Decimal.readInt64 (req.header "X-User-ID") = some id →
      api.user id 0 = (.error f, s₁) → f.has .userNotFound = false →
        api.asAdmin req 0 run = (Response.failure 500 "internal error", s₁)) := by
  intro api req drop
  have hid : api.LooksUpById := by
    intro id n u n' h
    by_cases h5 : id = 5
    · simp only [api, h5, if_true, Prod.mk.injEq, Except.ok.injEq] at h
      rw [h5, ← h.1]
    · simp [api, h5] at h
  have hgate := admin_actions_need_admin api hid req 0
  have hreset : route (adminRoutes api.invalidate.isSome) req = .handle .resetLimits [] :=
    route_resetLimits _ (by simp [req]) rfl rfl
  have hdrop : route (adminRoutes api.invalidate.isSome) drop =
      .handle .invalidateRole [unescape "4"] :=
    route_invalidateRole (by simp [drop]) rfl (by simp [PlainSegment]) (by simp [drop])
  have hserve := (admin_actions_need_admin api hid drop 0).2.1 _ hdrop
  refine ⟨hid, hreset, ?_, hdrop, ?_, ?_, hgate⟩
  · rw [hgate.1 [] hreset]
    decide +kernel
  · rw [hserve.2]
    decide +kernel
  · rw [hserve.2]
    decide +kernel

/-- The master user is refused when the lookup of its id fails. In a gateway stand-in over a
count of resets whose user lookup fails, the admin gate, which the reset route runs
(`admin_actions_need_admin`), answers a request of the master user 500 and leaves the count at 0:
the reset never runs. -/
theorem master_refused_when_lookup_fails :
    let api : Api Nat := {
      service := ⟨fun _ _ _ n => (.ok (), n), fun _ _ n => (.error (.sentinel .noCandidates), n),
        none, none, none, false, fun n => ("", n), fun n => (0, n)⟩
      user := fun _ n => (.error (.text "store down"), n)
      permissions := fun _ n => (.ok [adminPermission], n)
      resetLimits := fun n => (.ok (), n + 1)
      invalidate := none
      probe := fun n => ([], n)
      master := 0
      admin := true
      version := "" }
    let req : Request :=
      ⟨"POST", "/admin/limits/reset", "/admin/limits/reset", "", [("X-User-ID", "0")], ""⟩
    (api.asAdmin req 0 api.reset).1.status = 500 ∧ (api.asAdmin req 0 api.reset).2 = 0 := by
  decide +kernel

end Admission.Http
