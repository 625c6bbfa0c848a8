import Mathlib
import Admission.Service

/-!
# The calls of an admission

Which parts of the service an admission calls, with what, and in which order. A service is
traced by logging each call one of its parts takes, beside the state the parts share
(`Service.traced`); tracing changes neither the answer nor the state (`traced_submit`). An
admission draws a fresh request id, then submits the request under it. From the log of one
admission, whatever its parts do:

* the access check is the first call, and the selector is called only after it passed: once
  without skipping quality of service, and once more with the skip exactly when the first
  selection failed for want of candidates and the fallback is on;
* the notifier hears of the exhausted quota when the check failed with one, of the router
  when the final selection failed for want of candidates, and of nothing else;
* the dispatcher gets a job exactly when check and selection passed: the job of the
  selection under the request id, with the user's id and priority, the router, the chosen
  provider and its model, the prompt's tokens, and the clock's reading; the decision returned
  carries the same request id, provider and model;
* a refusal is the checker's or the selector's fault as it came, or the dispatcher's under
  `enqueue job`, which carries the conditions and the quota its cause carries.

The notifier never changes the answer.

Main statement: `submit_pipeline`.
-/

namespace Admission.Service

open Routing Notify

variable {σ α : Type}

/-- A call the service makes to one of its parts. -/
inductive Call where
  /-- The access check of a user's quotas on a router. -/
  | check (identity : Identity) (router : Int64) (tokens : Option Int64)
  /-- A selection, quality of service skipped when asked. -/
  | select (router : Int64) (skipQoS : Bool)
  /-- One more request in flight on a provider. -/
  | acquire (provider : String)
  /-- The end of a request on a provider. -/
  | release (provider : String) (latency : Span) (failed : Bool)
  /-- A request given back before it reached its provider. -/
  | cancel (provider : String)
  /-- A job handed to the dispatcher. -/
  | enqueue (job : Job)
  /-- A notification handed to the notifier. -/
  | notify (n : Notification)

namespace Call

/-- The router and the skip of a selection. -/
def selection? : Call → Option (Int64 × Bool)
  | .check .. => none
  | .select router skip => some (router, skip)
  | .acquire _ => none
  | .release .. => none
  | .cancel _ => none
  | .enqueue _ => none
  | .notify _ => none

/-- The notification handed to the notifier. -/
def notice? : Call → Option Notification
  | .check .. => none
  | .select .. => none
  | .acquire _ => none
  | .release .. => none
  | .cancel _ => none
  | .enqueue _ => none
  | .notify n => some n

/-- The job handed to the dispatcher. -/
def job? : Call → Option Job
  | .check .. => none
  | .select .. => none
  | .acquire _ => none
  | .release .. => none
  | .cancel _ => none
  | .enqueue job => some job
  | .notify _ => none

end Call

/-- Runs a part on the state and logs its call. -/
def logged (c : Call) (run : σ → α × σ) (s : σ × List Call) : α × (σ × List Call) :=
  ((run s.1).1, ((run s.1).2, s.2 ++ [c]))

@[simp]
theorem logged_pair (c : Call) (run : σ → α × σ) (s : σ) (log : List Call) :
    logged c run (s, log) = ((run s).1, ((run s).2, log ++ [c])) := rfl

/-- Runs an inner step of the service, its request ids or its clock, which logs nothing. -/
def unlogged (run : σ → α × σ) (s : σ × List Call) : α × (σ × List Call) :=
  ((run s.1).1, ((run s.1).2, s.2))

@[simp]
theorem unlogged_pair (run : σ → α × σ) (s : σ) (log : List Call) :
    unlogged run (s, log) = ((run s).1, ((run s).2, log)) := rfl

/-- The service whose parts log each call they take, beside the state they share. -/
def traced (svc : Service σ) : Service (σ × List Call) where
  check identity router tokens :=
    logged (.check identity router tokens) (svc.check identity router tokens)
  select router skip := logged (.select router skip) (svc.select router skip)
  tracking := svc.tracking.map fun t =>
    ⟨fun p => logged (.acquire p) (t.acquire p),
      fun p latency failed => logged (.release p latency failed) (t.release p latency failed),
      fun p => logged (.cancel p) (t.cancel p)⟩
  enqueue := svc.enqueue.map fun enqueue job => logged (.enqueue job) (enqueue job)
  notify := svc.notify.map fun deliver n => logged (.notify n) (deliver n)
  qosFallback := svc.qosFallback
  fresh := unlogged svc.fresh
  clock := unlogged svc.clock

theorem traced_clock (svc : Service σ) (s : σ) (log : List Call) :
    svc.traced.clock (s, log) = ((svc.clock s).1, ((svc.clock s).2, log)) := rfl

theorem traced_enqueue (svc : Service σ) :
    svc.traced.enqueue = svc.enqueue.map fun enqueue job => logged (.enqueue job) (enqueue job) :=
  rfl

/-- Whether the selection is tried again: the first failed for want of candidates and the
fallback is on. -/
def retries (svc : Service σ) (router : Int64) (s : σ) : Bool :=
  match (svc.select router false s).1 with
  | .error f => f.has .noCandidates && svc.qosFallback
  | .ok _ => false

/-- The tracker's calls when a request is taken in flight on a provider. -/
def takeCalls (svc : Service σ) (provider : String) : List Call :=
  match svc.tracking with
  | some _ => [.acquire provider]
  | none => []

/-- The tracker's calls when a request is given back. -/
def giveBackCalls (svc : Service σ) (provider : String) (taken : Bool) : List Call :=
  match svc.tracking, taken with
  | some _, true => [.cancel provider]
  | _, _ => []

/-- The job a submission under `rid` hands off once `sel` is chosen, from state `s`: stamped
with the clock's reading. -/
def stampedJob (svc : Service σ) (rid : String) (identity : Identity) (router : Int64)
    (tokens : Option Int64) (sel : Selection) (s : σ) : Job :=
  jobOf rid identity router tokens sel (svc.clock s).1

/-- The calls of handing a job off from state `s`: the dispatcher's, then the tracker's when it
failed. -/
def handOffCalls (svc : Service σ) (rid : String) (identity : Identity) (router : Int64)
    (tokens : Option Int64) (sel : Selection) (taken : Bool) (s : σ) : List Call :=
  match svc.enqueue with
  | none => []
  | some enqueue =>
    let job := svc.stampedJob rid identity router tokens sel s
    .enqueue job :: match (enqueue job (svc.clock s).2).1 with
      | .ok () => []
      | .error _ => svc.giveBackCalls sel.provider.id taken

/-- The calls of the selection: one, and one more skipping quality of service when it is tried
again. -/
def selectCalls (svc : Service σ) (router : Int64) (s : σ) : List Call :=
  .select router false :: if svc.retries router s then [.select router true] else []

theorem retries_of_ok {svc : Service σ} {router : Int64} {s : σ} {sel : Selection}
    (h : (svc.select router false s).1 = .ok sel) : svc.retries router s = false := by
  simp [retries, h]

theorem retries_of_error {svc : Service σ} {router : Int64} {s : σ} {f : Fault}
    (h : (svc.select router false s).1 = .error f) :
    svc.retries router s = (f.has .noCandidates && svc.qosFallback) := by
  simp [retries, h]

theorem traced_send (svc : Service σ) (n : Notification) (s : σ) (log : List Call) :
    svc.traced.send n (s, log) =
      (svc.send n s, log ++ if svc.notify.isSome then [.notify n] else []) := by
  cases h : svc.notify <;> simp [send, traced, h]

theorem traced_selectWithFallback (svc : Service σ) (router : Int64) (s : σ) (log : List Call) :
    svc.traced.selectWithFallback router (s, log) =
      ((svc.selectWithFallback router s).1, ((svc.selectWithFallback router s).2,
        log ++ svc.selectCalls router s)) := by
  rcases h : svc.select router false s with ⟨_ | f, s₁⟩ <;>
    simp [selectWithFallback, selectCalls, traced, retries, h]
  split_ifs <;> simp

theorem traced_take (svc : Service σ) (provider : String) (s : σ) (log : List Call) :
    svc.traced.take provider (s, log) =
      ((svc.take provider s).1, ((svc.take provider s).2, log ++ svc.takeCalls provider)) := by
  unfold take takeCalls traced
  rcases svc.tracking with _ | t
  · simp
  · simp only [Option.map_some, logged_pair]
    rcases t.acquire provider s with ⟨_ | _, s₁⟩ <;> simp

theorem traced_giveBack (svc : Service σ) (provider : String) (taken : Bool) (s : σ)
    (log : List Call) :
    svc.traced.giveBack provider taken (s, log) =
      (svc.giveBack provider taken s, log ++ svc.giveBackCalls provider taken) := by
  unfold giveBack giveBackCalls traced
  rcases svc.tracking with _ | t <;> cases taken <;> simp

@[simp]
theorem selectCalls_selections (svc : Service σ) (router : Int64) (s : σ) :
    (svc.selectCalls router s).filterMap Call.selection? =
      (router, false) :: if svc.retries router s then [(router, true)] else [] := by
  unfold selectCalls
  split_ifs <;> simp [Call.selection?]

@[simp]
theorem selectCalls_notices (svc : Service σ) (router : Int64) (s : σ) :
    (svc.selectCalls router s).filterMap Call.notice? = [] := by
  unfold selectCalls
  split_ifs <;> simp [Call.notice?]

@[simp]
theorem selectCalls_jobs (svc : Service σ) (router : Int64) (s : σ) :
    (svc.selectCalls router s).filterMap Call.job? = [] := by
  unfold selectCalls
  split_ifs <;> simp [Call.job?]

@[simp]
theorem takeCalls_selections (svc : Service σ) (provider : String) :
    (svc.takeCalls provider).filterMap Call.selection? = [] := by
  unfold takeCalls
  split <;> rfl

@[simp]
theorem takeCalls_notices (svc : Service σ) (provider : String) :
    (svc.takeCalls provider).filterMap Call.notice? = [] := by
  unfold takeCalls
  split <;> rfl

@[simp]
theorem takeCalls_jobs (svc : Service σ) (provider : String) :
    (svc.takeCalls provider).filterMap Call.job? = [] := by
  unfold takeCalls
  split <;> rfl

@[simp]
theorem giveBackCalls_selections (svc : Service σ) (provider : String) (taken : Bool) :
    (svc.giveBackCalls provider taken).filterMap Call.selection? = [] := by
  unfold giveBackCalls
  split <;> rfl

@[simp]
theorem giveBackCalls_notices (svc : Service σ) (provider : String) (taken : Bool) :
    (svc.giveBackCalls provider taken).filterMap Call.notice? = [] := by
  unfold giveBackCalls
  split <;> rfl

@[simp]
theorem giveBackCalls_jobs (svc : Service σ) (provider : String) (taken : Bool) :
    (svc.giveBackCalls provider taken).filterMap Call.job? = [] := by
  unfold giveBackCalls
  split <;> rfl

section HandOff

variable (svc : Service σ) (rid : String) (identity : Identity) (router : Int64)
  (tokens : Option Int64) (sel : Selection) (taken : Bool) (s : σ)

/-- Handing a job off shows no selection and no notification. -/
@[simp]
theorem handOffCalls_selections :
    (svc.handOffCalls rid identity router tokens sel taken s).filterMap Call.selection? = [] := by
  unfold handOffCalls
  rcases svc.enqueue with _ | enqueue
  · rfl
  · dsimp only
    split
    · rfl
    · exact giveBackCalls_selections svc _ _

@[simp]
theorem handOffCalls_notices :
    (svc.handOffCalls rid identity router tokens sel taken s).filterMap Call.notice? = [] := by
  unfold handOffCalls
  rcases svc.enqueue with _ | enqueue
  · rfl
  · dsimp only
    split
    · rfl
    · exact giveBackCalls_notices svc _ _

/-- Handing a job off shows the stamped job, once, when there is a dispatcher. -/
@[simp]
theorem handOffCalls_jobs :
    (svc.handOffCalls rid identity router tokens sel taken s).filterMap Call.job? =
      if svc.enqueue.isSome then [svc.stampedJob rid identity router tokens sel s] else [] := by
  unfold handOffCalls
  rcases svc.enqueue with _ | enqueue
  · rfl
  · simp only [Option.isSome_some, if_true]
    split
    · rfl
    · exact congrArg (_ :: ·) (giveBackCalls_jobs svc _ _)

end HandOff

section Submit

variable (svc : Service σ) (rid : String) (identity : Identity) (router : Int64)
  (tokens : Option Int64) (s : σ) (log : List Call)

theorem traced_check :
    svc.traced.check identity router tokens (s, log) =
      ((svc.check identity router tokens s).1,
        ((svc.check identity router tokens s).2, log ++ [.check identity router tokens])) := rfl

/-- A failed check: its fault, and the exhausted quota, if any, to the notifier. -/
theorem traced_submit_of_check_error {f : Fault}
    (hc : (svc.check identity router tokens s).1 = .error f) :
    svc.traced.submit rid identity router tokens (s, log) =
      (.error f, ((svc.submit rid identity router tokens s).2,
        log ++ .check identity router tokens ::
          if svc.notify.isSome then
            (f.quota?.map fun q => Call.notify (quotaNotice identity.id router q)).toList
          else [])) ∧
    (svc.submit rid identity router tokens s).1 = .error f := by
  rcases hcheck : svc.check identity router tokens s with ⟨r, s₁⟩
  rw [hcheck] at hc
  cases hc
  cases hq : f.quota? <;> cases hn : svc.notify.isSome <;>
    simp [submit, traced_check, hcheck, hq, hn, traced_send]

/-- A passed check and a failed selection: the selection's fault, and the router to the
notifier when it has no candidates. -/
theorem traced_submit_of_select_error {f : Fault}
    (hc : (svc.check identity router tokens s).1 = .ok ())
    (hsel : (svc.selectWithFallback router (svc.check identity router tokens s).2).1 = .error f) :
    svc.traced.submit rid identity router tokens (s, log) =
      (.error f, ((svc.submit rid identity router tokens s).2,
        log ++ .check identity router tokens ::
          (svc.selectCalls router (svc.check identity router tokens s).2 ++
            if svc.notify.isSome && f.has .noCandidates then [.notify (noCandidatesNotice router)]
            else []))) ∧
    (svc.submit rid identity router tokens s).1 = .error f := by
  rcases hcheck : svc.check identity router tokens s with ⟨r, s₁⟩
  rw [hcheck] at hc hsel
  cases hc
  rcases hchosen : svc.selectWithFallback router s₁ with ⟨r₂, s₂⟩
  rw [hchosen] at hsel
  cases hsel
  cases hn : svc.notify.isSome <;> cases hf : f.has .noCandidates <;>
    simp [submit, traced_check, hcheck, traced_selectWithFallback, hchosen, hn, hf, traced_send]

/-- A passed check and a selection: the tracker takes the request, the dispatcher gets the
stamped job of the selection, and the tracker gives the request back if the dispatcher
failed. -/
theorem traced_submit_of_selected {sel : Selection}
    (hc : (svc.check identity router tokens s).1 = .ok ())
    (hsel : (svc.selectWithFallback router (svc.check identity router tokens s).2).1 = .ok sel) :
    let chosen := (svc.selectWithFallback router (svc.check identity router tokens s).2).2
    svc.traced.submit rid identity router tokens (s, log) =
      ((svc.submit rid identity router tokens s).1, ((svc.submit rid identity router tokens s).2,
        log ++ .check identity router tokens ::
          (svc.selectCalls router (svc.check identity router tokens s).2 ++
            svc.takeCalls sel.provider.id ++
            svc.handOffCalls rid identity router tokens sel (svc.take sel.provider.id chosen).1
              (svc.take sel.provider.id chosen).2))) := by
  dsimp only
  rcases hcheck : svc.check identity router tokens s with ⟨r, s₁⟩
  rw [hcheck] at hc hsel
  cases hc
  rcases hchosen : svc.selectWithFallback router s₁ with ⟨r₂, s₂⟩
  rw [hchosen] at hsel
  cases hsel
  rcases htake : svc.take sel.provider.id s₂ with ⟨taken, s₃⟩
  cases he : svc.enqueue with
  | none =>
    simp [submit, traced_check, hcheck, traced_selectWithFallback, hchosen, traced_take, htake,
      handOffCalls, traced_enqueue, he]
  | some enqueue =>
    rcases hclock : svc.clock s₃ with ⟨t, s₄⟩
    rcases hres : enqueue (jobOf rid identity router tokens sel t) s₄ with ⟨_ | _, s₅⟩ <;>
      simp [submit, traced_check, hcheck, traced_selectWithFallback, hchosen, traced_take, htake,
        handOffCalls, stampedJob, traced_enqueue, he, traced_clock, hclock, hres, traced_giveBack]

/-- What a submission answers once a provider is chosen: the decision under the request id,
unless the dispatcher failed, whose fault is then returned under `enqueue job`. -/
theorem submit_of_selected {sel : Selection}
    (hc : (svc.check identity router tokens s).1 = .ok ())
    (hsel : (svc.selectWithFallback router (svc.check identity router tokens s).2).1 = .ok sel) :
    (svc.enqueue = none → (svc.submit rid identity router tokens s).1 = .ok (decisionOf rid router sel)) ∧
    ∀ enqueue, svc.enqueue = some enqueue →
      let taken := (svc.take sel.provider.id
        (svc.selectWithFallback router (svc.check identity router tokens s).2).2).2
      let handedOff := enqueue (svc.stampedJob rid identity router tokens sel taken)
        (svc.clock taken).2
      (handedOff.1 = .ok () → (svc.submit rid identity router tokens s).1 =
        .ok (decisionOf rid router sel)) ∧
      ∀ f, handedOff.1 = .error f →
        (svc.submit rid identity router tokens s).1 = .error (.context "enqueue job" f) := by
  rcases hcheck : svc.check identity router tokens s with ⟨r, s₁⟩
  rw [hcheck] at hc hsel
  cases hc
  rcases hchosen : svc.selectWithFallback router s₁ with ⟨r₂, s₂⟩
  rw [hchosen] at hsel
  cases hsel
  refine ⟨fun he => by simp [submit, hcheck, hchosen, he], fun enqueue he => ?_⟩
  rcases htake : svc.take sel.provider.id s₂ with ⟨taken, s₃⟩
  rcases hclock : svc.clock s₃ with ⟨t, s₄⟩
  rcases hres : enqueue (jobOf rid identity router tokens sel t) s₄ with ⟨r₃, s₅⟩
  refine ⟨fun hok => ?_, fun f hf => ?_⟩
  · simp only [stampedJob, hclock, hres] at hok
    cases hok
    simp [submit, hcheck, hchosen, he, htake, hclock, hres]
  · simp only [stampedJob, hclock, hres] at hf
    cases hf
    simp [submit, hcheck, hchosen, he, htake, hclock, hres]

/-- Tracing a submission changes neither its answer nor its state, and its log goes on from the
check. -/
theorem traced_submit :
    ∃ rest, svc.traced.submit rid identity router tokens (s, log) =
      ((svc.submit rid identity router tokens s).1, ((svc.submit rid identity router tokens s).2,
        log ++ .check identity router tokens :: rest)) := by
  rcases hc : (svc.check identity router tokens s).1 with f | ⟨⟩
  · obtain ⟨h, hr⟩ := traced_submit_of_check_error svc rid identity router tokens s log hc
    exact ⟨_, by rw [h, hr]⟩
  · rcases hsel : (svc.selectWithFallback router (svc.check identity router tokens s).2).1
      with f | sel
    · obtain ⟨h, hr⟩ := traced_submit_of_select_error svc rid identity router tokens s log hc hsel
      exact ⟨_, by rw [h, hr]⟩
    · exact ⟨_, traced_submit_of_selected svc rid identity router tokens s log hc hsel⟩

/-- After a passed check the log shows the selection, and the second one when it is tried
again, and no other. -/
theorem selections_of_check_ok (hc : (svc.check identity router tokens s).1 = .ok ()) :
    (svc.traced.submit rid identity router tokens (s, log)).2.2.filterMap Call.selection? =
      log.filterMap Call.selection? ++ (router, false) ::
        if svc.retries router (svc.check identity router tokens s).2 then [(router, true)] else [] := by
  rcases hsel : (svc.selectWithFallback router (svc.check identity router tokens s).2).1
    with f | sel
  · rw [(traced_submit_of_select_error svc rid identity router tokens s log hc hsel).1]
    by_cases hn : (svc.notify.isSome && f.has .noCandidates) = true <;>
      simp [hn, List.filterMap_cons, Call.selection?]
  · rw [traced_submit_of_selected svc rid identity router tokens s log hc hsel]
    simp [List.filterMap_cons, Call.selection?]

/-- The notifier never changes what a submission answers. -/
theorem submit_without_notifier :
    (svc.submit rid identity router tokens s).1 =
      ({ svc with notify := none }.submit rid identity router tokens s).1 := by
  have hselect : ∀ s, ({ svc with notify := none } : Service σ).selectWithFallback router s =
      svc.selectWithFallback router s := fun _ => rfl
  have htake : ∀ p s, ({ svc with notify := none } : Service σ).take p s = svc.take p s :=
    fun _ _ => rfl
  unfold submit
  dsimp only
  rcases svc.check identity router tokens s with ⟨f | ⟨⟩, s₁⟩
  · rfl
  · dsimp only
    rw [hselect]
    rcases svc.selectWithFallback router s₁ with ⟨f | sel, s₂⟩
    · rfl
    · dsimp only
      rw [htake]
      rcases svc.take sel.provider.id s₂ with ⟨taken, s₃⟩
      rcases svc.enqueue with _ | enqueue
      · rfl
      · dsimp only
        rcases svc.clock s₃ with ⟨t, s₄⟩
        rcases enqueue (jobOf rid identity router tokens sel t) s₄ with ⟨_ | _, s₅⟩ <;> rfl

/-- The jobs a submission hands off carry its request id and the request's user, priority,
router and tokens; when it is admitted, its decision carries the same id, provider and model. -/
theorem submit_jobs (job : Job)
    (hjob : job ∈ (svc.traced.submit rid identity router tokens (s, [])).2.2.filterMap Call.job?) :
    job.id = rid ∧ job.user = identity.id ∧ job.priority = identity.priority ∧
      job.router = router ∧ job.promptTokens = tokens ∧
      ∀ d, (svc.submit rid identity router tokens s).1 = .ok d →
        d.requestId = job.id ∧ d.provider = job.provider ∧ d.model = job.model := by
  rcases hc : (svc.check identity router tokens s).1 with f | ⟨⟩
  · rw [(traced_submit_of_check_error svc rid identity router tokens s [] hc).1] at hjob
    cases svc.notify.isSome <;> cases f.quota? <;>
      simp [List.filterMap_cons, Call.job?] at hjob
  · rcases hsel : (svc.selectWithFallback router (svc.check identity router tokens s).2).1
      with f | sel
    · rw [(traced_submit_of_select_error svc rid identity router tokens s [] hc hsel).1] at hjob
      cases svc.notify.isSome <;> cases f.has .noCandidates <;>
        simp [List.filterMap_cons, Call.job?] at hjob
    · rw [traced_submit_of_selected svc rid identity router tokens s [] hc hsel] at hjob
      simp only [List.filterMap_cons, List.filterMap_append, Call.job?, selectCalls_jobs,
        takeCalls_jobs, handOffCalls_jobs, List.nil_append, Option.isSome_iff_ne_none] at hjob
      split_ifs at hjob
      · simp only [List.mem_singleton] at hjob
        subst hjob
        obtain ⟨hnone, hsome⟩ := submit_of_selected svc rid identity router tokens s hc hsel
        refine ⟨rfl, rfl, rfl, rfl, rfl, fun d hd => ?_⟩
        have hdec : d = decisionOf rid router sel := by
          rcases he : svc.enqueue with _ | enqueue
          · rw [hnone he] at hd
            exact (Except.ok.inj hd).symm
          · obtain ⟨hok, herr⟩ := hsome enqueue he
            rcases hres : (enqueue _ _).1 with f | ⟨⟩
            · rw [herr f hres] at hd
              cases hd
            · rw [hok hres] at hd
              exact (Except.ok.inj hd).symm
        subst hdec
        exact ⟨rfl, rfl, rfl⟩
      · simp at hjob

end Submit

/-- An admission is the submission under the request id it draws. -/
theorem traced_admitRequest (svc : Service σ) (identity : Identity) (router : Int64)
    (tokens : Option Int64) (s : σ) (log : List Call) :
    svc.traced.admitRequest identity router tokens (s, log) =
      svc.traced.submit (svc.fresh s).1 identity router tokens ((svc.fresh s).2, log) := rfl

/-- The calls of an admission, whatever the service's parts do. The admission draws a request
id and submits the request under it; the access check is the first call. A failed check is
answered with its fault as it came, with no selection and no job, and the notifier hears of the
exhausted quota, if the fault carries one. After a passed check the selector is called without
skipping quality of service, and a second time with the skip exactly when the first failed for
want of candidates with the fallback on. A failed final selection is answered with its fault as
it came, with no job, and the notifier hears of the router if it has no candidates. A selection
brings no notification, and the dispatcher, if there is one, gets the job of the selection
stamped with the clock; the answer is the decision of the selection under the request id unless
the dispatcher failed, whose fault is then returned under `enqueue job`, carrying the conditions
and the quota it carries. Every job handed off carries the request id, the user's id and
priority, the router and the prompt's tokens, and the decision of an admitted request carries
the job's id, provider and model. Tracing changes neither the answer nor the state, and the
notifier never changes the answer. -/
theorem submit_pipeline (svc : Service σ) (identity : Identity) (router : Int64)
    (tokens : Option Int64) (s : σ) :
    let rid := (svc.fresh s).1
    let run := svc.traced.admitRequest identity router tokens (s, [])
    let checked := svc.check identity router tokens (svc.fresh s).2
    let chosen := svc.selectWithFallback router checked.2
    (run.1 = (svc.admitRequest identity router tokens s).1 ∧
      run.2.1 = (svc.admitRequest identity router tokens s).2 ∧
      (svc.admitRequest identity router tokens s).1 =
        ({ svc with notify := none }.admitRequest identity router tokens s).1) ∧
    run.2.2.head? = some (.check identity router tokens) ∧
    (∀ f, checked.1 = .error f →
      run.1 = .error f ∧ run.2.2.filterMap Call.selection? = [] ∧
        run.2.2.filterMap Call.job? = [] ∧
        run.2.2.filterMap Call.notice? =
          if svc.notify.isSome then (f.quota?.map (quotaNotice identity.id router)).toList
          else []) ∧
    (checked.1 = .ok () →
      (∀ sel, (svc.select router false checked.2).1 = .ok sel →
        run.2.2.filterMap Call.selection? = [(router, false)]) ∧
      ∀ f, (svc.select router false checked.2).1 = .error f →
        run.2.2.filterMap Call.selection? =
          (router, false) :: if f.has .noCandidates && svc.qosFallback then [(router, true)]
            else []) ∧
    (checked.1 = .ok () → ∀ f, chosen.1 = .error f →
      run.1 = .error f ∧ run.2.2.filterMap Call.job? = [] ∧
        run.2.2.filterMap Call.notice? =
          if svc.notify.isSome && f.has .noCandidates then [noCandidatesNotice router] else []) ∧
    (checked.1 = .ok () → ∀ sel, chosen.1 = .ok sel →
      let taken := (svc.take sel.provider.id chosen.2).2
      let job := svc.stampedJob rid identity router tokens sel taken
      run.2.2.filterMap Call.notice? = [] ∧
      run.2.2.filterMap Call.job? = (if svc.enqueue.isSome then [job] else []) ∧
      (svc.enqueue = none → run.1 = .ok (decisionOf rid router sel)) ∧
      ∀ enqueue, svc.enqueue = some enqueue →
        ((enqueue job (svc.clock taken).2).1 = .ok () → run.1 = .ok (decisionOf rid router sel)) ∧
        ∀ f, (enqueue job (svc.clock taken).2).1 = .error f →
          run.1 = .error (.context "enqueue job" f)) ∧
    (∀ job ∈ run.2.2.filterMap Call.job?,
      job.id = rid ∧ job.user = identity.id ∧ job.priority = identity.priority ∧
        job.router = router ∧ job.promptTokens = tokens ∧
        ∀ d, run.1 = .ok d → d.requestId = job.id ∧ d.provider = job.provider ∧
          d.model = job.model) ∧
    ∀ f c, (Fault.context "enqueue job" f).has c = f.has c ∧
      (Fault.context "enqueue job" f).quota? = f.quota? := by
  dsimp only
  rw [traced_admitRequest]
  set rid := (svc.fresh s).1
  obtain ⟨rest, hrun⟩ := traced_submit svc rid identity router tokens (svc.fresh s).2 []
  refine ⟨⟨by rw [hrun]; rfl, by rw [hrun]; rfl,
    submit_without_notifier svc rid identity router tokens _⟩, by rw [hrun]; rfl, ?checkFails,
    ?selections, ?selectFails, ?selected, ?jobs, fun f c => ⟨rfl, rfl⟩⟩
  case checkFails =>
    intro f hc
    obtain ⟨h, -⟩ := traced_submit_of_check_error svc rid identity router tokens _ [] hc
    rw [h]
    refine ⟨rfl, ?_, ?_, ?_⟩ <;> cases svc.notify.isSome <;> cases f.quota? <;>
      simp [List.filterMap_cons, Call.selection?, Call.job?, Call.notice?]
  case selections =>
    intro hc
    refine ⟨fun sel h₁ => ?_, fun f h₁ => ?_⟩
    · rw [selections_of_check_ok svc rid identity router tokens _ [] hc, retries_of_ok h₁]
      rfl
    · rw [selections_of_check_ok svc rid identity router tokens _ [] hc, retries_of_error h₁]
      rfl
  case selectFails =>
    intro hc f hsel
    rw [(traced_submit_of_select_error svc rid identity router tokens _ [] hc hsel).1]
    refine ⟨rfl, ?_, ?_⟩ <;> cases svc.notify.isSome <;> cases f.has .noCandidates <;>
      simp [List.filterMap_cons, Call.job?, Call.notice?]
  case selected =>
    intro hc sel hsel
    obtain ⟨hnone, hsome⟩ := submit_of_selected svc rid identity router tokens _ hc hsel
    rw [traced_submit_of_selected svc rid identity router tokens _ [] hc hsel]
    exact ⟨by simp [List.filterMap_cons, Call.notice?], by simp [List.filterMap_cons, Call.job?],
      hnone, hsome⟩
  case jobs =>
    intro job hjob
    rw [hrun]
    exact submit_jobs svc rid identity router tokens _ job hjob

end Admission.Service
