import Mathlib
import Admission.Service
import Admission.Proofs.CounterStore

/-!
# Requests in flight

With the in-memory tracker, the admission service keeps each provider's count of requests in
flight exact. An admission takes one more request in flight on the chosen provider before it
hands the job off, so a worker that finishes the job inside the hand-off finds it there; a
hand-off that fails gives it back by a cancellation, which leaves the performance indicator
alone. So along every run of admissions and completions in which each completion is matched
to a job handed off to its provider, each provider's count is the number of admissions that
chose it less the number of completions reported for it, the zero floor of a release or a
cancellation is never reached, and a refused admission leaves every provider's measurements as
they were (`in_flight_exact`).

The service here is any one whose tracker is the in-memory board (`BoardParts.service`): its
access check, notifier and dispatcher work on the rest of the state, and its selection may read
the board. Whether a worker finishes a job inside the hand-off is the caller's choice at each
admission.
-/

namespace Admission.Tracker

namespace Board

/-- Writing a provider's load replaces its entry, or adds one; other providers keep theirs. -/
theorem find?_upsert (x : String × Load) (j : String) :
    ∀ loads : List (String × Load),
      (Directory.upsert Prod.fst x loads).find? (·.1 == j) =
        if x.1 = j then some x else loads.find? (·.1 == j)
  | [] => by
    by_cases hx : x.1 = j <;> simp [Directory.upsert, hx]
  | y :: ys => by
    by_cases hy : y.1 = x.1
    · by_cases hx : x.1 = j
      · simp [Directory.upsert, hy, hx]
      · simp [Directory.upsert, hy, hx]
    · have hrest := find?_upsert x j ys
      by_cases hyj : y.1 = j
      · have hx : ¬x.1 = j := fun h => hy (hyj.trans h.symm)
        have hjx : ¬j = x.1 := fun h => hx h.symm
        simp [Directory.upsert, hyj, hx, hjx]
      · simp [Directory.upsert, hy, hyj, hrest]

/-- A written load is read back; every other provider's is unchanged. -/
theorem load_set (b : Board) (id j : String) (l : Load) :
    (b.set id l).load j = if id = j then l else b.load j := by
  unfold load set
  rw [find?_upsert]
  by_cases h : id = j <;> simp [h]

/-- One more request in flight on a provider; every other provider's load is unchanged. -/
theorem load_acquire (b : Board) (id j : String) :
    (b.acquire id).load j =
      if id = j then { b.load id with parallel := (b.load id).parallel + 1 } else b.load j := by
  unfold acquire
  rw [load_set]

/-- A completion eases a provider's count and feeds its indicator. -/
theorem load_release (t : Tuning) (b : Board) (id j : String) (latency : Span) (failed : Bool) :
    (b.release t id latency failed).load j =
      if id = j then
        { (b.load id).ease with
          performance := some (ewma t.alpha (b.load id).ease.performance
            (t.sample latency failed)) }
      else b.load j := by
  unfold release
  rw [load_set]

/-- A cancellation eases a provider's count. -/
theorem load_cancel (b : Board) (id j : String) :
    (b.cancel id).load j = if id = j then (b.load id).ease else b.load j := by
  unfold cancel
  rw [load_set]

/-- Easing a positive count lowers it by one. -/
theorem ease_of_pos {l : Load} (h : 0 < l.parallel) : l.ease = { l with parallel := l.parallel - 1 } :=
  if_pos h

/-- A count below the greatest is raised by one exactly. -/
theorem toInt_add_one {x : Int64} (h₀ : 0 ≤ x.toInt) (hmax : x.toInt < 9223372036854775807) :
    (x + 1).toInt = x.toInt + 1 := by
  rw [Int64.toInt_add, Int64.toInt_one]
  exact Int.bmod_eq_of_le (by omega) (by omega)

/-- A positive count is lowered by one exactly. -/
theorem toInt_sub_one {x : Int64} (h : 0 < x.toInt) : (x - 1).toInt = x.toInt - 1 := by
  have hmax := x.toInt_lt
  rw [Int64.toInt_sub, Int64.toInt_one]
  exact Int.bmod_eq_of_le (by omega) (by omega)

/-- Easing a count raised by one from a count that is not negative, and not the greatest,
gives the load back: the floor is not reached. -/
theorem ease_raised {l : Load} (h₀ : 0 ≤ l.parallel.toInt)
    (hmax : l.parallel.toInt < 9223372036854775807) :
    ({ l with parallel := l.parallel + 1 } : Load).ease = l := by
  have hsucc := toInt_add_one h₀ hmax
  have hpos : 0 < ({ l with parallel := l.parallel + 1 } : Load).parallel := by
    show 0 < l.parallel + 1
    rw [Int64.lt_iff_toInt_lt, hsucc]
    simp only [Int64.toInt_zero]
    omega
  rw [ease_of_pos hpos]
  simp

/-- Taking a request in flight and giving it back leaves every load, when the count was not
negative and not the greatest. -/
theorem load_cancel_acquire (b : Board) (id j : String) (h₀ : 0 ≤ (b.load id).parallel.toInt)
    (hmax : (b.load id).parallel.toInt < 9223372036854775807) :
    ((b.acquire id).cancel id).load j = b.load j := by
  simp only [load_cancel, load_acquire]
  by_cases hj : id = j
  · subst hj
    simp only [if_true]
    exact ease_raised h₀ hmax
  · simp [hj]

end Board

end Admission.Tracker

namespace Admission

open Tracker Routing Notify
open Quota (replay replay_append_singleton length_replay)

/-- The parts of an admission service beside the in-memory tracker, over the rest `ρ` of its
state: the access check, the selection (which may read the tracker's board), the notifier, the
dispatcher's hand-off of a job, the request ids and the clock. -/
structure BoardParts (ρ : Type) where
  /-- The access check of a user's quotas on a router, with the prompt's tokens. -/
  check : Identity → Int64 → Option Int64 → ρ → Except Fault Unit × ρ
  /-- The selection of a provider of a router, quality of service skipped when asked. -/
  select : Int64 → Bool → Board → ρ → Except Fault Selection × ρ
  /-- The notifier, if any. -/
  notify : Option (Notification → ρ → Except Fault Unit × ρ)
  /-- The dispatcher's hand-off of a job. -/
  handOff : Job → ρ → Except Fault Unit × ρ
  /-- How completions feed the performance indicator. -/
  tuning : Tuning
  /-- Whether a selection with no candidate is tried again without quality of service. -/
  qosFallback : Bool
  /-- A fresh request id. -/
  fresh : ρ → String × ρ
  /-- The clock. -/
  clock : ρ → Instant × ρ

namespace BoardParts

/-- The in-memory tracker's operations on the board; they never fail. -/
def tracking (P : BoardParts ρ) : Tracking (Board × ρ) where
  acquire id st := (.ok (), (st.1.acquire id, st.2))
  release id latency failed st := (.ok (), (st.1.release P.tuning id latency failed, st.2))
  cancel id st := (.ok (), (st.1.cancel id, st.2))

/-- The board after a successful hand-off to `provider`: when a worker finished the job at once
(`inline`), its completion was reported to the tracker before the hand-off returned. -/
def completeInline (P : BoardParts ρ) (inline : Option (Span × Bool)) (provider : String)
    (b : Board) : Board :=
  match inline with
  | some (latency, failed) => b.release P.tuning provider latency failed
  | none => b

/-- The admission service of the parts, its hand-off reporting a job's completion inside it as
`inline` says. -/
def service (P : BoardParts ρ) (inline : Option (Span × Bool)) : Service (Board × ρ) where
  check identity router tokens st :=
    let (r, rest) := P.check identity router tokens st.2
    (r, (st.1, rest))
  select router skip st :=
    let (r, rest) := P.select router skip st.1 st.2
    (r, (st.1, rest))
  tracking := some P.tracking
  enqueue := some fun job st =>
    match P.handOff job st.2 with
    | (.ok (), rest) => (.ok (), (P.completeInline inline job.provider st.1, rest))
    | (.error f, rest) => (.error f, (st.1, rest))
  notify := P.notify.map fun deliver n st =>
    let (r, rest) := deliver n st.2
    (r, (st.1, rest))
  qosFallback := P.qosFallback
  fresh st := let (rid, rest) := P.fresh st.2; (rid, (st.1, rest))
  clock st := let (t, rest) := P.clock st.2; (t, (st.1, rest))

/-- The board after an admission decided as `d`: one more request in flight on the chosen
provider, released again when the job completed inside the hand-off. -/
def admittedBoard (P : BoardParts ρ) (inline : Option (Span × Bool)) (d : Decision)
    (b : Board) : Board :=
  P.completeInline inline d.provider (b.acquire d.provider)

variable (P : BoardParts ρ) (inline : Option (Span × Bool))

/-- A notification leaves the board. -/
theorem send_board (n : Notification) (st : Board × ρ) :
    ((P.service inline).send n st).1 = st.1 := by
  unfold Service.send
  cases hn : P.notify with
  | none => simp [service, hn]
  | some deliver => simp [service, hn]

/-- The access check leaves the board. -/
theorem check_board (identity : Identity) (router : Int64) (tokens : Option Int64)
    (st : Board × ρ) : ((P.service inline).check identity router tokens st).2.1 = st.1 := rfl

/-- A selection leaves the board. -/
theorem select_board (router : Int64) (skip : Bool) (st : Board × ρ) :
    ((P.service inline).select router skip st).2.1 = st.1 := rfl

/-- A selection leaves the board, also when tried again without quality of service. -/
theorem selectWithFallback_board (router : Int64) (st : Board × ρ) :
    ((P.service inline).selectWithFallback router st).2.1 = st.1 := by
  unfold Service.selectWithFallback
  cases hsel : (P.service inline).select router false st with
  | mk r st₁ =>
    have h₁ : st₁.1 = st.1 := by
      rw [← select_board P inline router false st, hsel]
    cases r with
    | ok sel => exact h₁
    | error f =>
      dsimp only
      split
      · exact (select_board P inline router true st₁).trans h₁
      · exact h₁

/-- Taking a request in flight acquires the chosen provider. -/
theorem take_eq (provider : String) (st : Board × ρ) :
    (P.service inline).take provider st = (true, (st.1.acquire provider, st.2)) := rfl

/-- A job goes to the provider its selection chose. -/
@[simp]
theorem jobOf_provider (rid : String) (identity : Identity) (router : Int64)
    (tokens : Option Int64) (sel : Selection) (t : Instant) :
    (Service.jobOf rid identity router tokens sel t).provider = sel.provider.id := rfl

/-- What a submission under a request id does to the board: nothing when it is refused before a
provider is chosen; when the hand-off fails, the chosen provider's request is taken and given
back; when it is admitted, the board is the admitted board of its decision. -/
theorem submit_board (rid : String) (identity : Identity) (router : Int64)
    (tokens : Option Int64) (st : Board × ρ) :
    (∃ f, ((P.service inline).submit rid identity router tokens st).1 = .error f ∧
        ((P.service inline).submit rid identity router tokens st).2.1 = st.1) ∨
      (∃ f p, ((P.service inline).submit rid identity router tokens st).1 = .error f ∧
        ((P.service inline).submit rid identity router tokens st).2.1 = (st.1.acquire p).cancel p) ∨
      (∃ d, ((P.service inline).submit rid identity router tokens st).1 = .ok d ∧
        ((P.service inline).submit rid identity router tokens st).2.1 =
          P.admittedBoard inline d st.1) := by
  unfold Service.submit
  cases hc : (P.service inline).check identity router tokens st with
  | mk r st₁ =>
    have hb₁ : st₁.1 = st.1 := by
      rw [← check_board P inline identity router tokens st, hc]
    cases r with
    | error f =>
      dsimp only
      refine .inl ⟨f, rfl, ?_⟩
      split <;> simp [send_board, hb₁]
    | ok u =>
      cases u
      dsimp only
      cases hs : (P.service inline).selectWithFallback router st₁ with
      | mk r₂ st₂ =>
        have hb₂ : st₂.1 = st.1 := by
          have := selectWithFallback_board P inline router st₁
          rw [hs] at this
          exact this.trans hb₁
        cases r₂ with
        | error f =>
          dsimp only
          refine .inl ⟨f, rfl, ?_⟩
          split <;> simp [send_board, hb₂]
        | ok sel =>
          simp only [take_eq]
          rcases hclock : P.clock st₂.2 with ⟨t, rest₂⟩
          rcases hh : P.handOff (Service.jobOf rid identity router tokens sel t) rest₂ with
            ⟨_ | _, rest⟩
          · rename_i f
            refine .inr (.inl ⟨.context "enqueue job" f, sel.provider.id, ?_, ?_⟩) <;>
              simp [service, hclock, hh, Service.giveBack, tracking, hb₂]
          · refine .inr (.inr ⟨Service.decisionOf rid router sel, ?_, ?_⟩) <;>
              simp [service, hclock, hh, admittedBoard, Service.decisionOf, hb₂]

/-- What an admission does to the board: a fresh request id, which leaves the board, then the
submission under it. -/
theorem admitRequest_board (identity : Identity) (router : Int64) (tokens : Option Int64)
    (st : Board × ρ) :
    (∃ f, ((P.service inline).admitRequest identity router tokens st).1 = .error f ∧
        ((P.service inline).admitRequest identity router tokens st).2.1 = st.1) ∨
      (∃ f p, ((P.service inline).admitRequest identity router tokens st).1 = .error f ∧
        ((P.service inline).admitRequest identity router tokens st).2.1 =
          (st.1.acquire p).cancel p) ∨
      (∃ d, ((P.service inline).admitRequest identity router tokens st).1 = .ok d ∧
        ((P.service inline).admitRequest identity router tokens st).2.1 =
          P.admittedBoard inline d st.1) :=
  submit_board P inline _ identity router tokens ((P.service inline).fresh st).2

/-- A completion releases its provider on the board. -/
theorem complete_board (provider : String) (latency : Span) (failed : Bool) (st : Board × ρ) :
    ((P.service inline).complete provider latency failed st).2.1 =
      st.1.release P.tuning provider latency failed := by
  simp [Service.complete, service, tracking]

end BoardParts

/-- A call on the admission service: an admission, with the completion a worker reports inside
the hand-off when it finishes the job at once; or the later completion of a job on a provider. -/
inductive ServiceCall where
  /-- An admission of a request of `identity` to `router` with a prompt of `tokens` tokens. -/
  | submit (identity : Identity) (router : Int64) (tokens : Option Int64)
      (inline : Option (Span × Bool))
  /-- The completion of a job on a provider, after a latency, or its failure. -/
  | complete (provider : String) (latency : Span) (failed : Bool)

/-- What a call answers: an admission's decision or refusal, or a completion's outcome. -/
inductive ServiceReply where
  /-- The answer of an admission. -/
  | admitted (r : Except Fault Decision)
  /-- The answer of a completion. -/
  | completed (r : Except Fault Unit)

/-- The provider an admission chose, when it was admitted. -/
def ServiceReply.chosen : ServiceReply → Option String
  | .admitted (.ok d) => some d.provider
  | _ => none

/-- Whether a call handed a job to provider `p`: an admission that chose it. -/
def handedTo (p : String) (x : ServiceCall × ServiceReply) : Bool := x.2.chosen == some p

/-- Whether a call reported a completion on provider `p`: a completion on it, or an admission
that chose it and whose job completed inside the hand-off. -/
def completedOn (p : String) : ServiceCall × ServiceReply → Bool
  | (.complete q _ _, _) => q == p
  | (.submit _ _ _ inline, r) => inline.isSome && r.chosen == some p

/-- Every completion is matched to a distinct job handed off to its provider: after every call,
no provider has had more completions than jobs. -/
def Matched (trace : List (ServiceCall × ServiceReply)) : Prop :=
  ∀ n p, ((trace.take n).countP (completedOn p)) ≤ (trace.take n).countP (handedTo p)

/-- A run matched at its end is matched before its last call. -/
theorem Matched.of_append {trace : List (ServiceCall × ServiceReply)} {x : ServiceCall × ServiceReply}
    (h : Matched (trace ++ [x])) : Matched trace := by
  intro n p
  by_cases hn : n ≤ trace.length
  · have := h n p
    rwa [List.take_append_of_le_length hn] at this
  · have := h trace.length p
    rw [List.take_append_of_le_length (le_refl _), List.take_length] at this
    rwa [List.take_of_length_le (by omega)]

/-- A matched run has had, for each provider, no more completions than jobs. -/
theorem Matched.le {trace : List (ServiceCall × ServiceReply)} (h : Matched trace) (p : String) :
    trace.countP (completedOn p) ≤ trace.countP (handedTo p) := by
  have := h trace.length p
  rwa [List.take_length] at this

namespace BoardParts

/-- One call on the service. -/
def step (P : BoardParts ρ) : ServiceCall → Board × ρ → ServiceReply × (Board × ρ)
  | .submit identity router tokens inline, st =>
    (.admitted ((P.service inline).admitRequest identity router tokens st).1,
      ((P.service inline).admitRequest identity router tokens st).2)
  | .complete provider latency failed, st =>
    (.completed ((P.service none).complete provider latency failed st).1,
      ((P.service none).complete provider latency failed st).2)

/-- Each provider's count of requests in flight is its jobs less its completions. -/
def Exact (trace : List (ServiceCall × ServiceReply)) (b : Board) : Prop :=
  ∀ p, (b.load p).parallel.toInt =
    (trace.countP (handedTo p) : Int) - trace.countP (completedOn p)

variable (P : BoardParts ρ)

/-- In a matched run of bounded length, every provider's count is between zero and the run's
length. -/
theorem Exact.bounds {trace : List (ServiceCall × ServiceReply)} {b : Board}
    (h : Exact trace b) (hm : ∀ p, trace.countP (completedOn p) ≤ trace.countP (handedTo p))
    (hlen : trace.length < 9223372036854775807) (p : String) :
    0 ≤ (b.load p).parallel.toInt ∧ (b.load p).parallel.toInt < 9223372036854775807 := by
  have hhanded : trace.countP (handedTo p) ≤ trace.length := List.countP_le_length
  have hmatched := hm p
  rw [h p]
  omega

/-- An admission keeps the counts exact: a refused one changes no count and no board, an
admitted one adds a job on the chosen provider and, when the job completed inside the
hand-off, its completion. -/
theorem Exact.submit {trace : List (ServiceCall × ServiceReply)} {b : Board} {rest : ρ}
    (h : Exact trace b) (hm : ∀ p, trace.countP (completedOn p) ≤ trace.countP (handedTo p))
    (hlen : trace.length < 9223372036854775807) (identity : Identity) (router : Int64)
    (tokens : Option Int64) (inline : Option (Span × Bool)) :
    Exact (trace ++ [(.submit identity router tokens inline,
        .admitted ((P.service inline).admitRequest identity router tokens (b, rest)).1)])
      ((P.service inline).admitRequest identity router tokens (b, rest)).2.1 := by
  intro q
  have hb := h.bounds hm hlen
  rcases admitRequest_board P inline identity router tokens (b, rest) with
    ⟨f, hr, hboard⟩ | ⟨f, p, hr, hboard⟩ | ⟨d, hr, hboard⟩
  · simp [hr, hboard, List.countP_append, handedTo, completedOn, ServiceReply.chosen, h q]
  · rw [hboard, Board.load_cancel_acquire b p q (hb p).1 (hb p).2]
    simp [hr, List.countP_append, handedTo, completedOn, ServiceReply.chosen, h q]
  · rw [hboard]
    unfold admittedBoard
    cases inline with
    | none =>
      simp only [completeInline, Board.load_acquire]
      by_cases hq : d.provider = q
      · subst hq
        simp only [if_true]
        rw [Board.toInt_add_one (hb d.provider).1 (hb d.provider).2]
        simp [hr, List.countP_append, handedTo, completedOn, ServiceReply.chosen, h d.provider]
        omega
      · simp [hq, hr, List.countP_append, handedTo, completedOn, ServiceReply.chosen, h q]
    | some done =>
      obtain ⟨latency, failed⟩ := done
      simp only [completeInline, Board.load_release, Board.load_acquire]
      by_cases hq : d.provider = q
      · subst hq
        simp only [if_true]
        rw [Board.ease_raised (hb d.provider).1 (hb d.provider).2]
        simp [hr, List.countP_append, handedTo, completedOn, ServiceReply.chosen, h d.provider]
      · simp [hq, hr, List.countP_append, handedTo, completedOn, ServiceReply.chosen, h q]

/-- A matched completion keeps the counts exact: its provider had the job in flight, so the
release lowers the count by one and does not reach the floor. -/
theorem Exact.complete {trace : List (ServiceCall × ServiceReply)} {b : Board} {rest : ρ}
    (h : Exact trace b) (provider : String) (latency : Span) (failed : Bool)
    (hm : ∀ p, (trace ++ [(ServiceCall.complete provider latency failed,
        ServiceReply.completed ((P.service none).complete provider latency failed (b, rest)).1)]).countP
          (completedOn p) ≤
      (trace ++ [(ServiceCall.complete provider latency failed,
        ServiceReply.completed ((P.service none).complete provider latency failed (b, rest)).1)]).countP
          (handedTo p)) :
    Exact (trace ++ [(.complete provider latency failed,
        .completed ((P.service none).complete provider latency failed (b, rest)).1)])
      ((P.service none).complete provider latency failed (b, rest)).2.1 := by
  intro q
  rw [complete_board]
  simp only [Board.load_release]
  by_cases hq : provider = q
  · subst hq
    have hmatched := hm provider
    simp only [List.countP_append, List.countP_singleton, handedTo, completedOn,
      ServiceReply.chosen, beq_self_eq_true, if_true, reduceCtorEq, beq_iff_eq, if_false] at hmatched
    have hpos : 0 < (b.load provider).parallel.toInt := by
      rw [h provider]
      omega
    simp only [if_true]
    rw [Board.ease_of_pos (Int64.lt_iff_toInt_lt.mpr (by simpa using hpos))]
    simp only [Board.toInt_sub_one hpos, h provider]
    simp [List.countP_append, handedTo, completedOn, ServiceReply.chosen]
    omega
  · simp [hq, List.countP_append, handedTo, completedOn, ServiceReply.chosen, h q]

/-- A refused admission leaves every provider's load, the count and the indicator: a request
taken at the hand-off is given back without reaching the floor. -/
theorem refused_loads {trace : List (ServiceCall × ServiceReply)} {b : Board} {rest : ρ}
    (h : Exact trace b) (hm : ∀ p, trace.countP (completedOn p) ≤ trace.countP (handedTo p))
    (hlen : trace.length < 9223372036854775807) {identity : Identity} {router : Int64}
    {tokens : Option Int64} {inline : Option (Span × Bool)} {f : Fault}
    (hr : ((P.service inline).admitRequest identity router tokens (b, rest)).1 = .error f)
    (q : String) :
    ((P.service inline).admitRequest identity router tokens (b, rest)).2.1.load q = b.load q := by
  have hb := h.bounds hm hlen
  rcases admitRequest_board P inline identity router tokens (b, rest) with
    ⟨f', -, hboard⟩ | ⟨f', p, -, hboard⟩ | ⟨d, hok, -⟩
  · rw [hboard]
  · rw [hboard]
    exact Board.load_cancel_acquire b p q (hb p).1 (hb p).2
  · rw [hr] at hok
    cases hok

/-- Along a matched run of bounded length from an empty board, the counts stay exact. -/
theorem run_exact (r₀ : ρ) :
    ∀ {calls : List ServiceCall}, calls.length < 9223372036854775807 →
      Matched (replay P.step (Board.empty, r₀) calls).2 →
        Exact (replay P.step (Board.empty, r₀) calls).2 (replay P.step (Board.empty, r₀) calls).1.1
  | calls, hlen, hm => by
    induction calls using List.reverseRecOn with
    | nil => intro p; simp [replay, Board.load, Board.empty]
    | append_singleton calls c ih =>
      rw [replay_append_singleton] at hm ⊢
      have hlen' : calls.length < 9223372036854775807 := by
        simp only [List.length_append, List.length_singleton] at hlen
        omega
      have hprefix := hm.of_append
      have hexact := ih hlen' hprefix
      have htrace := length_replay P.step (Board.empty, r₀) calls
      generalize (replay P.step (Board.empty, r₀) calls).1 = st at hexact hm ⊢
      generalize (replay P.step (Board.empty, r₀) calls).2 = trace at hexact hprefix hm htrace ⊢
      obtain ⟨b, rest⟩ := st
      cases c with
      | submit identity router tokens inline =>
        exact hexact.submit P hprefix.le (htrace ▸ hlen') identity router tokens inline
      | complete provider latency failed =>
        exact hexact.complete P provider latency failed hm.le

end BoardParts

/-- Requests in flight are counted exactly. Take an admission service whose tracker is the
in-memory board, with any access check, selection, notifier and dispatcher, started on an empty
board, and a run of fewer than `2^63 - 1` admissions and completions in which every completion
is matched to a distinct job handed off to its provider. After the run, each provider's count of
requests in flight is the number of admissions that chose it less the number of completions
reported for it, those reported inside a hand-off included. A next completion matched to a job
finds its provider's count positive, so the release does not reach the zero floor. A next
admission that is refused, by the check, the selection or the hand-off, leaves every provider's
count and performance indicator as they were. -/
theorem in_flight_exact (P : BoardParts ρ) (r₀ : ρ) (calls : List ServiceCall)
    (hlen : calls.length < 9223372036854775807)
    (hmatch : Matched (replay P.step (Board.empty, r₀) calls).2) :
    (∀ p, ((replay P.step (Board.empty, r₀) calls).1.1.load p).parallel.toInt =
      ((replay P.step (Board.empty, r₀) calls).2.countP (handedTo p) : Int) -
        (replay P.step (Board.empty, r₀) calls).2.countP (completedOn p)) ∧
    (∀ p latency failed,
      Matched (replay P.step (Board.empty, r₀) (calls ++ [.complete p latency failed])).2 →
        0 < ((replay P.step (Board.empty, r₀) calls).1.1.load p).parallel) ∧
    (∀ identity router tokens inline f,
      ((P.service inline).admitRequest identity router tokens
          (replay P.step (Board.empty, r₀) calls).1).1 = .error f →
        ∀ p, ((P.service inline).admitRequest identity router tokens
            (replay P.step (Board.empty, r₀) calls).1).2.1.load p =
          (replay P.step (Board.empty, r₀) calls).1.1.load p) := by
  have hexact := BoardParts.run_exact P r₀ hlen hmatch
  have htrace := length_replay P.step (Board.empty, r₀) calls
  refine ⟨hexact, fun p latency failed hm => ?_, fun identity router tokens inline f hr q => ?_⟩
  · have hle := hm.le p
    rw [replay_append_singleton] at hle
    simp only [BoardParts.step, List.countP_append, List.countP_singleton, handedTo, completedOn,
      ServiceReply.chosen, beq_self_eq_true, if_true, reduceCtorEq, beq_iff_eq,
      if_false] at hle
    have hcount := hexact p
    rw [Int64.lt_iff_toInt_lt, Int64.toInt_zero, hcount]
    omega
  · generalize (replay P.step (Board.empty, r₀) calls).1 = st at hexact hr ⊢
    obtain ⟨b, rest⟩ := st
    exact BoardParts.refused_loads P hexact hmatch.le (htrace ▸ hlen) hr q

/-- Two admissions on one chosen provider, the second completed inside its hand-off, then the
first completed. -/
theorem in_flight_exact_served :
    let a : Provider := { Provider.zero with id := "a" }
    let P : BoardParts Unit := ⟨fun _ _ _ _ => (.ok (), ()),
      fun _ _ _ _ => (.ok ⟨Router.zero, .leastBusy, a, none⟩, ()), none,
      fun _ _ => (.ok (), ()), Tuning.default, false, fun _ => ("r", ()), fun _ => (0, ())⟩
    let calls := [ServiceCall.submit Identity.zero 1 none none,
      .submit Identity.zero 1 none (some (0, false)), .complete "a" 0 false]
    calls.length < 9223372036854775807 ∧ Matched (replay P.step (Board.empty, ()) calls).2 ∧
      ((∀ p, ((replay P.step (Board.empty, ()) calls).1.1.load p).parallel.toInt =
        ((replay P.step (Board.empty, ()) calls).2.countP (handedTo p) : Int) -
          (replay P.step (Board.empty, ()) calls).2.countP (completedOn p)) ∧
      (∀ p latency failed,
        Matched (replay P.step (Board.empty, ()) (calls ++ [.complete p latency failed])).2 →
          0 < ((replay P.step (Board.empty, ()) calls).1.1.load p).parallel) ∧
      (∀ identity router tokens inline f,
        ((P.service inline).admitRequest identity router tokens
            (replay P.step (Board.empty, ()) calls).1).1 = .error f →
          ∀ p, ((P.service inline).admitRequest identity router tokens
              (replay P.step (Board.empty, ()) calls).1).2.1.load p =
            (replay P.step (Board.empty, ()) calls).1.1.load p)) := by
  intro a P calls
  have hlen : calls.length < 9223372036854775807 := by simp [calls]
  have htrace : (replay P.step (Board.empty, ()) calls).2 =
      [(calls[0], .admitted (.ok ⟨"r", 1, "", "a", "least_busy", none⟩)),
        (calls[1], .admitted (.ok ⟨"r", 1, "", "a", "least_busy", none⟩)),
        (calls[2], .completed (.ok ()))] := rfl
  have hmatch : Matched (replay P.step (Board.empty, ()) calls).2 := by
    intro n p
    rw [htrace]
    rcases n with _ | _ | _ | n <;> by_cases hp : "a" = p <;>
      simp [hp, calls, handedTo, completedOn, ServiceReply.chosen]
  exact ⟨hlen, hmatch, in_flight_exact P () calls hlen hmatch⟩

end Admission
