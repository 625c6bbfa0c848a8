import Mathlib
import Admission.Http.Api
import Admission.Proofs.InFlight

/-!
# The latency of a completion

A completion report `{"latency_ms", "failed"}` is accepted when its latency is not negative; the
handler then hands the service the latency as a span, `latency_ms` times a millisecond in 64-bit
arithmetic, and the in-memory tracker folds that span, in seconds, into the provider's
performance indicator.

* Up to `9223372036854` ms, the largest count whose nanoseconds fit in 64 bits, the span handed
  on is exactly the latency, and the sample it gives is a number of the positive sign, so not
  negative (`completion_latency_exact`). Non-negative spans give such samples because every
  step of `seconds` keeps the positive sign (`seconds_plusSigned`).
* Past that bound the product wraps: a report of `9223372036855` ms is accepted, and the
  provider's indicator becomes about `-9.2e9` seconds (`completion_latency_wraps`).
-/

namespace Admission

namespace Binary64

/-- A number of the positive sign: `+0`, a positive finite number or `+∞`. -/
def PlusSigned : Binary64 → Prop
  | .finite s _ _ => s = false
  | .infinite s => s = false
  | .nan => False

/-- Rounding keeps the sign it is given. -/
theorem round_sign (neg : Bool) (num den : Nat) :
    (∃ m e, round neg num den = .finite neg m e) ∨ round neg num den = .infinite neg := by
  unfold round
  split
  · exact .inl ⟨_, _, rfl⟩
  · dsimp only
    split_ifs <;> first | exact .inr rfl | exact .inl ⟨_, _, rfl⟩

theorem plusSigned_round (num den : Nat) : (round false num den).PlusSigned := by
  rcases round_sign false num den with ⟨m, e, h⟩ | h <;> rw [h] <;> rfl

theorem plusSigned_ofInt {n : Int} (h : 0 ≤ n) : (ofInt n).PlusSigned := by
  rw [ofInt, decide_eq_false (Int.not_lt.mpr h)]
  exact plusSigned_round _ _

/-- A quotient by a positive finite number keeps the positive sign. -/
theorem plusSigned_div {x y : Binary64} (hx : x.PlusSigned) {n : Nat} {f : Int}
    (hy : y = .finite false n f) (hn : n ≠ 0) : (x / y).PlusSigned := by
  subst hy
  rcases x with ⟨s, m, e⟩ | ⟨s⟩ | _
  · cases hx
    show (div (.finite false m e) (.finite false n f)).PlusSigned
    simp only [div, hn, if_false, bne_self_eq_false]
    split <;> exact plusSigned_round _ _
  · cases hx
    rfl
  · exact hx.elim

/-- A sum of two numbers of the positive sign has the positive sign. -/
theorem plusSigned_add {x y : Binary64} (hx : x.PlusSigned) (hy : y.PlusSigned) :
    (x + y).PlusSigned := by
  rcases x with ⟨s, m, e⟩ | ⟨s⟩ | _ <;> rcases y with ⟨t, n, f⟩ | ⟨t⟩ | _ <;>
    first | exact hx.elim | exact hy.elim | skip
  · cases hx
    cases hy
    show (add (.finite false m e) (.finite false n f)).PlusSigned
    have hv : 0 ≤ signedAt false m e (min e f) + signedAt false n f (min e f) := by
      simp only [signedAt, Bool.false_eq_true, if_false]
      omega
    simp only [add]
    split
    · rfl
    · rw [decide_eq_false (Int.not_lt.mpr hv)]
      exact plusSigned_round _ _
  · cases hx
    cases hy
    rfl
  · cases hx
    cases hy
    rfl
  · cases hx
    cases hy
    rfl

/-- A number of the positive sign is at least zero. -/
theorem le_zero_of_plusSigned {x : Binary64} (hx : x.PlusSigned) : le zero x = true := by
  rcases x with ⟨s, m, e⟩ | ⟨s⟩ | _
  · cases hx
    obtain ⟨a, b, hext⟩ : ∃ a b : Nat, extended (.finite false m e) = some (.ratio a b) := by
      by_cases he : 0 ≤ e
      · exact ⟨m * Nat.pow 2 e.toNat, 1, by simp [extended, ratio, he]⟩
      · exact ⟨m, Nat.pow 2 (-e).toNat, by simp [extended, ratio, he]⟩
    have hzero : extended zero = some (.ratio 0 (Nat.pow 2 (-minExp).toNat)) := rfl
    have hnot : Extended.lt (.ratio a b) (.ratio 0 (Nat.pow 2 (-minExp).toNat)) = false := by
      simp only [Extended.lt, decide_eq_false_iff_not, not_lt, zero_mul]
      positivity
    simp only [le, lt, eqv, hext, hzero, hnot]
    cases Extended.lt _ _ <;> rfl
  · cases hx
    rfl
  · exact hx.elim

end Binary64

namespace Tracker

open Binary64

/-- A span that is not negative is, in seconds, a number of the positive sign. -/
theorem seconds_plusSigned {d : Span} (h : 0 ≤ d.toInt) : (seconds d).PlusSigned := by
  have hbillion : ∃ n f, Binary64.ofInt 1000000000 = .finite false n f ∧ n ≠ 0 :=
    ⟨_, _, rfl, by decide⟩
  obtain ⟨n, f, hb, hn⟩ := hbillion
  exact plusSigned_add (plusSigned_ofInt (Int.tdiv_nonneg h (by decide)))
    (plusSigned_div (plusSigned_ofInt (Int.tmod_nonneg _ h)) hb hn)

end Tracker

namespace Http

open Tracker

variable {σ : Type}

/-- The largest latency in milliseconds whose nanoseconds fit in a span. -/
def maxExactLatencyMs : Int := 9223372036854

/-- A latency in milliseconds up to the bound becomes a span of exactly that many
milliseconds. -/
theorem toInt_mul_millisecond {ms : Int64} (h₀ : 0 ≤ ms.toInt) (h₁ : ms.toInt ≤ maxExactLatencyMs) :
    (ms * Span.millisecond).toInt = ms.toInt * 1000000 := by
  rw [Int64.toInt_mul]
  have hms : Span.millisecond.toInt = 1000000 := by decide
  rw [hms]
  exact Int.bmod_eq_of_le (by omega) (by simp only [maxExactLatencyMs] at h₁; omega)

/-- The answer to an accepted completion report, from the service's answer: 204, or 500 when
the service failed. -/
def completionResponse : Except Fault Unit → Response
  | .ok () => Response.empty 204
  | .error _ => Response.failure 500 "internal error"

/-- An accepted completion report is handed to the service with the latency as a span of that
many milliseconds, computed in 64-bit arithmetic; the answer is 204, or 500 when the service
fails. -/
theorem completion_of_accepted (api : Api σ) (provider : String) (req : Request) (s : σ)
    {rep : Report} (hbody : decodeBody Report.reader ⟨0, false⟩ req.body = some rep)
    (hnonneg : 0 ≤ rep.latencyMs.toInt) :
    api.completion provider req s =
      (completionResponse (api.service.complete provider (rep.latencyMs * Span.millisecond)
          rep.failed s).1,
        (api.service.complete provider (rep.latencyMs * Span.millisecond) rep.failed s).2) := by
  have hkeep : ¬rep.latencyMs < 0 := fun h => by
    have := Int64.lt_iff_toInt_lt.mp h
    simp only [Int64.toInt_zero] at this
    omega
  rcases hdone : api.service.complete provider (rep.latencyMs * Span.millisecond) rep.failed s
    with ⟨_ | _, s'⟩ <;>
  simp only [Api.completion, hbody, hkeep, if_false, hdone, completionResponse]

/-- Completion latencies are exact and not negative up to `9223372036854` ms. Take any service
and any accepted completion report, one whose `latency_ms` is not negative, with `latency_ms` at
most `9223372036854`. The handler hands the service a span of exactly `latency_ms`
milliseconds, which is not negative, and answers 204, or 500 when the service fails. On the
in-memory tracker that span, when the request did not fail, is folded into the provider's
performance indicator as a sample that is not negative. -/
theorem completion_latency_exact (api : Api σ) (provider : String) (req : Request) (s : σ)
    {rep : Report} (hbody : decodeBody Report.reader ⟨0, false⟩ req.body = some rep)
    (hnonneg : 0 ≤ rep.latencyMs.toInt) (hfits : rep.latencyMs.toInt ≤ maxExactLatencyMs) :
    let latency := rep.latencyMs * Span.millisecond
    latency.toInt = rep.latencyMs.toInt * 1000000 ∧ 0 ≤ latency.toInt ∧
    api.completion provider req s =
      (completionResponse (api.service.complete provider latency rep.failed s).1,
        (api.service.complete provider latency rep.failed s).2) ∧
    ∀ (t : Tuning) (b : Board),
      ((b.release t provider latency rep.failed).load provider).performance =
        some (ewma t.alpha (b.load provider).performance (t.sample latency rep.failed)) ∧
      (rep.failed = false → Binary64.le Binary64.zero (t.sample latency rep.failed) = true) := by
  intro latency
  have hexact : latency.toInt = rep.latencyMs.toInt * 1000000 :=
    toInt_mul_millisecond hnonneg hfits
  have hpos : 0 ≤ latency.toInt := by omega
  refine ⟨hexact, hpos, completion_of_accepted api provider req s hbody hnonneg,
    fun t b => ⟨?_, ?_⟩⟩
  · rw [Board.load_release, if_pos rfl]
    simp only [Load.ease]
    split <;> rfl
  · intro hfailed
    rw [hfailed]
    exact Binary64.le_zero_of_plusSigned (seconds_plusSigned hpos)

/-- A report of 1.5 s, to a service whose tracker is the in-memory one. -/
theorem completion_latency_exact_of_short_report :
    let api : Api Board := {
      service := ⟨fun _ _ _ b => (.ok (), b), fun _ _ b => (.error (.sentinel .noCandidates), b),
        some ⟨fun _ b => (.ok (), b), fun id l f b => (.ok (), b.release Tuning.default id l f),
          fun _ b => (.ok (), b)⟩, none, none, false, fun b => ("", b), fun b => (0, b)⟩
      user := fun _ b => (.error (.sentinel .userNotFound), b)
      permissions := fun _ b => (.ok [], b)
      resetLimits := fun b => (.ok (), b)
      invalidate := none
      probe := fun b => ([], b)
      master := 0
      admin := true
      version := "" }
    let req : Request := ⟨"POST", "/v1/providers/a/completions", "/v1/providers/a/completions",
      "", [], "\x7b\"latency_ms\": 1500, \"failed\": false\x7d"⟩
    let rep : Report := ⟨1500, false⟩
    decodeBody Report.reader ⟨0, false⟩ req.body = some rep ∧ 0 ≤ rep.latencyMs.toInt ∧
    rep.latencyMs.toInt ≤ maxExactLatencyMs ∧
    let latency := rep.latencyMs * Span.millisecond
    latency.toInt = rep.latencyMs.toInt * 1000000 ∧ 0 ≤ latency.toInt ∧
    api.completion "a" req Board.empty =
      (completionResponse (api.service.complete "a" latency rep.failed Board.empty).1,
        (api.service.complete "a" latency rep.failed Board.empty).2) ∧
    ∀ (t : Tuning) (b : Board),
      ((b.release t "a" latency rep.failed).load "a").performance =
        some (ewma t.alpha (b.load "a").performance (t.sample latency rep.failed)) ∧
      (rep.failed = false → Binary64.le Binary64.zero (t.sample latency rep.failed) = true) := by
  intro api req rep
  have hbody : decodeBody Report.reader ⟨0, false⟩ req.body = some rep := by cbv
  have hnonneg : 0 ≤ rep.latencyMs.toInt := by decide
  have hfits : rep.latencyMs.toInt ≤ maxExactLatencyMs := by decide
  exact ⟨hbody, hnonneg, hfits,
    completion_latency_exact api "a" req Board.empty hbody hnonneg hfits⟩

/-- Past the bound the latency wraps. A report of `9223372036855` ms, which is not negative, is
accepted and answered 204, and the in-memory tracker's indicator for the provider becomes a
negative number of seconds: the span handed on was `-9223372036854551616` ns. -/
theorem completion_latency_wraps :
    let api : Api Board := {
      service := ⟨fun _ _ _ b => (.ok (), b), fun _ _ b => (.error (.sentinel .noCandidates), b),
        some ⟨fun _ b => (.ok (), b), fun id l f b => (.ok (), b.release Tuning.default id l f),
          fun _ b => (.ok (), b)⟩, none, none, false, fun b => ("", b), fun b => (0, b)⟩
      user := fun _ b => (.error (.sentinel .userNotFound), b)
      permissions := fun _ b => (.ok [], b)
      resetLimits := fun b => (.ok (), b)
      invalidate := none
      probe := fun b => ([], b)
      master := 0
      admin := true
      version := "" }
    let req : Request := ⟨"POST", "/v1/providers/a/completions", "/v1/providers/a/completions",
      "", [], "\x7b\"latency_ms\": 9223372036855, \"failed\": false\x7d"⟩
    let latency : Span := 9223372036855 * Span.millisecond
    (api.completion "a" req Board.empty).1.status = 204 ∧
    ((api.completion "a" req Board.empty).2.load "a").performance = some (seconds latency) ∧
    latency.toInt = -9223372036854551616 ∧ Binary64.lt (seconds latency) Binary64.zero = true := by
  intro api req latency
  have hbody : decodeBody Report.reader ⟨0, false⟩ req.body = some ⟨9223372036855, false⟩ := by
    cbv
  have hrun : api.completion "a" req Board.empty =
      (Response.empty 204, Board.empty.release Tuning.default "a" latency false) := by
    rw [completion_of_accepted api "a" req Board.empty hbody (by decide)]
    rfl
  rw [hrun]
  refine ⟨rfl, ?_, by decide, by decide +kernel⟩
  rw [Board.load_release, if_pos rfl]
  rfl

end Http

end Admission
