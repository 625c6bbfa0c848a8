import Admission.Config.Settings

/-!
# What loaded settings promise

Loading the settings reads every variable and then validates the result, failing with every
problem found. This module states what a load that succeeds guarantees:

* the store timeout is positive;
* the smoothing factor is in `(0, 1]` unless it is NaN: the two range checks are written as
  "at most zero" and "above one", and both comparisons are false for NaN, so a NaN passes;
* each duration variable gives the duration its text denotes (the duration it writes, else
  that many whole seconds, else the default) whenever that count of nanoseconds fits in a
  span (`duration_toInt`). Whole seconds are multiplied up in 64-bit arithmetic, so past the
  bound they wrap.

Main statement: `loaded_settings_bounds`; the two ways out, `nan_alpha_and_wrapped_timeout_load`.
-/

namespace Admission

namespace Binary64

/-- A number that is not NaN has a value to compare by. -/
theorem extended_isSome {x : Binary64} (hx : x.isNaN = false) : ∃ a, x.extended = some a := by
  rcases x with ⟨s, m, e⟩ | ⟨s⟩ | _
  · simp only [extended]
    split <;> exact ⟨_, rfl⟩
  · cases s <;> exact ⟨_, rfl⟩
  · cases hx

/-- Away from NaN the order is total: a number not at most another is above it. -/
theorem lt_of_le_eq_false {x y : Binary64} (hx : x.isNaN = false) (hy : y.isNaN = false)
    (h : le x y = false) : lt y x = true := by
  obtain ⟨a, ha⟩ := extended_isSome hx
  obtain ⟨b, hb⟩ := extended_isSome hy
  simp only [le, lt, eqv, ha, hb] at h ⊢
  cases hab : a.lt b <;> cases hba : b.lt a <;> simp_all

/-- Away from NaN the order is total: a number not below another is at most it. -/
theorem le_of_lt_eq_false {x y : Binary64} (hx : x.isNaN = false) (hy : y.isNaN = false)
    (h : lt y x = false) : le x y = true := by
  obtain ⟨a, ha⟩ := extended_isSome hx
  obtain ⟨b, hb⟩ := extended_isSome hy
  simp only [le, lt, eqv, ha, hb] at h ⊢
  cases hab : a.lt b <;> simp_all

end Binary64

namespace Config

/-- A count of nanoseconds that a span can hold. -/
def FitsSpan (n : Int) : Prop := -9223372036854775808 ≤ n ∧ n < 9223372036854775808

/-- The nanoseconds a duration variable's text denotes: the duration it writes, else that many
whole seconds; none for any other text. -/
def denotedNs (v : String) : Option Int :=
  match Duration.parse v with
  | some d => some d.toInt
  | none => (Decimal.readInt64 v).map fun n => n.toInt * 1000000000

/-- The nanoseconds a duration variable denotes: its text's, or the default's when it is unset,
empty or denotes nothing. -/
def variableNs (env : Environment) (key : String) (default : Span) : Int :=
  match lookup env key with
  | none => default.toInt
  | some v => (denotedNs v).getD default.toInt

/-- A duration variable gives what it denotes whenever that fits in a span. -/
theorem duration_toInt (env : Environment) (key : String) (default : Span)
    (hfits : FitsSpan (variableNs env key default)) :
    (duration env key default).toInt = variableNs env key default := by
  unfold variableNs at hfits ⊢
  unfold duration
  cases hv : lookup env key with
  | none => rfl
  | some v =>
    rw [hv] at hfits
    simp only [denotedNs] at hfits ⊢
    cases hd : Duration.parse v with
    | some d => simp
    | none =>
      cases hn : Decimal.readInt64 v with
      | none => simp
      | some n =>
        simp only [hd, hn, Option.map_some, Option.getD_some, FitsSpan] at hfits ⊢
        rw [Int64.toInt_mul, show Span.second.toInt = 1000000000 by decide]
        exact Int.bmod_eq_of_le (by omega) (by omega)

/-- Validation passes exactly when it finds no problem. -/
theorem validate_eq_none_iff (c : Checked) : c.validate = none ↔ c.problems = [] := by
  unfold Checked.validate
  split <;> simp_all

/-- Loading succeeds exactly when the settings read pass validation, and gives them. -/
theorem load_eq_ok_iff (env : Environment) (s : Settings) :
    load env = .ok s ↔ (read env).checked.validate = none ∧ read env = s := by
  simp only [load]
  split
  · rename_i m hm
    simp [hm]
  · rename_i hm
    simp [hm]

/-- Settings without a problem have a positive store timeout and a smoothing factor that is
NaN or in `(0, 1]`. -/
theorem bounds_of_problems_eq_nil {c : Checked} (h : c.problems = []) :
    0 < c.storeTimeout.toInt ∧
    (c.signalsAlpha.isNaN = false →
      Binary64.lt Binary64.zero c.signalsAlpha = true ∧
        Binary64.le c.signalsAlpha (Binary64.ofInt 1) = true) := by
  unfold Checked.problems at h
  simp only [List.append_eq_nil_iff, and_assoc] at h
  obtain ⟨-, -, -, htimeout, halpha, -⟩ := h
  refine ⟨?_, fun hnan => ?_⟩
  · have hpos : ¬c.storeTimeout ≤ 0 := by
      intro hle
      simp [hle] at htimeout
    rw [Int64.le_iff_toInt_le, Int64.toInt_zero] at hpos
    omega
  · have hchecks : (Binary64.le c.signalsAlpha Binary64.zero ||
        Binary64.lt (Binary64.ofInt 1) c.signalsAlpha) = false := by
      cases hfired : (Binary64.le c.signalsAlpha Binary64.zero ||
          Binary64.lt (Binary64.ofInt 1) c.signalsAlpha) with
      | false => rfl
      | true => simp [hfired] at halpha
    rw [Bool.or_eq_false_iff] at hchecks
    exact ⟨Binary64.lt_of_le_eq_false hnan rfl hchecks.1,
      Binary64.le_of_lt_eq_false hnan (by decide) hchecks.2⟩

/-- Loaded settings honour their bounds, up to NaN and wrapping. For every environment, settings
that load have a positive store timeout and a smoothing factor in `(0, 1]` unless it is NaN; and
each of `STORE_TIMEOUT`, `ROLE_CACHE_TTL`, `NOTIFICATION_DEDUP_TTL` and `SHUTDOWN_TIMEOUT` gives
the duration its text denotes (the duration it writes, else that many whole seconds, else the
default) whenever that count of nanoseconds fits in a span. -/
theorem loaded_settings_bounds (env : Environment) {s : Settings} (h : load env = .ok s) :
    0 < s.storeTimeout.toInt ∧
    (s.signalsAlpha.isNaN = false →
      Binary64.lt Binary64.zero s.signalsAlpha = true ∧
        Binary64.le s.signalsAlpha (Binary64.ofInt 1) = true) ∧
    (FitsSpan (variableNs env "STORE_TIMEOUT" (250 * Span.millisecond)) →
      s.storeTimeout.toInt = variableNs env "STORE_TIMEOUT" (250 * Span.millisecond)) ∧
    (FitsSpan (variableNs env "ROLE_CACHE_TTL" Span.minute) →
      s.roleCacheTtl.toInt = variableNs env "ROLE_CACHE_TTL" Span.minute) ∧
    (FitsSpan (variableNs env "NOTIFICATION_DEDUP_TTL" Span.hour) →
      s.notificationDedupTtl.toInt = variableNs env "NOTIFICATION_DEDUP_TTL" Span.hour) ∧
    (FitsSpan (variableNs env "SHUTDOWN_TIMEOUT" (30 * Span.second)) →
      s.shutdownTimeout.toInt = variableNs env "SHUTDOWN_TIMEOUT" (30 * Span.second)) := by
  obtain ⟨hvalid, rfl⟩ := (load_eq_ok_iff env s).mp h
  obtain ⟨htimeout, halpha⟩ :=
    bounds_of_problems_eq_nil ((validate_eq_none_iff _).mp hvalid)
  exact ⟨htimeout, halpha, duration_toInt env _ _, duration_toInt env _ _,
    duration_toInt env _ _, duration_toInt env _ _⟩

/-- Two seconds of store timeout and a smoothing factor of a half load, as what they denote. -/
theorem loaded_settings_bounds_of_two_seconds :
    let env : Environment := fun k =>
      if k = "STORE_TIMEOUT" then some "2" else if k = "SIGNALS_ALPHA" then some "0.5" else none
    let s := read env
    load env = .ok s ∧
    0 < s.storeTimeout.toInt ∧
    (s.signalsAlpha.isNaN = false →
      Binary64.lt Binary64.zero s.signalsAlpha = true ∧
        Binary64.le s.signalsAlpha (Binary64.ofInt 1) = true) ∧
    (FitsSpan (variableNs env "STORE_TIMEOUT" (250 * Span.millisecond)) →
      s.storeTimeout.toInt = variableNs env "STORE_TIMEOUT" (250 * Span.millisecond)) ∧
    (FitsSpan (variableNs env "ROLE_CACHE_TTL" Span.minute) →
      s.roleCacheTtl.toInt = variableNs env "ROLE_CACHE_TTL" Span.minute) ∧
    (FitsSpan (variableNs env "NOTIFICATION_DEDUP_TTL" Span.hour) →
      s.notificationDedupTtl.toInt = variableNs env "NOTIFICATION_DEDUP_TTL" Span.hour) ∧
    (FitsSpan (variableNs env "SHUTDOWN_TIMEOUT" (30 * Span.second)) →
      s.shutdownTimeout.toInt = variableNs env "SHUTDOWN_TIMEOUT" (30 * Span.second)) := by
  intro env s
  have hload : load env = .ok s :=
    (load_eq_ok_iff env s).mpr ⟨by decide +kernel, rfl⟩
  exact ⟨hload, loaded_settings_bounds env hload⟩

/-- Both ways out of the bounds load without a problem. `SIGNALS_ALPHA=NaN` gives a NaN
smoothing factor, which is not above zero; `STORE_TIMEOUT=18446744074` denotes that many
seconds, and gives 290448384 ns, the product wrapped past 64 bits. -/
theorem nan_alpha_and_wrapped_timeout_load :
    let nanEnv : Environment := fun k => if k = "SIGNALS_ALPHA" then some "NaN" else none
    let wrapEnv : Environment := fun k => if k = "STORE_TIMEOUT" then some "18446744074" else none
    load nanEnv = .ok (read nanEnv) ∧ (read nanEnv).signalsAlpha = .nan ∧
    Binary64.lt Binary64.zero (read nanEnv).signalsAlpha = false ∧
    load wrapEnv = .ok (read wrapEnv) ∧ (read wrapEnv).storeTimeout.toInt = 290448384 ∧
    variableNs wrapEnv "STORE_TIMEOUT" (250 * Span.millisecond) = 18446744074000000000 := by
  intro nanEnv wrapEnv
  have hnan : (read nanEnv).signalsAlpha = .nan := by decide
  refine ⟨(load_eq_ok_iff _ _).mpr ⟨by decide, rfl⟩, hnan, by rw [hnan]; rfl,
    (load_eq_ok_iff _ _).mpr ⟨by decide +kernel, rfl⟩, by decide, by decide⟩

end Config

end Admission
