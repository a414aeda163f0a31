import SwapWarden.Proofs.Shortage.Window
import SwapWarden.Settings.Validation

/-!
# Intervals in milliseconds

Settings count seconds in words of 64 bits, and the search for a baseline
counts milliseconds in signed ones.  Settings are accepted whatever their
intervals amount to in milliseconds; an interval that does not fit is another
one to the search, and may even be negative.
-/

namespace SwapWarden

theorem Duration.signedMillis_eq_iff {duration : Duration} :
    duration.signedMillis = duration.millis ↔ duration.millis < 2 ^ 63 := by
  constructor
  · intro same
    have bound : duration.signedMillis < (UInt64.size + 1) / 2 :=
      Int.bmod_lt (by decide)
    rw [same] at bound
    unfold UInt64.size at bound
    omega
  · exact Duration.signedMillis_eq

namespace AgentSettings

variable {settings : AgentSettings}

theorem validate_eq_ok_iff :
    settings.validate = .ok () ↔
      settings.hasFactor = true ∧ settings.hasWindow = true ∧
        settings.hasPeriods = true ∧ ¬ settings.workers < 1 ∧
        ∃ kind, settings.usageSourceKind = .ok kind := by
  unfold validate
  cases settings.hasFactor with
  | false => simp
  | true =>
      cases settings.hasWindow with
      | false => simp
      | true =>
          cases settings.hasPeriods with
          | false => simp
          | true =>
              by_cases idle : settings.workers < 1
              · simp [idle]
              · cases settings.usageSourceKind with
                | ok kind => simp [idle]
                | error cause => simp [idle]

theorem usageSourceKind_cgroup (named : settings.usageSource = "cgroup") :
    settings.usageSourceKind = .ok .cgroup := by
  rw [usageSourceKind, named]
  decide +kernel

/-- The most seconds whose milliseconds fit in a signed word. -/
def longestSeconds : Nat := 9223372036854775

/-- Both intervals are to the search what they are in the settings. -/
structure KeepsIntervals (settings : AgentSettings) : Prop where
  least_exact : settings.thresholds.minInterval.signedMillis =
    (settings.minIntervalSeconds.toNat * 1000 : Nat)
  window_exact : settings.thresholds.window.signedMillis =
    (settings.windowSeconds.toNat * 1000 : Nat)
  ordered : settings.thresholds.minInterval.signedMillis ≤
    settings.thresholds.window.signedMillis

/-- A sample is some seconds older than another.  A difference that is less
than a millisecond counts as none. -/
structure IsOlderBy (seconds : Nat) (newest sample : Sample) : Prop where
  millis : (seconds * 1000 : Nat) ≤ newest.millisSince sample
  exact_time : 0 < seconds →
    sample.time + (seconds * 1000000 : Nat) ≤ newest.time

theorem millis_span (seconds : UInt64) :
    (span seconds).millis = seconds.toNat * 1000 :=
  Duration.millis_ofSeconds _

theorem signedMillis_span_iff {seconds : UInt64} :
    (span seconds).signedMillis = (seconds.toNat * 1000 : Nat) ↔
      seconds.toNat ≤ longestSeconds := by
  rw [← millis_span, Duration.signedMillis_eq_iff, millis_span]
  unfold longestSeconds
  omega

theorem isOlderBy_of_millis {seconds : Nat} {newest sample : Sample}
    (old : (seconds * 1000 : Nat) ≤ newest.millisSince sample) :
    IsOlderBy seconds newest sample where
  millis := old
  exact_time positive := by
    unfold Sample.millisSince at old
    by_cases later : 0 ≤ newest.time - sample.time
    · rw [Int.tdiv_eq_ediv_of_nonneg later] at old
      omega
    · have behind : 0 ≤ (-(newest.time - sample.time)).tdiv 1000 :=
        Int.tdiv_nonneg (by omega) (by decide)
      rw [Int.neg_tdiv] at behind
      omega

/-- Accepted intervals are kept exactly when the window is short enough, and
no baseline is too young when the least interval is. -/
theorem accepted_intervals_kept (settings : AgentSettings)
    (accepted : settings.validate = .ok ()) :
    (KeepsIntervals settings ↔
        settings.windowSeconds.toNat ≤ longestSeconds) ∧
      (settings.minIntervalSeconds.toNat ≤ longestSeconds →
        ∀ samples place, Baseline.index? settings.thresholds.minInterval
            settings.thresholds.window samples = some place →
          1 ≤ place ∧ ∃ newest baseline, samples.head? = some newest ∧
            samples[place]? = some baseline ∧
            IsOlderBy settings.minIntervalSeconds.toNat newest baseline) := by
  obtain ⟨_, hasWindow, _⟩ := validate_eq_ok_iff.mp accepted
  have ordered : settings.minIntervalSeconds.toNat ≤
      settings.windowSeconds.toNat :=
    UInt64.le_iff_toNat_le.mp (of_decide_eq_true hasWindow)
  constructor
  · constructor
    · intro kept
      exact signedMillis_span_iff.mp kept.window_exact
    · intro short
      have least := signedMillis_span_iff.mpr (Nat.le_trans ordered short)
      have window := signedMillis_span_iff.mpr short
      refine ⟨least, window, ?_⟩
      rw [thresholds, least, window]
      omega
  · intro short samples place found
    obtain ⟨older, newest, baseline, first, held, old⟩ :=
      Baseline.index?_held found
    refine ⟨older, newest, baseline, first, held, isOlderBy_of_millis ?_⟩
    rwa [thresholds, signedMillis_span_iff.mpr short] at old

/-- The longest intervals that are kept. -/
theorem accepted_intervals_kept_longest :
    let settings : AgentSettings :=
      { windowSeconds := 9223372036854775
        minIntervalSeconds := 9223372036854775 }
    let samples : List Sample :=
      [⟨9223372036854775000000, 9, 9, 0, 0, 0⟩, ⟨1, 8, 8, 0, 0, 0⟩,
        ⟨0, 7, 7, 0, 0, 0⟩]
    settings.validate = .ok () ∧ KeepsIntervals settings ∧
      ∃ newest baseline, samples.head? = some newest ∧
        samples[2]? = some baseline ∧
        IsOlderBy settings.minIntervalSeconds.toNat newest baseline := by
  intro settings samples
  have accepted : settings.validate = .ok () :=
    validate_eq_ok_iff.mpr ⟨by decide +kernel, by decide, by decide,
      by decide, .cgroup, usageSourceKind_cgroup rfl⟩
  obtain ⟨kept, older⟩ := accepted_intervals_kept settings accepted
  have found : Baseline.index? settings.thresholds.minInterval
      settings.thresholds.window samples = some 2 := by decide +kernel
  exact ⟨accepted, kept.mpr (by decide),
    (older (by decide) samples 2 found).2⟩

/-- One second more is accepted too, wraps to less than nothing, and lets a
sample of one second be a baseline. -/
theorem accepted_interval_wraps :
    let settings : AgentSettings :=
      { windowSeconds := 9223372036854776
        minIntervalSeconds := 9223372036854776 }
    let newest : Sample := ⟨1000000, 9, 9, 0, 0, 0⟩
    let older : Sample := ⟨0, 8, 8, 0, 0, 0⟩
    settings.validate = .ok () ∧
      settings.thresholds.minInterval.signedMillis = -9223372036854775616 ∧
      Baseline.index? settings.thresholds.minInterval
        settings.thresholds.window [newest, older] = some 1 ∧
      newest.millisSince older = 1000 := by
  intro settings newest older
  have accepted : settings.validate = .ok () :=
    validate_eq_ok_iff.mpr ⟨by decide +kernel, by decide, by decide,
      by decide, .cgroup, usageSourceKind_cgroup rfl⟩
  exact ⟨accepted, by decide, by decide, by decide⟩

end AgentSettings

end SwapWarden
