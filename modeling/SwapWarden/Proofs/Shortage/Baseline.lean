import Mathlib.Algebra.Group.Nat.Defs
import SwapWarden.Shortage.Verdict

/-!
# What a verdict rests on

The search for a baseline finds only samples of the least age, so a verdict
rests on two samples that are at least that far apart.  A history of fewer
than two samples gives no verdict.
-/

namespace SwapWarden

theorem Duration.signedMillis_eq {duration : Duration}
    (fits : duration.millis < 2 ^ 63) :
    duration.signedMillis = duration.millis := by
  unfold signedMillis UInt64.size
  exact Int.bmod_eq_of_le (by omega) (by omega)

namespace Baseline

theorem search_age {newest : Sample} {least window : Int} {index place : Nat}
    {found : Option Nat} {older : List Sample}
    (result : search newest least window index found older = some place) :
    found = some place ∨ ∃ offset baseline, place = index + offset ∧
      older[offset]? = some baseline ∧
      least ≤ newest.millisSince baseline := by
  induction older generalizing index found with
  | nil => exact .inl result
  | cons sample older induction =>
      have here (taken : (if least ≤ newest.millisSince sample then some index
          else found) = some place) :
          found = some place ∨ ∃ offset baseline, place = index + offset ∧
            (sample :: older)[offset]? = some baseline ∧
            least ≤ newest.millisSince baseline := by
        by_cases aged : least ≤ newest.millisSince sample
        · rw [if_pos aged] at taken
          obtain rfl := Option.some.inj taken
          exact .inr ⟨0, sample, rfl, rfl, aged⟩
        · rw [if_neg aged] at taken
          exact .inl taken
      unfold search at result
      by_cases ends : window ≤ newest.millisSince sample
      · rw [if_pos ends] at result
        exact here result
      · rw [if_neg ends] at result
        rcases induction result with taken | ⟨offset, baseline, placed, held, aged⟩
        · exact here taken
        · exact .inr ⟨offset + 1, baseline, by omega, held, aged⟩

/-- The baseline of a history is an older sample of the least age. -/
theorem index?_age {least window : Duration} {samples : List Sample}
    {place : Nat} (found : index? least window samples = some place) :
    ∃ newest older baseline, samples = newest :: older ∧ baseline ∈ older ∧
      least.signedMillis ≤ newest.millisSince baseline := by
  cases samples with
  | nil => cases found
  | cons newest older =>
      rcases search_age found with before | ⟨offset, baseline, _, held, aged⟩
      · cases before
      · exact ⟨newest, older, baseline, rfl, List.mem_of_getElem? held, aged⟩

end Baseline

namespace ShortageThresholds

theorem judge_rests {thresholds : ShortageThresholds} {samples : List Sample}
    {usage : Except Fault NodeUsage} {verdict : Verdict}
    (judged : thresholds.judge samples usage = .ok verdict) :
    ∃ newest older baseline, samples = newest :: older ∧ baseline ∈ older ∧
      thresholds.minInterval.signedMillis ≤ newest.millisSince baseline := by
  unfold judge at judged
  cases known : thresholds.rates? samples with
  | none =>
      rw [known] at judged
      cases judged
  | some rates =>
      unfold rates? at known
      obtain ⟨_, _, known⟩ := Option.bind_eq_some_iff.mp known
      obtain ⟨place, found, _⟩ := Option.bind_eq_some_iff.mp known
      exact Baseline.index?_age found

theorem judge_too_few (thresholds : ShortageThresholds) {samples : List Sample}
    (usage : Except Fault NodeUsage) (few : samples.length < 2) :
    thresholds.judge samples usage = .error .insufficientData := by
  cases samples with
  | nil => rfl
  | cons newest older =>
      cases older with
      | nil => rfl
      | cons second rest => exact absurd few (by simp)

end ShortageThresholds

end SwapWarden
