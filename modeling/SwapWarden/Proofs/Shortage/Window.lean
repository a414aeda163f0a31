import Mathlib.Order.Bounds.Basic
import SwapWarden.Proofs.Shortage.Baseline
import SwapWarden.Usage.Source

/-!
# Which sample is the baseline

The window of a history ends with the first older sample that is as old as the
window is long, or with the last sample when none is.  The baseline is the last
sample up to there that has the least age.  Times may come in any order: the
search is followed place by place, and only a history whose ages ascend makes
the baseline the first sample past the window or else the oldest one.
-/

namespace SwapWarden

namespace Baseline

/-- How much older each sample of a history is than the newest one. -/
def ages : List Sample → List Int
  | [] => []
  | newest :: older => (newest :: older).map newest.millisSince

/-- An older sample has at least some age. -/
def Aged (samples : List Sample) (millis : Int) (place : Nat) : Prop :=
  1 ≤ place ∧ ∃ age ∈ (ages samples)[place]?, millis ≤ age

/-- The window of a history ends at a place. -/
def EndsAt (samples : List Sample) (window : Int) (last : Nat) : Prop :=
  IsLeast {place | Aged samples window place} last ∨
    (∀ place, ¬ Aged samples window place) ∧ last = samples.length - 1

/-- The last place up to a bound where a sample has some age, if there is one.
-/
def LastAged (samples : List Sample) (millis : Int) (bound : Nat) :
    Option Nat → Prop
  | some place =>
      IsGreatest {place | place ≤ bound ∧ Aged samples millis place} place
  | none => ∀ place ≤ bound, ¬ Aged samples millis place

variable {samples : List Sample} {millis least window : Int}
  {place bound last : Nat} {found : Option Nat}

theorem length_ages : (ages samples).length = samples.length := by
  cases samples with
  | nil => rfl
  | cons newest older => exact List.length_map _

theorem Aged.lt_length (aged : Aged samples millis place) :
    place < samples.length := by
  obtain ⟨_, age, known, _⟩ := aged
  rw [← length_ages]
  exact (List.getElem?_eq_some_iff.mp known).1

theorem Aged.mono (aged : Aged samples window place) (less : least ≤ window) :
    Aged samples least place := by
  obtain ⟨older, age, known, old⟩ := aged
  exact ⟨older, age, known, Int.le_trans less old⟩

/-- The sample between those passed and those ahead. -/
theorem aged_next_iff {newest sample : Sample} {passed ahead : List Sample} :
    Aged (newest :: (passed ++ sample :: ahead)) millis (passed.length + 1) ↔
      millis ≤ newest.millisSince sample := by
  have known : (ages (newest :: (passed ++ sample :: ahead)))[
      passed.length + 1]? = some (newest.millisSince sample) := by
    simp [ages]
  constructor
  · rintro ⟨_, age, same, old⟩
    obtain rfl := Option.some.inj (known.symm.trans same)
    exact old
  · intro old
    exact ⟨Nat.le_add_left 1 _, _, known, old⟩

/-! ## The last place of some age -/

namespace LastAged

theorem start (samples : List Sample) (millis : Int) :
    LastAged samples millis 0 none := by
  intro place within aged
  have older := aged.1
  omega

theorem taken (aged : Aged samples millis bound) :
    LastAged samples millis bound (some bound) :=
  ⟨⟨Nat.le_refl bound, aged⟩, fun _ reached => reached.1⟩

theorem kept (before : LastAged samples millis bound found)
    (young : ¬ Aged samples millis (bound + 1)) :
    LastAged samples millis (bound + 1) found := by
  have sooner {other : Nat} (within : other ≤ bound + 1)
      (aged : Aged samples millis other) : other ≤ bound := by
    have different : other ≠ bound + 1 := by
      rintro rfl
      exact young aged
    omega
  cases found with
  | none => exact fun other within aged => before other (sooner within aged) aged
  | some place =>
      obtain ⟨⟨within, aged⟩, greatest⟩ := before
      refine ⟨⟨Nat.le_succ_of_le within, aged⟩, ?_⟩
      intro other reached
      exact greatest ⟨sooner reached.1 reached.2, reached.2⟩

theorem eq_some_iff (found? : LastAged samples millis bound found) :
    found = some place ↔
      IsGreatest {place | place ≤ bound ∧ Aged samples millis place} place := by
  cases found with
  | none =>
      constructor
      · intro impossible
        cases impossible
      · intro greatest
        exact absurd greatest.1.2 (found? place greatest.1.1)
  | some other =>
      constructor
      · rintro ⟨⟩
        exact found?
      · intro greatest
        rw [IsGreatest.unique found? greatest]

theorem eq_none_iff (found? : LastAged samples millis bound found) :
    found = none ↔ ∀ place ≤ bound, ¬ Aged samples millis place := by
  cases found with
  | none => exact iff_of_true rfl found?
  | some place =>
      refine iff_of_false (Option.some_ne_none place) ?_
      intro young
      exact young place found?.1.1 found?.1.2

end LastAged

/-! ## The search -/

theorem EndsAt.unique {other : Nat} (ends : EndsAt samples window last)
    (endsToo : EndsAt samples window other) : last = other := by
  rcases ends with first | ⟨young, rfl⟩
  · rcases endsToo with firstToo | ⟨young, _⟩
    · exact first.unique firstToo
    · exact absurd first.1 (young last)
  · rcases endsToo with first | ⟨_, rfl⟩
    · exact absurd first.1 (young other)
    · rfl

/-- Every step of the search keeps what was found up to the samples passed the
last place of the least age, and passes no sample as old as the window. -/
theorem search_lastAged {newest : Sample} {passed ahead : List Sample}
    (parts : samples = newest :: (passed ++ ahead))
    (within : ∀ place ≤ passed.length, ¬ Aged samples window place)
    (before : LastAged samples least passed.length found) :
    ∃ last, EndsAt samples window last ∧
      LastAged samples least last
        (search newest least window (passed.length + 1) found ahead) := by
  induction ahead generalizing passed found with
  | nil =>
      refine ⟨passed.length, .inr ⟨?_, by simp [parts]⟩, before⟩
      intro place aged
      have bound := aged.lt_length
      refine within place ?_ aged
      simp only [parts, List.append_nil, List.length_cons] at bound
      omega
  | cons sample ahead induction =>
      have here (span : Int) : Aged samples span (passed.length + 1) ↔
          span ≤ newest.millisSince sample := parts ▸ aged_next_iff
      have updated : LastAged samples least (passed.length + 1)
          (if least ≤ newest.millisSince sample then
            some (passed.length + 1) else found) := by
        by_cases aged : least ≤ newest.millisSince sample
        · rw [if_pos aged]
          exact .taken ((here least).mpr aged)
        · rw [if_neg aged]
          exact before.kept (mt (here least).mp aged)
      unfold search
      by_cases ends : window ≤ newest.millisSince sample
      · refine ⟨passed.length + 1, .inl ⟨(here window).mpr ends, ?_⟩, ?_⟩
        · intro place aged
          by_contra sooner
          exact within place (by omega) aged
        · rw [if_pos ends]
          exact updated
      · rw [if_neg ends]
        have longer : (passed ++ [sample]).length = passed.length + 1 := by simp
        rw [← longer] at updated ⊢
        refine induction (by simp [parts]) ?_ updated
        intro place reached aged
        rw [longer] at reached
        by_cases last : place = passed.length + 1
        · exact ends ((here window).mp (last ▸ aged))
        · exact within place (by omega) aged

theorem index?_lastAged {leastSpan windowSpan : Duration}
    (leastFits : leastSpan.millis < 2 ^ 63)
    (windowFits : windowSpan.millis < 2 ^ 63) (samples : List Sample) :
    ∃ last, EndsAt samples windowSpan.millis last ∧
      LastAged samples leastSpan.millis last
        (index? leastSpan windowSpan samples) := by
  cases samples with
  | nil =>
      have young (span : Int) (place : Nat) : ¬ Aged [] span place :=
        fun aged => absurd aged.lt_length (Nat.not_lt_zero place)
      exact ⟨0, .inr ⟨young _, rfl⟩, fun place _ => young _ place⟩
  | cons newest older =>
      rw [index?, Duration.signedMillis_eq leastFits,
        Duration.signedMillis_eq windowFits]
      have parts : newest :: older = newest :: ([] ++ older) := rfl
      exact search_lastAged parts
        (fun place none => LastAged.start _ _ place none) (LastAged.start _ _)

theorem index?_held {leastSpan windowSpan : Duration}
    (result : index? leastSpan windowSpan samples = some place) :
    1 ≤ place ∧ ∃ newest baseline, samples.head? = some newest ∧
      samples[place]? = some baseline ∧
      leastSpan.signedMillis ≤ newest.millisSince baseline := by
  cases samples with
  | nil => cases result
  | cons newest older =>
      rcases search_age result with before | ⟨offset, baseline, rfl, held, old⟩
      · cases before
      · refine ⟨Nat.le_add_right 1 offset, newest, baseline, rfl, ?_, old⟩
        rw [Nat.add_comm, List.getElem?_cons_succ]
        exact held

/-- What is found among samples is the baseline for a least age and a window,
in milliseconds. -/
structure IsBaseline (samples : List Sample) (least window : Int)
    (found : Option Nat) : Prop where
  window_ends : ∃! last, EndsAt samples window last
  last_aged : ∀ last, EndsAt samples window last → ∀ place,
    found = some place ↔
      IsGreatest {place | place ≤ last ∧ Aged samples least place} place
  none_aged : ∀ last, EndsAt samples window last →
    (found = none ↔ ∀ place ≤ last, ¬ Aged samples least place)
  past_window : least ≤ window → ∀ place,
    IsLeast {place | Aged samples window place} place → found = some place
  oldest : (ages samples).tail.Pairwise (· ≤ ·) →
    (∀ place, ¬ Aged samples window place) →
      (Aged samples least (samples.length - 1) →
        found = some (samples.length - 1)) ∧
      (¬ Aged samples least (samples.length - 1) → found = none)

/-- Where ages ascend, the oldest sample has every age that some sample has. -/
theorem Aged.oldest (ascending : (ages samples).tail.Pairwise (· ≤ ·))
    (aged : Aged samples millis place) :
    Aged samples millis (samples.length - 1) := by
  have bound := aged.lt_length
  obtain ⟨older, age, known, old⟩ := aged
  obtain ⟨inside, rfl⟩ := List.getElem?_eq_some_iff.mp known
  have length : (ages samples).length = samples.length := length_ages
  have lastInside : samples.length - 1 < (ages samples).length := by omega
  refine ⟨by omega, _, List.getElem?_eq_getElem lastInside, ?_⟩
  by_cases same : place = samples.length - 1
  · subst same
    exact old
  · have ordered := List.pairwise_iff_getElem.mp ascending (place - 1)
      (samples.length - 1 - 1) (by simp; omega) (by simp; omega) (by omega)
    simp only [List.getElem_tail, Nat.sub_add_cancel older,
      Nat.sub_add_cancel (show 1 ≤ samples.length - 1 by omega)] at ordered
    exact Int.le_trans old ordered

theorem LastAged.isBaseline (ends : EndsAt samples window last)
    (lastAged : LastAged samples least last found) :
    IsBaseline samples least window found where
  window_ends := ⟨last, ends, fun _ endsToo => endsToo.unique ends⟩
  last_aged other endsToo place := by
    obtain rfl := ends.unique endsToo
    exact lastAged.eq_some_iff
  none_aged other endsToo := by
    obtain rfl := ends.unique endsToo
    exact lastAged.eq_none_iff
  past_window less place first := by
    obtain rfl := ends.unique (.inl first)
    refine lastAged.eq_some_iff.mpr ⟨⟨Nat.le_refl last, first.1.mono less⟩, ?_⟩
    exact fun _ reached => reached.1
  oldest ascending young := by
    obtain rfl := ends.unique (.inr ⟨young, rfl⟩)
    constructor
    · intro aged
      refine lastAged.eq_some_iff.mpr ⟨⟨Nat.le_refl _, aged⟩, ?_⟩
      exact fun _ reached => reached.1
    · intro youngest
      refine lastAged.eq_none_iff.mpr ?_
      intro place _ aged
      exact youngest (aged.oldest ascending)

end Baseline

namespace ShortageThresholds

/-- There are rates exactly when there is a baseline. -/
theorem rates?_eq_none_iff {thresholds : ShortageThresholds}
    {samples : List Sample} :
    thresholds.rates? samples = none ↔
      Baseline.index? thresholds.minInterval thresholds.window samples =
        none := by
  cases samples with
  | nil => exact iff_of_true rfl rfl
  | cons newest older =>
      cases found : Baseline.index? thresholds.minInterval thresholds.window
          (newest :: older) with
      | none => simp [rates?, found]
      | some place =>
          obtain ⟨_, _, baseline, _, held, _⟩ := Baseline.index?_held found
          simp [rates?, found, held]

/-- A verdict fails for want of data exactly when there is no baseline, where
reading the usage does not fail so itself. -/
theorem judge_eq_insufficientData_iff {thresholds : ShortageThresholds}
    {samples : List Sample} {usage : Except Fault NodeUsage}
    (measured : usage ≠ .error .insufficientData) :
    thresholds.judge samples usage = .error .insufficientData ↔
      Baseline.index? thresholds.minInterval thresholds.window samples =
        none := by
  rw [← rates?_eq_none_iff, judge]
  cases thresholds.rates? samples with
  | none => exact iff_of_true rfl rfl
  | some rates =>
      refine iff_of_false ?_ (Option.some_ne_none rates)
      intro judged
      cases usage with
      | ok usage => cases judged
      | error fault =>
          obtain rfl : fault = .insufficientData := Except.error.inj judged
          exact measured rfl

end ShortageThresholds

/-! ## Usage of a node -/

namespace Meminfo

theorem fault_of_required {Result : Type}
    {table : Table (List Char) UInt64} {key : String}
    {next : UInt64 → Except Fault Result} {fault : Fault}
    (failed : required table key >>= next = .error fault) :
    (∃ field, fault = .noMeminfoField field) ∨
      ∃ value, next value = .error fault := by
  unfold required at failed
  cases held : table.get? key.toList with
  | none =>
      rw [held] at failed
      exact .inl ⟨key, (Except.error.inj failed).symm⟩
  | some value =>
      rw [held] at failed
      exact .inr ⟨value, failed⟩

theorem fault_of_parse {text : String} {fault : Fault}
    (failed : parse text = .error fault) :
    ∃ field, fault = .noMeminfoField field := by
  unfold parse at failed
  rcases fault_of_required failed with missing | ⟨_, failed⟩
  · exact missing
  rcases fault_of_required failed with missing | ⟨_, failed⟩
  · exact missing
  rcases fault_of_required failed with missing | ⟨_, failed⟩
  · exact missing
  rcases fault_of_required failed with missing | ⟨_, failed⟩
  · exact missing
  rcases fault_of_required failed with missing | ⟨_, failed⟩
  · exact missing
  cases failed

theorem read_ne_insufficientData (tree : FileTree) (procRoot : String) :
    read tree procRoot ≠ .error .insufficientData := by
  intro failed
  unfold read FileTree.readOrFault at failed
  cases text : tree.readText (FileTree.joinPath procRoot "meminfo") with
  | error cause =>
      rw [text] at failed
      cases failed
  | ok text =>
      rw [text] at failed
      obtain ⟨field, different⟩ := fault_of_parse failed
      cases different

end Meminfo

theorem UsageSource.nodeUsage_ne_insufficientData (source : UsageSource)
    (tree : FileTree) :
    source.nodeUsage tree ≠ .error .insufficientData := by
  intro failed
  unfold nodeUsage at failed
  cases info : Meminfo.read tree source.procRoot with
  | ok info =>
      rw [info] at failed
      cases failed
  | error fault =>
      rw [info] at failed
      obtain rfl : fault = .insufficientData := Except.error.inj failed
      exact Meminfo.read_ne_insufficientData tree source.procRoot info

namespace ShortageThresholds

open Baseline

/-- The baseline of a history, whatever the order of its times, is the last
sample of the least age up to the end of the window; a verdict fails for want
of data exactly when there is none. -/
theorem baseline_last_aged (thresholds : ShortageThresholds)
    (leastFits : thresholds.minInterval.millis < 2 ^ 63)
    (windowFits : thresholds.window.millis < 2 ^ 63)
    (samples : List Sample) :
    IsBaseline samples thresholds.minInterval.millis thresholds.window.millis
        (index? thresholds.minInterval thresholds.window samples) ∧
      (∀ usage, usage ≠ .error .insufficientData →
        (thresholds.judge samples usage = .error .insufficientData ↔
          samples.length < 2 ∨
            ∀ last, EndsAt samples thresholds.window.millis last →
              ∀ place ≤ last,
                ¬ Aged samples thresholds.minInterval.millis place)) ∧
      ∀ (source : UsageSource) (tree : FileTree),
        source.nodeUsage tree ≠ .error .insufficientData := by
  obtain ⟨last, ends, lastAged⟩ := index?_lastAged leastFits windowFits samples
  have baseline := lastAged.isBaseline ends
  refine ⟨baseline, ?_, UsageSource.nodeUsage_ne_insufficientData⟩
  intro usage measured
  constructor
  · intro failed
    have missing := (judge_eq_insufficientData_iff measured).mp failed
    exact .inr fun other endsToo =>
      (baseline.none_aged other endsToo).mp missing
  · rintro (few | young)
    · exact thresholds.judge_too_few usage few
    · exact (judge_eq_insufficientData_iff measured).mpr
        ((baseline.none_aged last ends).mpr (young last ends))

/-- The clock was set back twice: the baseline is neither the oldest sample
nor the last one. -/
theorem baseline_last_aged_unordered :
    let thresholds : ShortageThresholds := {}
    let samples : List Sample :=
      [⟨20000000, 9, 9, 0, 0, 0⟩, ⟨18000000, 8, 8, 0, 0, 0⟩,
        ⟨9000000, 7, 7, 0, 0, 0⟩, ⟨21000000, 6, 6, 0, 0, 0⟩,
        ⟨12000000, 5, 5, 0, 0, 0⟩, ⟨17000000, 4, 4, 0, 0, 0⟩]
    thresholds.minInterval.millis < 2 ^ 63 ∧
      thresholds.window.millis < 2 ^ 63 ∧
      EndsAt samples thresholds.window.millis 5 ∧
      IsGreatest {place | place ≤ 5 ∧
        Aged samples thresholds.minInterval.millis place} 4 ∧
      thresholds.judge samples (.error .noMemory) ≠
        .error .insufficientData := by
  intro thresholds samples
  have leastFits : thresholds.minInterval.millis < 2 ^ 63 := by decide
  have windowFits : thresholds.window.millis < 2 ^ 63 := by decide
  obtain ⟨baseline, judged, _⟩ :=
    baseline_last_aged thresholds leastFits windowFits samples
  have ends : EndsAt samples thresholds.window.millis 5 := by
    refine .inr ⟨?_, rfl⟩
    intro place aged
    have inside := aged.lt_length
    have young : ∀ place < 6,
        ¬ Aged samples thresholds.window.millis place := by
      unfold Aged
      decide
    exact young place inside aged
  have found : index? thresholds.minInterval thresholds.window samples =
      some 4 := by decide
  have greatest := (baseline.last_aged 5 ends 4).mp found
  refine ⟨leastFits, windowFits, ends, greatest, ?_⟩
  intro failed
  rcases (judged (.error .noMemory) (by simp)).mp failed with few | young
  · exact absurd few (by decide)
  · exact young 5 ends 4 (by decide) greatest.1.2

end ShortageThresholds

end SwapWarden
