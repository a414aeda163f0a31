import SwapWarden.Proofs.Eviction.Safety
import SwapWarden.Proofs.Run

/-!
# Runs of the eviction loop

The sampler records into a history while decision cycles, one after another,
judge what it holds and flush it.  Samples may be recorded at any time, also
between two requests of a cycle.  Verdicts are on the samples held when they
are asked for; everything else may be answered in any way.
-/

namespace SwapWarden

/-- A history, and the cycle that is under way if there is one. -/
structure EvictionLoop where
  history : History
  cycle : Option (Cycle.Part (Except Fault CycleOutcome)) := none

namespace EvictionLoop

/-- What happens in a loop.  A request is told with the samples held then. -/
inductive Moment where
  | recorded (sample : Sample)
  | began
  | asked (held : List Sample) (exchange : Cycle.Exchange)
  | ended (outcome : Except Fault CycleOutcome)

namespace Moment

def sample? : Moment → Option Sample
  | recorded sample => some sample
  | _ => none

def exchange? : Moment → Option Cycle.Exchange
  | asked _ exchange => some exchange
  | _ => none

/-- Whether a cycle goes on in this moment if one is under way. -/
def goesOn : Moment → Bool
  | recorded _ | asked _ _ => true
  | began | ended _ => false

theorem silent_iff {moment : Moment} :
    moment.goesOn = true ∧ moment.exchange? = none ↔
      moment.sample?.isSome = true := by
  cases moment with
  | recorded _ => simp [goesOn, exchange?, sample?]
  | began => simp [goesOn, sample?]
  | asked _ _ => simp [exchange?, sample?]
  | ended _ => simp [goesOn, sample?]

end Moment

/-- What a collaborator may answer with the given samples held. -/
def Fits (thresholds : ShortageThresholds) (held : List Sample) :
    Cycle.Exchange → Prop
  | ⟨.judge, answer⟩ => ∃ usage, answer = thresholds.judge held usage
  | _ => True

/-- The history after a request. -/
def historyAfter (history : History) : CycleRequest → History
  | .flush => history.reset
  | _ => history

/-- One moment of a loop. -/
inductive Step (settings : EvictionSettings)
    (thresholds : ShortageThresholds) :
    EvictionLoop → Option Moment → EvictionLoop → Prop where
  | record (loop : EvictionLoop) (sample : Sample) :
      Step settings thresholds loop (some (.recorded sample))
        { loop with history := loop.history.record sample }
  | start {loop : EvictionLoop} (idle : loop.cycle = none) :
      Step settings thresholds loop (some .began)
        { loop with cycle := some (Cycle.decide settings) }
  | ask {loop : EvictionLoop} {request : CycleRequest}
      {next : request.Answer → Cycle.Part (Except Fault CycleOutcome)}
      (waiting : loop.cycle = some (.ask request next))
      (answer : request.Answer)
      (fits : Fits thresholds loop.history.samples ⟨request, answer⟩) :
      Step settings thresholds loop
        (some (.asked loop.history.samples ⟨request, answer⟩))
        { history := historyAfter loop.history request
          cycle := some (next answer) }
  | stop {loop : EvictionLoop} {outcome : Except Fault CycleOutcome}
      (finished : loop.cycle = some (.done outcome)) :
      Step settings thresholds loop (some (.ended outcome))
        { loop with cycle := none }

/-- Any number of moments of a loop. -/
abbrev Run (settings : EvictionSettings) (thresholds : ShortageThresholds) :
    EvictionLoop → List Moment → EvictionLoop → Prop :=
  SwapWarden.Run (Step settings thresholds)

variable {settings : EvictionSettings} {thresholds : ShortageThresholds}
  {loop first last : EvictionLoop} {moments : List Moment}
  {program : Cycle.Part (Except Fault CycleOutcome)}

theorem Step.of_asked {next : EvictionLoop} {held : List Sample}
    {exchange : Cycle.Exchange}
    (step : Step settings thresholds loop (some (.asked held exchange)) next) :
    loop.history.samples = held ∧ Fits thresholds held exchange ∧
      next.history = historyAfter loop.history exchange.request ∧
      ∃ after, loop.cycle = some (.ask exchange.request after) ∧
        next.cycle = some (after exchange.answer) := by
  cases step with
  | ask waiting answer fits => exact ⟨rfl, fits, rfl, _, waiting, rfl⟩

theorem Step.of_began {next : EvictionLoop}
    (step : Step settings thresholds loop (some .began) next) :
    loop.cycle = none ∧ next.cycle = some (Cycle.decide settings) := by
  cases step with
  | start idle => exact ⟨idle, rfl⟩

theorem Step.of_ended {next : EvictionLoop}
    {outcome : Except Fault CycleOutcome}
    (step : Step settings thresholds loop (some (.ended outcome)) next) :
    next.cycle = none := by
  cases step with
  | stop _ => rfl

/-! ## Cycles of a run -/

theorem exists_asked {exchange : Cycle.Exchange}
    {earlier later : List Cycle.Exchange}
    (parts : moments.filterMap Moment.exchange? =
      earlier ++ exchange :: later) :
    ∃ before held after, moments = before ++ .asked held exchange :: after ∧
      before.filterMap Moment.exchange? = earlier ∧
      after.filterMap Moment.exchange? = later := by
  obtain ⟨before, rest, rfl, same, since⟩ :=
    List.filterMap_eq_append_iff.mp parts
  obtain ⟨silent, moment, after, rfl, none, found, others⟩ :=
    List.filterMap_eq_cons_iff.mp since
  cases moment with
  | asked held told =>
      obtain rfl := Option.some.inj found
      refine ⟨before ++ silent, held, after, by simp, ?_, others⟩
      rw [List.filterMap_append, same,
        List.filterMap_eq_nil_iff.mpr none, List.append_nil]
  | recorded _ => cases found
  | began => cases found
  | ended _ => cases found

/-- The cycle that is under way began in the run, and says what was said since.
-/
theorem Run.under_way (run : Run settings thresholds first moments last)
    (idle : first.cycle = none) (running : last.cycle = some program) :
    ∃ earlier during, moments = earlier ++ .began :: during ∧
      (Cycle.decide settings).Reaches (during.filterMap Moment.exchange?)
        program ∧
      ∀ moment ∈ during, moment.goesOn = true := by
  induction run generalizing program with
  | refl =>
      rw [idle] at running
      cases running
  | @tail middle last moments moment run step induction =>
      cases step with
      | record sample =>
          obtain ⟨earlier, during, parts, reached, goesOn⟩ := induction running
          refine ⟨earlier, during ++ [.recorded sample], ?_, ?_, ?_⟩
          · rw [parts]
            exact List.append_assoc _ _ _
          · simpa [List.filterMap_cons, Moment.exchange?] using reached
          · simpa [or_imp, forall_and, Moment.goesOn] using goesOn
      | start _ =>
          obtain rfl := Option.some.inj running
          exact ⟨moments, [], rfl, .refl _, by simp⟩
      | @ask request next waiting answer _ =>
          obtain rfl := Option.some.inj running
          obtain ⟨earlier, during, parts, reached, goesOn⟩ := induction waiting
          refine ⟨earlier,
            during ++ [.asked middle.history.samples ⟨request, answer⟩], ?_, ?_, ?_⟩
          · rw [parts]
            exact List.append_assoc _ _ _
          · simpa [List.filterMap_cons, Moment.exchange?] using reached.tail answer
          · simpa [or_imp, forall_and, Moment.goesOn] using goesOn
      | stop _ => cases running

/-- A cycle that is under way goes on to the end of the run, or ends in it. -/
theorem Run.goes_on (run : Run settings thresholds first moments last)
    (running : first.cycle = some program) :
    (∃ rest, last.cycle = some rest ∧
      program.Reaches (moments.filterMap Moment.exchange?) rest ∧
      ∀ moment ∈ moments, moment.goesOn = true) ∨
    ∃ during outcome later, moments = during ++ .ended outcome :: later ∧
      program.Reaches (during.filterMap Moment.exchange?) (.done outcome) ∧
      ∀ moment ∈ during, moment.goesOn = true := by
  induction run with
  | refl => exact .inl ⟨program, running, .refl _, by simp⟩
  | @tail middle last moments moment run step induction =>
      rcases induction with ⟨rest, present, reached, goesOn⟩ |
        ⟨during, outcome, later, parts, reached, goesOn⟩
      · cases step with
        | record sample =>
            refine .inl ⟨rest, present, ?_, ?_⟩
            · simpa [List.filterMap_cons, Moment.exchange?] using reached
            · simpa [or_imp, forall_and, Moment.goesOn] using goesOn
        | start idle =>
            rw [idle] at present
            cases present
        | ask waiting answer _ =>
            obtain rfl := Option.some.inj (present.symm.trans waiting)
            refine .inl ⟨_, rfl, ?_, ?_⟩
            · simpa [List.filterMap_cons, Moment.exchange?] using reached.tail answer
            · simpa [or_imp, forall_and, Moment.goesOn] using goesOn
        | stop finished =>
            obtain rfl := Option.some.inj (present.symm.trans finished)
            exact .inr ⟨moments, _, [], rfl, reached, goesOn⟩
      · refine .inr ⟨during, outcome, later ++ moment.toList, ?_, reached, goesOn⟩
        rw [parts, List.append_assoc, List.cons_append]

/-! ## The samples that are held -/

theorem samples_historyAfter (history : History) (request : CycleRequest) :
    (historyAfter history request).samples <+: history.samples := by
  cases request with
  | flush =>
      have none : (historyAfter history .flush).samples = [] :=
        List.take_nil
      rw [none]
      exact List.nil_prefix
  | _ => exact List.prefix_refl _

/-- What is held was recorded since there was nothing. -/
theorem Run.samples_recorded (run : Run settings thresholds first moments last)
    (empty : first.history.samples = []) :
    last.history.samples <+: (moments.filterMap Moment.sample?).reverse := by
  induction run with
  | refl => simp [empty]
  | @tail middle last moments moment run step induction =>
      cases step with
      | record sample =>
          have more : sample :: middle.history.samples <+:
              (moments.filterMap Moment.sample? ++ [sample]).reverse := by
            simpa using induction
          rw [List.filterMap_append]
          simp only [History.samples_record]
          exact (List.take_prefix _ _).trans more
      | start _ => simpa [List.filterMap_cons, Moment.sample?] using induction
      | ask _ answer _ =>
          rw [List.filterMap_append]
          simpa [List.filterMap_cons, Moment.sample?] using
            (samples_historyAfter middle.history _).trans induction
      | stop _ => simpa [List.filterMap_cons, Moment.sample?] using induction

/-- What is held for a request was recorded since the flush before it. -/
theorem Run.samples_since {held samples : List Sample}
    {before after final : List Moment} {exchange : Cycle.Exchange}
    (run : Run settings thresholds first
      (before ++ .asked held ⟨.flush, ()⟩ ::
        (after ++ .asked samples exchange :: final)) last) :
    samples <+: (after.filterMap Moment.sample?).reverse ∧
      Fits thresholds samples exchange := by
  obtain ⟨_, flushed, _, flush, rest⟩ := run.cut rfl
  obtain ⟨asking, _, between, asked, _⟩ := rest.cut rfl
  obtain ⟨same, fits, _⟩ := asked.of_asked
  have empty : flushed.history.samples = [] := by
    rw [flush.of_asked.2.2.1]
    exact List.take_nil
  exact ⟨same ▸ Run.samples_recorded between empty, fits⟩

/-! ## Planned runs -/

section

variable (settings : EvictionSettings) (thresholds : ShortageThresholds)
  (usage : Except Fault NodeUsage)
  (answers : (request : CycleRequest) → request.Answer)

/-- The answer of collaborators that always answer alike, but judge the samples
that are held. -/
def answerOf (held : List Sample) : (request : CycleRequest) → request.Answer
  | .judge => thresholds.judge held usage
  | request => answers request

/-- Records a sample if there is one; otherwise a cycle begins, goes on or
ends. -/
def advance (loop : EvictionLoop) : Option Sample → Moment × EvictionLoop
  | some sample =>
      (.recorded sample, { loop with history := loop.history.record sample })
  | none =>
      match loop.cycle with
      | none => (.began, { loop with cycle := some (Cycle.decide settings) })
      | some (.done outcome) => (.ended outcome, { loop with cycle := none })
      | some (.ask request next) =>
          let held := loop.history.samples
          let answer := answerOf thresholds usage answers held request
          (.asked held ⟨request, answer⟩,
            { history := historyAfter loop.history request
              cycle := some (next answer) })

/-- Follows a plan that tells when which samples are recorded. -/
def follow (loop : EvictionLoop) :
    List (Option Sample) → List Moment × EvictionLoop
  | [] => ([], loop)
  | planned :: plan =>
      let (moment, next) :=
        advance settings thresholds usage answers loop planned
      let (moments, last) := follow next plan
      (moment :: moments, last)

theorem fits_answerOf (held : List Sample) (request : CycleRequest) :
    Fits thresholds held
      ⟨request, answerOf thresholds usage answers held request⟩ := by
  cases request with
  | judge => exact ⟨usage, rfl⟩
  | _ => trivial

theorem step_advance (loop : EvictionLoop) (planned : Option Sample) :
    Step settings thresholds loop
      (some (advance settings thresholds usage answers loop planned).1)
      (advance settings thresholds usage answers loop planned).2 := by
  cases planned with
  | some sample => exact .record loop sample
  | none =>
      obtain ⟨history, cycle⟩ := loop
      cases cycle with
      | none => exact .start rfl
      | some program =>
          cases program with
          | done outcome => exact .stop rfl
          | ask request next =>
              exact .ask rfl _ (fits_answerOf thresholds usage answers
                history.samples request)

/-- Every plan is a run. -/
theorem run_follow (loop : EvictionLoop) (plan : List (Option Sample)) :
    Run settings thresholds loop
      (follow settings thresholds usage answers loop plan).1
      (follow settings thresholds usage answers loop plan).2 := by
  induction plan generalizing loop with
  | nil => exact .refl loop
  | cons planned plan induction =>
      have begun : Run settings thresholds loop [] loop := .refl loop
      have first :=
        step_advance settings thresholds usage answers loop planned
      exact (begun.tail first).trans (induction _)

end

end EvictionLoop

end SwapWarden
