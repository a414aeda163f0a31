import SwapWarden.Proofs.Eviction.Loop
import SwapWarden.Proofs.Shortage.Baseline

/-!
# Cooling down after an eviction

A cycle that has evicted a pod tells so and flushes the history, and then it
ends.  So the verdict behind the next eviction rests on samples that were
recorded since, two of which are far enough apart; and a cycle that begins
before two samples were recorded does nothing.
-/

namespace SwapWarden

namespace Cycle

open Program

/-! ## What follows a deletion -/

/-- How far a cycle is with the pod that it deleted. -/
inductive Aftermath where
  | nothing
  | deleted (key : PodKey)
  | told
  | flushed

/-- Where an attempt to evict a pod leads. -/
def Aftermath.ofAttempt (key : PodKey) : Except Fault Unit → Aftermath
  | .ok _ => .deleted key
  | .error _ => .nothing

/-- A deletion is told and then the history is flushed, and no more. -/
def aftermath : Protocol CycleRequest CycleRequest.Answer Aftermath where
  Allows
    | .nothing, _ => True
    | .deleted key, request => request = .tell (.evicted key)
    | .told, request => request = .flush
    | .flushed, _ => False
  note
    | .nothing, .deletePod key, .ok _ => .deleted key
    | .nothing, _, _ => .nothing
    | .deleted _, _, _ => .told
    | .told, _, _ => .flushed
    | .flushed, _, _ => .flushed

/-- Nothing is left to be told or flushed. -/
def Aftermath.Settled (stage : Aftermath) : Prop :=
  stage = .nothing ∨ stage = .flushed

variable {settings : EvictionSettings} {pod : Pod}

theorem deletePod_aftermath (pod : Pod) :
    aftermath.Keeps
      (fun stage attempt => stage = .ofAttempt pod.key attempt)
      (ask (.deletePod pod.key)) .nothing := by
  refine ⟨trivial, fun answer => ?_⟩
  cases answer with
  | error fault => rfl
  | ok done => rfl

theorem evict_aftermath (pod : Pod) :
    aftermath.Keeps
      (fun stage attempt => stage = .ofAttempt pod.key attempt)
      (evict pod) .nothing := by
  by_cases free : pod.finalizers = []
  · rw [evict_of_free free]
    exact deletePod_aftermath pod
  · rw [evict_of_bound free]
    refine Protocol.Keeps.ask trivial fun cleared => ?_
    cases cleared with
    | error fault => rfl
    | ok done => exact deletePod_aftermath pod

theorem evictFirst_aftermath (candidates : List Pod) :
    aftermath.Keeps (fun stage _ => stage.Settled) (evictFirst candidates)
      .nothing := by
  cases candidates with
  | nil => exact .inl rfl
  | cons pod others =>
      refine Protocol.Keeps.bind ?_
      refine (evict_aftermath pod).mono fun stage attempt reached => ?_
      cases attempt with
      | error fault =>
          obtain rfl := reached
          exact ⟨trivial, fun _ => .inl rfl⟩
      | ok done =>
          obtain rfl := reached
          exact ⟨rfl, fun _ => ⟨rfl, fun _ => .inr rfl⟩⟩

theorem relieve_aftermath (settings : EvictionSettings) (verdict : Verdict) :
    aftermath.Keeps (fun stage _ => stage.Settled) (relieve settings verdict)
      .nothing := by
  refine Protocol.Keeps.ask trivial fun _ =>
    Protocol.Keeps.ask trivial fun listed => ?_
  cases listed with
  | error fault => exact .inl rfl
  | ok pods =>
      change aftermath.Keeps _
        (if (aliveCandidates settings pods).isEmpty then _ else _) _
      by_cases deserted : aliveCandidates settings pods = []
      · rw [if_pos (List.isEmpty_iff.mpr deserted)]
        exact .inl rfl
      · rw [if_neg (mt List.isEmpty_iff.mp deserted)]
        refine Protocol.Keeps.ask trivial fun measured => ?_
        cases measured with
        | error fault => exact evictFirst_aftermath _
        | ok usages => exact evictFirst_aftermath _

theorem addTaint_aftermath (settings : EvictionSettings) (node : Node) :
    aftermath.Keeps (fun stage _ => stage = .nothing) (addTaint settings node)
      .nothing := by
  refine Protocol.Keeps.ask trivial fun patched => ?_
  cases patched with
  | error fault => exact ⟨trivial, fun _ => rfl⟩
  | ok done => exact ⟨trivial, fun _ => ⟨trivial, fun _ => rfl⟩⟩

theorem removeTaint_aftermath (settings : EvictionSettings) (node : Node) :
    aftermath.Keeps (fun stage _ => stage.Settled) (removeTaint settings node)
      .nothing := by
  refine Protocol.Keeps.ask trivial fun patched => ?_
  cases patched with
  | error fault => exact .inl rfl
  | ok done => exact ⟨trivial, fun _ => .inl rfl⟩

theorem follow_aftermath (settings : EvictionSettings) (verdict : Verdict)
    (node : Node) :
    aftermath.Keeps (fun stage _ => stage.Settled)
      (follow settings verdict node) .nothing := by
  unfold follow
  cases node.hasEvictionTaint settings.taintKey with
  | true =>
      cases verdict.isShortage with
      | true => exact relieve_aftermath settings verdict
      | false => exact removeTaint_aftermath settings node
  | false =>
      cases verdict.isShortage with
      | true =>
          refine Protocol.Keeps.bind ?_
          refine (addTaint_aftermath settings node).mono fun stage _ same => ?_
          obtain rfl := same
          exact relieve_aftermath settings verdict
      | false => exact .inl rfl

theorem decide_aftermath (settings : EvictionSettings) :
    aftermath.Keeps (fun stage _ => stage.Settled) (Cycle.decide settings)
      .nothing := by
  refine Protocol.Keeps.ask trivial fun judged => ?_
  cases judged with
  | error fault => exact .inl rfl
  | ok verdict =>
      refine Protocol.Keeps.ask trivial fun _ =>
        Protocol.Keeps.ask trivial fun found => ?_
      cases found with
      | error fault => exact .inl rfl
      | ok node => exact follow_aftermath settings verdict node

section

variable {exchanges : List Exchange}
  {program rest : Part (Except Fault CycleOutcome)}

theorem after_flushed
    (keeps : aftermath.Keeps (fun stage _ => stage.Settled) program .flushed)
    (reached : program.Reaches exchanges rest) : exchanges = [] := by
  cases reached with
  | refl => rfl
  | ask => exact keeps.1.elim

theorem after_told
    (keeps : aftermath.Keeps (fun stage _ => stage.Settled) program .told)
    (reached : program.Reaches exchanges rest) :
    exchanges <+: [⟨.flush, ()⟩] ∧
      ∀ outcome, rest = .done outcome → exchanges = [⟨.flush, ()⟩] := by
  cases reached with
  | refl =>
      refine ⟨List.nil_prefix, ?_⟩
      rintro outcome rfl
      rcases keeps with same | same
      · cases same
      · cases same
  | ask answer later =>
      obtain ⟨allowed, keeps⟩ := keeps
      cases allowed
      obtain rfl := after_flushed (keeps answer) later
      exact ⟨List.prefix_refl _, fun _ _ => rfl⟩

theorem after_deleted {key : PodKey}
    (keeps : aftermath.Keeps (fun stage _ => stage.Settled) program
      (.deleted key))
    (reached : program.Reaches exchanges rest) :
    exchanges <+: [⟨.tell (.evicted key), ()⟩, ⟨.flush, ()⟩] ∧
      ∀ outcome, rest = .done outcome →
        exchanges = [⟨.tell (.evicted key), ()⟩, ⟨.flush, ()⟩] := by
  cases reached with
  | refl =>
      refine ⟨List.nil_prefix, ?_⟩
      rintro outcome rfl
      rcases keeps with same | same
      · cases same
      · cases same
  | ask answer later =>
      obtain ⟨allowed, keeps⟩ := keeps
      cases allowed
      obtain ⟨starts, complete⟩ := after_told (keeps answer) later
      exact ⟨(List.prefix_cons_inj _).mpr starts,
        fun outcome ends => congrArg _ (complete outcome ends)⟩

/-- A deletion is followed by what tells it, the flush, and the end. -/
theorem after_deletion {said after : List Exchange} {key : PodKey}
    (reached : (Cycle.decide settings).Reaches
      (said ++ ⟨.deletePod key, .ok ()⟩ :: after) rest) :
    after <+: [⟨.tell (.evicted key), ()⟩, ⟨.flush, ()⟩] ∧
      ∀ outcome, rest = .done outcome →
        after = [⟨.tell (.evicted key), ()⟩, ⟨.flush, ()⟩] := by
  obtain ⟨next, before, later⟩ := reached.cut
  have keeps := (decide_aftermath settings).rest before
  cases stage : aftermath.follow .nothing said with
  | nothing =>
      rw [stage] at keeps
      exact after_deleted (keeps.2 (.ok ())) later
  | deleted other =>
      rw [stage] at keeps
      cases keeps.1
  | told =>
      rw [stage] at keeps
      cases keeps.1
  | flushed =>
      rw [stage] at keeps
      exact keeps.1.elim

end

end Cycle

namespace EvictionLoop

open Program

/-! ## Between two evictions -/

/-- The pod whose deletion succeeded in a moment. -/
def Moment.evicted? : Moment → Option PodKey
  | asked _ ⟨.deletePod key, .ok _⟩ => some key
  | _ => none

theorem Moment.of_evicted {moment : Moment} {key : PodKey}
    (evicted : moment.evicted? = some key) :
    ∃ held, moment = .asked held ⟨.deletePod key, .ok ()⟩ := by
  cases moment with
  | asked held exchange =>
      obtain ⟨request, answer⟩ := exchange
      cases request with
      | deletePod other =>
          cases answer with
          | error fault => cases evicted
          | ok done =>
              obtain rfl := Option.some.inj evicted
              exact ⟨held, rfl⟩
      | _ => cases evicted
  | _ => cases evicted

variable {settings : EvictionSettings} {thresholds : ShortageThresholds}
  {loop first last : EvictionLoop} {key : PodKey}

/-- A cycle that has just evicted a pod. -/
def Evicted (settings : EvictionSettings) (loop : EvictionLoop)
    (key : PodKey) : Prop :=
  ∃ said program, loop.cycle = some program ∧
    (Cycle.decide settings).Reaches
      (said ++ [⟨.deletePod key, .ok ()⟩]) program

theorem Run.evicted {earlier rest : List Moment} {eviction : Moment}
    (run : Run settings thresholds first (earlier ++ eviction :: rest) last)
    (idle : first.cycle = none) (evicted : eviction.evicted? = some key) :
    ∃ next, Evicted settings next key ∧ Run settings thresholds next rest last
    := by
  obtain ⟨held, rfl⟩ := Moment.of_evicted evicted
  obtain ⟨loop, next, before, step, rest⟩ := run.cut rfl
  obtain ⟨_, _, _, after, waiting, present⟩ := step.of_asked
  obtain ⟨_, during, _, reached, _⟩ := Run.under_way before idle waiting
  exact ⟨next, ⟨during.filterMap Moment.exchange?, after (.ok ()), present,
    reached.tail (.ok ())⟩, rest⟩

/-- No cycle begins after an eviction before the history is flushed. -/
theorem Evicted.flushes {moments : List Moment}
    (evicted : Evicted settings first key)
    (run : Run settings thresholds first moments last)
    (idle : last.cycle = none) :
    ∃ before held after, moments = before ++ .asked held ⟨.flush, ()⟩ :: after ∧
      before.filterMap Moment.exchange? = [⟨.tell (.evicted key), ()⟩] ∧
      ∀ moment ∈ before, moment.goesOn = true := by
  obtain ⟨said, program, present, reached⟩ := evicted
  rcases Run.goes_on run present with ⟨rest, running, _⟩ |
    ⟨during, outcome, others, rfl, ended, goesOn⟩
  · rw [idle] at running
    cases running
  · have whole := reached.trans ended
    rw [List.append_assoc] at whole
    have toldAndFlushed : during.filterMap Moment.exchange? =
        [⟨.tell (.evicted key), ()⟩] ++ ⟨.flush, ()⟩ :: [] :=
      (Cycle.after_deletion whole).2 outcome rfl
    obtain ⟨before, held, after, rfl, told, _⟩ := exists_asked toldAndFlushed
    refine ⟨before, held, after ++ .ended outcome :: others, by simp, told, ?_⟩
    intro moment member
    exact goesOn moment (List.mem_append_left _ member)

/-- A second deletion is asked for in a later cycle. -/
theorem Evicted.later_cycle {moments : List Moment} {other : PodKey}
    {after : Except Fault Unit → Cycle.Part (Except Fault CycleOutcome)}
    (evicted : Evicted settings first key)
    (run : Run settings thresholds first moments last)
    (deleting : last.cycle = some (.ask (.deletePod other) after)) :
    ∃ earlier during, moments = earlier ++ .began :: during ∧
      (Cycle.decide settings).Reaches (during.filterMap Moment.exchange?)
        (.ask (.deletePod other) after) ∧
      ∀ moment ∈ during, moment.goesOn = true := by
  obtain ⟨said, program, present, reached⟩ := evicted
  rcases Run.goes_on run present with ⟨rest, running, more, _⟩ |
    ⟨during, outcome, others, rfl, _, _⟩
  · obtain rfl := Option.some.inj (running.symm.trans deleting)
    have whole := reached.trans (more.tail (.ok ()))
    rw [List.append_assoc] at whole
    have again : (⟨.deletePod other, .ok ()⟩ : Cycle.Exchange) ∈
        moments.filterMap Moment.exchange? ++
          [⟨.deletePod other, .ok ()⟩] :=
      List.mem_append_right _ List.mem_cons_self
    have member := (Cycle.after_deletion whole).1.subset again
    rcases List.mem_cons.mp member with same | member
    · cases same
    · cases List.mem_singleton.mp member
  · obtain ⟨_, next, _, ended, rest⟩ := run.cut rfl
    obtain ⟨earlier, inside, rfl, reached, goesOn⟩ :=
      Run.under_way rest ended.of_ended deleting
    exact ⟨during ++ .ended outcome :: earlier, inside, by simp, reached, goesOn⟩

/-- The verdict behind a deletion was given in the same cycle. -/
theorem verdict_behind {during : List Moment} {other : PodKey}
    {after : Except Fault Unit → Cycle.Part (Except Fault CycleOutcome)}
    (reached : (Cycle.decide settings).Reaches
      (during.filterMap Moment.exchange?) (.ask (.deletePod other) after)) :
    ∃ waiting samples verdict final,
      during = waiting ++ .asked samples ⟨.judge, .ok verdict⟩ :: final ∧
      verdict.isShortage = true ∧
      ∀ moment ∈ final, ∀ held answer,
        moment ≠ .asked held ⟨.judge, answer⟩ := by
  obtain ⟨pod, may, _, _⟩ := Cycle.mayAsk_of_reaches reached
  obtain ⟨verdict, node, pods, measured, asked, shortage, _⟩ := may
  obtain ⟨said, others, parts, _, _, rest⟩ := List.filter_eq_cons_iff.mp asked
  obtain ⟨waiting, samples, final, rfl, _, told⟩ := exists_asked parts
  refine ⟨waiting, samples, verdict, final, rfl, shortage, ?_⟩
  rintro _ member held answer rfl
  have again : (⟨.judge, answer⟩ : Cycle.Exchange) ∈
      others.filter Cycle.Exchange.inquires := by
    rw [← told]
    exact List.mem_filter.mpr
      ⟨List.mem_filterMap.mpr ⟨_, member, rfl⟩, rfl⟩
  have asksAgain : CycleRequest.judge ∈
      (others.filter Cycle.Exchange.inquires).map Program.Exchange.request :=
    List.mem_map.mpr ⟨_, again, rfl⟩
  rw [rest] at asksAgain
  simp at asksAgain

/-! ## Cycles with too few samples -/

theorem decide_judges (settings : EvictionSettings) :
    ∃ next, Cycle.decide settings = .ask .judge next ∧
      ∀ fault, next (.error fault) = .done (.error fault) :=
  ⟨_, rfl, fun _ => rfl⟩

theorem Run.quiet {moments : List Moment}
    {outcome : Except Fault CycleOutcome}
    (run : Run settings thresholds first moments last)
    (finished : first.cycle = some (.done outcome)) :
    ∃ quiet rest, moments = quiet ++ rest ∧
      (∀ moment ∈ quiet, moment.sample?.isSome = true) ∧
      (rest = [] ∨ ∃ later, rest = .ended outcome :: later) := by
  have silent {during : List Moment} (goesOn : ∀ moment ∈ during,
      moment.goesOn = true) (none : during.filterMap Moment.exchange? = []) :
      ∀ moment ∈ during, moment.sample?.isSome = true := by
    intro moment member
    exact Moment.silent_iff.mp ⟨goesOn moment member,
      List.filterMap_eq_nil_iff.mp none moment member⟩
  rcases Run.goes_on run finished with ⟨rest, _, reached, goesOn⟩ |
    ⟨during, other, later, parts, reached, goesOn⟩
  · exact ⟨moments, [], (List.append_nil _).symm,
      silent goesOn reached.of_done.1, .inl rfl⟩
  · obtain ⟨none, same⟩ := reached.of_done
    cases same
    exact ⟨during, _, parts, silent goesOn none, .inr ⟨later, rfl⟩⟩

/-- The first thing that a cycle asks for is a verdict; when that cannot be
given, the cycle ends with it. -/
theorem Run.first_asked {waiting later : List Moment} {samples : List Sample}
    {exchange : Cycle.Exchange}
    (run : Run settings thresholds first
      (waiting ++ .asked samples exchange :: later) last)
    (began : first.cycle = some (Cycle.decide settings))
    (silent : ∀ moment ∈ waiting, moment.sample?.isSome = true) :
    ∃ answer, exchange = ⟨.judge, answer⟩ ∧
      ∀ fault, answer = .error fault →
        ∃ quiet rest, later = quiet ++ rest ∧
          (∀ moment ∈ quiet, moment.sample?.isSome = true) ∧
          (rest = [] ∨ ∃ others, rest = .ended (.error fault) :: others) := by
  obtain ⟨asking, told, before, asked, after⟩ := run.cut rfl
  obtain ⟨_, _, _, follow, waits, present⟩ := asked.of_asked
  have unsaid : waiting.filterMap Moment.exchange? = [] :=
    List.filterMap_eq_nil_iff.mpr fun moment member =>
      (Moment.silent_iff.mpr (silent moment member)).2
  obtain ⟨next, judges, gives⟩ := decide_judges settings
  rcases Run.goes_on before began with ⟨rest, running, reached, _⟩ |
    ⟨during, outcome, others, rfl, _, _⟩
  · rw [unsaid, judges] at reached
    obtain ⟨request, answer⟩ := exchange
    obtain rfl := Option.some.inj (running.symm.trans waits)
    cases reached with
    | refl =>
        refine ⟨answer, rfl, ?_⟩
        rintro fault rfl
        exact Run.quiet after (present.trans (congrArg some (gives fault)))
  · cases silent (.ended outcome)
      (List.mem_append_right _ List.mem_cons_self)

/-! ## The cool-down -/

/-- After an eviction the history is flushed in the same cycle.  The verdict
behind any later eviction rests only on samples recorded since that flush, two
of which are at least the minimal interval apart.  A cycle that begins later
first asks for a verdict, and when fewer than two samples were recorded since
the flush it asks nothing more and ends for lack of data. -/
theorem evictions_cool_down {earlier rest : List Moment} {eviction : Moment}
    (fits : thresholds.minInterval.millis < 2 ^ 63)
    (run : Run settings thresholds first (earlier ++ eviction :: rest) last)
    (idle : first.cycle = none) (evicted : eviction.evicted? = some key) :
    (∀ middle again later other, rest = middle ++ again :: later →
      again.evicted? = some other →
      ∃ before held after samples usage verdict final,
        middle = before ++ .asked held ⟨.flush, ()⟩ ::
          (after ++ .asked samples ⟨.judge, .ok verdict⟩ :: final) ∧
        before.filterMap Moment.exchange? = [⟨.tell (.evicted key), ()⟩] ∧
        (∀ moment ∈ before, moment.goesOn = true) ∧
        (∀ moment ∈ final, moment.goesOn = true ∧
          ∀ held answer, moment ≠ .asked held ⟨.judge, answer⟩) ∧
        .ok verdict = thresholds.judge samples usage ∧
        verdict.isShortage = true ∧
        samples <+: (after.filterMap Moment.sample?).reverse ∧
        ∃ newest older baseline, samples = newest :: older ∧
          baseline ∈ older ∧
          (thresholds.minInterval.millis : Int) ≤
            newest.millisSince baseline) ∧
    ∀ middle waiting samples exchange later,
      rest = middle ++ .began ::
        (waiting ++ .asked samples exchange :: later) →
      (∀ moment ∈ waiting, moment.sample?.isSome = true) →
      ∃ before held after, middle = before ++ .asked held ⟨.flush, ()⟩ :: after ∧
        before.filterMap Moment.exchange? = [⟨.tell (.evicted key), ()⟩] ∧
        (∀ moment ∈ before, moment.goesOn = true) ∧
        (((after ++ waiting).filterMap Moment.sample?).length < 2 →
          exchange = ⟨.judge, .error .insufficientData⟩ ∧
          ∃ quiet others, later = quiet ++ others ∧
            (∀ moment ∈ quiet, moment.sample?.isSome = true) ∧
            (others = [] ∨ ∃ more,
              others = .ended (.error .insufficientData) :: more)) := by
  obtain ⟨next, evicted, since⟩ := Run.evicted run idle evicted
  refine ⟨?_, ?_⟩
  · rintro middle again later other rfl deleted
    obtain ⟨_, rfl⟩ := Moment.of_evicted deleted
    obtain ⟨deleting, _, between, asked, _⟩ := since.cut rfl
    obtain ⟨_, _, _, _, waits, _⟩ := asked.of_asked
    obtain ⟨idleThen, during, rfl, reached, goesOn⟩ :=
      evicted.later_cycle between waits
    obtain ⟨begins, _, resting, began, _⟩ := between.cut rfl
    obtain ⟨before, held, after, rfl, told, goesOnBefore⟩ :=
      evicted.flushes resting began.of_began.1
    obtain ⟨waiting, samples, verdict, final, rfl, shortage, noOther⟩ :=
      verdict_behind reached
    have parts : before ++ .asked held ⟨.flush, ()⟩ :: after ++ .began ::
          (waiting ++ .asked samples ⟨.judge, .ok verdict⟩ :: final) =
        before ++ .asked held ⟨.flush, ()⟩ ::
          (after ++ .began :: waiting ++
            .asked samples ⟨.judge, .ok verdict⟩ :: final) := by
      simp
    rw [parts] at between
    obtain ⟨recorded, usage, judged⟩ := Run.samples_since between
    refine ⟨before, held, after ++ .began :: waiting, samples, usage, verdict,
      final, parts, told, goesOnBefore, ?_, judged, shortage, recorded, ?_⟩
    · intro moment member
      refine ⟨goesOn moment ?_, noOther moment member⟩
      exact List.mem_append_right _ (List.mem_cons_of_mem _ member)
    · rw [← Duration.signedMillis_eq fits]
      exact ShortageThresholds.judge_rests judged.symm
  · rintro middle waiting samples exchange later rfl silent
    obtain ⟨begins, cycling, resting, began, cycle⟩ := since.cut rfl
    obtain ⟨idleThen, starts⟩ := began.of_began
    obtain ⟨before, held, after, rfl, told, goesOn⟩ :=
      evicted.flushes resting idleThen
    refine ⟨before, held, after, rfl, told, goesOn, fun few => ?_⟩
    obtain ⟨answer, rfl, ends⟩ := Run.first_asked cycle starts silent
    have parts : before ++ .asked held ⟨.flush, ()⟩ :: after ++ .began ::
          (waiting ++ .asked samples ⟨.judge, answer⟩ :: later) =
        before ++ .asked held ⟨.flush, ()⟩ ::
          (after ++ .began :: waiting ++
            .asked samples ⟨.judge, answer⟩ :: later) := by
      simp
    rw [parts] at since
    obtain ⟨recorded, usage, judged⟩ := Run.samples_since since
    have sameSamples : (after ++ .began :: waiting).filterMap Moment.sample? =
        (after ++ waiting).filterMap Moment.sample? := by
      simp [List.filterMap_append, List.filterMap_cons, Moment.sample?]
    have tooFew : samples.length < 2 := by
      have bound := recorded.length_le
      rw [List.length_reverse, sameSamples] at bound
      omega
    have insufficient : answer = .error .insufficientData :=
      judged.trans (thresholds.judge_too_few usage tooFew)
    obtain rfl := insufficient
    exact ⟨rfl, ends _ rfl⟩

/-- A node that stays short of memory: the second pod goes only once two new
samples are there, after a cycle that found one. -/
theorem evictions_cool_down_twice :
    ∃ (thresholds : ShortageThresholds) (key : PodKey)
      (earlier between later : List Moment) (eviction again : Moment)
      (last : EvictionLoop),
      Run {} thresholds { history := .empty 8 }
        (earlier ++ eviction :: (between ++ again :: later)) last ∧
      eviction.evicted? = some key ∧ again.evicted? = some key ∧
      ∃ before held after samples verdict final,
        between = before ++ .asked held ⟨.flush, ()⟩ ::
          (after ++ .asked samples ⟨.judge, .ok verdict⟩ :: final) ∧
        verdict.isShortage = true ∧
        samples <+: (after.filterMap Moment.sample?).reverse := by
  let thresholds : ShortageThresholds := { maxSwapIn := 0, maxSwapOut := 0 }
  let pod : Pod := { metadata := { namespaceName := some "shop" } }
  let answers : (request : CycleRequest) → request.Answer
    | .judge | .listUsages => Except.error default
    | .getNode _ => Except.ok {}
    | .patchTaints _ _ | .clearFinalizers _ | .deletePod _ => Except.ok ()
    | .listPods _ => Except.ok [pod]
    | .showShortage _ | .flush | .tell _ => ()
  let sample (second : Nat) : Option Sample :=
    some { time := second * 1000000
           swapIn := UInt64.ofNat second
           swapOut := UInt64.ofNat second }
  let plan := [sample 0, sample 5] ++ List.replicate 14 none ++
    [sample 10, none, none, none, sample 20] ++ List.replicate 14 none
  have run := run_follow {} thresholds (.ok {}) answers
    { history := .empty 8 } plan
  have twice : (follow {} thresholds (.ok {}) answers
      { history := .empty 8 } plan).1.filterMap Moment.evicted? =
        [pod.key, pod.key] := by
    decide +kernel
  obtain ⟨earlier, eviction, rest, parts, _, evicted, once⟩ :=
    List.filterMap_eq_cons_iff.mp twice
  obtain ⟨between, again, later, rfl, _, evictedAgain, _⟩ :=
    List.filterMap_eq_cons_iff.mp once
  rw [parts] at run
  have fits : thresholds.minInterval.millis < 2 ^ 63 := by decide
  obtain ⟨before, held, after, samples, _, verdict, final, rested, _, _, _, _,
    shortage, recorded, _⟩ := (evictions_cool_down fits run rfl evicted).1
      between again later pod.key rfl evictedAgain
  exact ⟨thresholds, pod.key, earlier, between, later, eviction, again, _, run,
    evicted, evictedAgain, before, held, after, samples, verdict, final, rested,
    shortage, recorded⟩

end EvictionLoop

end SwapWarden
