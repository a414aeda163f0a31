import SwapWarden.Proofs.Eviction.Safety

/-!
# Everything that is said in a cycle

Whatever a decision cycle is answered, what it says is one of a few
conversations, put together from the parts of a cycle: a verdict, the node, the
change of its taint, and the attempt to evict the first candidate.
-/

namespace SwapWarden

namespace Cycle

open Program

variable {settings : EvictionSettings} {said : List Exchange} {pod : Pod}

/-- What is said of the first candidate, if there is one. -/
inductive EvictionTalk : List Exchange → Prop where
  | nobody : EvictionTalk []
  | succeeded {pod : Pod} {calls : List Exchange}
      (attempt : Attempt pod calls (.ok ())) :
      EvictionTalk
        (calls ++ [⟨.tell (.evicted pod.key), ()⟩, ⟨.flush, ()⟩])
  | failed {pod : Pod} {calls : List Exchange} {fault : Fault}
      (attempt : Attempt pod calls (.error fault)) :
      EvictionTalk
        (calls ++ [⟨.tell (.evictionFailed pod.key fault.message), ()⟩])

/-- What is said to relieve a shortage. -/
inductive ReliefTalk (settings : EvictionSettings) (verdict : Verdict) :
    List Exchange → Prop where
  | listed (pods : Except Fault (List Pod)) : ReliefTalk settings verdict
      [⟨.tell (.shortage verdict.highTraffic verdict.highUtilization), ()⟩,
        ⟨.listPods settings.nodeName, pods⟩]
  | attempted (pods : Except Fault (List Pod))
      (measured : Except Fault (List PodUsage)) {talk : List Exchange}
      (evicting : EvictionTalk talk) : ReliefTalk settings verdict
      (⟨.tell (.shortage verdict.highTraffic verdict.highUtilization), ()⟩ ::
        ⟨.listPods settings.nodeName, pods⟩ :: ⟨.listUsages, measured⟩ :: talk)

/-- What is said to give a node the taint before a shortage is relieved. -/
inductive TaintingTalk (settings : EvictionSettings) (node : Node) :
    List Exchange → Prop where
  | already (tainted : node.hasEvictionTaint settings.taintKey = true) :
      TaintingTalk settings node []
  | added (free : node.hasEvictionTaint settings.taintKey = false) :
      TaintingTalk settings node
        [⟨.patchTaints node (node.taintsWith settings.taintKey), .ok ()⟩,
          ⟨.tell (.taintAdded settings.taintKey), ()⟩, ⟨.flush, ()⟩]
  | refused (free : node.hasEvictionTaint settings.taintKey = false)
      (fault : Fault) : TaintingTalk settings node
        [⟨.patchTaints node (node.taintsWith settings.taintKey),
          .error fault⟩, ⟨.flush, ()⟩]

/-- What is said once the node is known. -/
inductive FollowTalk (settings : EvictionSettings) (verdict : Verdict)
    (node : Node) : List Exchange → Prop where
  | settled (calm : verdict.isShortage = false) :
      FollowTalk settings verdict node []
  | removed (calm : verdict.isShortage = false) :
      FollowTalk settings verdict node
        [⟨.patchTaints node (node.taintsWithout settings.taintKey), .ok ()⟩,
          ⟨.tell (.taintRemoved settings.taintKey), ()⟩]
  | stayed (calm : verdict.isShortage = false) (fault : Fault) :
      FollowTalk settings verdict node
        [⟨.patchTaints node (node.taintsWithout settings.taintKey),
          .error fault⟩]
  | relieved (shortage : verdict.isShortage = true)
      {first second : List Exchange}
      (tainting : TaintingTalk settings node first)
      (relief : ReliefTalk settings verdict second) :
      FollowTalk settings verdict node (first ++ second)

/-- What is said in a whole cycle. -/
inductive CycleTalk (settings : EvictionSettings) : List Exchange → Prop where
  | unjudged (fault : Fault) : CycleTalk settings [⟨.judge, .error fault⟩]
  | unfound (verdict : Verdict) (fault : Fault) : CycleTalk settings
      [⟨.judge, .ok verdict⟩, ⟨.showShortage verdict.isShortage, ()⟩,
        ⟨.getNode settings.nodeName, .error fault⟩]
  | found (verdict : Verdict) (node : Node) {talk : List Exchange}
      (follows : FollowTalk settings verdict node talk) : CycleTalk settings
      (⟨.judge, .ok verdict⟩ :: ⟨.showShortage verdict.isShortage, ()⟩ ::
        ⟨.getNode settings.nodeName, .ok node⟩ :: talk)

theorem attempt_of_reaches {attempt : Except Fault Unit}
    (reached : (evict pod).Reaches said (.done attempt)) :
    Attempt pod said attempt := by
  by_cases free : pod.finalizers = []
  · rw [evict_of_free free] at reached
    obtain ⟨answer, later, rfl, ended⟩ := Reaches.of_ask reached
    obtain ⟨rfl, same⟩ := Reaches.of_done ended
    cases same
    exact .deleted free _
  · rw [evict_of_bound free] at reached
    obtain ⟨cleared, later, rfl, rest⟩ := Reaches.of_ask reached
    cases cleared with
    | error fault =>
        obtain ⟨rfl, same⟩ := Reaches.of_done rest
        cases same
        exact .held free fault
    | ok done =>
        obtain ⟨answer, last, rfl, ended⟩ := Reaches.of_ask rest
        obtain ⟨rfl, same⟩ := Reaches.of_done ended
        cases same
        exact .freed free _

theorem evictionTalk_of_reaches {candidates : List Pod}
    {outcome : Except Fault CycleOutcome}
    (reached : (evictFirst candidates).Reaches said (.done outcome)) :
    EvictionTalk said := by
  cases candidates with
  | nil =>
      obtain ⟨rfl, _⟩ := Reaches.of_done reached
      exact .nobody
  | cons pod others =>
      obtain ⟨calls, later, attempt, rfl, tried, rest⟩ :=
        Reaches.of_bind reached
      cases attempt with
      | error fault =>
          obtain ⟨_, last, rfl, ended⟩ := Reaches.of_ask rest
          obtain ⟨rfl, _⟩ := Reaches.of_done ended
          exact .failed (attempt_of_reaches tried)
      | ok done =>
          obtain ⟨_, last, rfl, flushing⟩ := Reaches.of_ask rest
          obtain ⟨_, none, rfl, ended⟩ := Reaches.of_ask flushing
          obtain ⟨rfl, _⟩ := Reaches.of_done ended
          exact .succeeded (attempt_of_reaches tried)

theorem reliefTalk_of_reaches {verdict : Verdict}
    {outcome : Except Fault CycleOutcome}
    (reached : (relieve settings verdict).Reaches said (.done outcome)) :
    ReliefTalk settings verdict said := by
  obtain ⟨_, later, rfl, listing⟩ := Reaches.of_ask reached
  obtain ⟨pods, rest, rfl, choosing⟩ := Reaches.of_ask listing
  cases pods with
  | error fault =>
      obtain ⟨rfl, _⟩ := Reaches.of_done choosing
      exact .listed (.error fault)
  | ok pods =>
      change Reaches
        (if (aliveCandidates settings pods).isEmpty then _ else _) _ _
        at choosing
      by_cases deserted : (aliveCandidates settings pods).isEmpty = true
      · rw [if_pos deserted] at choosing
        obtain ⟨rfl, _⟩ := Reaches.of_done choosing
        exact .listed (.ok pods)
      · rw [if_neg deserted] at choosing
        obtain ⟨measured, talk, rfl, evicting⟩ := Reaches.of_ask choosing
        cases measured with
        | error fault =>
            exact .attempted _ _ (evictionTalk_of_reaches evicting)
        | ok usages =>
            exact .attempted _ _ (evictionTalk_of_reaches evicting)

theorem taintingTalk_of_reaches {node : Node}
    (free : node.hasEvictionTaint settings.taintKey = false)
    (reached : (addTaint settings node).Reaches said (.done ())) :
    TaintingTalk settings node said := by
  obtain ⟨patched, later, rfl, rest⟩ := Reaches.of_ask reached
  cases patched with
  | error fault =>
      obtain ⟨_, last, rfl, ended⟩ := Reaches.of_ask rest
      obtain ⟨rfl, _⟩ := Reaches.of_done ended
      exact .refused free fault
  | ok done =>
      obtain ⟨_, last, rfl, flushing⟩ := Reaches.of_ask rest
      obtain ⟨_, none, rfl, ended⟩ := Reaches.of_ask flushing
      obtain ⟨rfl, _⟩ := Reaches.of_done ended
      exact .added free

theorem followTalk_of_reaches {verdict : Verdict} {node : Node}
    {outcome : Except Fault CycleOutcome}
    (reached : (follow settings verdict node).Reaches said (.done outcome)) :
    FollowTalk settings verdict node said := by
  unfold follow at reached
  cases tainted : node.hasEvictionTaint settings.taintKey with
  | true =>
      cases shortage : verdict.isShortage with
      | true =>
          rw [tainted, shortage] at reached
          exact .relieved shortage (.already tainted)
            (reliefTalk_of_reaches reached)
      | false =>
          rw [tainted, shortage] at reached
          obtain ⟨patched, later, rfl, rest⟩ := Reaches.of_ask reached
          cases patched with
          | error fault =>
              obtain ⟨rfl, _⟩ := Reaches.of_done rest
              exact .stayed shortage fault
          | ok done =>
              obtain ⟨_, last, rfl, ended⟩ := Reaches.of_ask rest
              obtain ⟨rfl, _⟩ := Reaches.of_done ended
              exact .removed shortage
  | false =>
      cases shortage : verdict.isShortage with
      | true =>
          rw [tainted, shortage] at reached
          obtain ⟨first, second, _, rfl, tainting, relief⟩ :=
            Reaches.of_bind reached
          exact .relieved shortage (taintingTalk_of_reaches tainted tainting)
            (reliefTalk_of_reaches relief)
      | false =>
          rw [tainted, shortage] at reached
          obtain ⟨rfl, _⟩ := Reaches.of_done reached
          exact .settled shortage

theorem cycleTalk_of_reaches {outcome : Except Fault CycleOutcome}
    (reached : (Cycle.decide settings).Reaches said (.done outcome)) :
    CycleTalk settings said := by
  obtain ⟨judged, later, rfl, rest⟩ := Reaches.of_ask reached
  cases judged with
  | error fault =>
      obtain ⟨rfl, _⟩ := Reaches.of_done rest
      exact .unjudged fault
  | ok verdict =>
      obtain ⟨_, shown, rfl, finding⟩ := Reaches.of_ask rest
      obtain ⟨found, talk, rfl, follows⟩ := Reaches.of_ask finding
      cases found with
      | error fault =>
          obtain ⟨rfl, _⟩ := Reaches.of_done follows
          exact .unfound verdict fault
      | ok node => exact .found verdict node (followTalk_of_reaches follows)

end Cycle

end SwapWarden
