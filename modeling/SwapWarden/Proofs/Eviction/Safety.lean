import SwapWarden.Eviction.Cycle
import SwapWarden.Proofs.Conversation
import SwapWarden.Proofs.Eviction.Order

/-!
# What a decision cycle may evict

Whatever its collaborators answer, a cycle deletes at most one pod: the first
candidate of the list it was given in this very cycle, and only when its
verdict was a shortage.  When there is a shortage and a candidate, exactly one
attempt is made, and the outcome tells whether it succeeded.

A conversation is split into inquiries, which make no change, and calls that
evict.  The protocol of a cycle says which inquiries must stand before a call
that evicts, and which calls may stand before another one.
-/

namespace SwapWarden

namespace EvictionFilter

theorem isCandidate_iff {filter : EvictionFilter} {pod : Pod} :
    filter.isCandidate pod = true ↔
      pod.metadata.namespaceOrEmpty ≠ filter.ownNamespace ∧
        hasExcludedPrefix pod.metadata.namespaceOrEmpty
          filter.excludedPrefixes = false ∧
        pod.isStatic = false ∧ pod.isMirror = false ∧
        pod.hasCriticalPriority = false := by
  simp [isCandidate, Pod.isCritical, and_assoc]

end EvictionFilter

namespace Cycle

open Program

/-- What a cycle asked and was answered. -/
abbrev Exchange : Type := Program.Exchange CycleRequest CycleRequest.Answer

variable {settings : EvictionSettings} {said : List Exchange} {pod : Pod}

/-! ## Inquiries and evictions of a conversation -/

namespace Exchange

def inquires : Exchange → Bool
  | ⟨.judge, _⟩ | ⟨.getNode _, _⟩ | ⟨.listPods _, _⟩ | ⟨.listUsages, _⟩ => true
  | _ => false

def deletes : Exchange → Bool
  | ⟨.deletePod _, _⟩ => true
  | _ => false

def evicts : Exchange → Bool
  | ⟨.clearFinalizers _, _⟩ | ⟨.deletePod _, _⟩ => true
  | _ => false

end Exchange

def inquiries (said : List Exchange) : List Exchange :=
  said.filter Exchange.inquires

def evictions (said : List Exchange) : List Exchange :=
  said.filter Exchange.evicts

def deletions (said : List Exchange) : List Exchange :=
  said.filter Exchange.deletes

theorem inquiries_append (said : List Exchange) (exchange : Exchange) :
    inquiries (said ++ [exchange]) =
      inquiries said ++ if exchange.inquires then [exchange] else [] := by
  simp [inquiries, List.filter_cons]

theorem evictions_append (said : List Exchange) (exchange : Exchange) :
    evictions (said ++ [exchange]) =
      evictions said ++ if exchange.evicts then [exchange] else [] := by
  simp [evictions, List.filter_cons]

theorem deletions_eq (said : List Exchange) :
    deletions said = (evictions said).filter Exchange.deletes := by
  unfold deletions evictions
  rw [List.filter_filter]
  congr 1
  funext exchange
  obtain ⟨request, answer⟩ := exchange
  cases request with
  | _ => rfl

/-! ## The pod to be evicted -/

/-- The pods of a list that are alive and may be evicted. -/
def aliveCandidates (settings : EvictionSettings) (pods : List Pod) :
    List Pod :=
  settings.filter.candidates (pods.filter Pod.isAlive)

/-- The first of the candidates in the order of eviction, or as they were
listed when the usages could not be had. -/
def IsTarget (settings : EvictionSettings) (pods : List Pod)
    (measured : Except Fault (List PodUsage)) (pod : Pod) : Prop :=
  match measured with
  | .ok usages =>
      EvictionOrder.IsFirst (EvictionOrder.usageTable usages)
        (aliveCandidates settings pods) pod
  | .error _ => (aliveCandidates settings pods).head? = some pod

/-- What a cycle knows of the pod that it evicts. -/
structure Victim (settings : EvictionSettings) (pods : List Pod)
    (measured : Except Fault (List PodUsage)) (pod : Pod) : Prop where
  listed : pod ∈ pods
  alive : pod.isAlive = true
  foreign : pod.metadata.namespaceOrEmpty ≠ settings.filter.ownNamespace
  included : hasExcludedPrefix pod.metadata.namespaceOrEmpty
    settings.filter.excludedPrefixes = false
  notStatic : pod.isStatic = false
  notMirror : pod.isMirror = false
  notCritical : pod.hasCriticalPriority = false
  first : IsTarget settings pods measured pod

theorem Victim.of_isTarget {pods : List Pod}
    {measured : Except Fault (List PodUsage)}
    (first : IsTarget settings pods measured pod) :
    Victim settings pods measured pod := by
  have candidate : pod ∈ aliveCandidates settings pods := by
    cases measured with
    | ok usages =>
        obtain ⟨before, after, parts, _, _⟩ := first
        rw [parts]
        exact List.mem_append_right before List.mem_cons_self
    | error fault => exact List.mem_of_mem_head? first
  obtain ⟨kept, passes⟩ := List.mem_filter.mp candidate
  obtain ⟨listed, alive⟩ := List.mem_filter.mp kept
  obtain ⟨foreign, included, notStatic, notMirror, notCritical⟩ :=
    EvictionFilter.isCandidate_iff.mp passes
  exact ⟨listed, alive, foreign, included, notStatic, notMirror, notCritical,
    first⟩

/-- What a cycle must have inquired before it evicts a pod: each thing once,
the verdict a shortage and the pod the target. -/
def MayEvict (settings : EvictionSettings) (said : List Exchange) (pod : Pod) :
    Prop :=
  ∃ verdict node pods measured,
    inquiries said =
      [⟨.judge, .ok verdict⟩, ⟨.getNode settings.nodeName, .ok node⟩,
        ⟨.listPods settings.nodeName, .ok pods⟩, ⟨.listUsages, measured⟩] ∧
    verdict.isShortage = true ∧ Victim settings pods measured pod

/-- An attempt to evict a pod, and how it ended. -/
inductive Attempt (pod : Pod) : List Exchange → Except Fault Unit → Prop where
  | deleted (free : pod.finalizers = []) (answer : Except Fault Unit) :
      Attempt pod [⟨.deletePod pod.key, answer⟩] answer
  | held (bound : pod.finalizers ≠ []) (fault : Fault) :
      Attempt pod [⟨.clearFinalizers pod, .error fault⟩] (.error fault)
  | freed (bound : pod.finalizers ≠ []) (answer : Except Fault Unit) :
      Attempt pod
        [⟨.clearFinalizers pod, .ok ()⟩, ⟨.deletePod pod.key, answer⟩] answer

/-! ## The protocol of a cycle -/

/-- Only the target is evicted, once, and freed of its finalizers before. -/
def MayAsk (settings : EvictionSettings) (said : List Exchange) :
    CycleRequest → Prop
  | .clearFinalizers pod =>
      MayEvict settings said pod ∧ pod.finalizers ≠ [] ∧ evictions said = []
  | .deletePod key =>
      ∃ pod, MayEvict settings said pod ∧ key = pod.key ∧
        evictions said =
          if pod.finalizers = [] then []
          else [⟨.clearFinalizers pod, .ok ()⟩]
  | _ => True

abbrev protocol (settings : EvictionSettings) :
    Protocol CycleRequest CycleRequest.Answer (List Exchange) :=
  Protocol.recording (MayAsk settings)

/-- How a complete cycle leaves a shortage: the node is looked up, its pods are
listed, and when there is a candidate it is attempted to evict the target. -/
def Relieved (settings : EvictionSettings) (said : List Exchange)
    (outcome : Except Fault CycleOutcome) : Prop :=
  ∃ judged, (inquiries said)[0]? = some ⟨.judge, judged⟩ ∧
    ∀ verdict, judged = .ok verdict → verdict.isShortage = true →
  ∃ found, (inquiries said)[1]? = some ⟨.getNode settings.nodeName, found⟩ ∧
    ∀ node, found = .ok node →
  ∃ listed, (inquiries said)[2]? =
      some ⟨.listPods settings.nodeName, listed⟩ ∧
    ∀ pods, listed = .ok pods → aliveCandidates settings pods ≠ [] →
  ∃ pod attempt, MayEvict settings said pod ∧
    Attempt pod (evictions said) attempt ∧
    (outcome = .ok (.evicted pod.key) ↔ attempt = .ok ())

theorem MayEvict.of_inquiries {later : List Exchange}
    (may : MayEvict settings said pod)
    (same : inquiries later = inquiries said) :
    MayEvict settings later pod := by
  obtain ⟨verdict, node, pods, measured, asked, shortage, victim⟩ := may
  exact ⟨verdict, node, pods, measured, same.trans asked, shortage, victim⟩

theorem deletePod_keeps (may : MayEvict settings said pod)
    (called : evictions said =
      if pod.finalizers = [] then [] else [⟨.clearFinalizers pod, .ok ()⟩]) :
    (protocol settings).Keeps
      (fun later attempt => inquiries later = inquiries said ∧
        Attempt pod (evictions later) attempt)
      (ask (.deletePod pod.key)) said := by
  refine ⟨⟨pod, may, rfl, called⟩, fun answer => ⟨?_, ?_⟩⟩
  · exact (inquiries_append said _).trans (List.append_nil _)
  · change Attempt pod (evictions (said ++ [⟨.deletePod pod.key, answer⟩]))
      answer
    rw [evictions_append, called]
    by_cases free : pod.finalizers = []
    · rw [if_pos free]
      exact .deleted free answer
    · rw [if_neg free]
      exact .freed free answer

theorem evict_of_free (free : pod.finalizers = []) :
    evict pod = ask (.deletePod pod.key) :=
  if_pos (List.isEmpty_iff.mpr free)

theorem evict_of_bound (bound : pod.finalizers ≠ []) :
    evict pod =
      (ask (.clearFinalizers pod)).bind fun
        | .error fault => .done (.error fault)
        | .ok _ => ask (.deletePod pod.key) := by
  refine (if_neg (mt List.isEmpty_iff.mp bound)).trans ?_
  refine congrArg (Program.bind _) (funext fun answer => ?_)
  cases answer with
  | error fault => rfl
  | ok done => rfl

theorem evict_keeps (may : MayEvict settings said pod)
    (fresh : evictions said = []) :
    (protocol settings).Keeps
      (fun later attempt => inquiries later = inquiries said ∧
        Attempt pod (evictions later) attempt)
      (evict pod) said := by
  by_cases free : pod.finalizers = []
  · rw [evict_of_free free]
    exact deletePod_keeps may (by rw [if_pos free, fresh])
  · rw [evict_of_bound free]
    refine Protocol.Keeps.ask ⟨may, free, fresh⟩ fun answer => ?_
    have same :
        inquiries (said ++ [⟨.clearFinalizers pod, answer⟩]) =
          inquiries said :=
      (inquiries_append said _).trans (List.append_nil _)
    have called :
        evictions (said ++ [⟨.clearFinalizers pod, answer⟩]) =
          [⟨.clearFinalizers pod, answer⟩] := by
      rw [evictions_append, fresh]
      rfl
    cases answer with
    | error fault => exact ⟨same, called ▸ .held free fault⟩
    | ok done =>
        have keeps := deletePod_keeps (may.of_inquiries same)
          (called.trans (if_neg free).symm)
        exact keeps.mono fun later attempt ends =>
          ⟨ends.1.trans same, ends.2⟩

/-! ## Each part of a cycle keeps to the protocol -/

theorem aside (said : List Exchange) (exchange : Exchange)
    (noInquiry : exchange.inquires = false)
    (noEviction : exchange.evicts = false) :
    inquiries (said ++ [exchange]) = inquiries said ∧
      evictions (said ++ [exchange]) = evictions said := by
  rw [inquiries_append, evictions_append, noInquiry, noEviction]
  exact ⟨List.append_nil _, List.append_nil _⟩

theorem relieved_of_attempt {outcome : Except Fault CycleOutcome}
    {attempt : Except Fault Unit} (may : MayEvict settings said pod)
    (attempted : Attempt pod (evictions said) attempt)
    (tells : outcome = .ok (.evicted pod.key) ↔ attempt = .ok ()) :
    Relieved settings said outcome := by
  obtain ⟨verdict, node, pods, measured, asked, _, _⟩ := id may
  have place (index : Nat) :
      (inquiries said)[index]? = _ := congrArg (·[index]?) asked
  exact ⟨.ok verdict, place 0, fun _ _ _ => ⟨.ok node, place 1, fun _ _ =>
    ⟨.ok pods, place 2, fun _ _ _ => ⟨pod, attempt, may, attempted, tells⟩⟩⟩⟩

theorem evictFirst_keeps {others : List Pod}
    (may : MayEvict settings said pod) (fresh : evictions said = []) :
    (protocol settings).Keeps (Relieved settings)
      (evictFirst (pod :: others)) said := by
  refine Protocol.Keeps.bind ?_
  refine (evict_keeps may fresh).mono fun later attempt ends => ?_
  obtain ⟨same, attempted⟩ := ends
  have still := may.of_inquiries same
  cases attempt with
  | error fault =>
      refine Protocol.Keeps.ask trivial fun _ => ?_
      obtain ⟨noInquiry, noEviction⟩ := aside later
        ⟨.tell (.evictionFailed pod.key fault.message), ()⟩ rfl rfl
      refine relieved_of_attempt (still.of_inquiries noInquiry)
        (noEviction ▸ attempted) ?_
      exact ⟨nofun, nofun⟩
  | ok done =>
      refine Protocol.Keeps.ask trivial fun _ =>
        Protocol.Keeps.ask trivial fun _ => ?_
      obtain ⟨noInquiry, noEviction⟩ := aside later
        ⟨.tell (.evicted pod.key), ()⟩ rfl rfl
      obtain ⟨neitherInquiry, neitherEviction⟩ :=
        aside (later ++ [⟨.tell (.evicted pod.key), ()⟩]) ⟨.flush, ()⟩ rfl rfl
      refine relieved_of_attempt
        (still.of_inquiries (neitherInquiry.trans noInquiry))
        (neitherEviction.trans noEviction ▸ attempted) ?_
      exact ⟨fun _ => rfl, fun _ => rfl⟩

theorem evictFirst_keeps_of_target {candidates : List Pod}
    (present : candidates ≠ [])
    (target : ∀ pod, candidates.head? = some pod → MayEvict settings said pod)
    (fresh : evictions said = []) :
    (protocol settings).Keeps (Relieved settings) (evictFirst candidates) said
    := by
  cases candidates with
  | nil => exact absurd rfl present
  | cons pod others => exact evictFirst_keeps (target pod rfl) fresh

theorem relieve_keeps {verdict : Verdict} {node : Node}
    (shortage : verdict.isShortage = true)
    (asked : inquiries said =
      [⟨.judge, .ok verdict⟩, ⟨.getNode settings.nodeName, .ok node⟩])
    (fresh : evictions said = []) :
    (protocol settings).Keeps (Relieved settings) (relieve settings verdict)
      said := by
  let told : Exchange :=
    ⟨.tell (.shortage verdict.highTraffic verdict.highUtilization), ()⟩
  obtain ⟨noInquiry, noEviction⟩ := aside said told rfl rfl
  refine Protocol.Keeps.ask trivial fun _ =>
    Protocol.Keeps.ask trivial fun listed => ?_
  have askedPods :
      inquiries
          (said ++ [told] ++ [⟨.listPods settings.nodeName, listed⟩]) =
        [⟨.judge, .ok verdict⟩, ⟨.getNode settings.nodeName, .ok node⟩,
          ⟨.listPods settings.nodeName, listed⟩] := by
    rw [inquiries_append, noInquiry, asked]
    rfl
  have freshPods :
      evictions
          (said ++ [told] ++ [⟨.listPods settings.nodeName, listed⟩]) = [] := by
    rw [evictions_append, noEviction, fresh]
    rfl
  have place (index : Nat) := congrArg (·[index]?) askedPods
  cases listed with
  | error fault =>
      refine ⟨.ok verdict, place 0, fun _ _ _ => ⟨.ok node, place 1,
        fun _ _ => ⟨.error fault, place 2, fun pods same => ?_⟩⟩⟩
      cases same
  | ok pods =>
      change (protocol settings).Keeps _
        (if (aliveCandidates settings pods).isEmpty then _ else _) _
      by_cases deserted : aliveCandidates settings pods = []
      · rw [if_pos (List.isEmpty_iff.mpr deserted)]
        refine ⟨.ok verdict, place 0, fun _ _ _ => ⟨.ok node, place 1,
          fun _ _ => ⟨.ok pods, place 2, fun others same found => ?_⟩⟩⟩
        exact absurd (Except.ok.inj same ▸ deserted) found
      · rw [if_neg (mt List.isEmpty_iff.mp deserted)]
        refine Protocol.Keeps.ask trivial fun measured => ?_
        have askedAll := (inquiries_append _
          (⟨.listUsages, measured⟩ : Exchange)).trans
            (congrArg (· ++ _) askedPods)
        have freshAll := (evictions_append _
          (⟨.listUsages, measured⟩ : Exchange)).trans
            (congrArg (· ++ _) freshPods)
        have target (pod : Pod) (first : IsTarget settings pods measured pod) :
            MayEvict settings _ pod :=
          ⟨verdict, node, pods, measured, askedAll, shortage,
            .of_isTarget first⟩
        cases measured with
        | error fault => exact evictFirst_keeps_of_target deserted target freshAll
        | ok usages =>
            refine evictFirst_keeps_of_target
              (mt EvictionOrder.rank_eq_nil deserted) ?_ freshAll
            intro pod head
            obtain ⟨others, ranked⟩ := List.head?_eq_some_iff.mp head
            exact target pod (EvictionOrder.isFirst_of_rank ranked)

theorem addTaint_keeps (node : Node) :
    (protocol settings).Keeps
      (fun later _ => inquiries later = inquiries said ∧
        evictions later = evictions said)
      (addTaint settings node) said := by
  refine Protocol.Keeps.ask trivial fun patched => ?_
  let tried := said ++ [⟨.patchTaints node
    (node.taintsWith settings.taintKey), patched⟩]
  obtain ⟨noInquiry, noEviction⟩ : inquiries tried = inquiries said ∧
      evictions tried = evictions said := aside said _ rfl rfl
  cases patched with
  | error fault =>
      refine ⟨trivial, fun _ => ?_⟩
      obtain ⟨same, still⟩ := aside tried ⟨.flush, ()⟩ rfl rfl
      exact ⟨same.trans noInquiry, still.trans noEviction⟩
  | ok done =>
      refine ⟨trivial, fun _ => ⟨trivial, fun _ => ?_⟩⟩
      let told := tried ++ [⟨.tell (.taintAdded settings.taintKey), ()⟩]
      obtain ⟨sameTold, stillTold⟩ : inquiries told = inquiries tried ∧
        evictions told = evictions tried := aside tried _ rfl rfl
      obtain ⟨same, still⟩ := aside told ⟨.flush, ()⟩ rfl rfl
      exact ⟨same.trans (sameTold.trans noInquiry),
        still.trans (stillTold.trans noEviction)⟩

theorem relieved_of_calm {verdict : Verdict}
    {rest : List Exchange} {outcome : Except Fault CycleOutcome}
    (calm : verdict.isShortage = false)
    (asked : inquiries said = ⟨.judge, .ok verdict⟩ :: rest) :
    Relieved settings said outcome := by
  refine ⟨.ok verdict, congrArg (·[0]?) asked, fun other same shortage => ?_⟩
  obtain rfl : verdict = other := Except.ok.inj same
  exact absurd shortage (Bool.eq_false_iff.mp calm)

theorem removeTaint_keeps {verdict : Verdict} {rest : List Exchange}
    (node : Node) (calm : verdict.isShortage = false)
    (asked : inquiries said = ⟨.judge, .ok verdict⟩ :: rest) :
    (protocol settings).Keeps (Relieved settings) (removeTaint settings node)
      said := by
  refine Protocol.Keeps.ask trivial fun patched => ?_
  have stillAsked := (aside said ⟨.patchTaints node
    (node.taintsWithout settings.taintKey), patched⟩ rfl rfl).1.trans asked
  cases patched with
  | error fault => exact relieved_of_calm calm stillAsked
  | ok done =>
      refine ⟨trivial, fun _ => ?_⟩
      exact relieved_of_calm calm ((aside _ _ rfl rfl).1.trans stillAsked)

theorem follow_keeps {verdict : Verdict} {node : Node}
    (asked : inquiries said =
      [⟨.judge, .ok verdict⟩, ⟨.getNode settings.nodeName, .ok node⟩])
    (fresh : evictions said = []) :
    (protocol settings).Keeps (Relieved settings)
      (follow settings verdict node) said := by
  unfold follow
  cases tainted : node.hasEvictionTaint settings.taintKey with
  | true =>
      cases shortage : verdict.isShortage with
      | true => exact relieve_keeps shortage asked fresh
      | false => exact removeTaint_keeps node shortage asked
  | false =>
      cases shortage : verdict.isShortage with
      | true =>
          refine Protocol.Keeps.bind ?_
          refine (addTaint_keeps node).mono fun later _ same => ?_
          exact relieve_keeps shortage (same.1.trans asked)
            (same.2.trans fresh)
      | false => exact relieved_of_calm shortage asked

theorem decide_keeps (settings : EvictionSettings) :
    (protocol settings).Keeps (Relieved settings) (Cycle.decide settings) [] := by
  refine Protocol.Keeps.ask trivial fun judged => ?_
  cases judged with
  | error fault => exact ⟨.error fault, rfl, fun _ same => by cases same⟩
  | ok verdict =>
      refine Protocol.Keeps.ask trivial fun _ =>
        Protocol.Keeps.ask trivial fun found => ?_
      cases found with
      | error fault =>
          refine ⟨.ok verdict, rfl, fun _ _ _ => ⟨.error fault, rfl, ?_⟩⟩
          intro node same
          cases same
      | ok node => exact follow_keeps rfl rfl

theorem mayAsk_of_reaches {exchanges : List Exchange} {request : CycleRequest}
    {next : request.Answer → Part (Except Fault CycleOutcome)}
    (reached : (Cycle.decide settings).Reaches exchanges (.ask request next)) :
    MayAsk settings exchanges request := by
  have keeps := (decide_keeps settings).rest reached
  rw [Protocol.follow_recording] at keeps
  exact keeps.1

/-! ## Safety of a cycle -/

/-- The evictions of a cycle: it may free one pod of its finalizers, and then
or at once delete one. -/
inductive Evictions : List Exchange → Prop where
  | none : Evictions []
  | held (pod : Pod) (fault : Fault) :
      Evictions [⟨.clearFinalizers pod, .error fault⟩]
  | freed (pod : Pod) : Evictions [⟨.clearFinalizers pod, .ok ()⟩]
  | deleted (key : PodKey) (answer : Except Fault Unit) :
      Evictions [⟨.deletePod key, answer⟩]
  | freedAndDeleted (pod : Pod) (key : PodKey) (answer : Except Fault Unit) :
      Evictions [⟨.clearFinalizers pod, .ok ()⟩, ⟨.deletePod key, answer⟩]

theorem Evictions.deletes_once {calls : List Exchange}
    (made : Evictions calls) :
    (calls.filter Exchange.deletes).length ≤ 1 := by
  cases made with
  | none => exact Nat.zero_le 1
  | held => exact Nat.zero_le 1
  | freed => exact Nat.zero_le 1
  | deleted => exact Nat.le_refl 1
  | freedAndDeleted => exact Nat.le_refl 1

theorem Evictions.spares_held {calls : List Exchange} {fault : Fault}
    (made : Evictions calls)
    (failed : ⟨.clearFinalizers pod, .error fault⟩ ∈ calls) :
    calls.filter Exchange.deletes = [] := by
  cases made with
  | none => rfl
  | held => rfl
  | freed => rfl
  | deleted => cases List.mem_singleton.mp failed
  | freedAndDeleted =>
      rcases List.mem_cons.mp failed with same | later
      · cases same
      · cases List.mem_singleton.mp later

theorem evictions_of_mayAsk {request : CycleRequest}
    (answer : request.Answer) (made : Evictions (evictions said))
    (allowed : MayAsk settings said request) :
    Evictions (evictions (said ++ [⟨request, answer⟩])) := by
  rw [evictions_append]
  cases request with
  | clearFinalizers pod =>
      obtain ⟨_, _, fresh⟩ := allowed
      rw [fresh]
      cases answer with
      | error fault => exact .held pod fault
      | ok done => exact .freed pod
  | deletePod key =>
      obtain ⟨pod, _, _, called⟩ := allowed
      rw [called]
      by_cases free : pod.finalizers = []
      · rw [if_pos free]
        exact .deleted key answer
      · rw [if_neg free]
        exact .freedAndDeleted pod key answer
  | _ => exact (List.append_nil _).symm ▸ made

theorem evictions_of_reaches
    {rest : Part (Except Fault CycleOutcome)} {exchanges : List Exchange}
    (reached : (Cycle.decide settings).Reaches exchanges rest) :
    Evictions (evictions exchanges) := by
  have all := Protocol.Keeps.invariant
    (fun said => Evictions (evictions said)) (decide_keeps settings) reached
    .none fun said request answer => evictions_of_mayAsk answer
  rwa [Protocol.follow_recording] at all

/-- Whatever is answered, at every point of a cycle at most one deletion was
asked for.  Every deletion is of the target among the alive candidates of the
one list that was given before, after a shortage and with the finalizers
cleared; none comes when clearing them failed.  A complete cycle relieves a
shortage by one attempt, and its outcome tells whether that succeeded. -/
theorem eviction_safe {rest : Part (Except Fault CycleOutcome)}
    {exchanges : List Exchange}
    (reached : (Cycle.decide settings).Reaches exchanges rest) :
    (deletions exchanges).length ≤ 1 ∧
    (∀ earlier key answer later,
      exchanges = earlier ++ ⟨.deletePod key, answer⟩ :: later →
      ∃ pod, MayEvict settings earlier pod ∧ key = pod.key ∧
        (pod.finalizers ≠ [] → ⟨.clearFinalizers pod, .ok ()⟩ ∈ earlier)) ∧
    (∀ pod fault, ⟨.clearFinalizers pod, .error fault⟩ ∈ exchanges →
      deletions exchanges = []) ∧
    ∀ outcome, rest = .done outcome → Relieved settings exchanges outcome := by
  have made := evictions_of_reaches reached
  refine ⟨?_, ?_, ?_, ?_⟩
  · rw [deletions_eq]
    exact made.deletes_once
  · rintro earlier key answer later rfl
    obtain ⟨_, before, _⟩ := reached.cut
    obtain ⟨pod, may, same, called⟩ := mayAsk_of_reaches before
    refine ⟨pod, may, same, fun bound => ?_⟩
    have cleared : ⟨.clearFinalizers pod, .ok ()⟩ ∈ evictions earlier := by
      rw [called, if_neg bound]
      exact List.mem_cons_self
    exact (List.mem_filter.mp cleared).1
  · intro pod fault member
    rw [deletions_eq]
    exact made.spares_held (List.mem_filter.mpr ⟨member, rfl⟩)
  · rintro outcome rfl
    have ends := (decide_keeps settings).rest reached
    rw [Protocol.follow_recording] at ends
    exact ends

/-- A shortage on a node that cannot be tainted and whose usages cannot be had:
of the pods listed one is critical, one has finished, and the first of the
others is freed of its finalizers and deleted. -/
theorem eviction_safe_freed :
    ∃ (critical finished bound other : Pod) (exchanges : List Exchange),
      (Cycle.decide {}).Reaches exchanges (.done (.ok (.evicted bound.key))) ∧
        ⟨.listPods "", .ok [critical, finished, bound, other]⟩ ∈ exchanges ∧
        deletions exchanges = [⟨.deletePod bound.key, .ok ()⟩] ∧
        bound.finalizers ≠ [] ∧
        Relieved {} exchanges (.ok (.evicted bound.key)) := by
  let critical : Pod :=
    { metadata := { namespaceName := some "shop" }
      spec := some { priority := some systemCriticalPriority } }
  let finished : Pod :=
    { metadata := { namespaceName := some "shop" }
      status := some { phase := some "Failed" } }
  let bound : Pod :=
    { metadata :=
        { namespaceName := some "shop"
          name := some "cart"
          finalizers := some ["hold"] } }
  let other : Pod := { metadata := { namespaceName := some "shop" } }
  let answers : (request : CycleRequest) → request.Answer
    | .judge => Except.ok { highTraffic := true }
    | .getNode _ => Except.ok {}
    | .patchTaints _ _ => Except.error default
    | .listPods _ => Except.ok [critical, finished, bound, other]
    | .listUsages => Except.error default
    | .clearFinalizers _ => Except.ok ()
    | .deletePod _ => Except.ok ()
    | .showShortage _ | .flush | .tell _ => ()
  have reached := reaches_conversation answers (Cycle.decide {})
  have result : (conversation answers (Cycle.decide {})).2 =
      .ok (.evicted bound.key) := rfl
  rw [result] at reached
  obtain ⟨_, _, _, relieved⟩ := eviction_safe reached
  refine ⟨critical, finished, bound, other, _, reached, ?_, rfl, nofun,
    relieved _ rfl⟩
  exact List.mem_of_getElem? (i := 6) rfl

end Cycle

end SwapWarden
