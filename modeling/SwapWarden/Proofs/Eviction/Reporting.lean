import SwapWarden.Proofs.Eviction.Loop
import SwapWarden.Proofs.Eviction.Talk
import SwapWarden.Proofs.Memory.History
import SwapWarden.Proofs.Node.EvictionTaint
import SwapWarden.Report.Journal

/-!
# What cycles report is what they did

A cycle tells events, which are counted, shows its verdict and flushes the
history.  Whatever it is answered, it tells one event for each thing it did, in
the order in which it did them, and one more for a shortage, after the node's
taint was seen to and before a pod is evicted.  It flushes the history when it
begins to evict and after it has evicted.
-/

namespace SwapWarden

namespace Event

def isNamed (name : String) (event : Event) : Bool := event.name == name

/-- Whether an event tells of a change of the node's taints. -/
def isTransition : Event → Bool
  | taintAdded _ | taintRemoved _ => true
  | _ => false

/-- Whether an event tells how an attempt to evict a pod ended. -/
def isAttempt : Event → Bool
  | evicted _ | evictionFailed _ _ => true
  | _ => false

end Event

namespace Cycle

variable {settings : EvictionSettings} {said : List Exchange} {pod : Pod}

/-! ## What a conversation does and what it tells -/

namespace Exchange

/-- Whether a patch put the eviction taint on the node. -/
def adds (settings : EvictionSettings) : Exchange → Bool
  | ⟨.patchTaints node taints, .ok _⟩ =>
      (node.withTaints taints).hasEvictionTaint settings.taintKey
  | _ => false

/-- Whether a patch left the node without the eviction taint. -/
def removes (settings : EvictionSettings) : Exchange → Bool
  | ⟨.patchTaints node taints, .ok _⟩ =>
      !(node.withTaints taints).hasEvictionTaint settings.taintKey
  | _ => false

/-- Whether a pod was evicted. -/
def succeeds : Exchange → Bool
  | ⟨.deletePod _, .ok _⟩ => true
  | _ => false

/-- Whether a pod could not be evicted. -/
def fails : Exchange → Bool
  | ⟨.clearFinalizers _, .error _⟩ | ⟨.deletePod _, .error _⟩ => true
  | _ => false

/-- The event that tells what was done. -/
def effect? (settings : EvictionSettings) : Exchange → Option Event
  | ⟨.patchTaints node taints, .ok _⟩ =>
      if (node.withTaints taints).hasEvictionTaint settings.taintKey then
        some (.taintAdded settings.taintKey)
      else
        some (.taintRemoved settings.taintKey)
  | ⟨.deletePod key, .ok _⟩ => some (.evicted key)
  | ⟨.deletePod key, .error fault⟩ =>
      some (.evictionFailed key fault.message)
  | ⟨.clearFinalizers pod, .error fault⟩ =>
      some (.evictionFailed pod.key fault.message)
  | _ => none

def told? : Exchange → Option Event
  | ⟨.tell event, _⟩ => some event
  | _ => none

def shown? : Exchange → Option Bool
  | ⟨.showShortage shortage, _⟩ => some shortage
  | _ => none

def verdict? : Exchange → Option Verdict
  | ⟨.judge, .ok verdict⟩ => some verdict
  | _ => none

def node? : Exchange → Option Node
  | ⟨.getNode _, .ok node⟩ => some node
  | _ => none

def flushes : Exchange → Bool
  | ⟨.flush, _⟩ => true
  | _ => false

end Exchange

def effects (settings : EvictionSettings) (said : List Exchange) : List Event :=
  said.filterMap (Exchange.effect? settings)

def told (said : List Exchange) : List Event :=
  said.filterMap Exchange.told?

def shown (said : List Exchange) : List Bool :=
  said.filterMap Exchange.shown?

/-- The verdict that a cycle was given. -/
def verdict? (said : List Exchange) : Option Verdict :=
  said.findSome? Exchange.verdict?

/-- The node that a cycle was given. -/
def node? (said : List Exchange) : Option Node :=
  said.findSome? Exchange.node?

/-- The event that tells of a verdict, if it is a shortage. -/
def verdictEvent? (verdict : Verdict) : Option Event :=
  if verdict.isShortage then
    some (.shortage verdict.highTraffic verdict.highUtilization)
  else
    none

/-- The event that tells of a shortage on a node that was found. -/
def alert? (said : List Exchange) : Option Event :=
  (verdict? said).bind fun verdict =>
    (node? said).bind fun _ => verdictEvent? verdict

/-- When a cycle flushes the history: in a shortage, when it finds the node
without the taint or evicts a pod. -/
def Flushes (settings : EvictionSettings) (said : List Exchange) : Prop :=
  ∃ verdict, verdict? said = some verdict ∧ verdict.isShortage = true ∧
    ((∃ node, node? said = some node ∧
        node.hasEvictionTaint settings.taintKey = false) ∨
      said.any Exchange.succeeds = true)

/-- What is told is what was done, in the same order, with an alert between the
changes of the taint and the attempt to evict. -/
structure Tells (settings : EvictionSettings) (alert : Option Event)
    (said : List Exchange) (transitions attempts : List Event) : Prop where
  effects_eq : effects settings said = transitions ++ attempts
  told_eq : told said = transitions ++ alert.toList ++ attempts
  transition : ∀ event ∈ transitions, event.isTransition = true
  attempt : ∀ event ∈ attempts, event.isAttempt = true
  once : attempts.length ≤ 1

theorem effects_append (first second : List Exchange) :
    effects settings (first ++ second) =
      effects settings first ++ effects settings second :=
  List.filterMap_append

theorem told_append (first second : List Exchange) :
    told (first ++ second) = told first ++ told second :=
  List.filterMap_append

theorem shown_append (first second : List Exchange) :
    shown (first ++ second) = shown first ++ shown second :=
  List.filterMap_append

/-- What a part of a cycle tells and shows, when events of one kind tell of all
that it does. -/
structure TellsOf (settings : EvictionSettings) (kind : Event → Bool)
    (said : List Exchange) : Prop where
  told_eq : told said = effects settings said
  shown_eq : shown said = []
  kinds : ∀ event ∈ effects settings said, kind event = true
  once : (effects settings said).length ≤ 1

theorem tellsOf_singleton {kind : Event → Bool} (event : Event)
    (told_eq : told said = [event])
    (effects_eq : effects settings said = [event])
    (shown_eq : shown said = []) (isKind : kind event = true) :
    TellsOf settings kind said := by
  refine ⟨told_eq.trans effects_eq.symm, shown_eq, ?_, ?_⟩
  · intro other member
    rw [effects_eq] at member
    obtain rfl := List.mem_singleton.mp member
    exact isKind
  · rw [effects_eq]
    exact Nat.le_refl 1

theorem tellsOf_nil {kind : Event → Bool} (told_eq : told said = [])
    (effects_eq : effects settings said = []) (shown_eq : shown said = []) :
    TellsOf settings kind said := by
  refine ⟨told_eq.trans effects_eq.symm, shown_eq, ?_, ?_⟩
  · simp [effects_eq]
  · simp [effects_eq]

/-- The event that tells how an attempt to evict a pod ended. -/
def attemptEvent (pod : Pod) : Except Fault Unit → Event
  | .ok _ => .evicted pod.key
  | .error fault => .evictionFailed pod.key fault.message

theorem Attempt.tells_nothing {attempt : Except Fault Unit}
    (tried : Attempt pod said attempt) (settings : EvictionSettings) :
    told said = [] ∧ shown said = [] ∧
      effects settings said = [attemptEvent pod attempt] ∧
      said.any Exchange.flushes = false ∧
      said.any Exchange.succeeds = attempt.isOk := by
  cases tried with
  | deleted free =>
      cases attempt with
      | error fault => exact ⟨rfl, rfl, rfl, rfl, rfl⟩
      | ok done => exact ⟨rfl, rfl, rfl, rfl, rfl⟩
  | held bound fault => exact ⟨rfl, rfl, rfl, rfl, rfl⟩
  | freed bound =>
      cases attempt with
      | error fault => exact ⟨rfl, rfl, rfl, rfl, rfl⟩
      | ok done => exact ⟨rfl, rfl, rfl, rfl, rfl⟩

/-- What closes an attempt tells how it ended, and flushes if it succeeded. -/
theorem Attempt.tells {attempt : Except Fault Unit} {closing : List Exchange}
    (tried : Attempt pod said attempt) (settings : EvictionSettings)
    (tells : told closing = [attemptEvent pod attempt])
    (dark : shown closing = []) (idle : effects settings closing = [])
    (flushes : closing.any Exchange.flushes = attempt.isOk)
    (spares : closing.any Exchange.succeeds = false) :
    TellsOf settings Event.isAttempt (said ++ closing) ∧
      (said ++ closing).any Exchange.flushes =
        (said ++ closing).any Exchange.succeeds := by
  obtain ⟨silent, unlit, effect, kept, done⟩ := tried.tells_nothing settings
  refine ⟨tellsOf_singleton (attemptEvent pod attempt) ?_ ?_ ?_ ?_,
    ?_⟩
  · rw [told_append, silent, tells, List.nil_append]
  · rw [effects_append, effect, idle, List.append_nil]
  · rw [shown_append, unlit, dark, List.nil_append]
  · cases attempt with
    | error fault => rfl
    | ok done => rfl
  · rw [List.any_append, List.any_append, kept, flushes, done, spares,
      Bool.false_or, Bool.or_false]

theorem EvictionTalk.tells (talk : EvictionTalk said)
    (settings : EvictionSettings) :
    TellsOf settings Event.isAttempt said ∧
      said.any Exchange.flushes = said.any Exchange.succeeds := by
  cases talk with
  | nobody => exact ⟨tellsOf_nil rfl rfl rfl, rfl⟩
  | succeeded attempt => exact attempt.tells settings rfl rfl rfl rfl rfl
  | failed attempt => exact attempt.tells settings rfl rfl rfl rfl rfl

theorem effect?_taintsFor (node : Node) (shortage : Bool) :
    Exchange.effect? settings ⟨.patchTaints node
        (node.taintsFor settings.taintKey shortage), .ok ()⟩ =
      some (if shortage then .taintAdded settings.taintKey
        else .taintRemoved settings.taintKey) := by
  have tainted := node.hasEvictionTaint_taintsFor settings.taintKey shortage
  unfold Exchange.effect?
  dsimp only
  rw [tainted]
  cases shortage with
  | true => rfl
  | false => rfl

theorem TaintingTalk.tells {node : Node}
    (talk : TaintingTalk settings node said) :
    TellsOf settings Event.isTransition said ∧
      said.any Exchange.flushes = !node.hasEvictionTaint settings.taintKey ∧
      said.any Exchange.succeeds = false := by
  cases talk with
  | already tainted =>
      rw [tainted]
      exact ⟨tellsOf_nil rfl rfl rfl, rfl, rfl⟩
  | added free =>
      have effect : effects settings
          [⟨.patchTaints node (node.taintsWith settings.taintKey), .ok ()⟩,
            ⟨.tell (.taintAdded settings.taintKey), ()⟩, ⟨.flush, ()⟩] =
            [.taintAdded settings.taintKey] :=
        List.filterMap_cons_some (effect?_taintsFor node true)
      rw [free]
      exact ⟨tellsOf_singleton _ rfl effect rfl rfl, rfl, rfl⟩
  | refused free fault =>
      rw [free]
      exact ⟨tellsOf_nil rfl rfl rfl, rfl, rfl⟩

theorem ReliefTalk.tells {verdict : Verdict}
    (talk : ReliefTalk settings verdict said) :
    told said =
        .shortage verdict.highTraffic verdict.highUtilization ::
          effects settings said ∧
      shown said = [] ∧
      (∀ event ∈ effects settings said, event.isAttempt = true) ∧
      (effects settings said).length ≤ 1 ∧
      said.any Exchange.flushes = said.any Exchange.succeeds := by
  cases talk with
  | listed pods =>
      refine ⟨rfl, rfl, ?_, Nat.zero_le 1, rfl⟩
      intro event member
      cases member
  | attempted pods measured evicting =>
      obtain ⟨tells, flushes⟩ := evicting.tells settings
      exact ⟨congrArg _ tells.told_eq, tells.shown_eq, tells.kinds, tells.once,
        flushes⟩

theorem verdictEvent?_of_calm {verdict : Verdict}
    (calm : verdict.isShortage = false) : verdictEvent? verdict = none :=
  if_neg (Bool.eq_false_iff.mp calm)

theorem FollowTalk.tells {verdict : Verdict} {node : Node}
    (talk : FollowTalk settings verdict node said) :
    (∃ transitions attempts,
      Tells settings (verdictEvent? verdict) said transitions attempts) ∧
      shown said = [] ∧
      (said.any Exchange.flushes = true ↔ verdict.isShortage = true ∧
        (node.hasEvictionTaint settings.taintKey = false ∨
          said.any Exchange.succeeds = true)) := by
  have unattempted (event : Event) (member : event ∈ []) :
      event.isAttempt = true := by
    cases member
  cases talk with
  | settled calm =>
      refine ⟨⟨[], [], rfl, ?_, by simp, unattempted,
        Nat.zero_le 1⟩, rfl, ?_⟩
      · rw [verdictEvent?_of_calm calm]
        rfl
      · simp [calm]
  | removed calm =>
      have effect : effects settings
          [⟨.patchTaints node (node.taintsWithout settings.taintKey), .ok ()⟩,
            ⟨.tell (.taintRemoved settings.taintKey), ()⟩] =
            [.taintRemoved settings.taintKey] :=
        List.filterMap_cons_some (effect?_taintsFor node false)
      refine ⟨⟨[.taintRemoved settings.taintKey], [], effect, ?_, ?_, unattempted,
        Nat.zero_le 1⟩, rfl, ?_⟩
      · rw [verdictEvent?_of_calm calm]
        rfl
      · simp [Event.isTransition]
      · simp [calm, Exchange.flushes]
  | stayed calm fault =>
      refine ⟨⟨[], [], rfl, ?_, by simp, unattempted,
        Nat.zero_le 1⟩, rfl, ?_⟩
      · rw [verdictEvent?_of_calm calm]
        rfl
      · simp [calm, Exchange.flushes]
  | @relieved shortage first second tainting relief =>
      have alert : verdictEvent? verdict =
          some (.shortage verdict.highTraffic verdict.highUtilization) := by
        simp [verdictEvent?, shortage]
      obtain ⟨before, flushed, spared⟩ := tainting.tells
      obtain ⟨after, dark, kinds, once, flushes⟩ := relief.tells
      refine ⟨⟨effects settings first, effects settings second,
        effects_append first second, ?_, before.kinds, kinds, once⟩, ?_, ?_⟩
      · rw [told_append, before.told_eq, after, alert, List.append_assoc]
        rfl
      · rw [shown_append, before.shown_eq, dark]
        rfl
      · rw [List.any_append, List.any_append, flushed, spared, flushes]
        simp [shortage]

theorem flushes_iff_of_unfound (lost : node? said = none)
    (kept : said.any Exchange.flushes = false)
    (spared : said.any Exchange.succeeds = false) :
    said.any Exchange.flushes = true ↔ Flushes settings said := by
  rw [kept]
  constructor
  · intro flushed
    cases flushed
  · rintro ⟨verdict, _, _, ⟨node, found, _⟩ | evicted⟩
    · rw [lost] at found
      cases found
    · rw [spared] at evicted
      cases evicted

/-- A cycle tells what it did, shows its verdict and flushes when it should. -/
theorem CycleTalk.tells (talk : CycleTalk settings said) :
    (∃ transitions attempts,
      Tells settings (alert? said) said transitions attempts) ∧
      shown said = ((verdict? said).map Verdict.isShortage).toList ∧
      (said.any Exchange.flushes = true ↔ Flushes settings said) := by
  cases talk with
  | unjudged fault =>
      exact ⟨⟨[], [], rfl, rfl, by simp, by simp, Nat.zero_le 1⟩, rfl,
        flushes_iff_of_unfound rfl rfl rfl⟩
  | unfound verdict fault =>
      exact ⟨⟨[], [], rfl, rfl, by simp, by simp, Nat.zero_le 1⟩, rfl,
        flushes_iff_of_unfound rfl rfl rfl⟩
  | @found verdict node talk follows =>
      obtain ⟨⟨transitions, attempts, tells⟩, dark, flushes⟩ := follows.tells
      refine ⟨⟨transitions, attempts, tells.effects_eq, tells.told_eq,
        tells.transition, tells.attempt, tells.once⟩, ?_, ?_⟩
      · exact congrArg (verdict.isShortage :: ·) dark
      · refine flushes.trans ?_
        constructor
        · rintro ⟨shortage, reason⟩
          exact ⟨verdict, rfl, shortage, reason.imp
            (fun free => ⟨node, rfl, free⟩) id⟩
        · rintro ⟨other, same, shortage, reason⟩
          obtain rfl := Option.some.inj same
          refine ⟨shortage, reason.imp ?_ id⟩
          rintro ⟨found, same, free⟩
          obtain rfl := Option.some.inj same
          exact free

/-! ## Counting what was done -/

/-- Whether the effect of an exchange is of a kind. -/
def hasEffect (settings : EvictionSettings) (kind : Event → Bool)
    (exchange : Exchange) : Bool :=
  ((exchange.effect? settings).map kind).getD false

theorem hasEffect_eq (settings : EvictionSettings) (exchange : Exchange) :
    hasEffect settings (Event.isNamed "taint_added") exchange =
        exchange.adds settings ∧
      hasEffect settings (Event.isNamed "taint_removed") exchange =
        exchange.removes settings ∧
      hasEffect settings (Event.isNamed "pod_evicted") exchange = exchange.succeeds ∧
      hasEffect settings (Event.isNamed "eviction_failed") exchange =
        exchange.fails := by
  obtain ⟨request, answer⟩ := exchange
  cases request with
  | patchTaints node taints =>
      cases answer with
      | error fault => exact ⟨rfl, rfl, rfl, rfl⟩
      | ok done =>
          unfold hasEffect Exchange.effect? Exchange.adds Exchange.removes
          dsimp only
          cases (node.withTaints taints).hasEvictionTaint settings.taintKey with
          | true => exact ⟨rfl, rfl, rfl, rfl⟩
          | false => exact ⟨rfl, rfl, rfl, rfl⟩
  | deletePod key =>
      cases answer with
      | error fault => exact ⟨rfl, rfl, rfl, rfl⟩
      | ok done => exact ⟨rfl, rfl, rfl, rfl⟩
  | clearFinalizers pod =>
      cases answer with
      | error fault => exact ⟨rfl, rfl, rfl, rfl⟩
      | ok done => exact ⟨rfl, rfl, rfl, rfl⟩
  | _ => exact ⟨rfl, rfl, rfl, rfl⟩

theorem countP_effects (kind : Event → Bool) (said : List Exchange) :
    (effects settings said).countP kind =
      said.countP (hasEffect settings kind) :=
  List.countP_filterMap

/-- Of what happens at most once it is enough to know whether it happened. -/
theorem countP_eq_toNat_any {α : Type} {test : α → Bool} {items : List α}
    (once : items.countP test ≤ 1) :
    items.countP test = (items.any test).toNat := by
  cases found : items.any test with
  | true =>
      have positive : 0 < items.countP test := by
        obtain ⟨item, member, passes⟩ := List.any_eq_true.mp found
        exact List.countP_pos_iff.mpr ⟨item, member, passes⟩
      exact Nat.le_antisymm once positive
  | false =>
      apply List.countP_eq_zero.mpr
      exact fun item member passes =>
        Bool.eq_false_iff.mp found (List.any_eq_true.mpr ⟨item, member, passes⟩)

/-- What is counted of the events that a cycle tells. -/
structure Tallies (settings : EvictionSettings) (said : List Exchange) :
    Prop where
  added : (told said).countP (Event.isNamed "taint_added") =
    said.countP (Exchange.adds settings)
  removed : (told said).countP (Event.isNamed "taint_removed") =
    said.countP (Exchange.removes settings)
  evicted : (told said).countP (Event.isNamed "pod_evicted") =
    (said.any Exchange.succeeds).toNat
  failed : (told said).countP (Event.isNamed "eviction_failed") =
    (said.any Exchange.fails).toNat
  limited : (told said).countP (Event.isNamed "swap_limit_set") = 0

section

variable {alert : Option Event} {transitions attempts : List Event}

theorem Tells.countP_told
    (tells : Tells settings (alert? said) said transitions attempts)
    {kind : Event → Bool}
    (other : ∀ traffic utilization, kind (.shortage traffic utilization) = false) :
    (told said).countP kind = (effects settings said).countP kind := by
  have silent : (alert? said).toList.countP kind = 0 := by
    unfold alert? verdictEvent?
    cases verdict? said with
    | none => rfl
    | some verdict =>
        cases node? said with
        | none => rfl
        | some node =>
            by_cases shortage : verdict.isShortage = true
            · simp [shortage, other]
            · simp [shortage]
  rw [tells.told_eq, tells.effects_eq, List.countP_append, List.countP_append,
    List.countP_append, silent, Nat.add_zero]

/-- Only an attempt to evict counts as one, and there is at most one. -/
theorem Tells.countP_attempts
    (tells : Tells settings alert said transitions attempts)
    {kind : Event → Bool}
    (other : ∀ event, event.isTransition = true → kind event = false) :
    (effects settings said).countP kind ≤ 1 := by
  have none : transitions.countP kind = 0 := by
    apply List.countP_eq_zero.mpr
    intro event member
    rw [other event (tells.transition event member)]
    exact Bool.false_ne_true
  rw [tells.effects_eq, List.countP_append, none, Nat.zero_add]
  exact Nat.le_trans List.countP_le_length tells.once

theorem Tells.tallies
    (tells : Tells settings (alert? said) said transitions attempts) :
    Tallies settings said := by
  have same := hasEffect_eq settings
  have transition (event : Event) (kind : event.isTransition = true) :
      event.isNamed "pod_evicted" = false ∧
        event.isNamed "eviction_failed" = false ∧
        event.isNamed "swap_limit_set" = false := by
    cases event with
    | taintAdded key => exact ⟨rfl, rfl, rfl⟩
    | taintRemoved key => exact ⟨rfl, rfl, rfl⟩
    | _ => cases kind
  constructor
  · rw [tells.countP_told fun _ _ => rfl, countP_effects]
    exact List.countP_congr fun exchange _ => by rw [(same exchange).1]
  · rw [tells.countP_told fun _ _ => rfl, countP_effects]
    exact List.countP_congr fun exchange _ => by rw [(same exchange).2.1]
  · have once := tells.countP_attempts fun event kind =>
      (transition event kind).1
    rw [tells.countP_told fun _ _ => rfl]
    rw [countP_effects] at once ⊢
    rw [funext fun exchange => (same exchange).2.2.1] at once ⊢
    exact countP_eq_toNat_any once
  · have once := tells.countP_attempts fun event kind =>
      (transition event kind).2.1
    rw [tells.countP_told fun _ _ => rfl]
    rw [countP_effects] at once ⊢
    rw [funext fun exchange => (same exchange).2.2.2] at once ⊢
    exact countP_eq_toNat_any once
  · rw [tells.countP_told fun _ _ => rfl, tells.effects_eq]
    apply List.countP_eq_zero.mpr
    intro event member
    rcases List.mem_append.mp member with before | after
    · rw [(transition event (tells.transition event before)).2.2]
      exact Bool.false_ne_true
    · have kind := tells.attempt event after
      cases event with
      | ceilingSet pod container bytes => cases kind
      | _ => exact Bool.false_ne_true

end

end Cycle

/-! ## Cycles that report -/

/-- What cycles report to, and the history they flush. -/
structure ReportLoop where
  journal : Journal
  history : History

namespace ReportLoop

open SwapWarden.Cycle (told shown)

/-- The journal after a request. -/
def journalAfter (journal : Journal) : CycleRequest → Journal
  | .showShortage shortage => journal.measure ({ · with shortage })
  | .tell event => journal.tell event
  | _ => journal

def note (loop : ReportLoop) (request : CycleRequest) : ReportLoop where
  journal := journalAfter loop.journal request
  history := EvictionLoop.historyAfter loop.history request

/-- The journal and the history after all that was said. -/
def after (loop : ReportLoop) (said : List Cycle.Exchange) : ReportLoop :=
  said.foldl (fun loop exchange => loop.note exchange.request) loop

variable {settings : EvictionSettings} {said : List Cycle.Exchange}
  {first last held : ReportLoop}

theorem events_after (loop : ReportLoop) (said : List Cycle.Exchange) :
    (loop.after said).journal.events = loop.journal.events ++ told said := by
  induction said generalizing loop with
  | nil => exact (List.append_nil _).symm
  | cons exchange rest induction =>
      refine (induction (loop.note exchange.request)).trans ?_
      obtain ⟨request, answer⟩ := exchange
      cases request with
      | tell event => exact List.append_assoc _ [event] _
      | _ => rfl

theorem history_after (loop : ReportLoop) (said : List Cycle.Exchange) :
    (loop.after said).history =
      if said.any Cycle.Exchange.flushes then loop.history.reset
      else loop.history := by
  induction said generalizing loop with
  | nil => rfl
  | cons exchange rest induction =>
      refine (induction (loop.note exchange.request)).trans ?_
      obtain ⟨request, answer⟩ := exchange
      cases request with
      | flush => exact ite_self loop.history.reset
      | _ => rfl

theorem metrics_after (loop : ReportLoop) (said : List Cycle.Exchange) :
    (loop.after said).journal.metrics =
      { loop.journal.metrics with
        evictions := loop.journal.metrics.evictions +
          (told said).countP (Event.isNamed "pod_evicted")
        evictionFailures := loop.journal.metrics.evictionFailures +
          (told said).countP (Event.isNamed "eviction_failed")
        taintsAdded := loop.journal.metrics.taintsAdded +
          (told said).countP (Event.isNamed "taint_added")
        taintsRemoved := loop.journal.metrics.taintsRemoved +
          (told said).countP (Event.isNamed "taint_removed")
        ceilingWrites := loop.journal.metrics.ceilingWrites +
          (told said).countP (Event.isNamed "swap_limit_set")
        shortage :=
          (shown said).getLast?.getD loop.journal.metrics.shortage } := by
  induction said generalizing loop with
  | nil => rfl
  | cons exchange rest induction =>
      refine (induction (loop.note exchange.request)).trans ?_
      obtain ⟨request, answer⟩ := exchange
      cases request with
      | tell event =>
          have more : told (⟨.tell event, answer⟩ :: rest) =
            event :: told rest := rfl
          simp only [more, List.countP_cons]
          cases event with
          | _ => simp [note, journalAfter, Journal.tell, Metrics.count,
              Event.isNamed, Event.name, Nat.add_assoc, Nat.add_comm 1, shown,
              Cycle.Exchange.shown?]
      | showShortage shortage =>
          have more : shown (⟨.showShortage shortage, answer⟩ :: rest) =
            shortage :: shown rest := rfl
          rw [more, List.getLast?_cons]
          rfl
      | _ => rfl

/-- A cycle that reports, or a sample recorded between two cycles. -/
inductive Step (settings : EvictionSettings) :
    ReportLoop → Option (List Cycle.Exchange) → ReportLoop → Prop where
  | cycle (loop : ReportLoop) {said : List Cycle.Exchange}
      {outcome : Except Fault CycleOutcome}
      (reached : (Cycle.decide settings).Reaches said (.done outcome)) :
      Step settings loop (some said) (loop.after said)
  | record (loop : ReportLoop) (sample : Sample) :
      Step settings loop none
        { loop with history := loop.history.record sample }

/-- Any number of cycles, with what was said in each. -/
abbrev Run (settings : EvictionSettings) :
    ReportLoop → List (List Cycle.Exchange) → ReportLoop → Prop :=
  SwapWarden.Run (Step settings)

/-- What a cycle leaves behind. -/
structure Reported (settings : EvictionSettings) (held : ReportLoop)
    (said : List Cycle.Exchange) (next : ReportLoop) : Prop where
  events_eq : next.journal.events = held.journal.events ++ told said
  tells : ∃ transitions attempts,
    Cycle.Tells settings (Cycle.alert? said) said transitions attempts
  flushed : Cycle.Flushes settings said →
    next.history = held.history.reset ∧ next.history.samples = []
  kept : ¬ Cycle.Flushes settings said → next.history = held.history

theorem Step.reported {next : ReportLoop}
    (step : Step settings held (some said) next) :
    Reported settings held said next := by
  cases step with
  | cycle reached =>
      obtain ⟨tells, _, flushes⟩ := (Cycle.cycleTalk_of_reaches reached).tells
      have history := history_after held said
      refine ⟨events_after held said, tells, ?_, ?_⟩
      · intro should
        rw [if_pos (flushes.mpr should)] at history
        refine ⟨history, ?_⟩
        rw [history]
        exact History.samples_reset held.history
      · intro spared
        rwa [if_neg (mt flushes.mp spared)] at history

/-- The numbers after some cycles, by what was said in them. -/
def metricsAfter (settings : EvictionSettings) (metrics : Metrics)
    (cycles : List (List Cycle.Exchange)) : Metrics :=
  { metrics with
    evictions := metrics.evictions +
      cycles.countP (·.any Cycle.Exchange.succeeds)
    evictionFailures := metrics.evictionFailures +
      cycles.countP (·.any Cycle.Exchange.fails)
    taintsAdded := metrics.taintsAdded +
      cycles.flatten.countP (Cycle.Exchange.adds settings)
    taintsRemoved := metrics.taintsRemoved +
      cycles.flatten.countP (Cycle.Exchange.removes settings)
    shortage := ((cycles.filterMap Cycle.verdict?).getLast?.map
      Verdict.isShortage).getD metrics.shortage }

theorem metricsAfter_append (metrics : Metrics)
    (earlier later : List (List Cycle.Exchange)) :
    metricsAfter settings (metricsAfter settings metrics earlier) later =
      metricsAfter settings metrics (earlier ++ later) := by
  unfold metricsAfter
  rw [List.countP_append, List.countP_append, List.flatten_append,
    List.countP_append, List.countP_append, List.filterMap_append,
    List.getLast?_append]
  cases (later.filterMap Cycle.verdict?).getLast? with
  | none => simp [Nat.add_assoc]
  | some verdict => simp [Nat.add_assoc]

theorem Step.metrics_eq {next : ReportLoop}
    (step : Step settings held (some said) next) :
    next.journal.metrics = metricsAfter settings held.journal.metrics [said] := by
  cases step with
  | cycle reached =>
      obtain ⟨⟨_, _, tells⟩, lit, _⟩ :=
        (Cycle.cycleTalk_of_reaches reached).tells
      have tallies := tells.tallies
      rw [metrics_after, tallies.added, tallies.removed, tallies.evicted,
        tallies.failed, tallies.limited, lit, metricsAfter]
      have once (happens : Cycle.Exchange → Bool) :
          [said].countP (·.any happens) = (said.any happens).toNat := by
        rw [List.countP_singleton]
        cases said.any happens with
        | true => rfl
        | false => rfl
      rw [once, once]
      cases verdict : Cycle.verdict? said with
      | none => simp [verdict]
      | some verdict => simp [verdict]

theorem Run.metrics_eq {cycles : List (List Cycle.Exchange)}
    (run : Run settings first cycles last) :
    last.journal.metrics =
      metricsAfter settings first.journal.metrics cycles := by
  induction run with
  | refl => simp [metricsAfter]
  | @tail middle last cycles event run step induction =>
      cases event with
      | none =>
          cases step with
          | record sample => simpa using induction
      | some said =>
          rw [step.metrics_eq, induction, metricsAfter_append]
          rfl

theorem Run.events_eq {cycles : List (List Cycle.Exchange)}
    (run : Run settings first cycles last) :
    last.journal.events = first.journal.events ++ cycles.flatMap told := by
  induction run with
  | refl => simp
  | @tail middle last cycles event run step induction =>
      cases event with
      | none =>
          cases step with
          | record sample => simpa using induction
      | some said =>
          rw [step.reported.events_eq, induction, Option.toList_some,
            List.flatMap_append, List.flatMap_singleton, List.append_assoc]

/-- Over any number of cycles, whatever they are answered, the journal gains
what each cycle tells, and that is what it did, in the order in which it did it,
with a shortage between the taint and the eviction.  The counters count the
cycles that evicted or failed to and the patches of each kind, the gauge shows
the last verdict, and a cycle empties the history when it finds the node
untainted in a shortage or evicts a pod, and otherwise leaves it alone. -/
theorem cycles_reported {cycles : List (List Cycle.Exchange)}
    (run : Run settings first cycles last) :
    last.journal.events = first.journal.events ++ cycles.flatMap told ∧
      last.journal.metrics =
        metricsAfter settings first.journal.metrics cycles ∧
      ∀ earlier said later, cycles = earlier ++ said :: later →
        ∃ held next, Run settings first earlier held ∧
          Reported settings held said next ∧ Run settings next later last := by
  refine ⟨run.events_eq, run.metrics_eq, ?_⟩
  intro earlier said later parts
  obtain ⟨held, next, before, step, rest⟩ := run.cut parts
  exact ⟨held, next, before, step.reported, rest⟩

/-- A pod is evicted from a node that is tainted for it, another one cannot be
freed of its finalizers, and then the shortage is over. -/
theorem cycles_reported_thrice :
    ∃ (first last : ReportLoop) (cycles : List (List Cycle.Exchange)),
      Run { taintKey := "evict" } first cycles last ∧
        first.journal.events = [] ∧
        last.journal.events.map Event.name =
          ["taint_added", "shortage_detected", "pod_evicted",
            "shortage_detected", "eviction_failed", "taint_removed"] ∧
        last.journal.metrics = { first.journal.metrics with
          evictions := 1, evictionFailures := 1
          taintsAdded := 1, taintsRemoved := 1 } ∧
        last.history.samples.map Sample.time = [5] := by
  let settings : EvictionSettings := { taintKey := "evict" }
  let free : Pod := { metadata := { namespaceName := some "shop" } }
  let bound : Pod :=
    { metadata :=
        { namespaceName := some "shop"
          finalizers := some ["hold"] } }
  let clean : Node := {}
  let tainted := clean.withTaints (clean.taintsWith "evict")
  let first : ReportLoop :=
    { journal := {}, history := (History.empty 8).record { time := 1 } }
  let answers (node : Node) (shortage : Bool) (pod : Pod) :
      (request : CycleRequest) → request.Answer
    | .judge => Except.ok { highTraffic := shortage }
    | .getNode _ => Except.ok node
    | .listPods _ => Except.ok [pod]
    | .listUsages | .clearFinalizers _ => Except.error default
    | .patchTaints _ _ | .deletePod _ => Except.ok ()
    | .showShortage _ | .flush | .tell _ => ()
  have spoken (node : Node) (shortage : Bool) (pod : Pod) :=
    Program.reaches_conversation (answers node shortage pod)
      (Cycle.decide settings)
  have evicting : Run settings first _ _ :=
    (Run.refl first).tail (.cycle first (spoken clean true free))
  have refilled := evicting.tail (.record _ { time := 5 })
  have failing := refilled.tail (.cycle _ (spoken tainted true bound))
  have run := failing.tail (.cycle _ (spoken tainted false free))
  obtain ⟨events, metrics, _⟩ := cycles_reported run
  refine ⟨first, _, _, run, rfl, ?_, ?_, ?_⟩
  · rw [events]
    rfl
  · rw [metrics]
    rfl
  · rw [history_after, history_after]
    rfl

end ReportLoop

end SwapWarden
