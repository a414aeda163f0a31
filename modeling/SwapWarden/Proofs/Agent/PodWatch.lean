import SwapWarden.Agent.PodWatch
import SwapWarden.Proofs.Report.Health

/-!
# How long a fault of the watch is told

A turn of the watch either reports on the pod cache or leaves its latest report
as it is: an event about one pod reports nothing.  A fault of the watch is
therefore told until all pods are listed again, and not only until the next
event.
-/

namespace SwapWarden

namespace WatchTurn

variable {turn : WatchTurn} {message : String}

/-- Whether a turn brings one pod that changed or went away. -/
def isAboutOnePod : WatchTurn → Bool
  | .event (.applied _) => true
  | .event (.deleted _) => true
  | _ => false

/-- Whether a turn brings all pods. -/
def listsAll : WatchTurn → Bool
  | .event (.restarted _) => true
  | _ => false

/-- The report on the pod cache that a turn makes. -/
def report? : WatchTurn → Option ComponentHealth
  | .event (.restarted _) => some { status := .healthy }
  | .event (.applied _) => none
  | .event (.deleted _) => none
  | .failed message => some { status := .degraded, message := some message }
  | .ended =>
      some { status := .unhealthy, message := some "pod watch stream ended" }

theorem report?_eq_none_iff :
    turn.report? = none ↔ turn.isAboutOnePod = true := by
  cases turn with
  | event event =>
      cases event with
      | restarted pods => simp [report?, isAboutOnePod]
      | applied pod => simp [report?, isAboutOnePod]
      | deleted pod => simp [report?, isAboutOnePod]
  | failed fault => simp [report?, isAboutOnePod]
  | ended => simp [report?, isAboutOnePod]

theorem report?_eq_degraded_iff :
    turn.report? = some { status := .degraded, message := some message } ↔
      turn = .failed message := by
  cases turn with
  | event event =>
      cases event with
      | restarted pods => simp [report?]
      | applied pod => simp [report?]
      | deleted pod => simp [report?]
  | failed fault => simp [report?]
  | ended => simp [report?]

theorem report?_cases {health : ComponentHealth}
    (reported : turn.report? = some health) :
    health = { status := .healthy } ∨
      (∃ message,
        health = { status := .degraded, message := some message }) ∨
      turn = .ended := by
  cases turn with
  | event event =>
      cases event with
      | restarted pods => exact .inl (Option.some.inj reported).symm
      | applied pod => cases reported
      | deleted pod => cases reported
  | failed message =>
      have degraded := (Option.some.inj reported).symm
      exact .inr (.inl ⟨message, degraded⟩)
  | ended => exact .inr (.inr rfl)

end WatchTurn

namespace PodWatch

variable {turns : List WatchTurn}

/-- A watch that starts once all components are registered. -/
def start : PodWatch := { health := HealthRegistry.registerAll {} }

/-- The latest report on the pod cache after some turns. -/
def podCacheAfter? (node : String) (turns : List WatchTurn) :
    Option ComponentHealth :=
  (turns.foldl (take node) start).health.latest? Component.podCache

/-- The latest report of some turns is a fault. -/
def FaultStands (turns : List WatchTurn) (message : String) : Prop :=
  ∃ earlier later, turns = earlier ++ .failed message :: later ∧
    ∀ turn ∈ later, turn.isAboutOnePod = true

/-! ## One turn -/

theorem enqueue_eq (node : String) (watch : PodWatch) (pod : Pod) :
    ∃ queue, watch.enqueue node pod = { watch with queue } := by
  unfold enqueue
  split
  · exact ⟨watch.queue.add pod.key, rfl⟩
  · exact ⟨watch.queue, rfl⟩

theorem foldl_enqueue_eq (node : String) (watch : PodWatch)
    (pods : List Pod) :
    ∃ queue, pods.foldl (enqueue node) watch = { watch with queue } := by
  induction pods generalizing watch with
  | nil => exact ⟨watch.queue, rfl⟩
  | cons pod pods induction =>
      obtain ⟨queue, queued⟩ := enqueue_eq node watch pod
      obtain ⟨later, rest⟩ := induction { watch with queue }
      refine ⟨later, ?_⟩
      rw [List.foldl_cons, queued, rest]

theorem take_health (node : String) (watch : PodWatch) (turn : WatchTurn) :
    (watch.take node turn).health =
      match turn.report? with
      | some health => watch.health.set Component.podCache health
      | none => watch.health := by
  cases turn with
  | event event =>
      cases event with
      | restarted pods =>
          obtain ⟨queue, queued⟩ := foldl_enqueue_eq node
            { watch with cache := watch.cache.apply (.restarted pods) } pods
          simp only [take, follow, restart, queued]
          rfl
      | applied pod =>
          obtain ⟨queue, queued⟩ := enqueue_eq node
            { watch with cache := watch.cache.apply (.applied pod) } pod
          simp only [take, follow, queued]
          rfl
      | deleted pod => rfl
  | failed message => rfl
  | ended => rfl

theorem take_synced (node : String) (watch : PodWatch) (turn : WatchTurn) :
    (watch.take node turn).synced = (watch.synced || turn.listsAll) := by
  cases turn with
  | event event =>
      cases event with
      | restarted pods => simp [take, follow, restart, WatchTurn.listsAll]
      | applied pod =>
          obtain ⟨queue, queued⟩ := enqueue_eq node
            { watch with cache := watch.cache.apply (.applied pod) } pod
          simp [take, follow, queued, WatchTurn.listsAll]
      | deleted pod => simp [take, follow, WatchTurn.listsAll]
  | failed message => simp [take, WatchTurn.listsAll]
  | ended => simp [take, WatchTurn.listsAll]

theorem latest?_take (node : String) (watch : PodWatch) (turn : WatchTurn) :
    (watch.take node turn).health.latest? Component.podCache =
      turn.report?.or (watch.health.latest? Component.podCache) := by
  rw [take_health]
  cases turn.report? with
  | none => rfl
  | some health => simp

/-! ## Any number of turns -/

/-- The latest report is the one of the last turn that made one. -/
theorem latest?_foldl_take (node : String) (watch : PodWatch)
    (turns : List WatchTurn) :
    (turns.foldl (take node) watch).health.latest? Component.podCache =
      (turns.reverse.findSome? WatchTurn.report?).or
        (watch.health.latest? Component.podCache) := by
  induction turns generalizing watch with
  | nil => rfl
  | cons turn turns induction =>
      rw [List.foldl_cons, induction, latest?_take, List.reverse_cons,
        List.findSome?_append, List.findSome?_singleton, Option.or_assoc]

theorem podCacheAfter?_eq (node : String) (turns : List WatchTurn) :
    podCacheAfter? node turns =
      (turns.reverse.findSome? WatchTurn.report?).or
        (some { status := .healthy }) := by
  have registered :
      start.health.latest? Component.podCache = some { status := .healthy } :=
    HealthRegistry.latest?_registerAll (by decide)
  rw [podCacheAfter?, latest?_foldl_take, registered]

theorem findSome?_eq_degraded_iff (message : String) :
    turns.reverse.findSome? WatchTurn.report? =
        some { status := .degraded, message := some message } ↔
      FaultStands turns message := by
  rw [List.findSome?_eq_some_iff]
  constructor
  · rintro ⟨after, turn, before, parts, reported, silent⟩
    obtain rfl := WatchTurn.report?_eq_degraded_iff.mp reported
    refine ⟨before.reverse, after.reverse, ?_, ?_⟩
    · simpa using congrArg List.reverse parts
    · intro later member
      exact WatchTurn.report?_eq_none_iff.mp
        (silent later (List.mem_reverse.mp member))
  · rintro ⟨earlier, later, rfl, silent⟩
    refine ⟨later.reverse, .failed message, earlier.reverse, ?_, rfl, ?_⟩
    · simp
    · intro turn member
      exact WatchTurn.report?_eq_none_iff.mpr
        (silent turn (List.mem_reverse.mp member))

theorem podCacheAfter?_eq_degraded_iff (node message : String) :
    podCacheAfter? node turns =
        some { status := .degraded, message := some message } ↔
      FaultStands turns message := by
  rw [podCacheAfter?_eq, ← findSome?_eq_degraded_iff]
  cases turns.reverse.findSome? WatchTurn.report? with
  | none => simp
  | some health => simp

theorem podCacheAfter?_eq_healthy_or_degraded
    (goesOn : WatchTurn.ended ∉ turns) (node : String) :
    podCacheAfter? node turns = some { status := .healthy } ∨
      ∃ message, podCacheAfter? node turns =
        some { status := .degraded, message := some message } := by
  rw [podCacheAfter?_eq]
  cases found : turns.reverse.findSome? WatchTurn.report? with
  | none => exact .inl rfl
  | some health =>
      obtain ⟨turn, member, reported⟩ := List.exists_of_findSome?_eq_some found
      obtain rfl | ⟨message, rfl⟩ | rfl := WatchTurn.report?_cases reported
      · exact .inl rfl
      · exact .inr ⟨message, rfl⟩
      · exact absurd (List.mem_reverse.mp member) goesOn

/-- A fault stands at the end of turns whose last one reports exactly if that
one is the fault. -/
theorem faultStands_concat_iff {latest : WatchTurn} {message : String}
    (reports : latest.isAboutOnePod = false) :
    FaultStands (turns ++ [latest]) message ↔ latest = .failed message := by
  constructor
  · rintro ⟨earlier, later, parts, silent⟩
    rcases List.eq_nil_or_concat later with rfl | ⟨front, final, rfl⟩
    · obtain ⟨-, same⟩ := List.append_inj' parts rfl
      exact List.singleton_inj.mp same
    · rw [List.concat_eq_append, ← List.cons_append, ← List.append_assoc]
        at parts
      obtain ⟨-, same⟩ := List.append_inj' parts rfl
      obtain rfl := List.singleton_inj.mp same
      have quiet := silent latest (by simp)
      rw [reports] at quiet
      cases quiet
  · rintro rfl
    exact ⟨turns, [], rfl, by simp⟩

/-- While the watch goes on, the pod cache is degraded exactly if a fault was
followed by nothing but events about one pod, and healthy otherwise.  After a
turn that reports, it is degraded exactly if that turn was a fault. -/
theorem podCache_degraded_iff (goesOn : WatchTurn.ended ∉ turns)
    (node : String) :
    (∀ message, podCacheAfter? node turns =
        some { status := .degraded, message := some message } ↔
      FaultStands turns message) ∧
    (podCacheAfter? node turns = some { status := .healthy } ↔
      ∀ message, ¬ FaultStands turns message) ∧
    ∀ earlier latest, turns = earlier ++ [latest] →
      latest.isAboutOnePod = false → ∀ message,
      (podCacheAfter? node turns =
          some { status := .degraded, message := some message } ↔
        latest = .failed message) := by
  refine ⟨podCacheAfter?_eq_degraded_iff node, ?_, ?_⟩
  · constructor
    · intro healthy message stands
      have degraded := (podCacheAfter?_eq_degraded_iff node message).mpr stands
      rw [healthy] at degraded
      cases degraded
    · intro faultless
      obtain healthy | ⟨message, degraded⟩ :=
        podCacheAfter?_eq_healthy_or_degraded goesOn node
      · exact healthy
      · exact absurd ((podCacheAfter?_eq_degraded_iff node message).mp degraded)
          (faultless message)
  · rintro earlier latest rfl reports message
    rw [podCacheAfter?_eq_degraded_iff]
    exact faultStands_concat_iff reports

/-- A pod goes away after a fault, then all pods are listed again. -/
theorem podCache_degraded_iff_relisted :
    WatchTurn.ended ∉ [.failed "connection reset", .event (.deleted {}),
      .event (.restarted [])] ∧
    podCacheAfter? "node-a" [.failed "connection reset", .event (.deleted {}),
      .event (.restarted [])] = some { status := .healthy } := by
  have goesOn : WatchTurn.ended ∉ [.failed "connection reset",
      .event (.deleted {}), .event (.restarted [])] := by simp
  refine ⟨goesOn, ?_⟩
  apply (podCache_degraded_iff goesOn "node-a").2.1.mpr
  intro message
  rw [show [WatchTurn.failed "connection reset", .event (.deleted {}),
    .event (.restarted [])] = [.failed "connection reset",
      .event (.deleted {})] ++ [.event (.restarted [])] from rfl,
    faultStands_concat_iff rfl]
  simp

/-- The pod cache is still degraded after an event that followed the fault. -/
theorem degraded_after_event :
    ¬ ((∃ message, podCacheAfter? "node-a"
          [.failed "connection reset", .event (.applied {})] =
        some { status := .degraded, message }) ↔
      ∃ message, [.failed "connection reset", .event (.applied {})].getLast? =
        some (WatchTurn.failed message)) := by
  intro recovered
  have degraded : podCacheAfter? "node-a"
      [.failed "connection reset", .event (.applied {})] =
        some { status := .degraded, message := some "connection reset" } :=
    rfl
  obtain ⟨message, failed⟩ := recovered.mp ⟨_, degraded⟩
  cases failed

end PodWatch

end SwapWarden
