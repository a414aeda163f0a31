import SwapWarden.Proofs.Eviction.Loop
import SwapWarden.Proofs.Eviction.Reporting
import SwapWarden.Proofs.Eviction.Tainting
import SwapWarden.Simulation.Eviction

/-!
# Cycles in virtual time are cycles of the loop

A cycle that runs over the collaborators held in memory is a run of the
eviction loop in which no sample is recorded meanwhile, a cycle on the node that
the cluster holds, and one that reports to the journal.  So what holds of every
run holds of the cycles that are run.
-/

namespace SwapWarden.Simulation.Eviction

open EvictionLoop (Fits historyAfter)

variable {thresholds : ShortageThresholds} {eviction : Eviction}

/-- Collaborators answer as they may, and only a flush changes the history. -/
theorem handle_fits (measuring : eviction.detector = .measuring thresholds)
    (request : CycleRequest) :
    Fits thresholds eviction.sampling.history.samples
        ⟨request, (handle request eviction).1⟩ ∧
      (handle request eviction).2.sampling.history =
        historyAfter eviction.sampling.history request ∧
      (handle request eviction).2.detector = .measuring thresholds := by
  cases request with
  | judge =>
      refine ⟨⟨eviction.nodeUsage, ?_⟩, rfl, measuring⟩
      change eviction.judge = _
      unfold judge
      rw [measuring]
  | _ => exact ⟨trivial, rfl, measuring⟩

theorem run_part (settings : EvictionSettings)
    (program : Cycle.Part (Except Fault CycleOutcome))
    (measuring : eviction.detector = .measuring thresholds) :
    ∃ moments, EvictionLoop.Run settings thresholds
      ⟨eviction.sampling.history, some program⟩ moments
      ⟨(program.run handle eviction).2.sampling.history,
        some (.done (program.run handle eviction).1)⟩ := by
  induction program generalizing eviction with
  | done outcome => exact ⟨[], .refl _⟩
  | ask request next induction =>
      obtain ⟨fits, flushed, still⟩ := handle_fits measuring request
      obtain ⟨moments, rest⟩ := induction _ still
      have step : EvictionLoop.Step settings thresholds
          ⟨eviction.sampling.history, some (.ask request next)⟩ _ _ :=
        .ask rfl (handle request eviction).1 fits
      have begun : EvictionLoop.Run settings thresholds
          ⟨eviction.sampling.history, some (.ask request next)⟩ [] _ :=
        .refl _
      rw [flushed] at rest
      exact ⟨_, (begun.tail step).trans rest⟩

theorem run_cycle (measuring : eviction.detector = .measuring thresholds) :
    ∃ moments, EvictionLoop.Run eviction.settings thresholds
      ⟨eviction.sampling.history, none⟩
      (.began :: moments ++ [.ended eviction.cycle.1])
      ⟨eviction.cycle.2.sampling.history, none⟩ := by
  obtain ⟨moments, rest⟩ := run_part eviction.settings
    (Cycle.decide eviction.settings) measuring
  have idle : EvictionLoop.Run eviction.settings thresholds
      ⟨eviction.sampling.history, none⟩ [] ⟨eviction.sampling.history, none⟩ :=
    .refl _
  have began := idle.tail (.start rfl)
  exact ⟨moments, (began.trans rest).tail (.stop rfl)⟩

/-! ## The node of the cluster -/

theorem node_call (cluster : Cluster) (name argument : String) :
    (cluster.call name argument).2.node = cluster.node := by
  unfold Cluster.call
  dsimp only
  split
  · rfl
  · rfl

theorem node_change {effect : Cluster → Cluster}
    (kept : ∀ cluster, (effect cluster).node = cluster.node)
    (cluster : Cluster) (name argument : String) :
    (cluster.change name argument effect).2.node = cluster.node := by
  have called := node_call cluster name argument
  unfold Cluster.change
  split
  · rename_i later answered
    rw [answered] at called
    exact (kept later).trans called
  · rename_i later answered
    rw [answered] at called
    exact called

/-- The node that is given out is the one that is held, and only a patch that
succeeds changes it. -/
theorem handle_serves (request : CycleRequest) (eviction : Eviction) :
    TaintLoop.Fits eviction.cluster.node
        ⟨request, (handle request eviction).1⟩ ∧
      (handle request eviction).2.cluster.node =
        TaintLoop.nodeAfter eviction.cluster.node
          ⟨request, (handle request eviction).1⟩ := by
  cases request with
  | getNode name =>
      unfold handle called Cluster.getNode Cluster.read
      dsimp only
      rcases answered : eviction.cluster.call "get_node" name with ⟨result, later⟩
      have kept := node_call eviction.cluster "get_node" name
      rw [answered] at kept
      cases result with
      | error fault => exact ⟨trivial, kept⟩
      | ok done => exact ⟨rfl, kept⟩
  | patchTaints node taints =>
      unfold handle called Cluster.patchTaints Cluster.change
      dsimp only
      rcases answered : eviction.cluster.call "patch_node_taints"
        node.metadata.displayName with ⟨result, later⟩
      have kept := node_call eviction.cluster "patch_node_taints"
        node.metadata.displayName
      rw [answered] at kept
      cases result with
      | error fault => exact ⟨trivial, kept⟩
      | ok done => exact ⟨trivial, congrArg (Node.withTaints · taints) kept⟩
  | listPods name => exact ⟨trivial, node_call eviction.cluster _ _⟩
  | clearFinalizers pod =>
      exact ⟨trivial, node_change (fun _ => rfl) eviction.cluster _ _⟩
  | deletePod key =>
      refine ⟨trivial, node_change ?_ eviction.cluster _ _⟩
      intro cluster
      rfl
  | judge => exact ⟨trivial, rfl⟩
  | showShortage shortage => exact ⟨trivial, rfl⟩
  | listUsages => exact ⟨trivial, rfl⟩
  | flush => exact ⟨trivial, rfl⟩
  | tell event => exact ⟨trivial, rfl⟩

theorem served_run (program : Cycle.Part (Except Fault CycleOutcome))
    (eviction : Eviction) :
    ∃ said, program.Reaches said (.done (program.run handle eviction).1) ∧
      TaintLoop.Served eviction.cluster.node said
        (program.run handle eviction).2.cluster.node := by
  induction program generalizing eviction with
  | done outcome => exact ⟨[], .refl _, .nil _⟩
  | ask request next induction =>
      obtain ⟨fits, same⟩ := handle_serves request eviction
      obtain ⟨said, reached, served⟩ :=
        induction (handle request eviction).1 (handle request eviction).2
      rw [same] at served
      exact ⟨_, .ask _ reached, .cons fits served⟩

/-- A whole cycle is one on the node that the cluster holds. -/
theorem step_cycle (eviction : Eviction) :
    ∃ said, TaintLoop.Step eviction.settings eviction.cluster.node (some said)
      eviction.cycle.2.cluster.node := by
  obtain ⟨said, reached, served⟩ :=
    served_run (Cycle.decide eviction.settings) eviction
  exact ⟨said, .cycle reached served⟩

/-! ## The journal -/

/-- What cycles report to, and the history they flush. -/
def reports (eviction : Eviction) : ReportLoop where
  journal := eviction.journal
  history := eviction.sampling.history

theorem handle_reports (request : CycleRequest) (eviction : Eviction) :
    (handle request eviction).2.reports = eviction.reports.note request := by
  cases request with
  | _ => rfl

theorem after_run (program : Cycle.Part (Except Fault CycleOutcome))
    (eviction : Eviction) :
    ∃ said, program.Reaches said (.done (program.run handle eviction).1) ∧
      (program.run handle eviction).2.reports =
        eviction.reports.after said := by
  induction program generalizing eviction with
  | done outcome => exact ⟨[], .refl _, rfl⟩
  | ask request next induction =>
      obtain ⟨said, reached, reported⟩ :=
        induction (handle request eviction).1 (handle request eviction).2
      rw [handle_reports] at reported
      exact ⟨_, .ask _ reached, reported⟩

theorem step_reports (eviction : Eviction) :
    ∃ said, ReportLoop.Step eviction.settings eviction.reports (some said)
      eviction.cycle.2.reports := by
  obtain ⟨said, reached, reported⟩ :=
    after_run (Cycle.decide eviction.settings) eviction
  refine ⟨said, ?_⟩
  unfold cycle
  rw [reported]
  exact .cycle _ reached

end SwapWarden.Simulation.Eviction
