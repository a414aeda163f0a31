import SwapWarden.Eviction.Cycle
import SwapWarden.Report.Journal
import SwapWarden.Simulation.Cluster
import SwapWarden.Simulation.Sampling

/-!
# The eviction loop in virtual time

The loop runs its decision cycle at once and then once every period over a
cluster held in memory, reports how it went, and watches over a sampling loop
of its own: once that is gone for good, the sampler is unhealthy.  A loop
without a period breaks down before its first turn.
-/

namespace SwapWarden.Simulation

/-- Where verdicts come from: the same verdict every time, or the samples and
the node's usage. -/
inductive Detector where
  | scripted (verdict : Except Fault Verdict)
  | measuring (thresholds : ShortageThresholds)
  deriving Inhabited

/-- A turn of a loop. -/
inductive EvictionTurn where
  | sample
  | decide
  deriving DecidableEq, Repr

/-- The eviction loops, if they were started, and their collaborators. -/
structure Eviction where
  settings : EvictionSettings
  detector : Detector
  nodeUsage : Except Fault NodeUsage := .ok {}
  podUsages : Except Fault (List PodUsage) := .ok []
  cluster : Cluster := {}
  sampling : Sampling
  journal : Journal := {}
  health : HealthRegistry := {}
  now : Nat := 0
  agenda : Agenda EvictionTurn := {}
  started : Bool := false
  deriving Inhabited

namespace Eviction

/-- A verdict on the present state. -/
def judge (eviction : Eviction) : Except Fault Verdict :=
  match eviction.detector with
  | .scripted verdict => verdict
  | .measuring thresholds =>
      thresholds.judge eviction.sampling.history.samples eviction.nodeUsage

/-- The state after a call to the cluster. -/
def called {α : Type} (eviction : Eviction) (call : α × Cluster) :
    α × Eviction :=
  (call.1, { eviction with cluster := call.2 })

/-- Answers a request of the cycle. -/
def handle : (request : CycleRequest) → Eviction → request.Answer × Eviction
  | .judge, eviction => (eviction.judge, eviction)
  | .showShortage shortage, eviction =>
      ((), { eviction with
        journal := eviction.journal.measure ({ · with shortage }) })
  | .getNode name, eviction =>
      eviction.called (eviction.cluster.getNode name)
  | .patchTaints node taints, eviction =>
      eviction.called (eviction.cluster.patchTaints node taints)
  | .listPods node, eviction =>
      eviction.called (eviction.cluster.listPods node)
  | .listUsages, eviction => (eviction.podUsages, eviction)
  | .clearFinalizers pod, eviction =>
      eviction.called (eviction.cluster.clearFinalizers pod)
  | .deletePod key, eviction =>
      eviction.called (eviction.cluster.deletePod key)
  | .flush, eviction =>
      ((), { eviction with
        sampling := { eviction.sampling with
          history := eviction.sampling.history.reset } })
  | .tell event, eviction =>
      ((), { eviction with journal := eviction.journal.tell event })

/-- Runs one decision cycle. -/
def cycle (eviction : Eviction) : Except Fault CycleOutcome × Eviction :=
  (Cycle.decide eviction.settings).run handle eviction

/-- Evicts one pod. -/
def evict (eviction : Eviction) (pod : Pod) : Except Fault Unit × Eviction :=
  (Cycle.evict pod).run handle eviction

/-- How long a loop waits for its next turn. -/
def period (eviction : Eviction) : EvictionTurn → Duration
  | .sample => eviction.settings.sampling
  | .decide => eviction.settings.resync

/-- Whether the loop that takes such turns can begin. -/
def begins (eviction : Eviction) (turn : EvictionTurn) : Bool :=
  decide ((eviction.period turn).nanos ≠ 0)

/-- A sampling loop is gone, which the eviction loop that started it notices. -/
def loseSampling (eviction : Eviction) : Eviction :=
  if eviction.begins .decide then
    { eviction with
      health := eviction.health.setUnhealthy Component.sampler
        "stats sampler task failed" }
  else
    eviction

/-- Puts down the next turn of a loop. -/
def putNext (eviction : Eviction) (turn : EvictionTurn) : Eviction :=
  { eviction with
    agenda := eviction.agenda.put
      (eviction.now + (eviction.period turn).nanos) turn }

/-- Takes a sample. -/
def sampleTurn (eviction : Eviction) : Eviction :=
  match eviction.sampling.turn? eviction.health with
  | some (sampling, health) =>
      { eviction with sampling, health }.putNext .sample
  | none => eviction.loseSampling

/-- Runs the cycle, shows how many samples are left, and reports. -/
def decideTurn (eviction : Eviction) : Eviction :=
  let (result, eviction) := eviction.cycle
  { eviction with
    journal := eviction.journal.measure
      (·.setHistorySamples eviction.sampling.history.size)
    health := eviction.health.report Component.evictionLoop
      (Cycle.healthOf result) }.putNext .decide

/-- Takes a turn. -/
def take (eviction : Eviction) : EvictionTurn → Eviction
  | .sample => eviction.sampleTurn
  | .decide => eviction.decideTurn

/-- Everything that is due at a time. -/
def happen (time : Nat) (eviction : Eviction) : Eviction :=
  let (due, agenda) := eviction.agenda.takeDue time
  due.foldl take { eviction with agenda, now := time }

/-- Starts an eviction loop and its sampling loop, which comes first; those
that run go on beside them. -/
def spawn (eviction : Eviction) : Eviction :=
  let eviction := { eviction with started := true }
  let sampled :=
    if eviction.begins .sample then eviction.sampleTurn
    else eviction.loseSampling
  if sampled.begins .decide then sampled.decideTurn else sampled

/-- Lets some time pass. -/
def advance (eviction : Eviction) (span : Duration) : Eviction :=
  let target := eviction.now + span.nanos
  { Clock.run (fun eviction : Eviction => eviction.agenda.next) happen target
      eviction.now eviction with now := target }

/-- Stops all loops; tells whether any were started. -/
def stop (eviction : Eviction) : Bool × Eviction :=
  (eviction.started, { eviction with agenda := {}, started := false })

end Eviction

end SwapWarden.Simulation
