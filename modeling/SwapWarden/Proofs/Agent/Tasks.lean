import SwapWarden.Proofs.Agent.PodWatch
import SwapWarden.Proofs.Run

/-!
# The tasks that report to one registry

The watch of pods, the start of the agent, the sampler and the two other loops
call the registry in any order, and each call is one step.  The start waits for
the first list of all pods.  It gives up after a while, and reports that later
than it decides it; only afterwards do the loops begin.
-/

namespace SwapWarden

/-- Who calls the registry. -/
inductive AgentTask where
  | watch
  | start
  | sampler
  | evictionLoop
  | ceilingLoop
  deriving DecidableEq, Repr

/-- A report on a component, or what is announced once nobody waits for the
pods any more. -/
inductive RegistryCall where
  | report (component : String) (health : ComponentHealth)
  | announce
  deriving DecidableEq, Repr

/-- A call to the registry with the task that makes it. -/
structure AgentCall where
  task : AgentTask
  call : RegistryCall
  deriving DecidableEq, Repr

namespace AgentCall

/-- What a call reports on a component. -/
def reportOn? (component : String) : AgentCall → Option ComponentHealth
  | ⟨_, .report name health⟩ => if name = component then some health else none
  | ⟨_, .announce⟩ => none

/-- The report of a start that gave up. -/
def overdue : AgentCall :=
  ⟨.start, .report Component.podCache
    { status := .degraded, message := some "initial sync timed out" }⟩

/-- The agent goes on without waiting for the pods. -/
def announced : AgentCall := ⟨.start, .announce⟩

end AgentCall

/-- Where the watch is.  It is busy until what it handed over is reported on,
and leaving when there will be no more turns but those who wait do not see it
yet. -/
inductive WatchStage where
  | idle
  | busy (turn : WatchTurn)
  | leaving
  | gone

/-- Where the watch is once a turn is reported on. -/
def WatchStage.after : WatchTurn → WatchStage
  | .ended => leaving
  | _ => idle

/-- Where the start is. -/
inductive SyncStage where
  | waiting
  | overdue
  | announcing
  | settled

/-- Where the start is once its wait ends. -/
def SyncStage.after : SyncOutcome → SyncStage
  | .timedOut => overdue
  | _ => announcing

/-- Where the sampler is.  The eviction loop notices that it is gone. -/
inductive SamplerStage where
  | running
  | gone
  | noticed

/-- The tasks of the agent and their registry, and whether all pods were listed
once. -/
structure AgentSystem where
  health : HealthRegistry
  listed : Bool := false
  watch : WatchStage := .idle
  sync : SyncStage := .waiting
  sampler : SamplerStage := .running

namespace AgentSystem

variable {agent next first last : AgentSystem}

def start : AgentSystem := { health := HealthRegistry.registerAll {} }

/-- Whether the wait for the pods may end so.  A list counts before the end of
the watch, and both count before the time that has passed. -/
def Permits (agent : AgentSystem) : SyncOutcome → Prop
  | .synced => agent.listed = true
  | .ended => agent.listed = false ∧ agent.watch = .gone
  | .timedOut => agent.listed = false ∧ agent.watch ≠ .gone

/-- One step of one task, with the call to the registry if it makes one.  The
watch also quits when the agent shuts down. -/
inductive Step : AgentSystem → Option AgentCall → AgentSystem → Prop where
  | turn {agent : AgentSystem} (turn : WatchTurn) (idle : agent.watch = .idle) :
      Step agent none
        { agent with
          watch := .busy turn
          listed := agent.listed || turn.listsAll }
  | report {agent : AgentSystem} {turn : WatchTurn} {health : ComponentHealth}
      (busy : agent.watch = .busy turn) (reports : turn.report? = some health) :
      Step agent (some ⟨.watch, .report Component.podCache health⟩)
        { agent with
          watch := .after turn
          health := agent.health.set Component.podCache health }
  | pass {agent : AgentSystem} {turn : WatchTurn}
      (busy : agent.watch = .busy turn) (silent : turn.report? = none) :
      Step agent none { agent with watch := .idle }
  | quit {agent : AgentSystem} (idle : agent.watch = .idle) :
      Step agent none { agent with watch := .leaving }
  | leave {agent : AgentSystem} (leaving : agent.watch = .leaving) :
      Step agent none { agent with watch := .gone }
  | endWait {agent : AgentSystem} (outcome : SyncOutcome)
      (waits : agent.sync = .waiting) (permitted : agent.Permits outcome) :
      Step agent none { agent with sync := .after outcome }
  | tell {agent : AgentSystem} (overdue : agent.sync = .overdue) :
      Step agent (some AgentCall.overdue)
        { agent with
          sync := .announcing
          health := agent.health.setDegraded Component.podCache
            "initial sync timed out" }
  | announce {agent : AgentSystem} (announcing : agent.sync = .announcing) :
      Step agent (some AgentCall.announced)
        { agent with sync := .settled, health := agent.health.setSynced true }
  | sample {agent : AgentSystem} (begun : agent.sync = .settled)
      (running : agent.sampler = .running) (result : Except Fault Unit) :
      Step agent
        (some ⟨.sampler, .report Component.sampler (.ofResult result)⟩)
        { agent with health := agent.health.report Component.sampler result }
  | exit {agent : AgentSystem} (begun : agent.sync = .settled)
      (running : agent.sampler = .running) :
      Step agent none { agent with sampler := .gone }
  | notice {agent : AgentSystem} (begun : agent.sync = .settled)
      (gone : agent.sampler = .gone) (message : String) :
      Step agent
        (some ⟨.evictionLoop, .report Component.sampler
          { status := .unhealthy, message := some message }⟩)
        { agent with
          sampler := .noticed
          health := agent.health.setUnhealthy Component.sampler message }
  | decide {agent : AgentSystem} (begun : agent.sync = .settled)
      (result : Except Fault Unit) :
      Step agent
        (some ⟨.evictionLoop,
          .report Component.evictionLoop (.ofResult result)⟩)
        { agent with
          health := agent.health.report Component.evictionLoop result }
  | work {agent : AgentSystem} (begun : agent.sync = .settled)
      (result : Except Fault Unit) :
      Step agent
        (some ⟨.ceilingLoop,
          .report Component.ceilingLoop (.ofResult result)⟩)
        { agent with
          health := agent.health.report Component.ceilingLoop result }

abbrev Run : AgentSystem → List AgentCall → AgentSystem → Prop :=
  SwapWarden.Run Step

/-! ## Undisturbed tasks

A task that nobody interrupts does what the watch and the start do in one go.
-/

theorem run_take {watch : PodWatch} (node : String) (turn : WatchTurn)
    (idle : agent.watch = .idle) (health : agent.health = watch.health)
    (listed : agent.listed = watch.synced) :
    ∃ calls next, Run agent calls next ∧
      next.health = (watch.take node turn).health ∧
      next.listed = (watch.take node turn).synced := by
  have taken := SwapWarden.Run.tail (.refl agent) (Step.turn turn idle)
  cases reports : turn.report? with
  | none =>
      refine ⟨_, _, taken.tail (.pass rfl reports), ?_, ?_⟩
      · rw [PodWatch.take_health, reports, ← health]
      · rw [PodWatch.take_synced, ← listed]
  | some report =>
      refine ⟨_, _, taken.tail (.report rfl reports), ?_, ?_⟩
      · rw [PodWatch.take_health, reports, ← health]
      · rw [PodWatch.take_synced, ← listed]

theorem run_endSync (outcome : SyncOutcome) (waits : agent.sync = .waiting)
    (permitted : agent.Permits outcome) :
    ∃ calls next, Run agent calls next ∧
      next.health = agent.health.endSync outcome ∧ next.sync = .settled := by
  have ended :=
    SwapWarden.Run.tail (.refl agent) (Step.endWait outcome waits permitted)
  cases outcome with
  | synced => exact ⟨_, _, ended.tail (.announce rfl), rfl, rfl⟩
  | ended => exact ⟨_, _, ended.tail (.announce rfl), rfl, rfl⟩
  | timedOut =>
      exact ⟨_, _, (ended.tail (.tell rfl)).tail (.announce rfl), rfl, rfl⟩

/-! ## The latest report in a run -/

theorem Step.latest? {call? : Option AgentCall} (step : Step agent call? next)
    (component : String) :
    next.health.latest? component =
      (call?.bind (·.reportOn? component)).or
        (agent.health.latest? component) := by
  have told (name : String) (health : ComponentHealth) :
      (agent.health.set name health).latest? component =
        (if name = component then some health else none).or
          (agent.health.latest? component) := by
    rw [HealthRegistry.latest?_set]
    split
    · rfl
    · rfl
  cases step with
  | turn => rfl
  | report => exact told _ _
  | pass => rfl
  | quit => rfl
  | leave => rfl
  | endWait => rfl
  | tell => exact told _ _
  | announce => rfl
  | sample _ _ result =>
      rw [HealthRegistry.report_eq]
      exact told _ _
  | exit => rfl
  | notice => exact told _ _
  | decide _ result =>
      rw [HealthRegistry.report_eq]
      exact told _ _
  | work _ result =>
      rw [HealthRegistry.report_eq]
      exact told _ _

theorem Run.latest? {calls : List AgentCall} (run : Run first calls last)
    (component : String) :
    last.health.latest? component =
      (calls.reverse.findSome? (·.reportOn? component)).or
        (first.health.latest? component) := by
  induction run with
  | refl => rfl
  | tail run step induction =>
      rw [step.latest? component, induction, List.reverse_append,
        List.findSome?_append, Option.or_assoc]
      congr 1
      cases ‹Option AgentCall› with
      | none => rfl
      | some call => simp

end AgentSystem

end SwapWarden
