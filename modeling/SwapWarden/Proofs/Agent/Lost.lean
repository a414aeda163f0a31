import SwapWarden.Proofs.Agent.Tasks

/-!
# Components that are lost for good

A component is unhealthy once its loop or its watch is gone, and nobody reports
on it again, except for a start that gave up waiting for the pods just before
their watch ended.  Its report comes too late, and the pod cache is merely
degraded from then on.
-/

namespace SwapWarden

namespace AgentSystem

variable {agent next first last : AgentSystem} {component : String}

/-- Whether the watch will take no more turns. -/
def watchEnded (agent : AgentSystem) : Bool :=
  match agent.watch with
  | .leaving | .gone => true
  | .idle | .busy _ => false

/-- The loop or the watch of a component is gone. -/
inductive Lost : AgentSystem → String → Prop where
  | watch {agent : AgentSystem} (ended : agent.watchEnded = true) :
      Lost agent Component.podCache
  | sampler {agent : AgentSystem} (noticed : agent.sampler = .noticed)
      (begun : agent.sync = .settled) : Lost agent Component.sampler

theorem status_ofResult (result : Except Fault Unit) :
    (ComponentHealth.ofResult result).status ≠ .unhealthy := by
  cases result with
  | ok _ => nofun
  | error fault => nofun

/-! ## One step -/

theorem Step.lost {task : AgentTask} {health : ComponentHealth}
    (step : Step agent (some ⟨task, .report component health⟩) next)
    (unhealthy : health.status = .unhealthy) : next.Lost component := by
  cases step with
  | report busy reports =>
      obtain rfl | ⟨message, rfl⟩ | rfl := WatchTurn.report?_cases reports
      · cases unhealthy
      · cases unhealthy
      · exact .watch rfl
  | tell => cases unhealthy
  | sample _ _ result => exact absurd unhealthy (status_ofResult result)
  | notice begun gone message => exact .sampler rfl begun
  | decide _ result => exact absurd unhealthy (status_ofResult result)
  | work _ result => exact absurd unhealthy (status_ofResult result)

theorem Step.stays_settled {call? : Option AgentCall}
    (step : Step agent call? next) (settled : agent.sync = .settled) :
    next.sync = .settled := by
  cases step with
  | endWait _ waits => simp [settled] at waits
  | tell overdue => simp [settled] at overdue
  | announce => rfl
  | _ => exact settled

theorem Step.stays_lost {call? : Option AgentCall}
    (step : Step agent call? next) (lost : agent.Lost component) :
    next.Lost component := by
  cases lost with
  | watch ended =>
      cases step with
      | turn _ idle => simp [watchEnded, idle] at ended
      | report busy => simp [watchEnded, busy] at ended
      | pass busy => simp [watchEnded, busy] at ended
      | quit => exact .watch rfl
      | leave => exact .watch rfl
      | _ => exact .watch ended
  | sampler noticed settled =>
      have begun := step.stays_settled settled
      cases step with
      | exit _ running => simp [noticed] at running
      | notice _ gone => simp [noticed] at gone
      | _ => exact .sampler noticed begun

/-- Nobody but a start that gave up reports on a lost component. -/
theorem Step.overdue_of_report {call : AgentCall}
    (step : Step agent (some call) next) (lost : agent.Lost component)
    (reports : call.reportOn? component ≠ none) : call = .overdue := by
  cases step with
  | report busy =>
      cases lost with
      | watch ended => simp [watchEnded, busy] at ended
      | sampler => exact absurd rfl reports
  | tell => rfl
  | announce => exact absurd rfl reports
  | sample _ running =>
      cases lost with
      | sampler noticed => simp [noticed] at running
      | _ => exact absurd rfl reports
  | notice _ gone =>
      cases lost with
      | sampler noticed => simp [noticed] at gone
      | _ => exact absurd rfl reports
  | decide =>
      cases lost with
      | _ => exact absurd rfl reports
  | work =>
      cases lost with
      | _ => exact absurd rfl reports

theorem Step.sync_of_overdue (step : Step agent (some .overdue) next) :
    agent.sync = .overdue := by
  generalize same : some AgentCall.overdue = call? at step
  cases step with
  | tell overdue => exact overdue
  | _ => simp [AgentCall.overdue, AgentCall.announced] at same

theorem Step.settled_of_announced (step : Step agent (some .announced) next) :
    next.sync = .settled := by
  generalize same : some AgentCall.announced = call? at step
  cases step with
  | announce => rfl
  | _ => simp [AgentCall.overdue, AgentCall.announced] at same

/-! ## Any number of steps -/

theorem Run.overdue_of_report {calls : List AgentCall} {call : AgentCall}
    (run : Run first calls last) (lost : first.Lost component)
    (member : call ∈ calls) (reports : call.reportOn? component ≠ none) :
    call = .overdue := by
  obtain ⟨before, after, parts⟩ := List.append_of_mem member
  obtain ⟨agent, next, earlier, step, -⟩ := run.cut parts
  have stays : agent.Lost component :=
    earlier.invariant lost fun lost step => step.stays_lost lost
  exact step.overdue_of_report stays reports

/-- Once the agent goes on, the start has nothing left to report. -/
theorem Run.not_overdue {calls : List AgentCall} (run : Run first calls last)
    (settled : first.sync = .settled) : .overdue ∉ calls := by
  intro member
  obtain ⟨before, after, parts⟩ := List.append_of_mem member
  obtain ⟨agent, next, earlier, step, -⟩ := run.cut parts
  have stays : agent.sync = .settled :=
    earlier.invariant settled fun settled step => step.stays_settled settled
  rw [step.sync_of_overdue] at stays
  cases stays

theorem Run.settled_of_announced {calls : List AgentCall}
    (run : Run first calls last) (announced : .announced ∈ calls) :
    last.sync = .settled := by
  obtain ⟨before, after, parts⟩ := List.append_of_mem announced
  obtain ⟨agent, next, -, step, later⟩ := run.cut parts
  exact later.invariant step.settled_of_announced
    fun settled step => step.stays_settled settled

theorem Run.latest?_of_not_overdue {calls : List AgentCall}
    (run : Run first calls last) (lost : first.Lost component)
    (absent : .overdue ∉ calls) :
    last.health.latest? component = first.health.latest? component := by
  have silent :
      calls.reverse.findSome? (·.reportOn? component) = none := by
    rw [List.findSome?_eq_none_iff]
    intro call member
    have present := List.mem_reverse.mp member
    cases reported : call.reportOn? component with
    | none => rfl
    | some health =>
        obtain rfl := run.overdue_of_report lost present (by simp [reported])
        exact absurd present absent
  rw [run.latest? component, silent, Option.none_or]

theorem Run.latest?_of_overdue {calls : List AgentCall}
    (run : Run first calls last) (lost : first.Lost Component.podCache)
    (present : .overdue ∈ calls) :
    last.health.latest? Component.podCache =
      some { status := .degraded
             message := some "initial sync timed out" } := by
  rw [run.latest? Component.podCache]
  cases found : calls.reverse.findSome?
      (·.reportOn? Component.podCache) with
  | none =>
      have silent := List.findSome?_eq_none_iff.mp found _
        (List.mem_reverse.mpr present)
      cases silent
  | some health =>
      obtain ⟨call, member, reported⟩ := List.exists_of_findSome?_eq_some found
      obtain rfl := run.overdue_of_report lost (List.mem_reverse.mp member)
        (by simp [reported])
      exact congrArg some (Option.some.inj reported).symm

/-- The report that a component is lost is the last one on it, and the agent
is neither healthy nor ready any more, unless the report of a start that gave
up follows.  This can only be before the agent goes on, and only the pod cache
is then degraded again. -/
theorem unhealthy_final {earlier later : List AgentCall} {task : AgentTask}
    {health : ComponentHealth}
    (run : Run start
      (earlier ++ ⟨task, .report component health⟩ :: later) last)
    (unhealthy : health.status = .unhealthy) :
    (.overdue ∉ later →
      last.health.latest? component = some health ∧
      ∀ counters,
        (Endpoint.respond last.health counters "GET" "/healthz").status = 503 ∧
        (Endpoint.respond last.health counters "GET" "/readyz").status = 503) ∧
    (.overdue ∈ later →
      component = Component.podCache ∧ .announced ∉ earlier ∧
      last.health.latest? component =
        some { status := .degraded
               message := some "initial sync timed out" }) := by
  obtain ⟨agent, next, before, step, after⟩ := run.cut rfl
  have lost : next.Lost component := step.lost unhealthy
  have told : next.health.latest? component = some health := by
    rw [step.latest? component]
    simp [AgentCall.reportOn?]
  constructor
  · intro absent
    have latest := (Run.latest?_of_not_overdue after lost absent).trans told
    exact ⟨latest, Endpoint.unavailable_of_latest? latest unhealthy⟩
  · intro present
    have cache : component = Component.podCache := by
      cases lost with
      | watch => rfl
      | sampler _ settled =>
          exact absurd present (Run.not_overdue after settled)
    have pending : .announced ∉ earlier := by
      intro announced
      have settled :=
        step.stays_settled (Run.settled_of_announced before announced)
      exact Run.not_overdue after settled present
    subst cache
    exact ⟨rfl, pending, Run.latest?_of_overdue after lost present⟩

/-- The watch ends when the agent has gone on long since. -/
theorem unhealthy_final_after_announced :
    ∃ last, Run start
        [⟨.watch, .report Component.podCache { status := .healthy }⟩,
          .announced,
          ⟨.watch, .report Component.podCache
            { status := .unhealthy, message := "pod watch stream ended" }⟩,
          ⟨.evictionLoop,
            .report Component.evictionLoop { status := .healthy }⟩] last ∧
      (Endpoint.respond last.health {} "GET" "/healthz").status = 503 ∧
      (Endpoint.respond last.health {} "GET" "/readyz").status = 503 := by
  have begun : Run start [] start := .refl start
  have listed := begun.tail (.turn (.event (.restarted [])) rfl)
    |>.tail (.report rfl rfl)
  have announced := listed.tail (.endWait .synced rfl rfl)
    |>.tail (.announce rfl)
  have ended := announced.tail (.turn .ended rfl) |>.tail (.report rfl rfl)
  have run : Run start
      ([⟨.watch, .report Component.podCache { status := .healthy }⟩,
          .announced] ++
        ⟨.watch, .report Component.podCache
          { status := .unhealthy, message := "pod watch stream ended" }⟩ ::
        [⟨.evictionLoop,
          .report Component.evictionLoop { status := .healthy }⟩]) _ :=
    ended.tail (.decide rfl (.ok ()))
  have final := (unhealthy_final run rfl).1 (by decide)
  exact ⟨_, run, final.2 {}⟩

/-- The watch ends while the start is about to report that it gave up, and the
agent becomes ready and stays so. -/
theorem unhealthy_overwritten :
    ∃ last, Run start
        [⟨.watch, .report Component.podCache
            { status := .unhealthy, message := "pod watch stream ended" }⟩,
          .overdue, .announced] last ∧
      last.health.latest? Component.podCache =
        some { status := .degraded, message := "initial sync timed out" } ∧
      (Endpoint.respond last.health {} "GET" "/healthz").status = 200 ∧
      (Endpoint.respond last.health {} "GET" "/readyz").status = 200 := by
  have begun : Run start [] start := .refl start
  have expired := begun.tail (.endWait .timedOut rfl ⟨rfl, nofun⟩)
  have ended := expired.tail (.turn .ended rfl) |>.tail (.report rfl rfl)
    |>.tail (.leave rfl)
  have run := ended.tail (.tell rfl) |>.tail (.announce rfl)
  refine ⟨_, run, rfl, rfl, ?_⟩
  rw [Endpoint.status_readyz]
  apply if_pos
  apply HealthRegistry.ready_iff.mpr
  exact ⟨rfl, by decide⟩

end AgentSystem

end SwapWarden
