import SwapWarden.Report.Endpoint

/-!
# The latest report of every component

What is known of a component is its latest report, whatever else was reported
in between, and one unhealthy component is enough for the agent to be neither
healthy nor ready.
-/

namespace SwapWarden

/-- What a component reports after a turn of its loop. -/
def ComponentHealth.ofResult : Except Fault Unit → ComponentHealth
  | .ok _ => { status := .healthy }
  | .error fault => { status := .degraded, message := some fault.message }

namespace HealthRegistry

variable {registry : HealthRegistry} {name other : String}
  {health : ComponentHealth}

/-- The latest report of a component. -/
def latest? (registry : HealthRegistry) (name : String) :
    Option ComponentHealth :=
  registry.components.get? name

@[simp]
theorem latest?_set :
    (registry.set name health).latest? other =
      if name = other then some health else registry.latest? other :=
  Table.get?_put registry.components name other health

theorem report_eq (result : Except Fault Unit) :
    registry.report name result = registry.set name (.ofResult result) := by
  cases result with
  | ok _ => rfl
  | error fault => rfl

theorem latest?_registerAll (member : name ∈ Component.all) :
    registry.registerAll.latest? name = some { status := .healthy } := by
  simp only [Component.all, List.mem_cons, List.not_mem_nil, or_false]
    at member
  simp only [registerAll, Component.all, List.foldl_cons, List.foldl_nil,
    setHealthy, latest?_set]
  rcases member with rfl | rfl | rfl | rfl
  · rfl
  · rfl
  · rfl
  · rfl

/-! ## The worst status -/

theorem worse_eq_unhealthy_iff (first second : ComponentStatus) :
    first.worse second = .unhealthy ↔
      first = .unhealthy ∨ second = .unhealthy := by
  cases first with
  | _ =>
      cases second with
      | _ => simp [ComponentStatus.worse]

theorem foldl_worse_eq_unhealthy_iff (reports : List ComponentHealth)
    (worst : ComponentStatus) :
    reports.foldl (fun worst health => worst.worse health.status) worst =
        .unhealthy ↔
      worst = .unhealthy ∨ ∃ health ∈ reports, health.status = .unhealthy := by
  induction reports generalizing worst with
  | nil => simp
  | cons health reports induction =>
      simp [induction, worse_eq_unhealthy_iff, or_assoc]

theorem status_eq_unhealthy_iff :
    registry.status = .unhealthy ↔
      ∃ health ∈ registry.components.values, health.status = .unhealthy := by
  rw [status, foldl_worse_eq_unhealthy_iff]
  simp

theorem unhealthyNames_eq_nil_iff :
    registry.unhealthyNames = [] ↔ registry.status ≠ .unhealthy := by
  rw [ne_eq, status_eq_unhealthy_iff, unhealthyNames, List.map_eq_nil_iff,
    List.filter_eq_nil_iff]
  constructor
  · rintro spared ⟨health, member, lost⟩
    obtain ⟨report, present, rfl⟩ := List.mem_map.mp member
    exact spared report (List.mem_mergeSort.mpr present) (beq_iff_eq.mpr lost)
  · intro spared report member lost
    have present := List.mem_mergeSort.mp member
    exact spared ⟨report.2, List.mem_map.mpr ⟨report, present, rfl⟩,
      beq_iff_eq.mp lost⟩

theorem ready_iff :
    registry.readiness.ready = true ↔
      registry.synced = true ∧ registry.status ≠ .unhealthy := by
  rw [← unhealthyNames_eq_nil_iff, readiness]
  cases registry.synced with
  | false => simp
  | true =>
      cases registry.unhealthyNames with
      | nil => simp
      | cons name names => simp

theorem status_of_latest? (latest : registry.latest? name = some health)
    (lost : health.status = .unhealthy) : registry.status = .unhealthy := by
  apply status_eq_unhealthy_iff.mpr
  exact ⟨health, List.mem_map.mpr ⟨_, Table.mem_of_getIn latest, rfl⟩, lost⟩

end HealthRegistry

namespace Endpoint

variable {registry : HealthRegistry} {name : String}
  {health : ComponentHealth}

theorem status_healthz (registry : HealthRegistry) (counters : Metrics) :
    (respond registry counters "GET" "/healthz").status =
      if registry.status = .unhealthy then 503 else 200 :=
  rfl

theorem status_readyz (registry : HealthRegistry) (counters : Metrics) :
    (respond registry counters "GET" "/readyz").status =
      if registry.readiness.ready then 200 else 503 :=
  rfl

theorem unavailable_of_latest? (latest : registry.latest? name = some health)
    (lost : health.status = .unhealthy) (counters : Metrics) :
    (respond registry counters "GET" "/healthz").status = 503 ∧
      (respond registry counters "GET" "/readyz").status = 503 := by
  have unhealthy := registry.status_of_latest? latest lost
  rw [status_healthz, status_readyz]
  constructor
  · exact if_pos unhealthy
  · apply if_neg
    rw [HealthRegistry.ready_iff]
    exact fun ready => ready.2 unhealthy

end Endpoint

end SwapWarden
