import SwapWarden.Fault
import SwapWarden.Table

/-!
# Health of the agent's components

Every loop reports after each turn.  A component whose last turn failed is
degraded until its next success; one whose loop is gone for good is unhealthy.
The agent is as healthy as its worst component, and it is ready once the pod
cache has synced and no component is unhealthy.
-/

namespace SwapWarden

/-- How a component is. -/
inductive ComponentStatus where
  | healthy
  | degraded
  | unhealthy
  deriving DecidableEq, Repr, Inhabited

namespace ComponentStatus

def name : ComponentStatus → String
  | healthy => "healthy"
  | degraded => "degraded"
  | unhealthy => "unhealthy"

/-- The worse of two statuses. -/
def worse : ComponentStatus → ComponentStatus → ComponentStatus
  | unhealthy, _ => unhealthy
  | _, unhealthy => unhealthy
  | degraded, _ => degraded
  | _, degraded => degraded
  | healthy, healthy => healthy

end ComponentStatus

/-- What a component last reported. -/
structure ComponentHealth where
  status : ComponentStatus
  message : Option String := none
  deriving DecidableEq, Repr, Inhabited

namespace Component

def sampler : String := "sampler"

def evictionLoop : String := "eviction_controller"

def ceilingLoop : String := "swap_manager"

def podCache : String := "pod_cache"

/-- The components of the agent. -/
def all : List String := [sampler, evictionLoop, ceilingLoop, podCache]

end Component

/-- Whether the agent is ready to do its work, and if not, why. -/
structure Readiness where
  ready : Bool
  reason : Option String
  deriving DecidableEq, Repr, Inhabited

/-- The latest reports of all components, and whether the pod cache has synced.
-/
structure HealthRegistry where
  components : Table String ComponentHealth := Table.empty
  synced : Bool := false
  deriving Inhabited

namespace HealthRegistry

/-- Records the report of a component. -/
def set (registry : HealthRegistry) (name : String)
    (health : ComponentHealth) : HealthRegistry :=
  { registry with components := registry.components.put name health }

def setHealthy (registry : HealthRegistry) (name : String) : HealthRegistry :=
  registry.set name { status := .healthy }

def setDegraded (registry : HealthRegistry) (name message : String) :
    HealthRegistry :=
  registry.set name { status := .degraded, message := some message }

def setUnhealthy (registry : HealthRegistry) (name message : String) :
    HealthRegistry :=
  registry.set name { status := .unhealthy, message := some message }

/-- Records how one turn of a loop ended. -/
def report (registry : HealthRegistry) (name : String)
    (result : Except Fault Unit) : HealthRegistry :=
  match result with
  | .ok _ => registry.setHealthy name
  | .error fault => registry.setDegraded name fault.message

/-- Starts every component of the agent as healthy. -/
def registerAll (registry : HealthRegistry) : HealthRegistry :=
  Component.all.foldl setHealthy registry

/-- Records whether the pod cache has synced. -/
def setSynced (registry : HealthRegistry) (synced : Bool) : HealthRegistry :=
  { registry with synced }

/-- The latest reports in the order of the components' names. -/
def sortedReports (registry : HealthRegistry) :
    List (String × ComponentHealth) :=
  registry.components.entries.mergeSort
    (fun first second => decide (first.1 ≤ second.1))

/-- The worst of the latest statuses; healthy when there is none. -/
def status (registry : HealthRegistry) : ComponentStatus :=
  registry.components.values.foldl
    (fun worst health => worst.worse health.status) .healthy

/-- The unhealthy components in the order of their names. -/
def unhealthyNames (registry : HealthRegistry) : List String :=
  (registry.sortedReports.filter (fun report =>
    report.2.status == .unhealthy)).map (·.1)

/-- Whether the agent is ready. -/
def readiness (registry : HealthRegistry) : Readiness :=
  if !registry.synced then
    ⟨false, some "Pod cache not yet synced"⟩
  else if registry.unhealthyNames.isEmpty then
    ⟨true, none⟩
  else
    ⟨false, some ("Unhealthy: " ++
      String.intercalate ", " registry.unhealthyNames)⟩

end HealthRegistry

end SwapWarden
