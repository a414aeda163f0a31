import SwapWarden.Memory.Stats
import SwapWarden.Settings.Validation

/-!
# Starting the agent

The agent does not start where it cannot tell how much memory and swap the node
has, or where it has no access to the cluster.
-/

namespace SwapWarden

/-- Why the agent does not start. -/
inductive StartupFault where
  | memoryTotals (cause : Fault)
  | capacity (cause : Fault)
  | clusterAccess
  | usageSource (cause : Fault)
  deriving Inhabited

namespace StartupFault

/-- What went wrong. -/
def message : StartupFault → String
  | memoryTotals _ => "failed to read node memory totals"
  | capacity cause => cause.message
  | clusterAccess => "failed to create Kubernetes client"
  | usageSource cause => cause.message

/-- What it went wrong for, where that is known. -/
def cause? : StartupFault → Option String
  | memoryTotals cause => some cause.message
  | _ => none

end StartupFault

/-- The version that the agent tells when it starts. -/
def agentVersion : String := "0.1.0"

namespace AgentSettings

/-- The capacity of the node that the agent starts on. -/
def nodeCapacity (settings : AgentSettings) (tree : FileTree) :
    Except StartupFault NodeCapacity := do
  let totals ← (Meminfo.read tree settings.procRoot).mapError .memoryTotals
  (NodeCapacity.ofMeminfo totals).mapError .capacity

/-- Where the agent gets usage from. -/
def createUsageSource (settings : AgentSettings) (tree : FileTree) :
    Except StartupFault UsageSource := do
  let kind ← settings.usageSourceKind.mapError .usageSource
  return .create tree kind settings.procRoot settings.cgroupRoot

end AgentSettings

end SwapWarden
