import SwapWarden.Agent.PodWatch
import SwapWarden.Agent.Startup
import SwapWarden.Cluster.Client
import SwapWarden.Simulation.Ceilings

/-!
# A whole run of the agent

The agent starts, lists the pods of its node, finds the port of its own
interface taken, works on the pods that are queued, and stops.  The files, the
cluster's reply and the processes of containers are held in memory.
-/

namespace SwapWarden.Simulation

/-- What the agent finds where it runs.  There may be no access to the cluster,
and of the processes that the runtime knows zero is none. -/
structure Host where
  tree : FileTree := {}
  listing : Option Reply := none
  pids : Table String Nat := Table.empty
  deriving Inhabited

/-- What a run did, with the calls to the cluster and the containers whose
process was asked for. -/
structure AgentRun where
  events : List Event
  calls : List ClusterCall
  asked : List String
  tree : FileTree
  deriving Inhabited

namespace Host

/-- The reply to a listing, once there is access to the cluster. -/
def access (host : Host) : Except StartupFault Reply :=
  match host.listing with
  | some reply => .ok reply
  | none => .error .clusterAccess

/-- What a watch hands over first. -/
def firstTurn : Except Fault (List Pod) → WatchTurn
  | .ok pods => .event (.restarted pods)
  | .error fault => .failed fault.message

/-- How the wait for the pod cache ends. -/
def syncOutcome (watch : PodWatch) : SyncOutcome :=
  if watch.synced then .synced else .timedOut

/-- The ceiling loop over what the watch fed, which takes in nothing more. -/
def closing (host : Host) (settings : CeilingSettings) (watch : PodWatch)
    (journal : Journal) : Ceilings where
  settings
  cache := watch.podsByKey
  pids := ⟨host.pids.entries.filter (fun entry => entry.2 != 0)⟩
  tree := host.tree
  timed := { queue := watch.queue.close }
  journal
  health := watch.health.endSync (syncOutcome watch)

/-- A run on a host. -/
def run (host : Host) (settings : AgentSettings) :
    Except StartupFault AgentRun := do
  let capacity ← settings.nodeCapacity host.tree
  let reply ← host.access
  let source ← settings.createUsageSource host.tree
  let (listed, calls) := (Exchange.beginWatch settings.nodeName).run
    (fun call calls => (reply, calls ++ [call])) []
  let watch := ({ health := HealthRegistry.registerAll {} } : PodWatch).take
    settings.nodeName (firstTurn listed)
  let ceilings := host.closing (settings.ceilings capacity) watch
    (Journal.tell {} (.started agentVersion source.kind.name))
  let ceilings := ceilings.drain ceilings.timed.queue.size
  let journal := ceilings.journal.tell (.stopped "API server failed")
  return {
    events := journal.events
    calls
    asked := ceilings.asked
    tree := ceilings.tree }

end Host

end SwapWarden.Simulation
