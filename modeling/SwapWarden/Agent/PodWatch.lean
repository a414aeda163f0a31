import SwapWarden.Cluster.PodCache
import SwapWarden.Report.Health
import SwapWarden.WorkQueue.Basic

/-!
# The watch of pods

A watch feeds the pod cache and the queue of the ceiling loop with the pods of
the agent's node.  A fault of the watch degrades the pod cache, a new list of
all pods makes it healthy again, and the end of the watch makes it unhealthy.
The start of the agent waits for the first list, but not for ever.
-/

namespace SwapWarden

/-- What a watch hands over next.  Nothing comes after its end. -/
inductive WatchTurn where
  | event (event : WatchEvent)
  | failed (message : String)
  | ended
  deriving Inhabited

/-- What a watch feeds, and whether all pods were listed once. -/
structure PodWatch where
  cache : PodCache := {}
  queue : WorkQueue PodKey := {}
  synced : Bool := false
  health : HealthRegistry := {}
  deriving Inhabited

namespace PodWatch

/-- Queues a pod if it is on the agent's node. -/
def enqueue (node : String) (watch : PodWatch) (pod : Pod) : PodWatch :=
  if pod.isOnNode node then
    { watch with queue := watch.queue.add pod.key }
  else
    watch

/-- Takes in a list of all pods. -/
def restart (node : String) (watch : PodWatch) (pods : List Pod) : PodWatch :=
  let watch := pods.foldl (enqueue node) watch
  { watch with
    synced := true
    health := watch.health.setHealthy Component.podCache }

/-- Takes in an event whose pods are in the cache already. -/
def follow (node : String) (watch : PodWatch) : WatchEvent → PodWatch
  | .restarted pods => watch.restart node pods
  | .applied pod => watch.enqueue node pod
  | .deleted _ => watch

/-- Takes in what the watch hands over. -/
def take (node : String) (watch : PodWatch) : WatchTurn → PodWatch
  | .event event =>
      { watch with cache := watch.cache.apply event }.follow node event
  | .failed message =>
      { watch with
        health := watch.health.setDegraded Component.podCache message }
  | .ended =>
      { watch with
        health := watch.health.setUnhealthy Component.podCache
          "pod watch stream ended" }

/-- The pods by the keys under which they are queued. -/
def podsByKey (watch : PodWatch) : Table PodKey Pod :=
  Table.ofList (watch.cache.list.filterMap (fun pod =>
    (watch.cache.get? pod.key).map (fun found => (pod.key, found))))

end PodWatch

/-- How the wait for the pod cache ends: by the first listing, by the end of the
watch, or after its time. -/
inductive SyncOutcome where
  | synced
  | ended
  | timedOut
  deriving DecidableEq, Repr, Inhabited

/-- The reports once the wait for the pod cache is over; the agent goes on in
any case. -/
def HealthRegistry.endSync (health : HealthRegistry) :
    SyncOutcome → HealthRegistry
  | .timedOut =>
      (health.setDegraded Component.podCache
        "initial sync timed out").setSynced true
  | _ => health.setSynced true

end SwapWarden
