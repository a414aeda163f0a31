import SwapWarden.Fault
import SwapWarden.Node.Basic
import SwapWarden.Pod.Key

/-!
# A cluster held in memory

One node and a list of pods that obey the calls of the eviction loop at once.
Every call is logged with its argument, also when it is one of those that are
set to fail; a failing call changes nothing.
-/

namespace SwapWarden.Simulation

/-- A cluster of one node, with the names of the calls that fail and the calls
so far, each with its argument. -/
structure Cluster where
  node : Node := {}
  pods : List Pod := []
  failing : List String := []
  calls : List (String × String) := []
  deriving Inhabited

namespace Cluster

/-- Logs a call and tells whether it fails. -/
def call (cluster : Cluster) (name argument : String) :
    Except Fault Unit × Cluster :=
  let logged := { cluster with calls := cluster.calls ++ [(name, argument)] }
  if cluster.failing.contains name then
    (.error (.reported (name ++ " failed")), logged)
  else
    (.ok (), logged)

/-- A call that reads. -/
def read {α : Type} (cluster : Cluster) (name argument : String)
    (answer : α) : Except Fault α × Cluster :=
  let (result, cluster) := cluster.call name argument
  (result.map (fun _ => answer), cluster)

/-- A call that changes the cluster when it does not fail. -/
def change (cluster : Cluster) (name argument : String)
    (effect : Cluster → Cluster) : Except Fault Unit × Cluster :=
  match cluster.call name argument with
  | (.ok _, cluster) => (.ok (), effect cluster)
  | (.error fault, cluster) => (.error fault, cluster)

def getNode (cluster : Cluster) (name : String) :
    Except Fault Node × Cluster :=
  cluster.read "get_node" name cluster.node

def patchTaints (cluster : Cluster) (node : Node) (taints : List Taint) :
    Except Fault Unit × Cluster :=
  cluster.change "patch_node_taints" node.metadata.displayName
    (fun cluster => { cluster with node := cluster.node.withTaints taints })

def listPods (cluster : Cluster) (node : String) :
    Except Fault (List Pod) × Cluster :=
  cluster.read "list_pods_on_node" node cluster.pods

def clearFinalizers (cluster : Cluster) (pod : Pod) :
    Except Fault Unit × Cluster :=
  cluster.change "clear_pod_finalizers" pod.metadata.displayName id

/-- Deletes the pods of a key. -/
def deletePod (cluster : Cluster) (key : PodKey) :
    Except Fault Unit × Cluster :=
  cluster.change "delete_pod" key.text (fun cluster =>
    { cluster with pods := cluster.pods.filter (fun pod => pod.key != key) })

end Cluster

end SwapWarden.Simulation
