import SwapWarden.Cluster.Call
import SwapWarden.Cluster.Reply
import SwapWarden.Eviction.Evict
import SwapWarden.Program

/-!
# The cluster through its interface

The calls of the eviction loop as exchanges with the cluster's interface.  A
pod that is gone counts as deleted.
-/

namespace SwapWarden

open Text (Json)

/-- An exchange of calls and replies. -/
abbrev Exchange (α : Type) : Type :=
  Program ClusterCall (fun _ => Reply) (Except Fault α)

namespace Exchange

/-- Makes a call, if its address allows, and reads the reply. -/
def call {α : Type} (call : Except Fault ClusterCall)
    (ofJson? : Json → Option α) : Exchange α :=
  match call with
  | .error fault => .done (.error fault)
  | .ok call => .ask call (fun reply => .done (reply.read ofJson?))

/-- The address of a node. -/
def nodeAddress (name : String) : String := "/api/v1/nodes/" ++ name

/-- The address of a pod. -/
def podAddress (key : PodKey) : String :=
  "/api/v1/namespaces/" ++ key.namespaceName ++ "/pods/" ++ key.name

/-- The address of the pods on a node. -/
def podsAddress (node : String) : String :=
  "/api/v1/pods?&fieldSelector=" ++
    Text.formEncoded ("spec.nodeName=" ++ node)

def getNode (name : String) : Exchange Node :=
  call (ClusterCall.build "GET" (nodeAddress name)) Node.ofManifest?

/-- The document that replaces the taints of a node, unless the node changed
since it was got. -/
def taintPatch (node : Node) (taints : List Taint) : Json :=
  .record [
    ("metadata", .record [("resourceVersion",
      match node.metadata.resourceVersion with
      | some version => .text version
      | none => .null)]),
    ("spec", .record [("taints", .array (taints.map Taint.toManifest))])]

def patchTaints (node : Node) (taints : List Taint) : Exchange Unit :=
  call (ClusterCall.build "PATCH" (nodeAddress node.metadata.displayName ++ "?")
      (some "application/merge-patch+json") (some (taintPatch node taints)))
    (fun value => (Node.ofManifest? value).map (fun _ => ()))

def listPods (node : String) : Exchange (List Pod) :=
  call (ClusterCall.build "GET" (podsAddress node)) podList?

/-- The most pods that one answer to a watch holds. -/
def pageLimit : Nat := 500

/-- The listing with which a watch of the pods on a node begins. -/
def beginWatch (node : String) : Exchange (List Pod) :=
  call (ClusterCall.build "GET"
    (podsAddress node ++ "&limit=" ++ toString pageLimit)) podList?

def clearFinalizers (pod : Pod) : Exchange Unit :=
  call (ClusterCall.build "PUT" (podAddress pod.key ++ "?")
      (some "application/json")
      (some pod.withoutFinalizers.toManifest))
    (fun value => (Pod.ofManifest? value).map (fun _ => ()))

/-- Success where the thing is gone already. -/
def forgiveMissing : Except Fault Unit → Except Fault Unit
  | .ok _ => .ok ()
  | .error fault => if fault.isNotFound then .ok () else .error fault

/-- The call that deletes a pod at once. -/
def deletionCall (key : PodKey) : Except Fault ClusterCall :=
  ClusterCall.build "DELETE" (podAddress key ++ "?") (some "application/json")
    (some (.record [("gracePeriodSeconds", .integer 0)]))

def deletePod (key : PodKey) : Exchange Unit :=
  (call (deletionCall key) deletion?).bind
    (fun result => .done (forgiveMissing result))

/-- Evicts a pod. -/
def evict (pod : Pod) : Exchange Unit :=
  evictWith clearFinalizers deletePod pod

end Exchange

end SwapWarden
