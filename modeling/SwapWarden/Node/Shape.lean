import SwapWarden.Pod.Shape

/-!
# The shape of nodes

All fields that the manifest of a node is known to have.
-/

namespace SwapWarden

open Text.Json (Shape)
open Text.Json.Shape (text flag int32 int64 time list map object texts
  textObject)

namespace NodeShape

def taint : Shape :=
  object (texts ["effect", "key", "value"] ++ [("timeAdded", time)])

/-- Where a node has its configuration from. -/
def configSource : Shape :=
  object [("configMap", textObject ["kubeletConfigKey", "name", "namespace",
    "resourceVersion", "uid"])]

/-- The shape of what is asked of a node. -/
def spec : Shape :=
  object (texts ["externalID", "podCIDR", "providerID"] ++
    [("configSource", configSource), ("podCIDRs", list text),
      ("taints", list taint), ("unschedulable", flag)])

/-- The shape of what is known of a node. -/
def status : Shape :=
  object [
    ("addresses", list (textObject ["address", "type"])),
    ("allocatable", map text), ("capacity", map text),
    ("conditions", list (object (
      texts ["message", "reason", "status", "type"] ++
      [("lastHeartbeatTime", time), ("lastTransitionTime", time)]))),
    ("config", object [("active", configSource), ("assigned", configSource),
      ("error", text), ("lastKnownGood", configSource)]),
    ("daemonEndpoints", object [("kubeletEndpoint",
      object [("Port", int32)])]),
    ("images", list (object [("names", list text), ("sizeBytes", int64)])),
    ("nodeInfo", textObject ["architecture", "bootID",
      "containerRuntimeVersion", "kernelVersion", "kubeProxyVersion",
      "kubeletVersion", "machineID", "operatingSystem", "osImage",
      "systemUUID"]),
    ("phase", text),
    ("volumesAttached", list (textObject ["devicePath", "name"])),
    ("volumesInUse", list text)]

end NodeShape

/-- The shape of a node. -/
def Node.shape : Shape :=
  object [("metadata", Metadata.shape), ("spec", NodeShape.spec),
    ("status", NodeShape.status)]

end SwapWarden
