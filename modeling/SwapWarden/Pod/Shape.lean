import SwapWarden.Text.Json.Shape

/-!
# The shape of pods

All fields that the manifest of a pod is known to have.  A manifest in which one
of them has another type is none, whether anything asks for that field or not.
-/

namespace SwapWarden

open Text.Json (Shape)
open Text.Json.Shape (text flag int32 int64 int32OrText time anything list map
  object texts flags int32s int64s textObject)

namespace Metadata

/-- The shape of what every object says of itself. -/
def shape : Shape :=
  object (
    texts ["generateName", "name", "namespace", "resourceVersion", "selfLink",
      "uid"] ++
    int64s ["deletionGracePeriodSeconds", "generation"] ++
    [("annotations", map text), ("labels", map text),
      ("creationTimestamp", time), ("deletionTimestamp", time),
      ("finalizers", list text),
      ("managedFields", list (object (
        texts ["apiVersion", "fieldsType", "manager", "operation",
          "subresource"] ++
        [("fieldsV1", anything), ("time", time)]))),
      ("ownerReferences", list (object (
        texts ["apiVersion", "kind", "name", "uid"] ++
        flags ["blockOwnerDeletion", "controller"])))])

/-- The shape of what a list says of itself. -/
def listShape : Shape :=
  object (texts ["continue", "resourceVersion", "selfLink"] ++
    int64s ["remainingItemCount"])

end Metadata

namespace PodShape

/-- The name of another object. -/
def reference : Shape := textObject ["name"]

/-- A choice of objects by their labels. -/
def labelSelector : Shape :=
  object [
    ("matchExpressions", list (object (texts ["key", "operator"] ++
      [("values", list text)]))),
    ("matchLabels", map text)]

/-- A choice of nodes. -/
def nodeSelectorTerm : Shape :=
  let requirement := object (texts ["key", "operator"] ++
    [("values", list text)])
  object [("matchExpressions", list requirement),
    ("matchFields", list requirement)]

/-- A choice of pods to be near to or far from. -/
def podAffinityTerm : Shape :=
  object [("labelSelector", labelSelector),
    ("namespaceSelector", labelSelector), ("namespaces", list text),
    ("topologyKey", text)]

def podAffinity : Shape :=
  object [
    ("preferredDuringSchedulingIgnoredDuringExecution",
      list (object [("podAffinityTerm", podAffinityTerm),
        ("weight", int32)])),
    ("requiredDuringSchedulingIgnoredDuringExecution",
      list podAffinityTerm)]

def affinity : Shape :=
  object [
    ("nodeAffinity", object [
      ("preferredDuringSchedulingIgnoredDuringExecution",
        list (object [("preference", nodeSelectorTerm), ("weight", int32)])),
      ("requiredDuringSchedulingIgnoredDuringExecution",
        object [("nodeSelectorTerms", list nodeSelectorTerm)])]),
    ("podAffinity", podAffinity), ("podAntiAffinity", podAffinity)]

/-- A key of a map or a secret. -/
def keyChoice : Shape :=
  object (texts ["key", "name"] ++ flags ["optional"])

/-- A map or a secret that need not exist. -/
def optionalReference : Shape :=
  object (texts ["name"] ++ flags ["optional"])

def fieldChoice : Shape := textObject ["apiVersion", "fieldPath"]

def resourceFieldChoice : Shape :=
  textObject ["containerName", "divisor", "resource"]

def environmentVariable : Shape :=
  object (texts ["name", "value"] ++ [("valueFrom", object [
    ("configMapKeyRef", keyChoice), ("fieldRef", fieldChoice),
    ("resourceFieldRef", resourceFieldChoice),
    ("secretKeyRef", keyChoice)])])

def environmentSource : Shape :=
  object [("configMapRef", optionalReference),
    ("prefix", text), ("secretRef", optionalReference)]

def command : Shape := object [("command", list text)]

def webRequest : Shape :=
  object (texts ["host", "path", "scheme"] ++
    [("httpHeaders", list (textObject ["name", "value"])),
      ("port", int32OrText)])

def connection : Shape := object [("host", text), ("port", int32OrText)]

/-- What is done when a container starts or stops. -/
def hook : Shape :=
  object [("exec", command), ("httpGet", webRequest),
    ("tcpSocket", connection)]

def probe : Shape :=
  object (
    int32s ["failureThreshold", "initialDelaySeconds", "periodSeconds",
      "successThreshold", "timeoutSeconds"] ++
    int64s ["terminationGracePeriodSeconds"] ++
    [("exec", command), ("httpGet", webRequest), ("tcpSocket", connection),
      ("grpc", object [("port", int32), ("service", text)])])

def resources : Shape :=
  object [("claims", list reference), ("limits", map text),
    ("requests", map text)]

def securityOptions : List (String × Shape) :=
  [("seLinuxOptions", textObject ["level", "role", "type", "user"]),
    ("seccompProfile", textObject ["localhostProfile", "type"]),
    ("windowsOptions", object (
      texts ["gmsaCredentialSpec", "gmsaCredentialSpecName",
        "runAsUserName"] ++
      flags ["hostProcess"])),
    ("runAsGroup", int64), ("runAsNonRoot", flag), ("runAsUser", int64)]

def containerSecurity : Shape :=
  object (securityOptions ++ texts ["procMount"] ++
    flags ["allowPrivilegeEscalation", "privileged",
      "readOnlyRootFilesystem"] ++
    [("capabilities", object [("add", list text), ("drop", list text)])])

def podSecurity : Shape :=
  object (securityOptions ++ texts ["fsGroupChangePolicy"] ++
    [("fsGroup", int64), ("supplementalGroups", list int64),
      ("sysctls", list (textObject ["name", "value"]))])

def containerFields : List (String × Shape) :=
  texts ["image", "imagePullPolicy", "name", "restartPolicy",
    "terminationMessagePath", "terminationMessagePolicy", "workingDir"] ++
  flags ["stdin", "stdinOnce", "tty"] ++
  [("args", list text), ("command", list text),
    ("env", list environmentVariable), ("envFrom", list environmentSource),
    ("lifecycle", object [("postStart", hook), ("preStop", hook)]),
    ("livenessProbe", probe), ("readinessProbe", probe),
    ("startupProbe", probe),
    ("ports", list (object (texts ["hostIP", "name", "protocol"] ++
      int32s ["containerPort", "hostPort"]))),
    ("resizePolicy", list (textObject ["resourceName", "restartPolicy"])),
    ("resources", resources), ("securityContext", containerSecurity),
    ("volumeDevices", list (textObject ["devicePath", "name"])),
    ("volumeMounts", list (object (
      texts ["mountPath", "mountPropagation", "name", "subPath",
        "subPathExpr"] ++
      flags ["readOnly"])))]

def container : Shape := object containerFields

/-- A container that was put into a running pod. -/
def guestContainer : Shape :=
  object (containerFields ++ texts ["targetContainerName"])

/-- Keys and the files that they become. -/
def keyPaths : Shape :=
  list (object (texts ["key", "path"] ++ [("mode", int32)]))

/-- Fields of the pod and the files that they become. -/
def downwardItems : Shape :=
  list (object [("fieldRef", fieldChoice), ("mode", int32), ("path", text),
    ("resourceFieldRef", resourceFieldChoice)])

def projection : Shape :=
  let keyed := object [("items", keyPaths), ("name", text),
    ("optional", flag)]
  object [("configMap", keyed), ("secret", keyed),
    ("downwardAPI", object [("items", downwardItems)]),
    ("serviceAccountToken", object (texts ["audience", "path"] ++
      int64s ["expirationSeconds"]))]

def claim : Shape :=
  object [("metadata", Metadata.shape), ("spec", object (
    texts ["storageClassName", "volumeMode", "volumeName"] ++
    [("accessModes", list text),
      ("dataSource", textObject ["apiGroup", "kind", "name"]),
      ("dataSourceRef", textObject ["apiGroup", "kind", "name",
        "namespace"]),
      ("resources", resources), ("selector", labelSelector)]))]

/-- A volume on a server or a device: texts, and whether it is read only. -/
def served (names : List String) (more : List (String × Shape) := []) :
    Shape :=
  object (texts names ++ flags ["readOnly"] ++ more)

/-- The volumes that a pod brings with it or finds on its node. -/
def localVolumes : List (String × Shape) :=
  [("configMap", object (texts ["name"] ++
      [("defaultMode", int32), ("items", keyPaths), ("optional", flag)])),
    ("downwardAPI", object [("defaultMode", int32),
      ("items", downwardItems)]),
    ("emptyDir", textObject ["medium", "sizeLimit"]),
    ("ephemeral", object [("volumeClaimTemplate", claim)]),
    ("gitRepo", textObject ["directory", "repository", "revision"]),
    ("hostPath", textObject ["path", "type"]),
    ("persistentVolumeClaim", served ["claimName"]),
    ("projected", object [("defaultMode", int32),
      ("sources", list projection)]),
    ("secret", object (texts ["secretName"] ++
      [("defaultMode", int32), ("items", keyPaths), ("optional", flag)]))]

/-- The volumes that others serve. -/
def servedVolumes : List (String × Shape) :=
  let secret := [("secretRef", reference)]
  [("awsElasticBlockStore", served ["fsType", "volumeID"]
      [("partition", int32)]),
    ("azureDisk", served ["cachingMode", "diskName", "diskURI", "fsType",
      "kind"]),
    ("azureFile", served ["secretName", "shareName"]),
    ("cephfs", served ["path", "secretFile", "user"]
      (secret ++ [("monitors", list text)])),
    ("cinder", served ["fsType", "volumeID"] secret),
    ("csi", served ["driver", "fsType"]
      [("nodePublishSecretRef", reference), ("volumeAttributes", map text)]),
    ("fc", served ["fsType"]
      [("lun", int32), ("targetWWNs", list text), ("wwids", list text)]),
    ("flexVolume", served ["driver", "fsType"]
      (secret ++ [("options", map text)])),
    ("flocker", textObject ["datasetName", "datasetUUID"]),
    ("gcePersistentDisk", served ["fsType", "pdName"]
      [("partition", int32)]),
    ("glusterfs", served ["endpoints", "path"]),
    ("iscsi", served ["fsType", "initiatorName", "iqn", "iscsiInterface",
        "targetPortal"]
      (secret ++ flags ["chapAuthDiscovery", "chapAuthSession"] ++
        [("lun", int32), ("portals", list text)])),
    ("nfs", served ["path", "server"]),
    ("photonPersistentDisk", textObject ["fsType", "pdID"]),
    ("portworxVolume", served ["fsType", "volumeID"]),
    ("quobyte", served ["group", "registry", "tenant", "user", "volume"]),
    ("rbd", served ["fsType", "image", "keyring", "pool", "user"]
      (secret ++ [("monitors", list text)])),
    ("scaleIO", served ["fsType", "gateway", "protectionDomain",
        "storageMode", "storagePool", "system", "volumeName"]
      (secret ++ flags ["sslEnabled"])),
    ("storageos", served ["fsType", "volumeName", "volumeNamespace"] secret),
    ("vsphereVolume", textObject ["fsType", "storagePolicyID",
      "storagePolicyName", "volumePath"])]

def volume : Shape :=
  object (texts ["name"] ++ localVolumes ++ servedVolumes)

def toleration : Shape :=
  object (texts ["effect", "key", "operator", "value"] ++
    int64s ["tolerationSeconds"])

def spreadConstraint : Shape :=
  object (
    texts ["nodeAffinityPolicy", "nodeTaintsPolicy", "topologyKey",
      "whenUnsatisfiable"] ++
    int32s ["maxSkew", "minDomains"] ++
    [("labelSelector", labelSelector), ("matchLabelKeys", list text)])

/-- The shape of what is asked of a pod. -/
def spec : Shape :=
  object (
    texts ["dnsPolicy", "hostname", "nodeName", "preemptionPolicy",
      "priorityClassName", "restartPolicy", "runtimeClassName",
      "schedulerName", "serviceAccount", "serviceAccountName",
      "subdomain"] ++
    flags ["automountServiceAccountToken", "enableServiceLinks", "hostIPC",
      "hostNetwork", "hostPID", "hostUsers", "setHostnameAsFQDN",
      "shareProcessNamespace"] ++
    int64s ["activeDeadlineSeconds", "terminationGracePeriodSeconds"] ++
    [("affinity", affinity), ("containers", list container),
      ("dnsConfig", object [("nameservers", list text),
        ("options", list (textObject ["name", "value"])),
        ("searches", list text)]),
      ("ephemeralContainers", list guestContainer),
      ("hostAliases", list (object [("hostnames", list text),
        ("ip", text)])),
      ("imagePullSecrets", list reference),
      ("initContainers", list container), ("nodeSelector", map text),
      ("os", reference), ("overhead", map text), ("priority", int32),
      ("readinessGates", list (textObject ["conditionType"])),
      ("resourceClaims", list (object [("name", text),
        ("source", textObject ["resourceClaimName",
          "resourceClaimTemplateName"])])),
      ("schedulingGates", list reference), ("securityContext", podSecurity),
      ("tolerations", list toleration),
      ("topologySpreadConstraints", list spreadConstraint),
      ("volumes", list volume)])

def containerState : Shape :=
  object [
    ("running", object [("startedAt", time)]),
    ("terminated", object (texts ["containerID", "message", "reason"] ++
      int32s ["exitCode", "signal"] ++
      [("finishedAt", time), ("startedAt", time)])),
    ("waiting", textObject ["message", "reason"])]

def containerStatus : Shape :=
  object (
    texts ["containerID", "image", "imageID", "name"] ++
    flags ["ready", "started"] ++
    [("allocatedResources", map text), ("lastState", containerState),
      ("resources", resources), ("restartCount", int32),
      ("state", containerState)])

/-- The shape of what is known of a pod. -/
def status : Shape :=
  object (
    texts ["hostIP", "message", "nominatedNodeName", "phase", "podIP",
      "qosClass", "reason", "resize"] ++
    [("conditions", list (object (
        texts ["message", "reason", "status", "type"] ++
        [("lastProbeTime", time), ("lastTransitionTime", time)]))),
      ("containerStatuses", list containerStatus),
      ("ephemeralContainerStatuses", list containerStatus),
      ("hostIPs", list (textObject ["ip"])),
      ("initContainerStatuses", list containerStatus),
      ("podIPs", list (textObject ["ip"])),
      ("resourceClaimStatuses",
        list (textObject ["name", "resourceClaimName"])),
      ("startTime", time)])

end PodShape

/-- The shape of a pod. -/
def Pod.shape : Shape :=
  object [("metadata", Metadata.shape), ("spec", PodShape.spec),
    ("status", PodShape.status)]

end SwapWarden
