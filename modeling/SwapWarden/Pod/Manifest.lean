import SwapWarden.Pod.Basic
import SwapWarden.Pod.Shape

/-!
# Pods as manifests

The JSON form in which the cluster serves and takes pods.  A manifest has the
shape of a pod, and a field that is missing or `null` has its empty value.
-/

namespace SwapWarden

open Text (Json)

namespace Manifest

/-- A map from texts to texts; the last of equal names counts. -/
def textMap? (value : Json) : Option (Table String String) := do
  let entries ← (← value.fields?).mapM (fun field =>
    field.2.asText?.map (fun text => (field.1, text)))
  some (Table.ofList entries)

/-- A map from texts to texts. -/
def ofTextMap (table : Table String String) : Json :=
  .record (table.entries.map (fun entry => (entry.1, .text entry.2)))

/-- Checks the version and the kind that an object claims to have. -/
def hasKind (kind : String) (fields : List (String × Json)) : Bool :=
  fields.all (fun field =>
    if field.1 == "apiVersion" then field.2.asText? == some "v1"
    else if field.1 == "kind" then field.2.asText? == some kind
    else true)

/-- A field that is written only when there is a value. -/
def optional {α : Type} (name : String) (write : α → Json) :
    Option α → List (String × Json)
  | some value => [(name, write value)]
  | none => []

end Manifest

open Manifest

namespace Metadata

/-- Reads who an object is. -/
def ofManifest? (value : Json) : Option Metadata := do
  let fields ← value.fields?
  let text := Json.field? Json.asText? fields
  let texts := Json.field? textMap? fields
  some {
    namespaceName := ← text "namespace"
    name := ← text "name"
    generateName := ← text "generateName"
    uid := ← text "uid"
    resourceVersion := ← text "resourceVersion"
    annotations := ← texts "annotations"
    labels := ← texts "labels"
    finalizers := ←
      Json.field? (Json.listOf? Json.asText?) fields "finalizers" }

/-- Writes who an object is. -/
def toManifest (metadata : Metadata) : Json :=
  .record (
    optional "annotations" ofTextMap metadata.annotations ++
    optional "finalizers" (fun names => .array (names.map Json.text))
      metadata.finalizers ++
    optional "generateName" Json.text metadata.generateName ++
    optional "labels" ofTextMap metadata.labels ++
    optional "name" Json.text metadata.name ++
    optional "namespace" Json.text metadata.namespaceName ++
    optional "resourceVersion" Json.text metadata.resourceVersion ++
    optional "uid" Json.text metadata.uid)

end Metadata

namespace Resources

def ofManifest? (value : Json) : Option Resources := do
  let fields ← value.fields?
  some {
    requests := ← Json.field? textMap? fields "requests"
    limits := ← Json.field? textMap? fields "limits" }

def toManifest (resources : Resources) : Json :=
  .record (
    optional "limits" ofTextMap resources.limits ++
    optional "requests" ofTextMap resources.requests)

end Resources

namespace Container

def ofManifest? (value : Json) : Option Container := do
  let fields ← value.fields?
  some {
    name := (← Json.field? Json.asText? fields "name").getD ""
    resources := ← Json.field? Resources.ofManifest? fields "resources" }

def toManifest (container : Container) : Json :=
  .record ([("name", .text container.name)] ++
    optional "resources" Resources.toManifest container.resources)

end Container

namespace ReportedState

/-- A waiting state: its reason. -/
def waiting? (value : Json) : Option (Option String) := do
  Json.field? Json.asText? (← value.fields?) "reason"

/-- A terminated state: its exit code. -/
def terminated? (value : Json) : Option Int := do
  some ((← Json.field? Json.int32? (← value.fields?) "exitCode").getD 0)

def ofManifest? (value : Json) : Option ReportedState := do
  let fields ← value.fields?
  some {
    running := (← Json.field? Json.fields? fields "running").isSome
    waiting := ← Json.field? waiting? fields "waiting"
    terminated := ← Json.field? terminated? fields "terminated" }

def toManifest (state : ReportedState) : Json :=
  .record (
    (if state.running then [("running", .record [])] else []) ++
    optional "terminated"
      (fun code => .record [("exitCode", .integer code)]) state.terminated ++
    optional "waiting"
      (fun reason => .record (optional "reason" Json.text reason))
      state.waiting)

end ReportedState

namespace ContainerStatus

def ofManifest? (value : Json) : Option ContainerStatus := do
  let fields ← value.fields?
  let text := Json.field? Json.asText? fields
  some {
    name := (← text "name").getD ""
    ready := (← Json.field? Json.bool? fields "ready").getD false
    restartCount := (← Json.field? Json.int32? fields "restartCount").getD 0
    image := (← text "image").getD ""
    imageId := (← text "imageID").getD ""
    containerId := ← text "containerID"
    state := ← Json.field? ReportedState.ofManifest? fields "state" }

def toManifest (status : ContainerStatus) : Json :=
  .record (
    optional "containerID" Json.text status.containerId ++
    [("image", .text status.image), ("imageID", .text status.imageId),
      ("name", .text status.name), ("ready", .bool status.ready),
      ("restartCount", .integer status.restartCount)] ++
    optional "state" ReportedState.toManifest status.state)

end ContainerStatus

namespace PodSpec

def ofManifest? (value : Json) : Option PodSpec := do
  let fields ← value.fields?
  let containers := Json.field? (Json.listOf? Container.ofManifest?) fields
  some {
    containers := (← containers "containers").getD []
    initContainers := ← containers "initContainers"
    priority := ← Json.field? Json.int32? fields "priority"
    overhead := ← Json.field? textMap? fields "overhead"
    nodeName := ← Json.field? Json.asText? fields "nodeName" }

def toManifest (spec : PodSpec) : Json :=
  let containers (list : List Container) : Json :=
    .array (list.map Container.toManifest)
  .record ([("containers", containers spec.containers)] ++
    optional "initContainers" containers spec.initContainers ++
    optional "nodeName" Json.text spec.nodeName ++
    optional "overhead" ofTextMap spec.overhead ++
    optional "priority" Json.integer spec.priority)

end PodSpec

namespace PodStatus

def ofManifest? (value : Json) : Option PodStatus := do
  let fields ← value.fields?
  let statuses :=
    Json.field? (Json.listOf? ContainerStatus.ofManifest?) fields
  some {
    phase := ← Json.field? Json.asText? fields "phase"
    qosClass := ← Json.field? Json.asText? fields "qosClass"
    containerStatuses := ← statuses "containerStatuses"
    initContainerStatuses := ← statuses "initContainerStatuses" }

def toManifest (status : PodStatus) : Json :=
  let statuses (list : List ContainerStatus) : Json :=
    .array (list.map ContainerStatus.toManifest)
  .record (
    optional "containerStatuses" statuses status.containerStatuses ++
    optional "initContainerStatuses" statuses status.initContainerStatuses ++
    optional "phase" Json.text status.phase ++
    optional "qosClass" Json.text status.qosClass)

end PodStatus

namespace Pod

/-- Reads a pod, where `room` containers inside one another can be held
whole. -/
def ofManifestWithin? (room : Nat) (value : Json) : Option Pod := do
  let fields ← value.fields?
  if !(hasKind "Pod" fields && Pod.shape.fits room value) then
    none
  some {
    metadata :=
      (← Json.field? Metadata.ofManifest? fields "metadata").getD {}
    spec := ← Json.field? PodSpec.ofManifest? fields "spec"
    status := ← Json.field? PodStatus.ofManifest? fields "status" }

/-- Reads a pod that is a document of its own. -/
def ofManifest? (value : Json) : Option Pod :=
  ofManifestWithin? Json.greatestDepth value

/-- Writes a pod. -/
def toManifest (pod : Pod) : Json :=
  .record ([("apiVersion", .text "v1"), ("kind", .text "Pod"),
      ("metadata", pod.metadata.toManifest)] ++
    optional "spec" PodSpec.toManifest pod.spec ++
    optional "status" PodStatus.toManifest pod.status)

end Pod

end SwapWarden
