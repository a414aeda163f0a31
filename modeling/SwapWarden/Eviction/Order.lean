import SwapWarden.Pod.Key
import SwapWarden.Pod.MemoryRequest
import SwapWarden.Usage.Basic

/-!
# The order of eviction

Pods go in the order of four comparisons, each of which decides only where the
ones before are even: a container over its memory limit, the pod over its
memory request, the lower priority, and the larger excess over the request.
A pod without usage goes before every pod with usage.
-/

namespace SwapWarden

namespace Pod

/-- The state reported for a container name. -/
def containerState? (pod : Pod) (name : String) : Option ReportedState :=
  (pod.containerStatus? name).bind ContainerStatus.state

/-- Whether an app container should be using memory now. -/
def isLiveApp (pod : Pod) (container : Container) : Bool :=
  match pod.containerState? container.name with
  | some state => !state.terminated.isSome
  | none => true

/-- Whether an init container should be using memory now. -/
def isLiveInit (pod : Pod) (container : Container) : Bool :=
  match pod.containerState? container.name with
  | some state => state.running
  | none => false

/-- The containers that should be using memory now. -/
def liveContainers (pod : Pod) : List Container :=
  pod.appContainers.filter pod.isLiveApp ++
    pod.initContainers.filter pod.isLiveInit

end Pod

namespace EvictionOrder

/-- Whether a container is over its limit; one that was not measured is. -/
def isOverLimit (usage : PodUsage) (container : Container) : Bool :=
  match container.memoryLimit? with
  | some limit =>
      match usage.containers.get? container.name with
      | some measured => measured.total > limit
      | none => true
  | none => false

/-- Whether some container of a pod is over its limit. -/
def exceedsLimits (pod : Pod) (usage : PodUsage) : Bool :=
  pod.liveContainers.any (isOverLimit usage)

/-- Whether a pod uses more than it asks for. -/
def exceedsRequest (pod : Pod) (usage : PodUsage) : Bool :=
  usage.total > pod.memoryRequest

/-- How much more a pod uses than it asks for. -/
def excess (pod : Pod) (usage : PodUsage) : Int :=
  Int.ofNat usage.total.toNat - Int.ofNat pod.memoryRequest.toNat

/-- The usage known for a pod. -/
def usageOf? (usages : Table String PodUsage) (pod : Pod) :
    Option PodUsage :=
  pod.metadata.uid.bind usages.get?

/-- True comes before false. -/
def trueFirst (first second : Bool) : Ordering :=
  compare second.toNat first.toNat

/-- Compares two pods by their usage; the one without usage comes first. -/
def byUsage (decide : PodUsage → PodUsage → Ordering)
    (first second : Option PodUsage) : Ordering :=
  match first, second with
  | some first, some second => decide first second
  | first, second => trueFirst first.isNone second.isNone

/-- Which of two pods is evicted first. -/
def comparison (usages : Table String PodUsage) (first second : Pod) :
    Ordering :=
  let firstUsage := usageOf? usages first
  let secondUsage := usageOf? usages second
  (byUsage (fun firstUsage secondUsage =>
      trueFirst (exceedsLimits first firstUsage)
        (exceedsLimits second secondUsage)) firstUsage secondUsage).then
    ((byUsage (fun firstUsage secondUsage =>
        trueFirst (exceedsRequest first firstUsage)
          (exceedsRequest second secondUsage)) firstUsage secondUsage).then
      ((compare first.priority second.priority).then
        (byUsage (fun firstUsage secondUsage =>
          compare (excess second secondUsage) (excess first firstUsage))
          firstUsage secondUsage)))

/-- The usages by uid; the last one of a uid counts. -/
def usageTable (usages : List PodUsage) : Table String PodUsage :=
  Table.ofList (usages.map (fun usage => (usage.uid, usage)))

/-- Pods in the order of eviction by a table of usages; even ones stay in
their order. -/
def rankBy (usages : Table String PodUsage) (pods : List Pod) : List Pod :=
  pods.mergeSort (fun first second =>
    comparison usages first second != .gt)

/-- Pods in the order of eviction by the usages that were listed. -/
def rank (usages : List PodUsage) (pods : List Pod) : List Pod :=
  rankBy (usageTable usages) pods

end EvictionOrder

end SwapWarden
