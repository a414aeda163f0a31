import SwapWarden.Ceiling.Allocation
import SwapWarden.Pod.Exclusion
import SwapWarden.Pod.MemoryRequest
import SwapWarden.Pod.Qos

/-!
# How much swap a container may use

Only containers of burstable pods get a share of swap, and of these only the
ones whose memory request and limit differ.  Critical pods and pods of
excluded namespaces get none.
-/

namespace SwapWarden

/-- Whether all containers of a pod go without swap. -/
def Pod.goesWithoutSwap (pod : Pod) (excludedPrefixes : List String) : Bool :=
  pod.qosClass != .burstable || pod.isCritical ||
    hasExcludedPrefix pod.metadata.namespaceOrEmpty excludedPrefixes

/-- The swap ceiling of a container, in bytes. -/
def NodeCapacity.ceilingFor (capacity : NodeCapacity) (container : Container)
    (withoutSwap : Bool) : UInt64 :=
  let request := container.memoryRequest?.getD 0
  let limit := container.memoryLimit?.getD 0
  if withoutSwap || (request == 0 && limit == 0) || request == limit then
    0
  else
    capacity.share request

end SwapWarden
