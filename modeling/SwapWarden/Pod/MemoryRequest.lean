import SwapWarden.Pod.Basic
import SwapWarden.Pod.Quantity
import SwapWarden.Word64

/-!
# Memory requests

The memory that containers ask for.  App containers run together, so their
requests add up; init containers run one at a time, so only the largest one
counts.  A pod that asks for anything also pays its overhead.
-/

namespace SwapWarden

/-- The bytes of a declared quantity; one that cannot be read counts as
absent. -/
def declaredBytes? (raw : Option String) : Option UInt64 :=
  match raw with
  | some raw => (Quantity.bytes raw).toOption
  | none => none

namespace Container

/-- The memory a container asks for. -/
def memoryRequest? (container : Container) : Option UInt64 :=
  declaredBytes? (container.request? "memory")

/-- The memory a container is limited to. -/
def memoryLimit? (container : Container) : Option UInt64 :=
  declaredBytes? (container.limit? "memory")

end Container

namespace PodSpec

/-- The requests of app containers together. -/
def appRequest (spec : PodSpec) : UInt64 :=
  (spec.containers.filterMap Container.memoryRequest?).foldl
    Word64.addCapped 0

/-- The larger of a request and the largest one of an init container. -/
def withInitRequests (spec : PodSpec) (request : UInt64) : UInt64 :=
  ((spec.initContainers.getD []).filterMap Container.memoryRequest?).foldl
    max request

/-- The overhead of running the pod at all. -/
def memoryOverhead? (spec : PodSpec) : Option UInt64 :=
  declaredBytes? (do (← spec.overhead).get? "memory")

/-- The memory the whole pod asks for. -/
def memoryRequest (spec : PodSpec) : UInt64 :=
  let request := spec.withInitRequests spec.appRequest
  if request > 0 then
    match spec.memoryOverhead? with
    | some overhead => Word64.addCapped request overhead
    | none => request
  else
    request

end PodSpec

/-- The memory a pod asks for. -/
def Pod.memoryRequest (pod : Pod) : UInt64 :=
  match pod.spec with
  | some spec => spec.memoryRequest
  | none => 0

end SwapWarden
