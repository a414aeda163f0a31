import SwapWarden.Pod.Basic

/-!
# Pods that are let alone

Static pods, mirrors of static pods and pods of system-critical priority are
never evicted and never swap; neither do the pods of excluded namespaces.
-/

namespace SwapWarden

/-- The priority from which on a pod is critical to the system. -/
def systemCriticalPriority : Int := 2000000000

namespace Pod

/-- An annotation of the pod. -/
def annotation? (pod : Pod) (name : String) : Option String := do
  (← pod.metadata.annotations).get? name

/-- Whether the pod came from elsewhere than the cluster's interface. -/
def isStatic (pod : Pod) : Bool :=
  match pod.annotation? "kubernetes.io/config.source" with
  | some source => source != "api"
  | none => false

/-- Whether the pod only mirrors a static one. -/
def isMirror (pod : Pod) : Bool :=
  (pod.annotation? "kubernetes.io/config.mirror").isSome

/-- Whether the pod's priority is system critical. -/
def hasCriticalPriority (pod : Pod) : Bool :=
  match pod.spec.bind PodSpec.priority with
  | some priority => decide (systemCriticalPriority ≤ priority)
  | none => false

/-- Whether the pod is critical. -/
def isCritical (pod : Pod) : Bool :=
  pod.isStatic || pod.isMirror || pod.hasCriticalPriority

end Pod

/-- Whether a namespace starts with one of the prefixes. -/
def hasExcludedPrefix (namespaceName : String) (prefixes : List String) :
    Bool :=
  prefixes.any (fun head => head.toList.isPrefixOf namespaceName.toList)

end SwapWarden
