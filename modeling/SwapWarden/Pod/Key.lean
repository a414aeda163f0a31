import SwapWarden.Pod.Basic

/-!
# Pod keys

A pod is known by its namespace and name.  Keys are ordered by namespace and
then by name, each by code points.
-/

namespace SwapWarden

/-- The namespace and name of a pod. -/
structure PodKey where
  namespaceName : String
  name : String
  deriving DecidableEq, Repr, Inhabited

namespace PodKey

/-- The key as text. -/
def text (key : PodKey) : String := key.namespaceName ++ "/" ++ key.name

/-- Whether a key comes no later than another. -/
def le (first second : PodKey) : Bool :=
  if first.namespaceName = second.namespaceName then
    decide (first.name ≤ second.name)
  else
    decide (first.namespaceName < second.namespaceName)

/-- The keys in ascending order, each once. -/
def sorted (keys : List PodKey) : List PodKey :=
  (keys.mergeSort le).eraseDups

end PodKey

/-- The key of a pod. -/
def Pod.key (pod : Pod) : PodKey :=
  ⟨pod.metadata.namespaceOrEmpty, pod.metadata.displayName⟩

end SwapWarden
