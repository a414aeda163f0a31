import SwapWarden.Pod.Exclusion
import SwapWarden.Pod.Key

/-!
# Candidates for eviction

Pods of the agent's own namespace, of excluded namespaces, and critical pods
are never evicted.
-/

namespace SwapWarden

/-- Which pods are never evicted. -/
structure EvictionFilter where
  ownNamespace : String := ""
  excludedPrefixes : List String := []
  deriving Repr, Inhabited

namespace EvictionFilter

/-- Whether a pod may be evicted. -/
def isCandidate (filter : EvictionFilter) (pod : Pod) : Bool :=
  let namespaceName := pod.metadata.namespaceOrEmpty
  namespaceName != filter.ownNamespace &&
    !hasExcludedPrefix namespaceName filter.excludedPrefixes &&
    !pod.isCritical

/-- The pods that may be evicted, in their order. -/
def candidates (filter : EvictionFilter) (pods : List Pod) : List Pod :=
  pods.filter filter.isCandidate

end EvictionFilter

end SwapWarden
