import SwapWarden.Pod.Key
import SwapWarden.Table

/-!
# The pod cache

The cache holds the pods that a watch reported, by namespace and name.  A pod
without a namespace is found under its name in every namespace.
-/

namespace SwapWarden

/-- Pods by their namespace, if they have one, and name. -/
structure PodCache where
  pods : Table (Option String × String) Pod := Table.empty
  deriving Inhabited

/-- What a watch of pods reports: all pods there are, or what became of one. -/
inductive WatchEvent where
  | restarted (pods : List Pod)
  | applied (pod : Pod)
  | deleted (pod : Pod)
  deriving Inhabited

namespace PodCache

/-- The place of a pod in the cache. -/
def place (pod : Pod) : Option String × String :=
  (pod.metadata.namespaceName, pod.metadata.name.getD "")

def put (cache : PodCache) (pod : Pod) : PodCache :=
  ⟨cache.pods.put (place pod) pod⟩

/-- The cache after a report. -/
def apply (cache : PodCache) : WatchEvent → PodCache
  | .restarted pods => pods.foldl put {}
  | .applied pod => cache.put pod
  | .deleted pod => ⟨cache.pods.erase (place pod)⟩

/-- The pod of a key. -/
def get? (cache : PodCache) (key : PodKey) : Option Pod :=
  match cache.pods.get? (some key.namespaceName, key.name) with
  | some pod => some pod
  | none => cache.pods.get? (none, key.name)

/-- All pods. -/
def list (cache : PodCache) : List Pod := cache.pods.values

end PodCache

end SwapWarden
