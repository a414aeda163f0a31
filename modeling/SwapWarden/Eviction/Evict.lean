import SwapWarden.Fault
import SwapWarden.Pod.Key

/-!
# Evicting a pod

A pod is deleted at once.  Finalizers would hold up the deletion, so they are
cleared first, and when that fails the pod is not deleted.
-/

namespace SwapWarden

/-- Evicts a pod by the given ways to clear finalizers and to delete. -/
def evictWith {m : Type → Type} [Monad m]
    (clearFinalizers : Pod → m (Except Fault Unit))
    (deletePod : PodKey → m (Except Fault Unit)) (pod : Pod) :
    m (Except Fault Unit) := do
  if pod.finalizers.isEmpty then
    deletePod pod.key
  else
    match ← clearFinalizers pod with
    | .error fault => return .error fault
    | .ok _ => deletePod pod.key

end SwapWarden
