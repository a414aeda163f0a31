import SwapWarden.Node.Basic

/-!
# The eviction taint

While a node is short of memory it carries one taint under the eviction key
that keeps new pods away.
-/

namespace SwapWarden

/-- The effect that keeps new pods away and leaves running ones alone. -/
def noSchedule : String := "NoSchedule"

/-- The taint of a node that evicts. -/
def evictionTaint (key : String) : Taint := { key, effect := noSchedule }

namespace Node

/-- Whether the node carries the eviction taint. -/
def hasEvictionTaint (node : Node) (key : String) : Bool :=
  node.taints.any (fun taint => taint.key == key && taint.effect == noSchedule)

/-- The node's taints of other keys. -/
def taintsWithout (node : Node) (key : String) : List Taint :=
  node.taints.filter (fun taint => taint.key != key)

/-- The node's taints of other keys, then the eviction taint. -/
def taintsWith (node : Node) (key : String) : List Taint :=
  node.taintsWithout key ++ [evictionTaint key]

end Node

end SwapWarden
