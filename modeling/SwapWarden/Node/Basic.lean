import SwapWarden.Pod.Basic
import SwapWarden.Text.Timestamp

/-!
# Nodes and taints

A taint keeps pods off a node.  Its key says who set it and its effect what it
does.
-/

namespace SwapWarden

/-- A mark that keeps pods off a node. -/
structure Taint where
  key : String
  effect : String
  value : Option String := none
  timeAdded : Option Text.Timestamp := none
  deriving DecidableEq, Repr, Inhabited

/-- A node; its list of taints may be missing altogether. -/
structure Node where
  metadata : Metadata := {}
  taintList : Option (List Taint) := none
  deriving Inhabited

namespace Node

/-- The taints of a node. -/
def taints (node : Node) : List Taint := node.taintList.getD []

/-- The node with other taints. -/
def withTaints (node : Node) (taints : List Taint) : Node :=
  { node with taintList := some taints }

end Node

end SwapWarden
