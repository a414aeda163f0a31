import SwapWarden.Memory.Meminfo
import SwapWarden.Table
import SwapWarden.Word64

/-!
# Memory in use

What nodes, pods and containers use: the working set in memory and what is
swapped out.
-/

namespace SwapWarden

/-- Memory in use on a node, and what there is. -/
structure NodeUsage where
  workingSet : UInt64 := 0
  swapUsed : UInt64 := 0
  totalMemory : UInt64 := 0
  totalSwap : UInt64 := 0
  deriving DecidableEq, Repr, Inhabited

namespace NodeUsage

/-- The usage that memory totals tell. -/
def ofMeminfo (info : Meminfo) : NodeUsage where
  workingSet := info.workingSet
  swapUsed := info.swapUsed
  totalMemory := info.memTotal
  totalSwap := info.swapTotal

/-- Working set and swapped-out memory together. -/
def usedVirtual (usage : NodeUsage) : UInt64 :=
  Word64.addCapped usage.workingSet usage.swapUsed

end NodeUsage

/-- Memory in use by a container. -/
structure ContainerUsage where
  workingSet : UInt64 := 0
  swap : UInt64 := 0
  deriving DecidableEq, Repr, Inhabited

namespace ContainerUsage

/-- Working set and swapped-out memory together. -/
def total (usage : ContainerUsage) : UInt64 :=
  Word64.addCapped usage.workingSet usage.swap

end ContainerUsage

/-- Memory in use by a pod and by those of its containers that were measured.
-/
structure PodUsage where
  uid : String := ""
  workingSet : UInt64 := 0
  swap : UInt64 := 0
  containers : Table String ContainerUsage := Table.empty
  deriving Inhabited

namespace PodUsage

/-- Working set and swapped-out memory together. -/
def total (usage : PodUsage) : UInt64 :=
  Word64.addCapped usage.workingSet usage.swap

end PodUsage

end SwapWarden
