import SwapWarden.Fault
import SwapWarden.Memory.Meminfo
import SwapWarden.Word64

/-!
# Shares of a node's swap

A container's share of swap stands to all swap as its memory request stands to
all memory, rounded down.  On a node without memory there are no shares.
-/

namespace SwapWarden

/-- The memory and swap that shares are taken of. -/
structure NodeCapacity where
  totalMemory : UInt64 := 0
  totalSwap : UInt64 := 0
  deriving DecidableEq, Repr, Inhabited

namespace NodeCapacity

/-- The capacity that memory totals tell; there must be some memory. -/
def ofMeminfo (info : Meminfo) : Except Fault NodeCapacity :=
  if info.memTotal = 0 then .error .noMemory
  else .ok { totalMemory := info.memTotal, totalSwap := info.swapTotal }

/-- The share of swap for a memory request. -/
def share (capacity : NodeCapacity) (request : UInt64) : UInt64 :=
  if capacity.totalMemory = 0 then
    0
  else
    Word64.capped (request.toNat * capacity.totalSwap.toNat /
      capacity.totalMemory.toNat)

end NodeCapacity

end SwapWarden
