import SwapWarden.FileTree.Basic
import SwapWarden.Memory.Meminfo
import SwapWarden.Memory.Vmstat

/-!
# Reading a node's statistics

Swap counters and memory totals come from two files of the process tree.  The
counters are read first, so their fault is the one reported when both fail.
-/

namespace SwapWarden

/-- One reading of a node. -/
structure NodeStats where
  counters : SwapCounters := {}
  memory : Meminfo := {}
  deriving DecidableEq, Repr, Inhabited

/-- The text of a file, or the fault that names it. -/
def FileTree.readOrFault (tree : FileTree) (path : String) :
    Except Fault String :=
  match tree.readText path with
  | .ok text => .ok text
  | .error cause => .error (.file path cause)

namespace Meminfo

/-- Reads the memory totals from a process tree. -/
def read (tree : FileTree) (procRoot : String) : Except Fault Meminfo := do
  parse (← tree.readOrFault (FileTree.joinPath procRoot "meminfo"))

end Meminfo

namespace NodeStats

/-- Reads counters and totals from a process tree. -/
def read (tree : FileTree) (procRoot : String) : Except Fault NodeStats := do
  let text ← tree.readOrFault (FileTree.joinPath procRoot "vmstat")
  let counters ← SwapCounters.parse text
  let memory ← Meminfo.read tree procRoot
  .ok { counters, memory }

end NodeStats

end SwapWarden
