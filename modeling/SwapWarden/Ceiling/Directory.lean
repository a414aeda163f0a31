import SwapWarden.FileTree.Basic
import SwapWarden.Memory.Stats
import SwapWarden.Text.Blank

/-!
# The cgroup of a process and its swap ceiling

A process lists its cgroups one to a line; the line of the unified hierarchy
starts with `0::`.  The ceiling of a cgroup is the content of one file, which
the kernel makes and which is never made here.
-/

namespace SwapWarden

/-- The unified path of a listing: what follows the head of the first such
line, without blanks around it. -/
def unifiedPath? (text : String) : Option String :=
  match (Text.lines text.toList).findSome?
      (Text.afterPrefix? "0::".toList) with
  | some rest =>
      let path := Text.trim rest
      if path.isEmpty then none else some (String.ofList path)
  | none => none

/-- Where a process lists its cgroups. -/
def cgroupListing (procRoot : String) (pid : Nat) : String :=
  FileTree.joinPath (FileTree.joinPath procRoot (toString pid)) "cgroup"

/-- The directory of the cgroup of a process. -/
def cgroupDirectory (tree : FileTree) (procRoot cgroupRoot : String)
    (pid : Nat) : Except Fault String := do
  let listing := cgroupListing procRoot pid
  let text ← tree.readOrFault listing
  match unifiedPath? text with
  | some path =>
      .ok (FileTree.joinPath cgroupRoot
        (String.ofList (Text.trimStart (· == '/') path.toList)))
  | none => .error (.cgroupPath (.noUnifiedEntry listing))

/-- The file that holds a cgroup's swap ceiling. -/
def ceilingFile : String := "memory.swap.max"

/-- The tree after a swap ceiling was written. -/
def writeCeiling (tree : FileTree) (directory : String) (bytes : UInt64) :
    Except Fault FileTree :=
  let path := FileTree.joinPath directory ceilingFile
  match tree.overwrite path (toString bytes.toNat) with
  | .ok tree => .ok tree
  | .error cause => .error (.file path cause)

end SwapWarden
