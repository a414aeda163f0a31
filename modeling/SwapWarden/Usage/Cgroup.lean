import SwapWarden.Memory.Stats
import SwapWarden.Pod.CgroupPath
import SwapWarden.Pod.Key
import SwapWarden.Usage.Basic

/-!
# Memory in use, from the cgroup tree

A cgroup tells its memory, its page cache and its swap in three files.  Only
the first must be readable.  A pod is measured by its own cgroup and by those
of its running containers; a pod none of whose containers could be measured
has no usage.
-/

namespace SwapWarden

/-- The name and the number of a line. -/
def memoryStatEntry? (line : List Char) : Option (String × UInt64) :=
  match Text.words line with
  | name :: value :: _ =>
      (Text.word64? value).map (fun value => (String.ofList name, value))
  | _ => none

/-- Named counters, one to a line; lines of another form do not count. -/
def memoryStat (text : String) : Table String UInt64 :=
  Table.ofList ((Text.lines text.toList).filterMap memoryStatEntry?)

namespace CgroupUsage

/-- The number in a file that holds nothing else. -/
def readCount (tree : FileTree) (path : String) : Except Fault UInt64 := do
  let text ← tree.readOrFault path
  match Text.word64? (Text.trim text.toList) with
  | some value => .ok value
  | none => .error (.unreadableCount path)

/-- The page cache of a cgroup that can be dropped; zero when not told. -/
def inactiveFile (tree : FileTree) (directory : String) : UInt64 :=
  match tree.readText (FileTree.joinPath directory "memory.stat") with
  | .ok text => ((memoryStat text).get? "inactive_file").getD 0
  | .error _ => 0

/-- The usage of one cgroup. -/
def read (tree : FileTree) (directory : String) :
    Except Fault ContainerUsage := do
  let current ←
    readCount tree (FileTree.joinPath directory "memory.current")
  let swap :=
    match readCount tree
        (FileTree.joinPath directory "memory.swap.current") with
    | .ok swap => swap
    | .error _ => 0
  .ok { workingSet := Word64.subFloored current (inactiveFile tree directory)
        swap }

/-- The directory of a cgroup path. -/
def directory (cgroupRoot path : String) : String :=
  FileTree.joinPath cgroupRoot
    (String.ofList (Text.trimStart (· == '/') path.toList))

/-- The usage of a container by its status, when it runs and can be measured.
-/
def ofStatus? (tree : FileTree) (cgroupRoot podPath : String)
    (status : ContainerStatus) : Option (String × ContainerUsage) :=
  match status.containerId with
  | some raw =>
      if status.isRunning then
        match containerCgroupPath podPath raw with
        | .ok path =>
            match read tree (directory cgroupRoot path) with
            | .ok usage => some (status.name, usage)
            | .error _ => none
        | .error _ => none
      else
        none
  | none => none

/-- The usage of a pod. -/
def ofPod (tree : FileTree) (cgroupRoot : String) (pod : Pod) :
    Except Fault PodUsage := do
  let podPath ← pod.cgroupPath
  let usage ← read tree (directory cgroupRoot podPath)
  let containers :=
    Table.ofList (pod.allStatuses.filterMap
      (ofStatus? tree cgroupRoot podPath))
  if containers.size = 0 then
    .error (.noMetrics pod.key.text)
  else
    .ok { uid := pod.metadata.uid.getD ""
          workingSet := usage.workingSet
          swap := usage.swap
          containers }

end CgroupUsage

end SwapWarden
