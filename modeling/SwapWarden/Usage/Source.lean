import SwapWarden.Usage.Cgroup

/-!
# Sources of memory usage

Usage comes from the cgroup tree or, without pods, from the node's totals
alone.  The cgroup source needs the unified hierarchy; where it is not mounted
the totals have to do.
-/

namespace SwapWarden

/-- The source that was asked for. -/
inductive UsageSourceKind where
  | cgroup
  | node
  deriving DecidableEq, Repr, Inhabited

namespace UsageSourceKind

/-- Reads the name of a source; blanks around it and case do not count. -/
def parse (raw : String) : Except Fault UsageSourceKind :=
  let name := String.ofList (Text.lowerAscii (Text.trim raw.toList))
  if name == "cgroup" then .ok .cgroup
  else if name == "node" then .ok .node
  else .error (.unknownSource name)

def name : UsageSourceKind → String
  | cgroup => "cgroup"
  | node => "node"

end UsageSourceKind

/-- The hierarchy mounted as the cgroup tree. -/
inductive CgroupVersion where
  | v1
  | v2
  | unknown
  deriving DecidableEq, Repr, Inhabited

namespace CgroupVersion

/-- The unified hierarchy lists its controllers at its top; the older one has
a tree for memory. -/
def detect (tree : FileTree) (cgroupRoot : String) : CgroupVersion :=
  if tree.holds (FileTree.joinPath cgroupRoot "cgroup.controllers") then .v2
  else if tree.holds (FileTree.joinPath cgroupRoot "memory") then .v1
  else .unknown

end CgroupVersion

/-- A source of usage and where it reads. -/
structure UsageSource where
  kind : UsageSourceKind
  procRoot : String
  cgroupRoot : String
  deriving Repr, Inhabited

namespace UsageSource

/-- The source asked for, or the node's totals where it cannot work. -/
def create (tree : FileTree) (kind : UsageSourceKind)
    (procRoot cgroupRoot : String) : UsageSource :=
  let effective :=
    if kind = .cgroup ∧ CgroupVersion.detect tree cgroupRoot = .v2 then
      .cgroup
    else
      .node
  { kind := effective, procRoot, cgroupRoot }

/-- The usage of a pod. -/
def podUsage (source : UsageSource) (tree : FileTree) (pod : Pod) :
    Except Fault PodUsage :=
  match source.kind with
  | .cgroup => CgroupUsage.ofPod tree source.cgroupRoot pod
  | .node => .error (.noMetrics pod.key.text)

/-- The usage of those of the given pods that can be measured. -/
def podsUsage (source : UsageSource) (tree : FileTree) (pods : List Pod) :
    List PodUsage :=
  match source.kind with
  | .cgroup =>
      pods.filterMap (fun pod => (source.podUsage tree pod).toOption)
  | .node => []

/-- The usage of the node. -/
def nodeUsage (source : UsageSource) (tree : FileTree) :
    Except Fault NodeUsage :=
  (Meminfo.read tree source.procRoot).map NodeUsage.ofMeminfo

end UsageSource

end SwapWarden
