import SwapWarden.Fault
import SwapWarden.Pod.Qos
import SwapWarden.Text.Blank

/-!
# Cgroup paths of pods and containers

A pod's slice lies below the slice of its class, and a container's scope below
the slice of its pod.  Paths are relative to the top of the cgroup tree.
-/

namespace SwapWarden

/-- A container id as runtimes write it: a scheme and the id proper. -/
structure ContainerId where
  scheme : String
  id : String
  deriving DecidableEq, Repr, Inhabited

namespace ContainerId

/-- Reads an id such as `cri-o://abc`, with or without quotes around it.  The
id proper may not be empty. -/
def parse? (raw : String) : Option ContainerId :=
  match Text.splitOnce? "://".toList
      (Text.trimEnds (· == '"') raw.toList) with
  | some (scheme, id) =>
      if id.isEmpty then none
      else some ⟨String.ofList scheme, String.ofList id⟩
  | none => none

/-- The head of the scope names of a runtime. -/
def scopeHead? : String → Option String
  | "cri-o" => some "crio"
  | "containerd" => some "cri-containerd"
  | "docker" => some "docker"
  | _ => none

end ContainerId

namespace QosClass

/-- The path to a pod's slice, up to the pod's own part of the name. -/
def sliceHead : QosClass → String
  | guaranteed => "kubepods.slice/kubepods-"
  | burstable => "kubepods.slice/kubepods-burstable.slice/kubepods-burstable-"
  | bestEffort =>
      "kubepods.slice/kubepods-besteffort.slice/kubepods-besteffort-"

end QosClass

/-- A uid as it stands in slice names, where `-` separates levels. -/
def escapedUid (uid : String) : String :=
  String.ofList (uid.toList.map (fun char => if char == '-' then '_' else char))

/-- The path of the slice of a pod. -/
def slicePath (uid : String) (qos : QosClass) : String :=
  qos.sliceHead ++ "pod" ++ escapedUid uid ++ ".slice"

/-- The cgroup path of a pod; it needs a uid. -/
def Pod.cgroupPath (pod : Pod) : Except Fault String :=
  match pod.metadata.uid with
  | some uid =>
      if uid.isEmpty then .error (.cgroupPath .noUid)
      else .ok (slicePath uid pod.qosClass)
  | none => .error (.cgroupPath .noUid)

/-- The cgroup path of a container of the pod with the given path. -/
def containerCgroupPath (podPath raw : String) : Except Fault String :=
  match ContainerId.parse? raw with
  | some container =>
      match ContainerId.scopeHead? container.scheme with
      | some head => .ok (podPath ++ "/" ++ head ++ "-" ++ container.id ++
          ".scope")
      | none => .error (.cgroupPath (.unsupportedRuntime container.scheme))
  | none => .error (.cgroupPath (.invalidContainerId raw))

end SwapWarden
