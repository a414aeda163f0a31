import SwapWarden.Ceiling.Directory
import SwapWarden.Ceiling.Policy
import SwapWarden.Pod.CgroupPath
import SwapWarden.Pod.Key
import SwapWarden.Report.Journal
import SwapWarden.WorkQueue.Basic

/-!
# Bringing a pod's swap ceilings in line

The containers of a pod are taken one after another, app containers first.  A
container that terminated is let alone, one that does not run yet is waited
for, and for every other one its process is asked of the runtime, its cgroup
is looked up, and its ceiling is written.  A failure of one container keeps
none of the others from being attempted.
-/

namespace SwapWarden

/-- Where ceilings are written, what they are shares of, and the period after
which all pods are looked at again. -/
structure CeilingSettings where
  nodeName : String := ""
  excludedPrefixes : List String := ["openshift", "kube-system"]
  procRoot : String := "/host/proc"
  cgroupRoot : String := "/host/sys/fs/cgroup"
  resync : Duration := Duration.ofSeconds 20
  workers : Nat := 1
  capacity : NodeCapacity := {}
  deriving Inhabited

/-- Answers the process of a container. -/
abbrev ProcessLookup : Type := String → Except Fault Nat

/-- What happens to a pod's key after the pod was looked at: its retries are
forgotten, or the pod is looked at again, after a delay that grows or at once.
-/
inductive FollowUp where
  | forget
  | backOff
  | immediate
  deriving DecidableEq, Repr, Inhabited

/-- What is to be done about a container. -/
inductive ContainerStep where
  | skip
  | wait
  | apply (id : String)
  deriving DecidableEq, Repr, Inhabited

/-- What is to be done about a container of a pod. -/
def Pod.containerStep (pod : Pod) (container : Container) : ContainerStep :=
  match pod.containerStatus? container.name with
  | none => .wait
  | some status =>
      if status.isTerminated then .skip
      else if status.isRunning then
        match status.containerId.bind ContainerId.parse? with
        | some container => .apply container.id
        | none => .wait
      else .wait

/-- How an attempt on a container ended.  It is unresolved if no process or no
cgroup was found, and unwritten if the ceiling could not be written. -/
inductive AttemptResult where
  | wrote (bytes : UInt64)
  | unresolved (fault : Fault)
  | unwritten (fault : Fault)
  deriving Inhabited

namespace AttemptResult

/-- The fault of a failed attempt. -/
def fault? : AttemptResult → Option Fault
  | wrote _ => none
  | unresolved fault => some fault
  | unwritten fault => some fault

end AttemptResult

/-- An attempt to write the ceiling of a container. -/
structure Attempt where
  container : String
  id : String
  result : AttemptResult
  deriving Inhabited

/-- What looking at a pod did: the files then, the attempts in order, and
whether some container is waited for. -/
structure Reconciliation where
  tree : FileTree
  attempts : List Attempt := []
  waits : Bool := false
  deriving Inhabited

namespace Reconciliation

/-- The faults of the attempts, in order. -/
def faults (report : Reconciliation) : List Fault :=
  report.attempts.filterMap (fun attempt => attempt.result.fault?)

/-- What follows: the first fault if there is one. -/
def result (report : Reconciliation) : Except Fault FollowUp :=
  match report.faults with
  | fault :: _ => .error fault
  | [] => .ok (if report.waits then .backOff else .forget)

/-- Tells of an attempt on a container of a pod. -/
def tellAttempt (pod : PodKey) (journal : Journal) (attempt : Attempt) :
    Journal :=
  match attempt.result with
  | .wrote bytes => journal.tell (.ceilingSet pod attempt.container bytes)
  | .unwritten _ => journal.measure Metrics.countWriteFailure
  | .unresolved _ => journal

/-- Tells of all attempts on a pod. -/
def tellIn (report : Reconciliation) (pod : PodKey) (journal : Journal) :
    Journal :=
  report.attempts.foldl (tellAttempt pod) journal

end Reconciliation

namespace CeilingSettings

/-- The directory of a container's cgroup. -/
def directoryOf (settings : CeilingSettings) (processes : ProcessLookup)
    (tree : FileTree) (id : String) : Except Fault String := do
  let pid ← processes id
  cgroupDirectory tree settings.procRoot settings.cgroupRoot pid

/-- Attempts to write the ceiling of a container. -/
def attempt (settings : CeilingSettings) (processes : ProcessLookup)
    (withoutSwap : Bool) (tree : FileTree) (container : Container)
    (id : String) : AttemptResult × FileTree :=
  match settings.directoryOf processes tree id with
  | .error fault => (.unresolved fault, tree)
  | .ok directory =>
      let bytes := settings.capacity.ceilingFor container withoutSwap
      match writeCeiling tree directory bytes with
      | .ok tree => (.wrote bytes, tree)
      | .error fault => (.unwritten fault, tree)

/-- Deals with one more container of a pod. -/
def visit (settings : CeilingSettings) (processes : ProcessLookup)
    (pod : Pod) (report : Reconciliation) (container : Container) :
    Reconciliation :=
  match pod.containerStep container with
  | .skip => report
  | .wait => { report with waits := true }
  | .apply id =>
      let (result, tree) := settings.attempt processes
        (pod.goesWithoutSwap settings.excludedPrefixes) report.tree container
        id
      { report with
        tree
        attempts := report.attempts ++ [⟨container.name, id, result⟩] }

/-- Deals with all containers of a pod. -/
def reconcilePod (settings : CeilingSettings) (processes : ProcessLookup)
    (tree : FileTree) (pod : Pod) : Reconciliation :=
  pod.allContainers.foldl (settings.visit processes pod) { tree }

/-- Deals with the pod found under a key; where there is none, nothing is left
to do. -/
def reconcile (settings : CeilingSettings) (processes : ProcessLookup)
    (tree : FileTree) : Option Pod → Reconciliation
  | some pod => settings.reconcilePod processes tree pod
  | none => { tree }

end CeilingSettings

/-- What happens to a key with the outcome of its pod. -/
def WorkQueue.follow (queue : WorkQueue PodKey) (now : Nat) (key : PodKey) :
    FollowUp → WorkQueue PodKey
  | .forget => queue.forget key
  | .backOff => queue.retry now key
  | .immediate => queue.add key

/-- What follows a result; a failed pod is looked at again. -/
def FollowUp.ofResult : Except Fault FollowUp → FollowUp
  | .ok followUp => followUp
  | .error _ => .backOff

end SwapWarden
