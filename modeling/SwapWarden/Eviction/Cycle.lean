import SwapWarden.Eviction.Candidates
import SwapWarden.Eviction.Evict
import SwapWarden.Eviction.Order
import SwapWarden.Node.EvictionTaint
import SwapWarden.Program
import SwapWarden.Report.Events
import SwapWarden.Shortage.Verdict

/-!
# The decision cycle

Each turn of the eviction loop asks whether the node is short of memory, makes
the node's taint follow the verdict and, while the shortage lasts, evicts the
first candidate in the order of eviction.  A node that starts to evict or has
evicted a pod forgets its samples, so that the next verdict rests on new ones.
-/

namespace SwapWarden

/-- What a cycle asks for or does.  Taints are replaced unless the node changed
since it was got, an event that is told is counted, and a flush forgets all
samples. -/
inductive CycleRequest where
  | judge
  | showShortage (shortage : Bool)
  | getNode (name : String)
  | patchTaints (node : Node) (taints : List Taint)
  | listPods (node : String)
  | listUsages
  | clearFinalizers (pod : Pod)
  | deletePod (key : PodKey)
  | flush
  | tell (event : Event)
  deriving Inhabited

namespace CycleRequest

/-- What each request is answered with. -/
def Answer : CycleRequest → Type
  | judge => Except Fault Verdict
  | showShortage _ => Unit
  | getNode _ => Except Fault Node
  | patchTaints _ _ => Except Fault Unit
  | listPods _ => Except Fault (List Pod)
  | listUsages => Except Fault (List PodUsage)
  | clearFinalizers _ => Except Fault Unit
  | deletePod _ => Except Fault Unit
  | flush => Unit
  | tell _ => Unit

end CycleRequest

/-- What a cycle is to do, and the periods of the cycle and of sampling. -/
structure EvictionSettings where
  nodeName : String := ""
  taintKey : String := "swapguard.io/evicting"
  filter : EvictionFilter := {}
  resync : Duration := Duration.ofSeconds 5
  sampling : Duration := Duration.ofSeconds 1
  deriving Inhabited

/-- What a cycle did.  An idle one found no shortage and no taint to take away;
one without candidates found a shortage and no pod that may be evicted. -/
inductive CycleOutcome where
  | idle
  | taintRemoved
  | noCandidates
  | evicted (pod : PodKey)
  deriving DecidableEq, Repr, Inhabited

namespace Cycle

/-- A part of a cycle. -/
abbrev Part (α : Type) : Type :=
  Program CycleRequest CycleRequest.Answer α

def ask (request : CycleRequest) : Part request.Answer :=
  Program.request request

/-- Evicts a pod. -/
def evict (pod : Pod) : Part (Except Fault Unit) :=
  evictWith (fun pod => ask (.clearFinalizers pod))
    (fun key => ask (.deletePod key)) pod

/-- Evicts the first of some candidates. -/
def evictFirst (candidates : List Pod) :
    Part (Except Fault CycleOutcome) := do
  match candidates with
  | [] => return .ok .noCandidates
  | target :: _ =>
      match ← evict target with
      | .ok _ =>
          ask (.tell (.evicted target.key))
          ask .flush
          return .ok (.evicted target.key)
      | .error fault =>
          ask (.tell (.evictionFailed target.key fault.message))
          return .error fault

/-- Evicts a pod of a node that is short of memory. -/
def relieve (settings : EvictionSettings) (verdict : Verdict) :
    Part (Except Fault CycleOutcome) := do
  ask (.tell (.shortage verdict.highTraffic verdict.highUtilization))
  match ← ask (.listPods settings.nodeName) with
  | .error fault => return .error fault
  | .ok pods =>
      let candidates :=
        settings.filter.candidates (pods.filter Pod.isAlive)
      if candidates.isEmpty then
        return .ok .noCandidates
      else
        match ← ask .listUsages with
        | .ok usages => evictFirst (EvictionOrder.rank usages candidates)
        | .error _ => evictFirst candidates

/-- Takes the eviction taint away from a node. -/
def removeTaint (settings : EvictionSettings) (node : Node) :
    Part (Except Fault CycleOutcome) := do
  match ← ask (.patchTaints node (node.taintsWithout settings.taintKey)) with
  | .error fault => return .error fault
  | .ok _ =>
      ask (.tell (.taintRemoved settings.taintKey))
      return .ok .taintRemoved

/-- Tries to give a node the eviction taint; a shortage is relieved even if
that fails. -/
def addTaint (settings : EvictionSettings) (node : Node) : Part Unit := do
  match ← ask (.patchTaints node (node.taintsWith settings.taintKey)) with
  | .ok _ => ask (.tell (.taintAdded settings.taintKey))
  | .error _ => pure ()
  ask .flush

/-- Makes the taint of a node follow a verdict, and relieves a shortage. -/
def follow (settings : EvictionSettings) (verdict : Verdict) (node : Node) :
    Part (Except Fault CycleOutcome) := do
  match node.hasEvictionTaint settings.taintKey, verdict.isShortage with
  | true, false => removeTaint settings node
  | false, false => return .ok .idle
  | false, true =>
      addTaint settings node
      relieve settings verdict
  | true, true => relieve settings verdict

/-- One decision cycle. -/
def decide (settings : EvictionSettings) :
    Part (Except Fault CycleOutcome) := do
  match ← ask .judge with
  | .error fault => return .error fault
  | .ok verdict =>
      ask (.showShortage verdict.isShortage)
      match ← ask (.getNode settings.nodeName) with
      | .error fault => return .error fault
      | .ok node => follow settings verdict node

/-- What a cycle reports of its success; too few samples are no failure. -/
def healthOf (result : Except Fault CycleOutcome) : Except Fault Unit :=
  match result with
  | .ok _ => .ok ()
  | .error .insufficientData => .ok ()
  | .error fault => .error fault

end Cycle

end SwapWarden
