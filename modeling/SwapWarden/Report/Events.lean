import SwapWarden.Pod.Key

/-!
# Events

What the agent does is told by events: each has a name, the node it happened
on, and fields of its own.
-/

namespace SwapWarden

/-- Something worth telling. -/
inductive Event where
  | started (version source : String)
  | stopped (reason : String)
  | shortage (highTraffic highUtilization : Bool)
  | taintAdded (key : String)
  | taintRemoved (key : String)
  | evicted (pod : PodKey)
  | evictionFailed (pod : PodKey) (error : String)
  | ceilingSet (pod : PodKey) (container : String) (bytes : UInt64)
  deriving DecidableEq, Repr, Inhabited

namespace Event

/-- The name by which events of one kind are found. -/
def name : Event → String
  | started .. => "agent_started"
  | stopped .. => "agent_shutdown"
  | shortage .. => "shortage_detected"
  | taintAdded .. => "taint_added"
  | taintRemoved .. => "taint_removed"
  | evicted .. => "pod_evicted"
  | evictionFailed .. => "eviction_failed"
  | ceilingSet .. => "swap_limit_set"

/-- The sentence for a human reader. -/
def sentence : Event → String
  | started .. => "Swap guard agent started"
  | stopped .. => "Swap guard agent shutting down"
  | shortage .. => "Memory shortage detected"
  | taintAdded .. => "Node entered evicting state"
  | taintRemoved .. => "Node left evicting state"
  | evicted .. => "Evicted pod to relieve memory pressure"
  | evictionFailed .. => "Pod eviction failed"
  | ceilingSet .. => "Container swap limit updated"

/-- How urgent the event is. -/
def level : Event → String
  | shortage .. => "WARN"
  | evictionFailed .. => "WARN"
  | _ => "INFO"

def flagText (flag : Bool) : String := if flag then "true" else "false"

/-- The fields that only events of this kind have. -/
def ownFields : Event → List (String × String)
  | started version source =>
      [("agent_version", version), ("metrics_source", source)]
  | stopped reason => [("reason", reason)]
  | shortage highTraffic highUtilization =>
      [("high_traffic", flagText highTraffic),
        ("high_utilization", flagText highUtilization)]
  | taintAdded key => [("taint_key", key)]
  | taintRemoved key => [("taint_key", key)]
  | evicted pod =>
      [("namespace", pod.namespaceName), ("pod_name", pod.name)]
  | evictionFailed pod error =>
      [("namespace", pod.namespaceName), ("pod_name", pod.name),
        ("error", error)]
  | ceilingSet pod container bytes =>
      [("namespace", pod.namespaceName), ("pod_name", pod.name),
        ("container", container),
        ("swap_limit_bytes", toString bytes.toNat)]

/-- All fields of an event on a node. -/
def fields (node : String) (event : Event) : List (String × String) :=
  [("event", event.name), ("level", event.level),
    ("message", event.sentence), ("node", node)] ++ event.ownFields

end Event

end SwapWarden
