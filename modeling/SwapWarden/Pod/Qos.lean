import SwapWarden.Pod.Basic
import SwapWarden.Pod.Quantity

/-!
# Quality-of-service classes

A known class that the cluster reports is taken as it is.  Otherwise the class
follows from the positive cpu and memory entries of all containers: none at
all is best effort; limits for both on every container that sum to exactly the
requests are guaranteed; everything else is burstable.
-/

namespace SwapWarden

/-- How firmly a pod's resources are promised. -/
inductive QosClass where
  | guaranteed
  | burstable
  | bestEffort
  deriving DecidableEq, Repr, Inhabited

namespace QosClass

def name : QosClass → String
  | guaranteed => "Guaranteed"
  | burstable => "Burstable"
  | bestEffort => "BestEffort"

def ofName? : String → Option QosClass
  | "Guaranteed" => some guaranteed
  | "Burstable" => some burstable
  | "BestEffort" => some bestEffort
  | _ => none

/-- The resources that count. -/
def resources : List String := ["cpu", "memory"]

/-- Every container with every resource that counts, in order. -/
def demands (containers : List Container) : List (Container × String) :=
  containers.flatMap (fun container =>
    resources.map (fun resource => (container, resource)))

/-- Sums by resource with one more entry.  One that cannot be read or is not
above zero does not count. -/
def addPositive (sums : Table String Float) (resource : String)
    (entry : Option String) : Table String Float :=
  match entry.bind Quantity.positive? with
  | some value => sums.put resource ((sums.get? resource).getD 0 + value)
  | none => sums

/-- What containers ask for and are limited to, by resource, and whether every
one of them limits every resource, as far as counted. -/
structure Tally where
  requested : Table String Float := {}
  limited : Table String Float := {}
  coversAll : Bool := true

namespace Tally

/-- The tally with what a container declares for a resource. -/
def count (tally : Tally) (demand : Container × String) : Tally :=
  let limit := demand.1.limit? demand.2
  { requested :=
      addPositive tally.requested demand.2 (demand.1.request? demand.2)
    limited := addPositive tally.limited demand.2 limit
    coversAll := tally.coversAll && (limit.bind Quantity.positive?).isSome }

/-- The tally of containers. -/
def ofContainers (containers : List Container) : Tally :=
  (demands containers).foldl count {}

/-- Whether nothing was counted. -/
def isEmpty (tally : Tally) : Bool :=
  tally.requested.size == 0 && tally.limited.size == 0

/-- Whether a resource is limited to just what is requested of it. -/
def limitsTo (tally : Tally) (requested : String × Float) : Bool :=
  match tally.limited.get? requested.1 with
  | some limit => limit == requested.2
  | none => false

/-- Whether the resources that are limited are those that are requested, each
limited to just what is requested. -/
def isBalanced (tally : Tally) : Bool :=
  tally.requested.size == tally.limited.size &&
    tally.requested.entries.all tally.limitsTo

end Tally

/-- The class that the containers' declarations imply. -/
def ofContainers (containers : List Container) : QosClass :=
  let tally := Tally.ofContainers containers
  if tally.isEmpty then bestEffort
  else if tally.coversAll && tally.isBalanced then guaranteed
  else burstable

end QosClass

/-- The class of a pod. -/
def Pod.qosClass (pod : Pod) : QosClass :=
  match pod.status.bind (fun status => status.qosClass.bind QosClass.ofName?) with
  | some reported => reported
  | none => QosClass.ofContainers pod.allContainers

end SwapWarden
