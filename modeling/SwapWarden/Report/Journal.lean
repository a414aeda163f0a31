import SwapWarden.Report.Events
import SwapWarden.Report.Metrics

/-!
# The journal

Events are told in the order in which they happen, and the effects they tell
of are counted as they are told.
-/

namespace SwapWarden

/-- Counts the effect that an event tells of. -/
def Metrics.count (metrics : Metrics) : Event → Metrics
  | .evicted _ => { metrics with evictions := metrics.evictions + 1 }
  | .evictionFailed _ _ =>
      { metrics with evictionFailures := metrics.evictionFailures + 1 }
  | .taintAdded _ => { metrics with taintsAdded := metrics.taintsAdded + 1 }
  | .taintRemoved _ =>
      { metrics with taintsRemoved := metrics.taintsRemoved + 1 }
  | .ceilingSet _ _ _ =>
      { metrics with ceilingWrites := metrics.ceilingWrites + 1 }
  | _ => metrics

/-- Everything told so far and the numbers kept with it. -/
structure Journal where
  events : List Event := []
  metrics : Metrics := {}
  deriving Inhabited

namespace Journal

/-- Tells an event and counts its effect. -/
def tell (journal : Journal) (event : Event) : Journal where
  events := journal.events ++ [event]
  metrics := journal.metrics.count event

/-- Changes the numbers alone. -/
def measure (journal : Journal) (change : Metrics → Metrics) : Journal :=
  { journal with metrics := change journal.metrics }

end Journal

end SwapWarden
