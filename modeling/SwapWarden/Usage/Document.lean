import SwapWarden.Shortage.Verdict
import SwapWarden.Text.Json.Access

/-!
# Usage as documents

The forms in which the usage of nodes, pods and containers and the thresholds
of a shortage are handed over.
-/

namespace SwapWarden

open Text (Json)

namespace NodeUsage

def ofDocument (value : Json) : NodeUsage where
  workingSet := value.countAt "working_set"
  swapUsed := value.countAt "swap_used"
  totalMemory := value.countAt "total_memory"
  totalSwap := value.countAt "total_swap"

/-- Writes usage and what follows from it. -/
def toDocument (usage : NodeUsage) : Json :=
  .record [("working_set", .count usage.workingSet),
    ("swap_used", .count usage.swapUsed),
    ("total_memory", .count usage.totalMemory),
    ("total_swap", .count usage.totalSwap),
    ("used_virtual", .count usage.usedVirtual)]

end NodeUsage

namespace ContainerUsage

def ofDocument (value : Json) : ContainerUsage where
  workingSet := value.countAt "working_set"
  swap := value.countAt "swap"

def toDocument (usage : ContainerUsage) : Json :=
  .record [("working_set", .count usage.workingSet),
    ("swap", .count usage.swap), ("total", .count usage.total)]

end ContainerUsage

namespace PodUsage

def ofDocument (value : Json) : PodUsage where
  uid := value.textAt "uid"
  workingSet := value.countAt "working_set"
  swap := value.countAt "swap"
  containers := Table.ofList ((value.get "containers").entries.map
    (fun entry => (entry.1, ContainerUsage.ofDocument entry.2)))

def toDocument (usage : PodUsage) : Json :=
  .record [("uid", .text usage.uid), ("working_set", .count usage.workingSet),
    ("swap", .count usage.swap), ("total", .count usage.total),
    ("containers", .record (usage.containers.entries.map (fun entry =>
      (entry.1, entry.2.toDocument))))]

end PodUsage

namespace ShortageThresholds

def ofDocument (value : Json) : ShortageThresholds where
  maxSwapIn := value.floatAt "max_in" 1000
  maxSwapOut := value.floatAt "max_out" 1000
  swapFactor := value.floatAt "factor" 0.8
  window := .ofMillis (value.natAt "window_ms" 30000)
  minInterval := .ofMillis (value.natAt "min_interval_ms" 5000)

end ShortageThresholds

end SwapWarden
