import SwapWarden.Duration
import SwapWarden.Memory.History
import SwapWarden.Text.Json.Access

/-!
# Readings and samples as documents

The forms in which readings of a node, samples and durations are handed over.
-/

namespace SwapWarden

open Text (Json)

/-- Reads a duration: whole seconds and the nanoseconds past them. -/
def Duration.ofDocument (value : Json) : Duration :=
  ⟨(value.countAt "secs").toNat * 1000000000 + value.natAt "nanos"⟩

namespace Meminfo

def ofDocument (value : Json) : Meminfo where
  memTotal := value.countAt "mem_total"
  memFree := value.countAt "mem_free"
  memAvailable := value.countAt "mem_available"
  inactiveFile := value.countAt "inactive_file"
  swapTotal := value.countAt "swap_total"
  swapFree := value.countAt "swap_free"

/-- Writes memory totals and what follows from them. -/
def toDocument (info : Meminfo) : Json :=
  .record [("mem_total", .count info.memTotal),
    ("mem_free", .count info.memFree),
    ("mem_available", .count info.memAvailable),
    ("inactive_file", .count info.inactiveFile),
    ("swap_total", .count info.swapTotal),
    ("swap_free", .count info.swapFree),
    ("swap_used", .count info.swapUsed),
    ("working_set", .count info.workingSet)]

end Meminfo

namespace SwapCounters

/-- The fields of swap counters. -/
def fields (counters : SwapCounters) : List (String × Json) :=
  [("in", .count counters.swapIn), ("out", .count counters.swapOut)]

end SwapCounters

namespace NodeStats

def ofDocument (value : Json) : NodeStats where
  counters := ⟨value.countAt "in", value.countAt "out"⟩
  memory := .ofDocument (value.get "memory")

def toDocument (stats : NodeStats) : Json :=
  .record (stats.counters.fields ++ [("memory", stats.memory.toDocument)])

end NodeStats

namespace Sample

def ofDocument (value : Json) : Sample where
  time := value.intAt "t_us"
  swapIn := value.countAt "in"
  swapOut := value.countAt "out"
  swapUsed := value.countAt "swap_used"
  availableMemory := value.countAt "available"
  inactiveFile := value.countAt "inactive_file"

/-- Writes the figures of a sample, without its time. -/
def toRow (sample : Sample) : Json :=
  .array [.count sample.swapIn, .count sample.swapOut,
    .count sample.swapUsed, .count sample.availableMemory,
    .count sample.inactiveFile]

end Sample

end SwapWarden
