import SwapWarden.Text.Shortest

/-!
# Counters and gauges

What the agent did, in numbers, and their text for collectors: families in the
order of their names, each with a line of help, a line with its type, and its
samples.  Numbers are written as doubles.
-/

namespace SwapWarden

/-- How long reconciling took: how often it took at most each bound, how often
it happened, and the sum of it all, in seconds. -/
structure Latencies where
  within : List Nat
  count : Nat
  sum : Float
  deriving Inhabited

namespace Latencies

/-- The bounds, in seconds. -/
def bounds : List Float :=
  [0.0005, 0.001, 0.0025, 0.005, 0.01, 0.025, 0.05, 0.1, 0.25, 0.5, 1, 2.5]

def empty : Latencies := ⟨bounds.map (fun _ => 0), 0, 0⟩

/-- Counts one duration. -/
def observe (latencies : Latencies) (seconds : Float) : Latencies where
  within := List.zipWith
    (fun bound count => if seconds ≤ bound then count + 1 else count)
    bounds latencies.within
  count := latencies.count + 1
  sum := latencies.sum + seconds

end Latencies

/-- The numbers that the agent keeps of its work. -/
structure Metrics where
  evictions : Nat := 0
  evictionFailures : Nat := 0
  taintsAdded : Nat := 0
  taintsRemoved : Nat := 0
  ceilingWrites : Nat := 0
  ceilingWriteFailures : Nat := 0
  shortage : Bool := false
  historySamples : Int := 0
  queueDepth : Int := 0
  latencies : Latencies := Latencies.empty
  deriving Inhabited

/-- How the samples of a family behave. -/
inductive MetricKind where
  | counter
  | gauge
  | histogram
  deriving DecidableEq, Repr, Inhabited

namespace MetricKind

def name : MetricKind → String
  | counter => "counter"
  | gauge => "gauge"
  | histogram => "histogram"

end MetricKind

/-- A sample: what follows the family's name in it, and its number. -/
structure MetricSample where
  suffix : String
  value : Float
  deriving Inhabited

/-- Samples of one meaning. -/
structure MetricFamily where
  name : String
  help : String
  kind : MetricKind
  samples : List MetricSample
  deriving Inhabited

namespace MetricFamily

/-- The beginning of every family's name. -/
def nameHead : String := "swapguard_"

/-- A family of one sample. -/
def single (name help : String) (kind : MetricKind) (value : Int) :
    MetricFamily :=
  ⟨name, help, kind, [⟨"", Float.ofInt value⟩]⟩

def sampleLine (name : String) (sample : MetricSample) : String :=
  name ++ sample.suffix ++ " " ++ Text.floatText sample.value ++ "\n"

/-- The lines of a family; one without samples has none. -/
def text (family : MetricFamily) : String :=
  if family.samples.isEmpty then
    ""
  else
    let name := nameHead ++ family.name
    "# HELP " ++ name ++ " " ++ family.help ++ "\n# TYPE " ++ name ++ " " ++
      family.kind.name ++ "\n" ++
      String.join (family.samples.map (sampleLine name))

end MetricFamily

namespace Metrics

open MetricFamily

/-- The sample of one kind of taint transition, once there was one. -/
def taintSample (action : String) (count : Nat) : List MetricSample :=
  if count = 0 then []
  else [⟨"\x7baction=\"" ++ action ++ "\"\x7d", Float.ofNat count⟩]

/-- The sample of a bucket. -/
def bucketSample (bound : String) (count : Nat) : MetricSample :=
  ⟨"_bucket\x7ble=\"" ++ bound ++ "\"\x7d", Float.ofNat count⟩

/-- The samples of the latencies. -/
def latencySamples (latencies : Latencies) : List MetricSample :=
  List.zipWith (fun bound count => bucketSample (Text.floatText bound) count)
    Latencies.bounds latencies.within ++
  [bucketSample "+Inf" latencies.count, ⟨"_sum", latencies.sum⟩,
    ⟨"_count", Float.ofNat latencies.count⟩]

/-- All families in the order of their names. -/
def families (metrics : Metrics) : List MetricFamily :=
  [single "pod_eviction_failures_total" "Eviction attempts that failed"
      .counter metrics.evictionFailures,
    single "pod_evictions_total" "Pods evicted to relieve memory pressure"
      .counter metrics.evictions,
    single "shortage_detected"
      "1 when the last detection cycle reported a memory shortage"
      .gauge (if metrics.shortage then 1 else 0),
    single "stats_history_samples"
      "Samples currently held by the stats sampler"
      .gauge metrics.historySamples,
    single "swap_limit_write_failures_total"
      "Container swap limit updates that failed"
      .counter metrics.ceilingWriteFailures,
    single "swap_limit_writes_total"
      "Container swap limits written to cgroups"
      .counter metrics.ceilingWrites,
    single "swap_queue_depth" "Pods waiting in the swap-limit work queue"
      .gauge metrics.queueDepth,
    ⟨"swap_reconcile_duration_seconds",
      "Time spent reconciling the swap limits of one pod",
      .histogram, latencySamples metrics.latencies⟩,
    ⟨"taint_transitions_total", "Eviction taint additions and removals",
      .counter, taintSample "added" metrics.taintsAdded ++
        taintSample "removed" metrics.taintsRemoved⟩]

/-- The text for collectors. -/
def text (metrics : Metrics) : String :=
  String.join (metrics.families.map MetricFamily.text)

/-- A number of samples or keys as a gauge holds it: a signed 64-bit word. -/
def gauge (size : Nat) : Int := Int.bmod size UInt64.size

def setHistorySamples (metrics : Metrics) (size : Nat) : Metrics :=
  { metrics with historySamples := gauge size }

def setQueueDepth (metrics : Metrics) (size : Nat) : Metrics :=
  { metrics with queueDepth := gauge size }

/-- Counts a swap ceiling that could not be written. -/
def countWriteFailure (metrics : Metrics) : Metrics :=
  { metrics with ceilingWriteFailures := metrics.ceilingWriteFailures + 1 }

/-- Counts how long one reconciling took. -/
def observe (metrics : Metrics) (seconds : Float) : Metrics :=
  { metrics with latencies := metrics.latencies.observe seconds }

end Metrics

end SwapWarden
