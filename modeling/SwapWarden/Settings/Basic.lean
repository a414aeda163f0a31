import SwapWarden.Ceiling.Reconcile
import SwapWarden.Eviction.Cycle
import SwapWarden.Usage.Source

/-!
# The agent's settings

All that can be set about the agent, with the values that hold where nothing
is set, and what of it each part of the agent needs.
-/

namespace SwapWarden

/-- The settings of the agent.  Times are whole seconds.  Pods of the agent's
own namespace are never evicted, health and counters are served at the port, and
the start waits for the pod cache as long as the sync may take. -/
structure AgentSettings where
  nodeName : String := "unknown"
  ownNamespace : String := "swapguard"
  port : UInt16 := 8080
  maxSwapIn : Float := 1000
  maxSwapOut : Float := 1000
  swapFactor : Float := 0.8
  windowSeconds : UInt64 := 30
  minIntervalSeconds : UInt64 := 5
  samplingSeconds : UInt64 := 1
  evictionSeconds : UInt64 := 5
  ceilingSeconds : UInt64 := 20
  workers : UInt64 := 1
  excludedPrefixes : List String := ["openshift", "kube-system"]
  taintKey : String := "swapguard.io/evicting"
  usageSource : String := "cgroup"
  procRoot : String := "/host/proc"
  cgroupRoot : String := "/host/sys/fs/cgroup"
  runtimeSocket : String := "/host/var/run/crio/crio.sock"
  syncSeconds : UInt64 := 10
  deriving Inhabited

namespace AgentSettings

/-- A number of seconds that was set. -/
def span (seconds : UInt64) : Duration := .ofSeconds seconds.toNat

/-- The source of usage that was asked for. -/
def usageSourceKind (settings : AgentSettings) :
    Except Fault UsageSourceKind :=
  UsageSourceKind.parse settings.usageSource

/-- What counts as a shortage. -/
def thresholds (settings : AgentSettings) : ShortageThresholds where
  maxSwapIn := settings.maxSwapIn
  maxSwapOut := settings.maxSwapOut
  swapFactor := settings.swapFactor
  window := span settings.windowSeconds
  minInterval := span settings.minIntervalSeconds

/-- What the eviction loop needs. -/
def eviction (settings : AgentSettings) : EvictionSettings where
  nodeName := settings.nodeName
  taintKey := settings.taintKey
  filter := ⟨settings.ownNamespace, settings.excludedPrefixes⟩
  resync := span settings.evictionSeconds
  sampling := span settings.samplingSeconds

/-- What the ceiling loop needs on a node of some capacity. -/
def ceilings (settings : AgentSettings) (capacity : NodeCapacity) :
    CeilingSettings where
  nodeName := settings.nodeName
  excludedPrefixes := settings.excludedPrefixes
  procRoot := settings.procRoot
  cgroupRoot := settings.cgroupRoot
  resync := span settings.ceilingSeconds
  workers := settings.workers.toNat
  capacity

/-- How long the start waits for the pod cache. -/
def syncTimeout (settings : AgentSettings) : Duration :=
  span settings.syncSeconds

end AgentSettings

end SwapWarden
