import SwapWarden.Settings.Path
import SwapWarden.Settings.Validation

/-!
# Settings from the environment

A setting, or a part of one, is a variable whose name starts with `SWAPGUARD_`;
names go by any case.  What is not set has its usual value; of the node's name
and the agent's namespace the pod's own variables tell that.
-/

namespace SwapWarden

/-- Variables with their texts. -/
abbrev Environment : Type := List (String × String)

namespace Environment

/-- A character of a variable's name without its case.  The kelvin sign is the
only other character whose small letter is an ASCII one. -/
def foldChar (char : Char) : Char :=
  if char == '\u212a' then 'k' else char.toLower

/-- What the names of all settings start with. -/
def settingHead : List Char := "swapguard_".toList

/-- The setting that holds a list. -/
def listSetting : String := "excluded_namespace_prefixes"

/-- What a variable gives, by the name of it. -/
def given? (entry : String × String) : Option (String × SettingValue) := do
  let rest ← Text.afterPrefix? settingHead (entry.1.toList.map foldChar)
  let name := String.ofList rest
  some (name, .ofText (name == listSetting) entry.2)

/-- Puts what is given under a name into the settings. -/
def place (settings : Table String SettingValue)
    (entry : String × SettingValue) : Table String SettingValue :=
  let path := SettingPath.ofName entry.1
  settings.put path.setting
    (entry.2.withPart path.steps (settings.get? path.setting))

/-- All settings that are given; the last variable of a name counts. -/
def settings (environment : Environment) : Table String SettingValue :=
  (Table.ofList (environment.filterMap given?)).entries.foldl place Table.empty

/-- The settings that hold where none is given. -/
def defaults (environment : Environment) : AgentSettings :=
  let usual : AgentSettings := {}
  { usual with
    nodeName := (environment.lookup "NODE_NAME").getD usual.nodeName
    ownNamespace :=
      ((environment.lookup "POD_NAMESPACE").filter (· != "")).getD
        usual.ownNamespace }

end Environment

/-- The setting of a name, converted, or else its usual value.  There is
nothing when it cannot be converted. -/
def settingOr? {α : Type} (settings : Table String SettingValue)
    (convert : SettingValue → Option α) (name : String) (usual : α) :
    Option α :=
  match settings.get? name with
  | some value => convert value
  | none => some usual

namespace AgentSettings

/-- The settings that an environment gives, unless one is malformed. -/
def ofEnvironment? (environment : Environment) : Option AgentSettings := do
  let given := environment.settings
  let usual := environment.defaults
  let text := settingOr? given SettingValue.text?
  let real := settingOr? given SettingValue.real?
  let count := settingOr? given SettingValue.count?
  some {
    nodeName := ← text "node_name" usual.nodeName
    ownNamespace := ← text "namespace" usual.ownNamespace
    port := ← settingOr? given SettingValue.port? "api_port" usual.port
    maxSwapIn :=
      ← real "max_average_swap_in_pages_per_second" usual.maxSwapIn
    maxSwapOut :=
      ← real "max_average_swap_out_pages_per_second" usual.maxSwapOut
    swapFactor := ← real "swap_utilization_threshold_factor" usual.swapFactor
    windowSeconds :=
      ← count "average_window_size_seconds" usual.windowSeconds
    minIntervalSeconds :=
      ← count "min_sample_interval_seconds" usual.minIntervalSeconds
    samplingSeconds := ← count "sample_interval_secs" usual.samplingSeconds
    evictionSeconds := ← count "eviction_resync_secs" usual.evictionSeconds
    ceilingSeconds := ← count "swap_resync_secs" usual.ceilingSeconds
    workers := ← count "swap_workers" usual.workers
    excludedPrefixes :=
      ← settingOr? given SettingValue.list? Environment.listSetting
        usual.excludedPrefixes
    taintKey := ← text "eviction_taint_key" usual.taintKey
    usageSource := ← text "metrics_source" usual.usageSource
    procRoot := ← text "host_proc_path" usual.procRoot
    cgroupRoot := ← text "cgroup_root" usual.cgroupRoot
    runtimeSocket := ← text "cri_socket" usual.runtimeSocket
    syncSeconds := ← count "cache_sync_timeout_secs" usual.syncSeconds }

/-- Loads the settings from an environment and checks them. -/
def load (environment : Environment) : Except SettingsFault AgentSettings := do
  let settings ←
    match ofEnvironment? environment with
    | some settings => .ok settings
    | none => .error .malformed
  settings.validate
  return settings

end AgentSettings

end SwapWarden
