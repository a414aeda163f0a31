import SwapWarden.Settings.Basic
import SwapWarden.Text.Shortest

/-!
# Settings that are refused

A setting must be of its kind, and some settings must fit others.  Of several
things wrong the one that comes first in the list below is reported.
-/

namespace SwapWarden

/-- Why settings are refused.  A malformed value is not of the kind that its
setting wants. -/
inductive SettingsFault where
  | malformed
  | swapFactor (value : Float)
  | window (seconds least : UInt64)
  | intervals
  | workers
  | usageSource (cause : Fault)
  deriving Inhabited

namespace SettingsFault

/-- The text of a refusal. -/
def message : SettingsFault → String
  | malformed => "invalid configuration"
  | swapFactor value =>
      "swap_utilization_threshold_factor must be in (0, 1], got " ++
        Text.floatText value
  | window seconds least =>
      "average_window_size_seconds (" ++ toString seconds.toNat ++
        ") must not be shorter than min_sample_interval_seconds (" ++
        toString least.toNat ++ ")"
  | intervals => "sample and resync intervals must be positive"
  | workers => "swap_workers must be at least 1"
  | usageSource cause => cause.message

end SettingsFault

namespace AgentSettings

/-- Whether some swap may be used, and no more than there is. -/
def hasFactor (settings : AgentSettings) : Bool :=
  0 < settings.swapFactor && settings.swapFactor ≤ 1

/-- Whether a baseline can be old enough within the window. -/
def hasWindow (settings : AgentSettings) : Bool :=
  settings.minIntervalSeconds ≤ settings.windowSeconds

/-- Whether all periods are positive. -/
def hasPeriods (settings : AgentSettings) : Bool :=
  0 < settings.samplingSeconds && 0 < settings.evictionSeconds &&
    0 < settings.ceilingSeconds

/-- Checks that the settings fit each other. -/
def validate (settings : AgentSettings) : Except SettingsFault Unit :=
  if !settings.hasFactor then .error (.swapFactor settings.swapFactor)
  else if !settings.hasWindow then
    .error (.window settings.windowSeconds settings.minIntervalSeconds)
  else if !settings.hasPeriods then .error .intervals
  else if settings.workers < 1 then .error .workers
  else
    match settings.usageSourceKind with
    | .ok _ => .ok ()
    | .error cause => .error (.usageSource cause)

end AgentSettings

end SwapWarden
