import SwapWarden.Shortage.Baseline
import SwapWarden.Usage.Basic

/-!
# Shortage of memory

A node is short of memory when it swaps heavily in both directions, or when
what is in use exceeds its memory and an allowance of its swap.
-/

namespace SwapWarden

/-- What counts as a shortage: pages per second swapped in and out that are no
longer tolerable, on average over a window and against a baseline of a least
age, or a share of swap that may not be used. -/
structure ShortageThresholds where
  maxSwapIn : Float := 1000
  maxSwapOut : Float := 1000
  swapFactor : Float := 0.8
  window : Duration := Duration.ofSeconds 30
  minInterval : Duration := Duration.ofSeconds 5
  deriving Inhabited

/-- Whether a node is short of memory, and why. -/
structure Verdict where
  highTraffic : Bool := false
  highUtilization : Bool := false
  rates : SwapRates := ⟨0, 0⟩
  deriving Inhabited

namespace Verdict

def isShortage (verdict : Verdict) : Bool :=
  verdict.highTraffic || verdict.highUtilization

end Verdict

namespace ShortageThresholds

/-- The rates since the baseline of a history; there is none before two
samples are far enough apart. -/
def rates? (thresholds : ShortageThresholds) (samples : List Sample) :
    Option SwapRates := do
  let newest ← samples.head?
  let index ←
    Baseline.index? thresholds.minInterval thresholds.window samples
  let baseline ← samples[index]?
  some (SwapRates.between newest baseline)

/-- Whether both rates are above what is tolerable. -/
def isHighTraffic (thresholds : ShortageThresholds) (rates : SwapRates) :
    Bool :=
  rates.swapIn > thresholds.maxSwapIn && rates.swapOut > thresholds.maxSwapOut

/-- Whether what is in use exceeds memory and the allowance of swap. -/
def isHighUtilization (thresholds : ShortageThresholds) (usage : NodeUsage) :
    Bool :=
  usage.usedVirtual.toFloat >
    usage.totalMemory.toFloat +
      thresholds.swapFactor * usage.totalSwap.toFloat

/-- Judges a history and the usage of the node.  Without rates the usage does
not matter. -/
def judge (thresholds : ShortageThresholds) (samples : List Sample)
    (usage : Except Fault NodeUsage) : Except Fault Verdict :=
  match thresholds.rates? samples with
  | none => .error .insufficientData
  | some rates =>
      usage.map (fun usage =>
        { highTraffic := thresholds.isHighTraffic rates
          highUtilization := thresholds.isHighUtilization usage
          rates })

end ShortageThresholds

end SwapWarden
