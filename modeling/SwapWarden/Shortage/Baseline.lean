import SwapWarden.Duration
import SwapWarden.Memory.History

/-!
# Baselines and rates

Swap rates are averages between the newest sample and an older one, the
baseline.  The baseline is the oldest sample of the window that has the least
age; the window ends with the first sample as old as the window is long.
-/

namespace SwapWarden

namespace Baseline

/-- Walks away from the newest sample.  `index` is the place of the next
sample and `found` the baseline among those before. -/
def search (newest : Sample) (least window : Int) (index : Nat)
    (found : Option Nat) : List Sample → Option Nat
  | [] => found
  | sample :: older =>
      let age := newest.millisSince sample
      let found := if least ≤ age then some index else found
      if window ≤ age then found
      else search newest least window (index + 1) found older

/-- The place of the baseline in a history, newest first. -/
def index? (least window : Duration) : List Sample → Option Nat
  | [] => none
  | newest :: older =>
      search newest least.signedMillis window.signedMillis 1 none older

end Baseline

/-- Pages per second, in and out. -/
structure SwapRates where
  swapIn : Float
  swapOut : Float
  deriving Inhabited

/-- The average rates between two samples.  Counters that went backwards count
as standing still, and so does time. -/
def SwapRates.between (newest baseline : Sample) : SwapRates :=
  let seconds := Float.ofInt (newest.millisSince baseline) / 1000
  if seconds ≤ 0 then
    ⟨0, 0⟩
  else
    ⟨(Word64.subFloored newest.swapIn baseline.swapIn).toFloat / seconds,
      (Word64.subFloored newest.swapOut baseline.swapOut).toFloat / seconds⟩

end SwapWarden
