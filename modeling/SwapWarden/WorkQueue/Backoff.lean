import SwapWarden.Duration

/-!
# Exponential backoff

Each failure of a key doubles its delay, up to a greatest one.  The product is
taken in 128 bits, where it stops at the largest number, and a product below
the greatest delay is handed on in 64 bits of nanoseconds.
-/

namespace SwapWarden

/-- Delays of retries. -/
structure Backoff where
  base : Duration := Duration.ofMillis 5
  greatest : Duration := Duration.ofSeconds 1000
  deriving DecidableEq, Repr, Inhabited

namespace Backoff

/-- The delay after the given number of failures. -/
def delay (backoff : Backoff) (failures : Nat) : Duration :=
  let nanos :=
    min (backoff.base.nanos * Nat.pow 2 (min failures 127)) (Nat.pow 2 128 - 1)
  if backoff.greatest.nanos ≤ nanos then backoff.greatest
  else ⟨nanos % UInt64.size⟩

end Backoff

end SwapWarden
