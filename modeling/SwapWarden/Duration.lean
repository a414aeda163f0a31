/-!
# Spans of time

A duration is a whole number of nanoseconds.  Where a duration is compared
with the age of a sample it is narrowed to a signed 64-bit count of whole
milliseconds; very long durations wrap there.
-/

namespace SwapWarden

/-- A span of time. -/
structure Duration where
  nanos : Nat
  deriving DecidableEq, Repr, Inhabited

namespace Duration

def ofSeconds (seconds : Nat) : Duration := ⟨seconds * 1000000000⟩

def ofMillis (millis : Nat) : Duration := ⟨millis * 1000000⟩

/-- Whole seconds. -/
def seconds (duration : Duration) : Nat := duration.nanos / 1000000000

/-- Nanoseconds past the whole seconds. -/
def subsecondNanos (duration : Duration) : Nat :=
  duration.nanos % 1000000000

/-- Whole milliseconds. -/
def millis (duration : Duration) : Nat := duration.nanos / 1000000

/-- Whole milliseconds in a signed 64-bit word. -/
def signedMillis (duration : Duration) : Int :=
  Int.bmod duration.millis UInt64.size

theorem millis_ofSeconds (seconds : Nat) :
    (ofSeconds seconds).millis = seconds * 1000 := by
  simp only [millis, ofSeconds]
  omega

end Duration

end SwapWarden
