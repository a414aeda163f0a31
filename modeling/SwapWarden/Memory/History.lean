import SwapWarden.Memory.Stats

/-!
# Samples and their history

A sample is a reading with its time.  The history holds the newest samples,
newest first, and forgets the oldest ones when it is full.
-/

namespace SwapWarden

/-- A reading of a node at a time, in microseconds since the start of 1970. -/
structure Sample where
  time : Int
  swapIn : UInt64 := 0
  swapOut : UInt64 := 0
  swapUsed : UInt64 := 0
  availableMemory : UInt64 := 0
  inactiveFile : UInt64 := 0
  deriving DecidableEq, Repr, Inhabited

namespace Sample

/-- What a reading says at a time. -/
def ofStats (time : Int) (stats : NodeStats) : Sample where
  time := time
  swapIn := stats.counters.swapIn
  swapOut := stats.counters.swapOut
  swapUsed := stats.memory.swapUsed
  availableMemory := stats.memory.memAvailable
  inactiveFile := stats.memory.inactiveFile

/-- How much older another sample is, in whole milliseconds; the rest is cut
off toward zero. -/
def millisSince (sample older : Sample) : Int :=
  (sample.time - older.time).tdiv 1000

end Sample

/-- The newest samples, newest first, and how many are held; at least one is.
Behind them stand some to be forgotten, which are dropped many at a time, so
that recording one rarely costs more than itself. -/
structure History where
  capacity : Nat
  kept : List Sample := []
  count : Nat := 0
  count_eq : count = kept.length := by rfl
  deriving Repr

namespace History

/-- The capacity of a history for which none is given. -/
def defaultCapacity : Nat := 10000

/-- A history without samples. -/
def empty (capacity : Nat) : History := { capacity }

instance : Inhabited History := ⟨empty 0⟩

/-- The number of samples that the history can hold. -/
def limit (history : History) : Nat := max history.capacity 1

/-- The samples that are held, newest first. -/
def samples (history : History) : List Sample :=
  history.kept.take history.limit

/-- The number of samples that are held. -/
def size (history : History) : Nat := min history.limit history.count

/-- The history with a new sample. -/
def record (history : History) (sample : Sample) : History :=
  if history.count < 2 * history.limit then
    { capacity := history.capacity
      kept := sample :: history.kept
      count := history.count + 1
      count_eq := by simp [history.count_eq] }
  else
    { capacity := history.capacity
      kept := (sample :: history.kept).take history.limit
      count := min history.limit (history.count + 1)
      count_eq := by simp [history.count_eq] }

/-- The history after it was flushed. -/
def reset (history : History) : History := empty history.capacity

/-- Records a reading taken at a time; a failed reading leaves a gap. -/
def sampled (history : History) (time : Int)
    (reading : Except Fault NodeStats) : Except Fault History :=
  match reading with
  | .ok stats => .ok (history.record (Sample.ofStats time stats))
  | .error fault => .error fault

theorem size_eq_length_samples (history : History) :
    history.size = history.samples.length := by
  simp [size, samples, history.count_eq]

@[simp] theorem limit_record (history : History) (sample : Sample) :
    (history.record sample).limit = history.limit := by
  unfold record
  split
  · rfl
  · rfl

theorem samples_record (history : History) (sample : Sample) :
    (history.record sample).samples =
      (sample :: history.samples).take history.limit := by
  have positive : 0 < history.limit := by simp only [limit]; omega
  obtain ⟨rest, equality⟩ : ∃ rest, history.limit = rest + 1 :=
    ⟨history.limit - 1, by omega⟩
  unfold samples
  rw [limit_record]
  unfold record
  split
  all_goals simp [equality, List.take_take]

end History

end SwapWarden
