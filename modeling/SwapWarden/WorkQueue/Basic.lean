import SwapWarden.Table
import SwapWarden.WorkQueue.Backoff

/-!
# The work queue

A queue of keys that holds a key at most once, hands a key to one worker at a
time and delivers failed keys again after a delay.  A key that is added while
a worker has it is parked and enters the queue when the worker is done with
it.  A key waits for at most one delay, the one that ends first; timers of
delays that were replaced do nothing when they fire.

Every function below is one step that nothing can interrupt, except `fire`
and `retry`, which are two.  Points in time are nanoseconds of a clock that
only goes forward.
-/

namespace SwapWarden

/-- A timer that delivers a key at its deadline. -/
structure Timer (κ : Type) where
  key : κ
  deadline : Nat
  deriving DecidableEq, Repr

/-- Keys and where they stand.  Ready are those for the next workers, first in,
first out; dirty those that no worker was handed since they were added; in
flight those that workers have.  Failures count the retries of a key since it
was last forgotten, and a key may wait for a deadline. -/
structure WorkQueue (κ : Type) where
  backoff : Backoff := {}
  ready : List κ := []
  dirty : List κ := []
  inFlight : List κ := []
  failures : Table κ Nat := Table.empty
  waiting : Table κ Nat := Table.empty
  timers : List (Timer κ) := []
  closed : Bool := false

namespace WorkQueue

variable {κ : Type} [DecidableEq κ]

instance : Inhabited (WorkQueue κ) := ⟨{}⟩

/-- Adds a key, unless it is to be worked on already. -/
def add (queue : WorkQueue κ) (key : κ) : WorkQueue κ :=
  if queue.closed = true ∨ key ∈ queue.dirty then
    queue
  else if key ∈ queue.inFlight then
    { queue with dirty := key :: queue.dirty }
  else
    { queue with
      dirty := key :: queue.dirty
      ready := queue.ready ++ [key] }

/-- Whether a deadline is sooner than the one a key waits for. -/
def isSooner (queue : WorkQueue κ) (key : κ) (deadline : Nat) : Bool :=
  match queue.waiting.get? key with
  | some pending => decide (deadline < pending)
  | none => true

/-- Lets a key wait for a deadline and starts its timer. -/
def await (queue : WorkQueue κ) (key : κ) (deadline : Nat) : WorkQueue κ :=
  if queue.closed = true ∨ queue.isSooner key deadline = false then
    queue
  else
    { queue with
      waiting := queue.waiting.put key deadline
      timers := queue.timers ++ [⟨key, deadline⟩] }

/-- Adds a key after a delay. -/
def addAfter (queue : WorkQueue κ) (now : Nat) (key : κ) (delay : Duration) :
    WorkQueue κ :=
  if delay.nanos = 0 then queue.add key
  else queue.await key (now + delay.nanos)

/-- The queue after a timer is gone. -/
def dropTimer (queue : WorkQueue κ) (timer : Timer κ) : WorkQueue κ :=
  { queue with timers := queue.timers.erase timer }

/-- Ends the wait of a timer's key, if that is the deadline it waits for; the
key is then to be added. -/
def expire (queue : WorkQueue κ) (timer : Timer κ) : WorkQueue κ × Bool :=
  let queue := queue.dropTimer timer
  if queue.waiting.get? timer.key = some timer.deadline then
    ({ queue with waiting := queue.waiting.erase timer.key }, true)
  else
    (queue, false)

/-- Fires a timer. -/
def fire (queue : WorkQueue κ) (timer : Timer κ) : WorkQueue κ :=
  match queue.expire timer with
  | (queue, true) => queue.add timer.key
  | (queue, false) => queue

/-- Retries of a key since it was last forgotten. -/
def retries (queue : WorkQueue κ) (key : κ) : Nat :=
  (queue.failures.get? key).getD 0

/-- The largest count of retries. -/
def mostRetries : Nat := UInt32.size - 1

/-- Counts one more retry of a key and tells the delay of this one. -/
def countRetry (queue : WorkQueue κ) (key : κ) : WorkQueue κ × Duration :=
  let retries := queue.retries key
  ({ queue with
      failures := queue.failures.put key (min (retries + 1) mostRetries) },
    queue.backoff.delay retries)

/-- Adds a key again after the delay of its retries. -/
def retry (queue : WorkQueue κ) (now : Nat) (key : κ) : WorkQueue κ :=
  let (queue, delay) := queue.countRetry key
  queue.addAfter now key delay

/-- Hands out the next key. -/
def take? (queue : WorkQueue κ) : Option (κ × WorkQueue κ) :=
  match queue.ready with
  | [] => none
  | key :: rest =>
      some (key, { queue with
        ready := rest
        dirty := queue.dirty.erase key
        inFlight :=
          if key ∈ queue.inFlight then queue.inFlight
          else key :: queue.inFlight })

/-- Ends the work on a key; it enters the queue if it was added meanwhile. -/
def done (queue : WorkQueue κ) (key : κ) : WorkQueue κ :=
  { queue with
    inFlight := queue.inFlight.erase key
    ready :=
      if key ∈ queue.dirty then queue.ready ++ [key] else queue.ready }

/-- Forgets the retries of a key. -/
def forget (queue : WorkQueue κ) (key : κ) : WorkQueue κ :=
  { queue with failures := queue.failures.erase key }

/-- Shuts the queue down: nothing enters any more and no delay goes on. -/
def close (queue : WorkQueue κ) : WorkQueue κ :=
  { queue with closed := true, waiting := Table.empty, timers := [] }

/-- The number of keys for the next workers. -/
def size (queue : WorkQueue κ) : Nat := queue.ready.length

/-- The number of keys that wait for a delay. -/
def delayed (queue : WorkQueue κ) : Nat := queue.waiting.size

end WorkQueue

end SwapWarden
