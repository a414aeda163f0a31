import SwapWarden.Clock
import SwapWarden.WorkQueue.Basic

/-!
# A queue with its clock and the workers that wait

Workers that find the queue empty wait and are served first come, first
served.  Timers fire in the order of their deadlines, and workers are served
as soon as there is a key, or when the queue has shut down and is empty.
-/

namespace SwapWarden

/-- A queue, the time, the workers that wait for a key, first come first, and
those that were served: with a key, or told that none will come. -/
structure TimedQueue (κ : Type) where
  queue : WorkQueue κ
  now : Nat := 0
  workers : List Nat := []
  served : List (Nat × Option κ) := []

namespace TimedQueue

variable {κ : Type} [DecidableEq κ]

instance : Inhabited (TimedQueue κ) := ⟨{ queue := {} }⟩

/-- Serves waiting workers from a queue: who still waits, who was served, and
the queue then. -/
def serveFrom (queue : WorkQueue κ) :
    List Nat → List Nat × List (Nat × Option κ) × WorkQueue κ
  | [] => ([], [], queue)
  | worker :: rest =>
      match queue.take? with
      | some (key, queue) =>
          let (workers, served, queue) := serveFrom queue rest
          (workers, (worker, some key) :: served, queue)
      | none =>
          if queue.closed then
            let (workers, served, queue) := serveFrom queue rest
            (workers, (worker, none) :: served, queue)
          else
            (worker :: rest, [], queue)

/-- Serves as many waiting workers as possible. -/
def serve (timed : TimedQueue κ) : TimedQueue κ :=
  let (workers, served, queue) := serveFrom timed.queue timed.workers
  { timed with queue, workers, served := timed.served ++ served }

/-- Changes the queue and serves the workers. -/
def update (timed : TimedQueue κ) (change : WorkQueue κ → WorkQueue κ) :
    TimedQueue κ :=
  serve { timed with queue := change timed.queue }

/-- The timers due at a time, earliest first. -/
def dueTimers (queue : WorkQueue κ) (time : Nat) : List (Timer κ) :=
  (queue.timers.filter (fun timer => decide (timer.deadline ≤ time))).mergeSort
    (fun first second => decide (first.deadline ≤ second.deadline))

/-- Fires the timers due at a time. -/
def fireDue (time : Nat) (queue : WorkQueue κ) : WorkQueue κ :=
  (dueTimers queue time).foldl WorkQueue.fire queue

/-- The next deadline of a timer. -/
def nextDeadline (queue : WorkQueue κ) : Option Nat :=
  Clock.earliest (queue.timers.map Timer.deadline)

/-- Lets time pass up to a point. -/
def advanceTo (target : Nat) (timed : TimedQueue κ) : TimedQueue κ :=
  let timed := Clock.run (fun timed => nextDeadline timed.queue)
    (fun due timed =>
      { timed with now := due }.update (fireDue due)) target timed.now timed
  { timed with now := max timed.now target }

/-- Lets some time pass. -/
def advance (timed : TimedQueue κ) (span : Duration) : TimedQueue κ :=
  timed.advanceTo (timed.now + span.nanos)

/-- Takes a key when one is there for a worker that comes last: none when the
queue is empty, and within the option none when it has shut down for good. -/
def tryTake (timed : TimedQueue κ) : Option (Option κ) × TimedQueue κ :=
  match timed.queue.take? with
  | some (key, queue) => (some (some key), { timed with queue })
  | none => (if timed.queue.closed then some none else none, timed)

/-- Waits for a key up to a point in time.  A key that comes at that very
point comes too late. -/
def takeBefore (target : Nat) (timed : TimedQueue κ) :
    Option (Option κ) × TimedQueue κ :=
  let start := timed.tryTake
  let waited := Clock.run
    (fun (state : Option (Option κ) × TimedQueue κ) =>
      match state.1 with
      | some _ => none
      | none => (nextDeadline state.2.queue).filter (· < target))
    (fun due state =>
      ({ state.2 with now := due }.update (fireDue due)).tryTake)
    target timed.now start
  match waited with
  | (some taken, timed) => (some taken, timed)
  | (none, timed) => (none, timed.advanceTo target)

/-- Waits for a key for some time. -/
def take (timed : TimedQueue κ) (span : Duration) :
    Option (Option κ) × TimedQueue κ :=
  timed.takeBefore (timed.now + span.nanos)

end TimedQueue

end SwapWarden
