import SwapWarden.Ceiling.Reconcile
import SwapWarden.Report.Health
import SwapWarden.Simulation.Agenda
import SwapWarden.WorkQueue.Timed

/-!
# The swap ceiling loop in virtual time

Workers take pods from the queue and bring their ceilings in line; at once and
then once every period all cached pods of the node are queued again.  The pods,
the runtime's answers and the files are held in memory, and work takes no time.
A loop without a period breaks down once its workers have started, and they
stay behind.
-/

namespace SwapWarden.Simulation

/-- The ceiling loop and its collaborators, with the containers asked for so
far.  The coming turns of the loops are put down each with the delays that keys
of the queue were waiting for then; staffed means that workers take keys. -/
structure Ceilings where
  settings : CeilingSettings
  cache : Table PodKey Pod := Table.empty
  pids : Table String Nat := Table.empty
  tree : FileTree := {}
  timed : TimedQueue PodKey := { queue := {} }
  journal : Journal := {}
  health : HealthRegistry := {}
  asked : List String := []
  agenda : Agenda (List (Timer PodKey)) := {}
  started : Bool := false
  staffed : Bool := false
  deriving Inhabited

namespace Ceilings

/-- The process of a container the runtime knows. -/
def processes (ceilings : Ceilings) : ProcessLookup := fun id =>
  match ceilings.pids.get? id with
  | some pid => .ok pid
  | none => .error (.runtime (.reported ("unknown container " ++ id)))

/-- Changes the queue. -/
def requeue (ceilings : Ceilings)
    (change : WorkQueue PodKey → WorkQueue PodKey) : Ceilings :=
  { ceilings with timed := ceilings.timed.update change }

/-- Shows how many pods are queued. -/
def showDepth (ceilings : Ceilings) : Ceilings :=
  { ceilings with
    journal := ceilings.journal.measure
      (·.setQueueDepth ceilings.timed.queue.size) }

/-- Queues a pod of this node. -/
def enqueue (ceilings : Ceilings) (pod : Pod) : Ceilings :=
  if pod.isOnNode ceilings.settings.nodeName then
    ceilings.requeue (·.add pod.key)
  else
    ceilings

/-- Queues all cached pods of this node. -/
def enqueueAll (ceilings : Ceilings) : Ceilings :=
  (ceilings.cache.values.foldl enqueue ceilings).showDepth

/-- Looks at the pod of a key. -/
def reconcile (ceilings : Ceilings) (key : PodKey) :
    Except Fault FollowUp × Ceilings :=
  let report := ceilings.settings.reconcile ceilings.processes ceilings.tree
    (ceilings.cache.get? key)
  (report.result, { ceilings with
    tree := report.tree
    asked := ceilings.asked ++ report.attempts.map Attempt.id
    journal := report.tellIn
      (((ceilings.cache.get? key).map Pod.key).getD key) ceilings.journal })

/-- Lets follow what the outcome of a key's pod asks for. -/
def follow (ceilings : Ceilings) (key : PodKey) (followUp : FollowUp) :
    Ceilings :=
  ceilings.requeue (·.follow ceilings.timed.now key followUp)

/-- What a worker does with a key it was handed. -/
def work (ceilings : Ceilings) (key : PodKey) : Ceilings :=
  let (result, ceilings) := ceilings.reconcile key
  let ceilings := { ceilings with
    journal := ceilings.journal.measure (·.observe 0) }
  let ceilings := ceilings.follow key (.ofResult result)
  let ceilings := (ceilings.requeue (·.done key)).showDepth
  { ceilings with
    health := ceilings.health.report Component.ceilingLoop
      (result.map (fun _ => ())) }

/-- Waits for a key for some time and works on it: false when the queue has
shut down, and nothing when no key came. -/
def processNext (ceilings : Ceilings) (span : Duration) :
    Option Bool × Ceilings :=
  match ceilings.timed.take span with
  | (some (some key), timed) =>
      (some true, { ceilings with timed }.work key)
  | (some none, timed) => (some false, { ceilings with timed })
  | (none, timed) => (none, { ceilings with timed })

/-- Works on up to `count` keys. -/
def drain : (count : Nat) → Ceilings → Ceilings
  | 0, ceilings => ceilings
  | count + 1, ceilings =>
      match ceilings.timed.queue.take? with
      | some (key, queue) =>
          drain count
            ({ ceilings with
              timed := { ceilings.timed with queue } }.work key)
      | none => ceilings

/-- Lets the workers, if there are any, work on all keys that are ready.  No
key becomes ready meanwhile. -/
def settle (ceilings : Ceilings) : Ceilings :=
  if ceilings.staffed then drain ceilings.timed.queue.size ceilings
  else ceilings

/-- Queues all pods and puts down the next turn. -/
def turn (ceilings : Ceilings) : Ceilings :=
  let ceilings := ceilings.enqueueAll
  { ceilings with
    agenda := ceilings.agenda.put
      (ceilings.timed.now + ceilings.settings.resync.nanos)
      ceilings.timed.queue.timers }

/-- Ends the delays that are over at a time and of which a condition holds. -/
def endDelays (time : Nat) (among : Timer PodKey → Bool)
    (ceilings : Ceilings) : Ceilings :=
  ceilings.requeue (fun queue =>
    ((TimedQueue.dueTimers queue time).filter among).foldl
      WorkQueue.fire queue)

/-- Everything that is due at a time: delays and turns in the order in which
they were put down. -/
def happen (time : Nat) (ceilings : Ceilings) : Ceilings :=
  let (turns, agenda) := ceilings.agenda.takeDue time
  let ceilings := { ceilings with
    agenda, timed := { ceilings.timed with now := time } }
  let ceilings := turns.foldl (fun ceilings earlier =>
    (ceilings.endDelays time (fun timer => earlier.contains timer)).turn)
    ceilings
  (ceilings.endDelays time (fun _ => true)).settle

/-- The next time at which something is due. -/
def nextDue (ceilings : Ceilings) : Option Nat :=
  Clock.earlier (TimedQueue.nextDeadline ceilings.timed.queue)
    ceilings.agenda.next

/-- Lets some time pass. -/
def advance (ceilings : Ceilings) (span : Duration) : Ceilings :=
  let target := ceilings.timed.now + span.nanos
  let ceilings :=
    Clock.run nextDue happen target ceilings.timed.now ceilings.settle
  { ceilings with timed := { ceilings.timed with now := target } }

/-- Whether a loop can begin. -/
def begins (ceilings : Ceilings) : Bool :=
  decide (ceilings.settings.resync.nanos ≠ 0)

/-- Starts workers and a loop; those that run go on beside them. -/
def spawn (ceilings : Ceilings) : Ceilings :=
  let ceilings := { ceilings with started := true, staffed := true }
  (if ceilings.begins then ceilings.turn else ceilings).settle

/-- Stops all loops, shuts the queue down and lets the workers finish, unless
their loop broke down; tells whether any loops were started. -/
def stop (ceilings : Ceilings) : Bool × Ceilings :=
  let stopped :=
    if ceilings.started && ceilings.begins then
      { (ceilings.requeue WorkQueue.close).settle with
        agenda := {}, staffed := false }
    else
      ceilings
  (ceilings.started, { stopped with started := false })

end Ceilings

end SwapWarden.Simulation
