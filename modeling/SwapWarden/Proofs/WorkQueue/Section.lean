import SwapWarden.Ceiling.Reconcile
import SwapWarden.Program

/-!
# Locked sections of the work queue

An operation on the work queue is one or several sections, each of which holds
the lock of the queue, and between two sections of one operation those of
others may happen.  Here the operations are programs that ask the queue for
one section after another.  An operation that nothing interrupts does what the
function of the same name does.
-/

namespace SwapWarden

variable {κ : Type} [DecidableEq κ]

/-- What an operation asks of a queue.  All but the reading of the clock is
answered under the lock. -/
inductive QueueRequest (κ : Type) where
  | readClock
  | add (key : κ)
  | await (key : κ) (deadline : Nat)
  | expire (timer : Timer κ)
  | countRetry (key : κ)
  | take
  | done (key : κ)
  | forget (key : κ)
  | close
  deriving DecidableEq

namespace QueueRequest

/-- What each request is answered with. -/
def Answer : QueueRequest κ → Type
  | readClock => Nat
  | add _ => Unit
  | await _ _ => Unit
  | expire _ => Bool
  | countRetry _ => Duration
  | take => Option κ
  | done _ => Unit
  | forget _ => Unit
  | close => Unit

end QueueRequest

namespace WorkQueue

/-- What a queue answers at a time. -/
def answer (queue : WorkQueue κ) (now : Nat) :
    (request : QueueRequest κ) → request.Answer
  | .readClock => now
  | .add _ => ()
  | .await _ _ => ()
  | .expire timer => (queue.expire timer).2
  | .countRetry key => (queue.countRetry key).2
  | .take => queue.take?.map Prod.fst
  | .done _ => ()
  | .forget _ => ()
  | .close => ()

/-- The queue after the section that answers a request. -/
def after (queue : WorkQueue κ) : QueueRequest κ → WorkQueue κ
  | .readClock => queue
  | .add key => queue.add key
  | .await key deadline => queue.await key deadline
  | .expire timer => (queue.expire timer).1
  | .countRetry key => (queue.countRetry key).1
  | .take => (queue.take?.map Prod.snd).getD queue
  | .done key => queue.done key
  | .forget key => queue.forget key
  | .close => queue.close

theorem closed_after {queue : WorkQueue κ} {request : QueueRequest κ}
    (staysOpen : request ≠ .close) :
    (queue.after request).closed = queue.closed := by
  cases request with
  | add key =>
      change (queue.add key).closed = queue.closed
      unfold add
      split
      · rfl
      · split
        · rfl
        · rfl
  | await key deadline =>
      change (queue.await key deadline).closed = queue.closed
      unfold await
      split
      · rfl
      · rfl
  | expire timer =>
      change (queue.expire timer).1.closed = queue.closed
      unfold expire
      dsimp only
      split
      · rfl
      · rfl
  | take =>
      cases front : queue.ready with
      | nil => simp [after, take?, front]
      | cons key rest => simp [after, take?, front]
  | readClock => rfl
  | countRetry key => rfl
  | done key => rfl
  | forget key => rfl
  | close => exact absurd rfl staysOpen

end WorkQueue

/-- What is left of an operation, section by section. -/
abbrev QueueScript (κ : Type) : Type :=
  Program (QueueRequest κ) QueueRequest.Answer Unit

namespace QueueScript

def ask (request : QueueRequest κ) :
    Program (QueueRequest κ) QueueRequest.Answer request.Answer :=
  Program.request request

def add (key : κ) : QueueScript κ := ask (.add key)

/-- The deadline is reckoned before the lock is held. -/
def addAfter (key : κ) (delay : Duration) : QueueScript κ :=
  if delay.nanos = 0 then add key
  else (ask .readClock).bind fun (now : Nat) =>
    ask (.await key (now + delay.nanos))

def fire (timer : Timer κ) : QueueScript κ :=
  (ask (.expire timer)).bind fun (isDue : Bool) =>
    if isDue then add timer.key else .done ()

def retry (key : κ) : QueueScript κ :=
  (ask (.countRetry key)).bind fun (delay : Duration) => addAfter key delay

def follow (key : κ) : FollowUp → QueueScript κ
  | .forget => ask (.forget key)
  | .backOff => retry key
  | .immediate => add key

/-- What a worker does for its next key, whose pod has the given outcome. -/
def work (outcome : κ → FollowUp) : QueueScript κ :=
  (ask .take).bind fun (taken : Option κ) =>
    match taken with
    | none => .done ()
    | some key => (follow key (outcome key)).bind fun _ => ask (.done key)

/-- The queue after a script that nothing interrupted. -/
def alone (now : Nat) (script : QueueScript κ) (queue : WorkQueue κ) :
    WorkQueue κ :=
  (Program.run (fun request queue =>
    (queue.answer now request, queue.after request)) script queue).2

theorem alone_ask (now : Nat) (request : QueueRequest κ)
    (next : request.Answer → QueueScript κ) (queue : WorkQueue κ) :
    alone now (Program.ask request next) queue =
      (next (queue.answer now request)).alone now (queue.after request) :=
  rfl

theorem alone_bind (now : Nat) (script : QueueScript κ)
    (next : Unit → QueueScript κ) (queue : WorkQueue κ) :
    alone now (script.bind next) queue =
      (next ()).alone now (script.alone now queue) :=
  congrArg Prod.snd (Program.run_bind _ script next queue)

theorem alone_addAfter (now : Nat) (key : κ) (delay : Duration)
    (queue : WorkQueue κ) :
    (addAfter key delay).alone now queue = queue.addAfter now key delay := by
  unfold addAfter WorkQueue.addAfter
  split
  · rfl
  · rfl

theorem alone_fire (now : Nat) (timer : Timer κ) (queue : WorkQueue κ) :
    (fire timer).alone now queue = queue.fire timer := by
  have opened : (fire timer).alone now queue =
      (if (queue.expire timer).2 then add timer.key else .done ()).alone now
        (queue.expire timer).1 := rfl
  rw [opened]
  unfold WorkQueue.fire
  rcases expired : queue.expire timer with ⟨rest, isDue⟩
  cases isDue with
  | true => rfl
  | false => rfl

theorem alone_retry (now : Nat) (key : κ) (queue : WorkQueue κ) :
    (retry key).alone now queue = queue.retry now key :=
  alone_addAfter now key (queue.countRetry key).2 (queue.countRetry key).1

theorem alone_follow (now : Nat) (key : PodKey) (followUp : FollowUp)
    (queue : WorkQueue PodKey) :
    (follow key followUp).alone now queue = queue.follow now key followUp := by
  cases followUp with
  | forget => rfl
  | backOff => exact alone_retry now key queue
  | immediate => rfl

/-- A worker that nothing interrupts takes the next key, lets follow what its
outcome asks for and ends the work on it. -/
theorem alone_work (now : Nat) (outcome : PodKey → FollowUp)
    (queue : WorkQueue PodKey) :
    (work outcome).alone now queue =
      match queue.take? with
      | none => queue
      | some (key, rest) =>
          (rest.follow now key (outcome key)).done key := by
  cases taken : queue.take? with
  | none =>
      have answered : queue.answer now .take = none :=
        congrArg (Option.map Prod.fst) taken
      have untouched : queue.after .take = queue :=
        congrArg (fun handout => (handout.map Prod.snd).getD queue) taken
      refine (alone_ask now .take _ queue).trans ?_
      rw [answered, untouched]
      rfl
  | some handout =>
      obtain ⟨key, rest⟩ := handout
      have answered : queue.answer now .take = some key :=
        congrArg (Option.map Prod.fst) taken
      have left : queue.after .take = rest :=
        congrArg (fun handout => (handout.map Prod.snd).getD queue) taken
      have followed := alone_follow now key (outcome key) rest
      refine (alone_ask now .take _ queue).trans ?_
      rw [answered, left]
      refine (alone_bind now (follow key (outcome key)) _ rest).trans ?_
      rw [followed]
      rfl

end QueueScript

/-- An operation that may begin at any time.  Timers too may fire at any time;
one that is not waited for does nothing. -/
inductive QueueOperation (κ : Type) where
  | add (key : κ)
  | addAfter (key : κ) (delay : Duration)
  | retry (key : κ)
  | fire (timer : Timer κ)
  | take
  | done (key : κ)
  | forget (key : κ)
  | close
  | work (outcome : κ → FollowUp)

namespace QueueOperation

/-- The sections of an operation. -/
def script : QueueOperation κ → QueueScript κ
  | add key => .add key
  | addAfter key delay => .addAfter key delay
  | retry key => .retry key
  | fire timer => .fire timer
  | take => (QueueScript.ask .take).bind fun _ => .done ()
  | done key => QueueScript.ask (.done key)
  | forget key => QueueScript.ask (.forget key)
  | close => QueueScript.ask .close
  | work outcome => .work outcome

end QueueOperation

end SwapWarden
