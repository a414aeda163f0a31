import SwapWarden.Proofs.WorkQueue.Calls
import SwapWarden.Proofs.WorkQueue.Delay

/-!
# A key waits for its earliest deadline

Timers of deadlines that were replaced stay live, and a key may wait again
while they do.  The deadline of a key is nevertheless the least of those that
were asked for in its present wait.  A wait ends when a timer of just that
deadline fires, or when the queue shuts down, and the timer that ended it adds
the key once.
-/

namespace SwapWarden

variable {κ : Type}

/-! ## The deadline of a key -/

section

variable [DecidableEq κ]

def WorkQueue.isWaiting (queue : WorkQueue κ) (key : κ) : Bool :=
  (queue.waiting.get? key).isSome

namespace QueueTurn

/-- The deadlines asked for in the present wait of a key, latest first. -/
def askedAfter (key : κ) (asked : List Nat) (turn : QueueTurn κ) : List Nat :=
  if (turn.queue.after turn.request).isWaiting key = true then
    match turn.request with
    | .await other deadline =>
        if other = key then deadline :: asked else asked
    | _ => asked
  else
    []

def beginsWait (key : κ) (turn : QueueTurn κ) : Bool :=
  !turn.queue.isWaiting key && (turn.queue.after turn.request).isWaiting key

def endsWait (key : κ) (turn : QueueTurn κ) : Bool :=
  turn.queue.isWaiting key && !(turn.queue.after turn.request).isWaiting key

/-- The key whose wait a timer ends. -/
def fired? (turn : QueueTurn κ) : Option κ :=
  match turn.request with
  | .expire timer =>
      if turn.queue.waiting.get? timer.key = some timer.deadline then
        some timer.key
      else none
  | _ => none

/-- Whether shutting down ends the wait of a key. -/
def clears (key : κ) (turn : QueueTurn κ) : Bool :=
  match turn.request with
  | .close => turn.queue.isWaiting key
  | _ => false

variable {turn : QueueTurn κ}

theorem askedAfter_of_not_waiting {key : κ} {asked : List Nat}
    (after : (turn.queue.after turn.request).waiting.get? key = none) :
    turn.askedAfter key asked = [] := by
  simp [askedAfter, WorkQueue.isWaiting, after]

theorem askedAfter_of_unasked {key : κ} {asked : List Nat}
    (unasked : ∀ deadline, turn.request ≠ .await key deadline)
    (known : turn.queue.waiting.get? key = asked.min?)
    (same : (turn.queue.after turn.request).waiting.get? key =
      turn.queue.waiting.get? key) :
    turn.askedAfter key asked = asked := by
  unfold askedAfter
  split
  · split
    · rename_i other deadline isAwait
      have different : other ≠ key := by
        rintro rfl
        exact unasked deadline isAwait
      exact if_neg different
    · rfl
  · rename_i notWaiting
    have nothing : asked.min? = none := by
      rw [← known, ← same]
      simpa [WorkQueue.isWaiting] using notWaiting
    exact (List.min?_eq_none_iff.mp nothing).symm

/-- The deadline of a key is the least of those asked for. -/
theorem min?_askedAfter (quiet : turn.queue.Quiet) {key : κ}
    {asked : List Nat} (known : turn.queue.waiting.get? key = asked.min?) :
    (turn.queue.after turn.request).waiting.get? key =
      (turn.askedAfter key asked).min? := by
  rcases turn with ⟨queue, request⟩
  have move : queue.WaitMove key request := quiet.waitMove key request
  cases move with
  | idle _ before after =>
      rw [askedAfter_of_not_waiting after]
      exact after
  | kept unasked _ _ same =>
      rw [askedAfter_of_unasked unasked known same]
      exact same.trans known
  | asked deadline sooner =>
      have noted : askedAfter key asked ⟨queue, .await key deadline⟩ =
          deadline :: asked := by
        simp [askedAfter, WorkQueue.isWaiting, sooner]
      rw [noted, List.min?_cons, ← known]
      exact sooner
  | fired deadline due after =>
      rw [askedAfter_of_not_waiting after]
      exact after
  | cleared =>
      have after : (queue.after .close).waiting.get? key = none := rfl
      rw [askedAfter_of_not_waiting after]
      exact after

theorem clears_or_fired (quiet : turn.queue.Quiet) {key : κ}
    (ends : turn.endsWait key = true) :
    turn.clears key = true ∨ turn.fired? = some key := by
  rcases turn with ⟨queue, request⟩
  have move : queue.WaitMove key request := quiet.waitMove key request
  simp only [endsWait, Bool.and_eq_true] at ends
  obtain ⟨waited, waitsNoMore⟩ := ends
  cases move with
  | idle _ before after => simp [WorkQueue.isWaiting, before] at waited
  | kept _ _ _ same =>
      simp only [WorkQueue.isWaiting] at waited waitsNoMore
      simp [same, waited] at waitsNoMore
  | asked deadline sooner => simp [WorkQueue.isWaiting, sooner] at waitsNoMore
  | fired deadline due after => exact .inr (if_pos due)
  | cleared => exact .inl waited

theorem fired_of_not_waiting {key : κ}
    (idle : turn.queue.waiting.get? key = none) : turn.fired? ≠ some key := by
  unfold fired?
  split
  · split
    · rename_i timer _ due
      intro same
      rw [Option.some.injEq] at same
      rw [same, idle] at due
      cases due
    · intro same
      cases same
  · intro same
    cases same

theorem fired_of_unfired {key : κ}
    (unfired : ∀ deadline, turn.queue.waiting.get? key = some deadline →
      turn.request ≠ .expire ⟨key, deadline⟩) : turn.fired? ≠ some key := by
  unfold fired?
  split
  · split
    · rename_i timer isExpire due
      intro same
      rw [Option.some.injEq] at same
      subst same
      exact unfired timer.deadline due isExpire
    · intro same
      cases same
  · intro same
    cases same

theorem waits_balance (quiet : turn.queue.Quiet) (key : κ) :
    (turn.queue.isWaiting key).toNat + (turn.beginsWait key).toNat =
      (turn.clears key).toNat + turn.fired?.toList.count key +
        ((turn.queue.after turn.request).isWaiting key).toNat := by
  have unfired (other : turn.fired? ≠ some key) :
      turn.fired?.toList.count key = 0 := by
    apply List.count_eq_zero_of_not_mem
    simpa using other
  rcases turn with ⟨queue, request⟩
  have move : queue.WaitMove key request := quiet.waitMove key request
  cases move with
  | idle _ before after =>
      rw [unfired (fired_of_not_waiting before)]
      cases request with
      | close => simp [beginsWait, clears, WorkQueue.isWaiting, before, after]
      | _ => simp [beginsWait, clears, WorkQueue.isWaiting, before, after]
  | kept _ notFired staysOpen same =>
      rw [unfired (fired_of_unfired notFired)]
      have uncleared : clears key ⟨queue, request⟩ = false := by
        unfold clears
        split
        · rename_i closes
          exact absurd closes staysOpen
        · rfl
      rw [uncleared]
      simp [beginsWait, WorkQueue.isWaiting, same]
  | asked deadline sooner =>
      cases pending : queue.waiting.get? key with
      | none =>
          simp [beginsWait, clears, fired?, WorkQueue.isWaiting, sooner, pending]
      | some _ =>
          simp [beginsWait, clears, fired?, WorkQueue.isWaiting, sooner, pending]
  | fired deadline due after =>
      simp [beginsWait, clears, fired?, WorkQueue.isWaiting, due, after]
  | cleared =>
      have after : (queue.after .close).waiting.get? key = none := rfl
      simp [beginsWait, clears, fired?, WorkQueue.isWaiting, after]

end QueueTurn

end

namespace QueueSystem

variable [DecidableEq κ] {first last : QueueSystem κ}
  {turns : List (QueueTurn κ)}

/-- Every wait has its timer, and none is left once the queue shut down. -/
structure Timed (system : QueueSystem κ) : Prop where
  armed : system.queue.Armed
  quiet : system.queue.Quiet

theorem timed_start (backoff : Backoff) :
    (start backoff : QueueSystem κ).Timed := by
  constructor
  · intro key deadline waiting
    cases waiting
  · intro closed
    cases closed

theorem Step.timed {system next : QueueSystem κ} {turn : Option (QueueTurn κ)}
    (step : Step system turn next) (timed : system.Timed) : next.Timed := by
  cases turn with
  | none =>
      have same := step.of_none.1
      constructor
      · exact same ▸ timed.armed
      · exact same ▸ timed.quiet
  | some turn =>
      obtain ⟨found, _, left, _⟩ := step.of_turn
      rw [found] at left
      constructor
      · exact left ▸ timed.armed.after turn.request
      · exact left ▸ timed.quiet.after turn.request

theorem Run.timed (run : Run first turns last) (timed : first.Timed) :
    last.Timed :=
  run.invariant timed (fun known step => step.timed known)

theorem Step.quiet {system next : QueueSystem κ} {turn : QueueTurn κ}
    (step : Step system (some turn) next) (timed : system.Timed) :
    turn.queue.Quiet :=
  step.of_turn.1 ▸ timed.quiet

/-- The deadline of a key is the least of those asked for in a run. -/
theorem Run.deadline_eq (run : Run first turns last) (timed : first.Timed)
    {key : κ} {asked : List Nat}
    (known : first.queue.waiting.get? key = asked.min?) :
    last.queue.waiting.get? key =
      (turns.foldl (QueueTurn.askedAfter key) asked).min? := by
  induction run with
  | refl => exact known
  | @tail middle last turns turn run step induction =>
      cases turn with
      | none => simpa [step.of_none.1] using induction
      | some turn =>
          obtain ⟨found, _, left, _⟩ := step.of_turn
          rw [Option.toList_some, List.foldl_concat, left]
          apply QueueTurn.min?_askedAfter (step.quiet (Run.timed run timed))
          rw [found]
          exact induction

theorem Run.waits_balance (run : Run first turns last) (timed : first.Timed)
    (key : κ) :
    (first.queue.isWaiting key).toNat +
        turns.countP (QueueTurn.beginsWait key) =
      turns.countP (QueueTurn.clears key) +
        (turns.filterMap QueueTurn.fired?).count key +
        (last.queue.isWaiting key).toNat := by
  induction run with
  | refl => simp
  | @tail middle last turns turn run step induction =>
      cases turn with
      | none => simpa [step.of_none.1] using induction
      | some turn =>
          obtain ⟨found, _, left, _⟩ := step.of_turn
          have quiet := step.quiet (Run.timed run timed)
          have moved := QueueTurn.waits_balance quiet key
          rw [← left, found] at moved
          rw [List.countP_append, List.countP_append, List.filterMap_append,
            List.count_append, filterMap_toList]
          have counted (moves : Bool) :
              (if moves = true then 1 else 0) = moves.toNat := by
            cases moves with
            | false => rfl
            | true => rfl
          simp only [Option.toList_some, List.countP_singleton, counted]
          omega

end QueueSystem

/-! ## Who ends a wait -/

def QueueRequest.isExpire : QueueRequest κ → Bool
  | .expire _ => true
  | _ => false

def QueueOperation.isFire : QueueOperation κ → Bool
  | .fire _ => true
  | _ => false

namespace QueueScript

/-- What is left to do ends no wait, whatever it is answered. -/
inductive Untimed : QueueScript κ → Prop where
  | done : Untimed (.done ())
  | ask {request : QueueRequest κ} {next : request.Answer → QueueScript κ}
      (other : request.isExpire = false)
      (follows : ∀ answer, Untimed (next answer)) :
      Untimed (Program.ask request next)

theorem Untimed.bind {script : QueueScript κ} {next : Unit → QueueScript κ}
    (first : Untimed script) (later : Untimed (next ())) :
    Untimed (script.bind next) := by
  induction first with
  | done => exact later
  | ask other _ induction => exact .ask other induction

theorem untimed_addAfter (key : κ) (delay : Duration) :
    Untimed (addAfter key delay) := by
  unfold addAfter
  split
  · exact .ask rfl fun _ => .done
  · exact .ask rfl fun _ => .ask rfl fun _ => .done

theorem untimed_retry (key : κ) : Untimed (retry key) := by
  refine .ask rfl fun (delay : Duration) => ?_
  exact untimed_addAfter key delay

theorem untimed_follow (key : κ) (followUp : FollowUp) :
    Untimed (follow key followUp) := by
  cases followUp with
  | forget => exact .ask rfl fun _ => .done
  | backOff => exact untimed_retry key
  | immediate => exact .ask rfl fun _ => .done

theorem untimed_work (outcome : κ → FollowUp) : Untimed (work outcome) := by
  refine .ask rfl fun (taken : Option κ) => ?_
  cases taken with
  | none => exact .done
  | some key =>
      refine (untimed_follow key (outcome key)).bind ?_
      exact .ask rfl fun _ => .done

theorem untimed_script {operation : QueueOperation κ}
    (other : operation.isFire = false) : Untimed operation.script := by
  cases operation with
  | fire timer => cases other
  | addAfter key delay => exact untimed_addAfter key delay
  | retry key => exact untimed_retry key
  | work outcome => exact untimed_work outcome
  | _ => exact .ask rfl fun _ => .done

end QueueScript

namespace Call

/-- All that a call can have left to do, as far as timers go. -/
inductive Stage : Call κ → Prop where
  | untimed {call : Call κ} (other : call.operation.isFire = false)
      (untimed : QueueScript.Untimed call.rest) : Stage call
  | begun (timer : Timer κ) (served : Bool) :
      Stage ⟨.fire timer, .fire timer, served⟩
  | owing (timer : Timer κ) (served : Bool) :
      Stage ⟨.fire timer, .add timer.key, served⟩
  | ended (timer : Timer κ) (served : Bool) :
      Stage ⟨.fire timer, .done (), served⟩

theorem Stage.begin (operation : QueueOperation κ) :
    Stage (Call.begin operation) := by
  cases fires : operation.isFire with
  | false => exact .untimed fires (QueueScript.untimed_script fires)
  | true =>
      cases operation with
      | fire timer => exact .begun timer false
      | _ => cases fires

/-- The key that a timer whose wait ended has still to add. -/
def owed? (call : Call κ) : Option κ :=
  match call.operation, call.rest with
  | .fire _, Program.ask (.add key) _ => some key
  | _, _ => none

theorem owed_begin (operation : QueueOperation κ) :
    (Call.begin operation).owed? = none := by
  cases operation with
  | _ => rfl

theorem owed_of_other {call : Call κ}
    (other : call.operation.isFire = false) : call.owed? = none := by
  unfold owed?
  split
  · rename_i fires _
    rw [fires] at other
    cases other
  · rfl

end Call

namespace CallTurn

/-- The key that a timer adds. -/
def timerAdds? (turn : CallTurn κ) : Option κ :=
  match turn.call.operation, turn.request with
  | .fire _, .add key => some key
  | _, _ => none

theorem timerAdds_of_other {turn : CallTurn κ}
    (other : turn.call.operation.isFire = false) :
    turn.timerAdds? = none := by
  unfold timerAdds?
  split
  · rename_i fires _
    rw [fires] at other
    cases other
  · rfl

end CallTurn

variable [DecidableEq κ]

namespace CallEvent

/-- The key whose wait a timer ends. -/
def fired? (event : CallEvent κ) : Option κ :=
  event.call?.bind fun turn => turn.fired?

/-- The key that a timer adds. -/
def timerAdds? (event : CallEvent κ) : Option κ :=
  event.call?.bind CallTurn.timerAdds?

end CallEvent

theorem QueueTurn.of_clears {turn : QueueTurn κ} {key : κ}
    (clears : turn.clears key = true) : turn.request = .close := by
  unfold QueueTurn.clears at clears
  split at clears
  · rename_i isClose
    exact isClose
  · cases clears

theorem QueueTurn.of_fired {turn : QueueTurn κ} {key : κ}
    (fired : turn.fired? = some key) :
    ∃ deadline, turn.request = .expire ⟨key, deadline⟩ ∧
      turn.queue.waiting.get? key = some deadline := by
  unfold fired? at fired
  split at fired
  · split at fired
    · rename_i timer isExpire due
      rw [Option.some.injEq] at fired
      subst fired
      exact ⟨timer.deadline, isExpire, due⟩
    · cases fired
  · cases fired

theorem QueueTurn.fired_of_other {turn : QueueTurn κ}
    (other : turn.request.isExpire = false) : turn.fired? = none := by
  unfold fired?
  split
  · rename_i isExpire
    rw [isExpire] at other
    cases other
  · rfl

/-- What a section that is given to a call does about timers. -/
structure CallTurn.Punctual (turn : CallTurn κ) : Prop where
  staged : turn.left.Stage
  fires : ∀ timer, turn.request = .expire timer →
    turn.call.operation = .fire timer ∧
      turn.left.rest =
        if turn.queue.waiting.get? timer.key = some timer.deadline then
          QueueScript.add timer.key
        else .done ()
  adds : ∀ key, turn.timerAdds? = some key → turn.left.rest = .done ()
  balance : turn.call.owed?.toList ++ turn.fired?.toList =
    turn.timerAdds?.toList ++ turn.left.owed?.toList

theorem Call.Stage.punctual {call : Call κ} (stage : call.Stage)
    {request : QueueRequest κ} {next : request.Answer → QueueScript κ}
    (asks : call.rest = Program.ask request next) (queue : WorkQueue κ)
    (now : Nat) :
    CallTurn.Punctual ⟨⟨queue, request⟩, call,
      call.resume request next (queue.answer now request)⟩ := by
  cases stage with
  | untimed other untimed =>
      rw [asks] at untimed
      cases untimed with
      | ask unexpired follows =>
          have left : (call.resume request next
              (queue.answer now request)).operation.isFire = false := other
          constructor
          · exact .untimed left (follows _)
          · rintro timer rfl
            cases unexpired
          · intro key adds
            rw [CallTurn.timerAdds_of_other other] at adds
            cases adds
          · rw [owed_of_other other, QueueTurn.fired_of_other unexpired,
              CallTurn.timerAdds_of_other other, owed_of_other left]
  | begun timer served =>
      cases asks
      by_cases due : queue.waiting.get? timer.key = some timer.deadline
      · have isDue : queue.answer now (.expire timer) = true :=
          WorkQueue.expire_due due
        rw [isDue]
        constructor
        · exact .owing timer served
        · rintro _ ⟨⟩
          exact ⟨rfl, (if_pos due).symm⟩
        · intro key adds
          cases adds
        · have fired : QueueTurn.fired? ⟨queue, .expire timer⟩ =
              some timer.key := if_pos due
          exact congrArg Option.toList fired
      · have notDue : queue.answer now (.expire timer) = false :=
          congrArg Prod.snd (WorkQueue.expire_stale due)
        rw [notDue]
        constructor
        · exact .ended timer served
        · rintro _ ⟨⟩
          exact ⟨rfl, (if_neg due).symm⟩
        · intro key adds
          cases adds
        · have unfired : QueueTurn.fired? ⟨queue, .expire timer⟩ = none :=
            if_neg due
          exact congrArg Option.toList unfired
  | owing timer served =>
      cases asks
      constructor
      · exact .ended timer served
      · intro timer isExpire
        cases isExpire
      · intro key adds
        rfl
      · rfl
  | ended timer served => cases asks

namespace CallSystem

variable {first last system next : CallSystem κ} {events : List (CallEvent κ)}

def Staged (system : CallSystem κ) : Prop :=
  ∀ call ∈ system.calls, call.Stage

theorem Step.staged {event : Option (CallEvent κ)}
    (step : Step system event next) (staged : system.Staged) :
    next.Staged := by
  refine step.forall_calls .begin ?_ ?_ staged
  · intro call request follows stage asks
    exact (stage.punctual asks system.queue system.now).staged
  · intro call former stage works finished
    refine .untimed ?_ ?_
    · simp [works, QueueOperation.isFire]
    · simp [finished, QueueScript.Untimed.done]

theorem Run.staged (run : Run first events last) (staged : first.Staged) :
    last.Staged :=
  run.invariant staged (fun known step => step.staged known)

theorem Step.punctual {turn : CallTurn κ}
    (step : Step system (some (.turn turn)) next) (staged : system.Staged) :
    turn.Punctual := by
  cases step with
  | turn present asks permitted =>
      exact (staged _ (by simp [present])).punctual asks system.queue system.now

theorem count_owed (before rest : List (Call κ)) (call : Call κ) (key : κ) :
    ((before ++ call :: rest).filterMap Call.owed?).count key =
      call.owed?.toList.count key +
        ((before ++ rest).filterMap Call.owed?).count key := by
  have apart : (call :: (before ++ rest)).filterMap Call.owed? =
      call.owed?.toList ++ (before ++ rest).filterMap Call.owed? := by
    rw [List.filterMap_cons]
    cases call.owed? with
    | none => rfl
    | some owed => rfl
  rw [(List.perm_middle.filterMap Call.owed?).count_eq, apart,
    List.count_append]

theorem Step.timers_balance {event : Option (CallEvent κ)}
    (step : Step system event next) (staged : system.Staged) (key : κ) :
    (system.calls.filterMap Call.owed?).count key +
        (event.bind CallEvent.fired?).toList.count key =
      (event.bind CallEvent.timerAdds?).toList.count key +
        (next.calls.filterMap Call.owed?).count key := by
  cases step with
  | start operation => simp [Call.owed_begin]
  | pass span => simp
  | @turn call request follows before rest present asks permitted =>
      have punctual := (staged call (by simp [present])).punctual asks
        system.queue system.now
      have balance := congrArg (List.count key) punctual.balance
      rw [List.count_append, List.count_append] at balance
      rw [present, given, count_owed, count_owed]
      simp only [Option.bind_some, CallEvent.fired?, CallEvent.timerAdds?,
        CallEvent.call?_turn] at balance ⊢
      omega
  | @again call before rest former outcome present works finished served =>
      have kept : Call.owed? { call with served := false } = call.owed? := rfl
      have silent : ∀ calls : List (Call κ),
          (Call.begin (.work outcome) :: calls).filterMap Call.owed? =
            calls.filterMap Call.owed? := by
        intro calls
        simp [Call.owed_begin]
      rw [silent, present, count_owed, count_owed, kept]
      simp [CallEvent.fired?, CallEvent.timerAdds?]

/-- Timers add the keys whose waits they ended, once each, or owe them yet. -/
theorem Run.timers_balance (run : Run first events last)
    (staged : first.Staged) (key : κ) :
    (first.calls.filterMap Call.owed?).count key +
        (events.filterMap CallEvent.fired?).count key =
      (events.filterMap CallEvent.timerAdds?).count key +
        (last.calls.filterMap Call.owed?).count key := by
  induction run with
  | refl => simp
  | @tail middle last events event run step induction =>
      have moved := step.timers_balance (Run.staged run staged) key
      cases event with
      | none =>
          simp only [Option.bind_none, Option.toList_none, List.count_nil,
            List.append_nil] at moved ⊢
          omega
      | some event =>
          simp only [Option.bind_some] at moved
          rw [List.filterMap_append, List.filterMap_append, List.count_append,
            List.count_append, filterMap_toList, filterMap_toList]
          omega

theorem Run.punctual (run : Run first events last) (staged : first.Staged)
    {turn : CallTurn κ} (given : .turn turn ∈ events) : turn.Punctual := by
  obtain ⟨earlier, later, parts⟩ := List.append_of_mem given
  obtain ⟨state, next, before, step, _⟩ := run.cut parts
  exact step.punctual (Run.staged before staged)

theorem Run.quiet (run : Run first events last)
    (timed : first.anonymous.Timed) {turn : CallTurn κ}
    (given : .turn turn ∈ events) : turn.queue.Quiet := by
  obtain ⟨earlier, later, parts⟩ := List.append_of_mem given
  obtain ⟨state, next, before, step, _⟩ := run.cut parts
  exact step.anonymous.quiet (QueueSystem.Run.timed (Run.anonymous before) timed)

theorem filterMap_fired (events : List (CallEvent κ)) :
    (events.filterMap CallEvent.turn?).filterMap QueueTurn.fired? =
      events.filterMap CallEvent.fired? := by
  rw [List.filterMap_filterMap]
  apply List.filterMap_congr
  intro event _
  cases event with
  | turn given => rfl
  | again => rfl

/-- The timer of a key's deadline ends its wait, and the key is to be worked
on. -/
theorem fire_delivers {queue : WorkQueue κ} (quiet : queue.Quiet) {key : κ}
    {deadline : Nat} (due : queue.waiting.get? key = some deadline) :
    (queue.fire ⟨key, deadline⟩).waiting.get? key = none ∧
      key ∈ (queue.fire ⟨key, deadline⟩).dirty := by
  have opened : queue.closed = false := by
    cases closed : queue.closed with
    | true =>
        rw [quiet.not_waiting closed key] at due
        cases due
    | false => rfl
  obtain ⟨rest, ended, waits, same⟩ : ∃ rest,
      queue.expire ⟨key, deadline⟩ = (rest, true) ∧
        rest.waiting = queue.waiting.erase key ∧
        rest.closed = queue.closed :=
    ⟨_, if_pos due, rfl, rfl⟩
  have fired : queue.fire ⟨key, deadline⟩ = rest.add key := by
    rw [WorkQueue.fire, ended]
  rw [fired]
  constructor
  · have unmoved : (rest.add key).waiting = rest.waiting :=
      congrArg Prod.fst (rest.waits_add key)
    rw [unmoved, waits]
    exact (Table.get?_erase ..).trans (if_pos rfl)
  · exact QueueSystem.mem_dirty_add (same.trans opened) key

/-- In every run the deadline of a key that waits is the least of those asked
for since it last did not wait, and it has a live timer, which delivers the
key.  A timer of another deadline does nothing but go.  A wait ends when the
queue shuts down or a timer of just its deadline fires, and that timer has then
one thing left to do, which is to add the key: all waits that ever began were
cleared, or added by one timer each, or will be by a timer on its way, or go
on. -/
theorem earliest_deadline_kept {backoff : Backoff} {system : CallSystem κ}
    {events : List (CallEvent κ)} (run : Run (start backoff) events system)
    (key : κ) :
    system.queue.waiting.get? key =
        ((events.filterMap CallEvent.turn?).foldl
          (QueueTurn.askedAfter key) []).min? ∧
      (∀ deadline, system.queue.waiting.get? key = some deadline →
        ⟨key, deadline⟩ ∈ system.queue.timers ∧
          (system.queue.fire ⟨key, deadline⟩).waiting.get? key = none ∧
          key ∈ (system.queue.fire ⟨key, deadline⟩).dirty) ∧
      (∀ turn timer, .turn turn ∈ events → turn.request = .expire timer →
        turn.queue.waiting.get? timer.key ≠ some timer.deadline →
        turn.queue.after turn.request = turn.queue.dropTimer timer ∧
          turn.left.rest = .done ()) ∧
      (∀ turn, .turn turn ∈ events → turn.endsWait key = true →
        turn.request = .close ∨
          ∃ deadline, turn.queue.waiting.get? key = some deadline ∧
            turn.call.operation = .fire ⟨key, deadline⟩ ∧
            turn.left.rest = QueueScript.add key) ∧
      (∀ turn, .turn turn ∈ events → turn.timerAdds? = some key →
        turn.left.rest = .done ()) ∧
      (events.filterMap CallEvent.turn?).countP (QueueTurn.beginsWait key) =
        (events.filterMap CallEvent.turn?).countP (QueueTurn.clears key) +
          (events.filterMap CallEvent.timerAdds?).count key +
          (system.calls.filterMap Call.owed?).count key +
          (system.queue.isWaiting key).toNat := by
  have initially : (start backoff : CallSystem κ).anonymous.Timed :=
    QueueSystem.timed_start backoff
  have unstaged : (start backoff : CallSystem κ).Staged := nofun
  have timed := run.anonymous.timed initially
  refine ⟨?_, ?_, ?_, ?_, ?_, ?_⟩
  · exact run.anonymous.deadline_eq initially rfl
  · intro deadline due
    exact ⟨(timed.armed key deadline due).live, fire_delivers timed.quiet due⟩
  · intro turn timer given isExpire stale
    have fires := ((run.punctual unstaged given).fires timer isExpire).2
    rw [if_neg stale] at fires
    rw [isExpire]
    exact ⟨congrArg Prod.fst (WorkQueue.expire_stale stale), fires⟩
  · intro turn given ends
    have quiet := run.quiet initially given
    rcases QueueTurn.clears_or_fired quiet ends with clears | fired
    · exact .inl (QueueTurn.of_clears clears)
    · obtain ⟨deadline, isExpire, due⟩ := QueueTurn.of_fired fired
      have fires := (run.punctual unstaged given).fires _ isExpire
      rw [if_pos due] at fires
      exact .inr ⟨deadline, due, fires⟩
  · intro turn given adds
    exact (run.punctual unstaged given).adds key adds
  · have waits := run.anonymous.waits_balance initially key
    have timers := Run.timers_balance run unstaged key
    rw [filterMap_fired] at waits
    have noWait : ((start backoff : CallSystem κ).anonymous.queue.isWaiting
      key).toNat = 0 := rfl
    have noCall : ((start backoff : CallSystem κ).calls.filterMap
      Call.owed?).count key = 0 := rfl
    have sameQueue : system.anonymous.queue = system.queue := rfl
    rw [noWait, sameQueue] at waits
    rw [noCall] at timers
    omega

/-- A key waits until 20, then until 10, and once that wait is over it waits
until 20 again, with two live timers of that deadline: the one that fires first
adds the key, and the other does nothing. -/
theorem earliest_deadline_kept_twice :
    ∃ (system : CallSystem Nat) (events : List (CallEvent Nat)),
      Run (start {}) events system ∧
        (events.filterMap CallEvent.turn?).filterMap
            (fun turn => turn.queue.waiting.get? 1) =
          [20, 20, 10, 20] ∧
        (events.filterMap CallEvent.turn?).countP
            (QueueTurn.beginsWait 1) = 2 ∧
        (events.filterMap CallEvent.timerAdds?).count 1 = 2 ∧
        system.queue.timers = [] ∧ system.queue.waiting.get? 1 = none := by
  have begun : Run (start {} : CallSystem Nat) [] (start {}) := .refl _
  have asked := ((begun.tail (.start _ (.addAfter 1 ⟨20⟩))).tail
    (.newest rfl rfl trivial)).tail (.newest rfl rfl trivial)
  have sooner := ((asked.tail (.start _ (.addAfter 1 ⟨10⟩))).tail
    (.newest rfl rfl trivial)).tail (.newest rfl rfl trivial)
  have fired := (((sooner.tail (.pass _ 10)).tail
    (.start _ (.fire ⟨1, 10⟩))).tail (.newest rfl rfl trivial)).tail
      (.newest rfl rfl trivial)
  have askedAgain := ((fired.tail (.start _ (.addAfter 1 ⟨10⟩))).tail
    (.newest rfl rfl trivial)).tail (.newest rfl rfl trivial)
  have firedAgain := (((askedAgain.tail (.pass _ 10)).tail
    (.start _ (.fire ⟨1, 20⟩))).tail (.newest rfl rfl trivial)).tail
      (.newest rfl rfl trivial)
  have stale := ((firedAgain.tail (.start _ (.fire ⟨1, 20⟩))).tail
    (.newest rfl rfl trivial))
  obtain ⟨least, _, _, _, _, balance⟩ := earliest_deadline_kept stale 1
  refine ⟨_, _, stale, rfl, ?_, rfl, rfl, least⟩
  exact balance

end CallSystem

end SwapWarden
