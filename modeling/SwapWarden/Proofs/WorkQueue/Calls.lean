import SwapWarden.Proofs.WorkQueue.Delivery

/-!
# Calls at the work queue

Any number of operations share a queue, and each one that is under way is
known by what it is.  A worker is a call that works on one key; when that call
is over and was handed a key, the worker goes on with another round.  Every
section is told with the call that it was given to.  Where nobody asks who
called, calls are operations that share a queue, so all that holds of every
run of those holds of every run of calls.
-/

namespace SwapWarden

variable {κ : Type}

/-- An operation that is under way, with what is left to do, and whether it was
handed a key, so that its worker goes on. -/
structure Call (κ : Type) where
  operation : QueueOperation κ
  rest : QueueScript κ
  served : Bool := false

/-- A section that was given to a call, with the call then and afterwards. -/
structure CallTurn (κ : Type) extends QueueTurn κ where
  call : Call κ
  left : Call κ

/-- What happens among calls: a section is given, or a worker goes on with
another round. -/
inductive CallEvent (κ : Type) where
  | turn (turn : CallTurn κ)
  | again

/-- A queue with the calls on it, and the keys that were handed out and whose
work has not ended. -/
structure CallSystem (κ : Type) where
  queue : WorkQueue κ
  now : Nat := 0
  calls : List (Call κ) := []
  held : List κ := []

namespace Call

def begin (operation : QueueOperation κ) : Call κ :=
  { operation, rest := operation.script }

def servedAfter (served : Bool) :
    (request : QueueRequest κ) → request.Answer → Bool
  | .take, taken => Option.isSome (taken : Option κ)
  | _, _ => served

def resume (call : Call κ) (request : QueueRequest κ)
    (next : request.Answer → QueueScript κ) (answer : request.Answer) :
    Call κ :=
  { operation := call.operation
    rest := next answer
    served := servedAfter call.served request answer }

end Call

namespace CallEvent

def call? : CallEvent κ → Option (CallTurn κ)
  | .turn given => some given
  | .again => none

def turn? (event : CallEvent κ) : Option (QueueTurn κ) :=
  event.call?.map CallTurn.toQueueTurn

def isAgain : CallEvent κ → Bool
  | .turn _ => false
  | .again => true

@[simp]
theorem call?_turn (given : CallTurn κ) : call? (.turn given) = some given :=
  rfl

@[simp]
theorem call?_again : call? (.again : CallEvent κ) = none := rfl

@[simp]
theorem turn?_turn (given : CallTurn κ) :
    turn? (.turn given) = some given.toQueueTurn := rfl

@[simp]
theorem turn?_again : turn? (.again : CallEvent κ) = none := rfl

end CallEvent

namespace CallSystem

def start (backoff : Backoff) : CallSystem κ := { queue := { backoff } }

/-- The same system where nobody asks who called. -/
def anonymous (system : CallSystem κ) : QueueSystem κ :=
  { queue := system.queue
    now := system.now
    callers := system.calls.map Call.rest
    held := system.held }

variable [DecidableEq κ]

/-- The system after a call among others was given a section. -/
def given (system : CallSystem κ) (before : List (Call κ)) (call : Call κ)
    (request : QueueRequest κ) (next : request.Answer → QueueScript κ)
    (rest : List (Call κ)) : CallSystem κ :=
  { queue := system.queue.after request
    now := system.now
    calls := before ++
      call.resume request next (system.queue.answer system.now request) :: rest
    held := system.anonymous.heldAfter request }

/-- One step among calls. -/
inductive Step :
    CallSystem κ → Option (CallEvent κ) → CallSystem κ → Prop where
  | start (system : CallSystem κ) (operation : QueueOperation κ) :
      Step system none { system with calls := .begin operation :: system.calls }
  | pass (system : CallSystem κ) (span : Nat) :
      Step system none { system with now := system.now + span }
  | turn {system : CallSystem κ} {call : Call κ} {request : QueueRequest κ}
      {next : request.Answer → QueueScript κ} {before rest : List (Call κ)}
      (present : system.calls = before ++ call :: rest)
      (asks : call.rest = Program.ask request next)
      (permitted : system.anonymous.Permits request) :
      Step system
        (some (.turn ⟨⟨system.queue, request⟩, call,
          call.resume request next (system.queue.answer system.now request)⟩))
        (system.given before call request next rest)
  | again {system : CallSystem κ} {call : Call κ} {before rest : List (Call κ)}
      {former : κ → FollowUp} (outcome : κ → FollowUp)
      (present : system.calls = before ++ call :: rest)
      (works : call.operation = .work former) (finished : call.rest = .done ())
      (served : call.served = true) :
      Step system (some .again)
        { system with
          calls := .begin (.work outcome) ::
            (before ++ { call with served := false } :: rest) }

/-- Any number of steps, with the sections that were given and the rounds that
workers went on with, in order. -/
abbrev Run : CallSystem κ → List (CallEvent κ) → CallSystem κ → Prop :=
  SwapWarden.Run Step

variable {system first last next : CallSystem κ} {event : Option (CallEvent κ)}
  {events : List (CallEvent κ)}

theorem Step.anonymous (step : Step system event next) :
    QueueSystem.Step system.anonymous (event.bind CallEvent.turn?)
      next.anonymous := by
  cases step with
  | start operation => exact .start system.anonymous operation
  | pass span => exact .pass system.anonymous span
  | @turn call request follows before rest present asks permitted =>
      have waiting : system.anonymous.callers =
          before.map Call.rest ++ Program.ask request follows ::
            rest.map Call.rest := by
        simp [CallSystem.anonymous, present, asks]
      have left : (system.given before call request follows rest).anonymous =
          { queue := system.anonymous.queue.after request
            now := system.anonymous.now
            callers := before.map Call.rest ++
              follows (system.anonymous.queue.answer system.anonymous.now
                request) :: rest.map Call.rest
            held := system.anonymous.heldAfter request } := by
        simp [given, CallSystem.anonymous, Call.resume]
      rw [left]
      exact .turn waiting permitted
  | @again call before rest former outcome present works finished served =>
      have begun := QueueSystem.Step.start system.anonymous (.work outcome)
      simpa [CallSystem.anonymous, present, Call.begin] using begun

/-- What holds of each call when it begins and is kept by the section that it
is given holds of all calls. -/
theorem Step.forall_calls {property : Call κ → Prop}
    (step : Step system event next)
    (begins : ∀ operation, property (.begin operation))
    (resumes : ∀ {call request} {follows : request.Answer → QueueScript κ},
      property call → call.rest = Program.ask request follows →
      property (call.resume request follows
        (system.queue.answer system.now request)))
    (goesOn : ∀ {call former}, property call →
      call.operation = .work former → call.rest = .done () →
      property { call with served := false })
    (holds : ∀ call ∈ system.calls, property call) :
    ∀ call ∈ next.calls, property call := by
  cases step with
  | start operation =>
      exact List.forall_mem_cons.mpr ⟨begins operation, holds⟩
  | pass span => exact holds
  | @turn call request follows before rest present asks permitted =>
      rw [present] at holds
      obtain ⟨earlier, others⟩ := List.forall_mem_append.mp holds
      obtain ⟨here, later⟩ := List.forall_mem_cons.mp others
      exact List.forall_mem_append.mpr
        ⟨earlier, List.forall_mem_cons.mpr ⟨resumes here asks, later⟩⟩
  | @again call before rest former outcome present works finished served =>
      rw [present] at holds
      obtain ⟨earlier, others⟩ := List.forall_mem_append.mp holds
      obtain ⟨here, later⟩ := List.forall_mem_cons.mp others
      refine List.forall_mem_cons.mpr ⟨begins (.work outcome), ?_⟩
      exact List.forall_mem_append.mpr
        ⟨earlier, List.forall_mem_cons.mpr ⟨goesOn here works finished, later⟩⟩

/-- A run of calls is a run of the queue's system, with the same sections. -/
theorem Run.anonymous (run : Run first events last) :
    QueueSystem.Run first.anonymous (events.filterMap CallEvent.turn?)
      last.anonymous := by
  induction run with
  | refl => exact .refl _
  | @tail middle last events event run step induction =>
      have longer := induction.tail step.anonymous
      cases event with
      | none => simpa using longer
      | some event =>
          rw [List.filterMap_append]
          cases turn : event.turn? with
          | none => simpa [turn] using longer
          | some given => simpa [turn] using longer

theorem Step.newest {call : Call κ} {request : QueueRequest κ}
    {next : request.Answer → QueueScript κ} {rest : List (Call κ)}
    (present : system.calls = call :: rest)
    (asks : call.rest = Program.ask request next)
    (permitted : system.anonymous.Permits request) :
    Step system
      (some (.turn ⟨⟨system.queue, request⟩, call,
        call.resume request next (system.queue.answer system.now request)⟩))
      (system.given [] call request next rest) := by
  have placed : system.calls = [] ++ call :: rest := present
  exact .turn placed asks permitted

end CallSystem

end SwapWarden
