import SwapWarden.Proofs.Run
import SwapWarden.Proofs.WorkQueue.Section

/-!
# Runs of the work queue

Any number of operations share a queue.  At every step one of them begins, one
of them is given its next section, or time passes.  A worker that finds the
queue empty is not given a section until a key is there or the queue has shut
down, and the work on a key ends only while that key is handed out.
-/

namespace SwapWarden

variable {κ : Type}

/-- A section that was given to an operation, and the queue it found. -/
structure QueueTurn (κ : Type) where
  queue : WorkQueue κ
  request : QueueRequest κ

/-- A queue, the operations that are under way, and the keys that were handed
out and whose work has not ended. -/
structure QueueSystem (κ : Type) where
  queue : WorkQueue κ
  now : Nat := 0
  callers : List (QueueScript κ) := []
  held : List κ := []

namespace QueueTurn

/-- The key that a section hands out. -/
def delivered? (turn : QueueTurn κ) : Option κ :=
  match turn.request with
  | .take => turn.queue.ready.head?
  | _ => none

theorem of_delivered {turn : QueueTurn κ} {key : κ}
    (delivered : turn.delivered? = some key) :
    turn.request = .take ∧ ∃ rest, turn.queue.ready = key :: rest := by
  rcases turn with ⟨queue, request⟩
  cases request with
  | take => exact ⟨rfl, List.head?_eq_some_iff.mp delivered⟩
  | _ => cases delivered

end QueueTurn

namespace QueueSystem

/-- An empty queue before any operation. -/
def start (backoff : Backoff) : QueueSystem κ := { queue := { backoff } }

/-- Whether an operation may have the section it comes to. -/
def Permits (system : QueueSystem κ) : QueueRequest κ → Prop
  | .take => system.queue.ready ≠ [] ∨ system.queue.closed = true
  | .done key => key ∈ system.held
  | _ => True

variable [DecidableEq κ]

/-- The keys that are handed out after a section. -/
def heldAfter (system : QueueSystem κ) : QueueRequest κ → List κ
  | .take => system.queue.ready.head?.toList ++ system.held
  | .done key => system.held.erase key
  | _ => system.held

/-- One step of a shared queue, with the section that was given if one was. -/
inductive Step :
    QueueSystem κ → Option (QueueTurn κ) → QueueSystem κ → Prop where
  | start (system : QueueSystem κ) (operation : QueueOperation κ) :
      Step system none
        { system with callers := operation.script :: system.callers }
  | pass (system : QueueSystem κ) (span : Nat) :
      Step system none { system with now := system.now + span }
  | turn {system : QueueSystem κ} {request : QueueRequest κ}
      {next : request.Answer → QueueScript κ}
      {before rest : List (QueueScript κ)}
      (waiting : system.callers = before ++ Program.ask request next :: rest)
      (permitted : system.Permits request) :
      Step system (some ⟨system.queue, request⟩)
        { queue := system.queue.after request
          now := system.now
          callers :=
            before ++ next (system.queue.answer system.now request) :: rest
          held := system.heldAfter request }

/-- Any number of steps, with the sections that were given, in order. -/
abbrev Run : QueueSystem κ → List (QueueTurn κ) → QueueSystem κ → Prop :=
  SwapWarden.Run Step

theorem Step.of_turn {system next : QueueSystem κ} {turn : QueueTurn κ}
    (step : Step system (some turn) next) :
    turn.queue = system.queue ∧ system.Permits turn.request ∧
      next.queue = turn.queue.after turn.request ∧
      next.held = system.heldAfter turn.request := by
  cases step with
  | turn _ permitted => exact ⟨rfl, permitted, rfl, rfl⟩

/-- The operation that began last may go first. -/
theorem Step.newest {system : QueueSystem κ} {request : QueueRequest κ}
    {next : request.Answer → QueueScript κ} {rest : List (QueueScript κ)}
    (waiting : system.callers = Program.ask request next :: rest)
    (permitted : system.Permits request) :
    Step system (some ⟨system.queue, request⟩)
      { queue := system.queue.after request
        now := system.now
        callers := next (system.queue.answer system.now request) :: rest
        held := system.heldAfter request } := by
  have placed : system.callers = [] ++ Program.ask request next :: rest :=
    waiting
  exact .turn placed permitted

theorem Step.of_none {system next : QueueSystem κ}
    (step : Step system none next) :
    next.queue = system.queue ∧ next.held = system.held := by
  cases step with
  | start => exact ⟨rfl, rfl⟩
  | pass => exact ⟨rfl, rfl⟩

end QueueSystem

end SwapWarden
