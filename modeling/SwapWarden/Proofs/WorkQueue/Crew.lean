import SwapWarden.Proofs.WorkQueue.Delay
import SwapWarden.Proofs.WorkQueue.Delivery

/-!
# Workers, timers and those who add keys

Any number of workers share a queue with timers that fire, at any time, and
with watches that add keys, and nobody shuts the queue down.  A worker is
handed a key, looks at its pod, lets follow what the outcome asks for, and ends
the work on the key.  Every such errand goes through a few stages, and at every
one of them it is known what is left to do and which key is in hand.
-/

namespace SwapWarden

variable {κ : Type}

/-- What someone at the queue is there for.  Who works on a key has an outcome
for every pod. -/
inductive Errand (κ : Type) where
  | work (outcome : κ → Except Fault FollowUp)
  | enqueue (key : κ)
  | fire (timer : Timer κ)

def Errand.script : Errand κ → QueueScript κ
  | work outcome => .work fun key => .ofResult (outcome key)
  | enqueue key => .add key
  | fire timer => .fire timer

/-- An errand that is under way, with what is left to do and the key that was
handed out and whose work has not ended. -/
structure Task (κ : Type) where
  errand : Errand κ
  rest : QueueScript κ
  hand : Option κ := none

def Task.handAfter (hand : Option κ) :
    (request : QueueRequest κ) → request.Answer → Option κ
  | .take, taken => taken
  | .done _, _ => none
  | _, _ => hand

def Task.resume (task : Task κ) (request : QueueRequest κ)
    (next : request.Answer → QueueScript κ) (answer : request.Answer) :
    Task κ :=
  { errand := task.errand
    rest := next answer
    hand := handAfter task.hand request answer }

/-- A section that was given to an errand, with the errand then and
afterwards. -/
structure CrewTurn (κ : Type) extends QueueTurn κ where
  now : Nat
  task : Task κ
  left : Task κ

structure Crew (κ : Type) where
  queue : WorkQueue κ
  now : Nat := 0
  tasks : List (Task κ) := []

namespace Crew

def start (backoff : Backoff) : Crew κ := { queue := { backoff } }

variable [DecidableEq κ]

/-- The crew after an errand among others was given a section. -/
def served (crew : Crew κ) (before : List (Task κ)) (task : Task κ)
    (request : QueueRequest κ) (next : request.Answer → QueueScript κ)
    (rest : List (Task κ)) : Crew κ :=
  { queue := crew.queue.after request
    now := crew.now
    tasks := before ++
      task.resume request next (crew.queue.answer crew.now request) :: rest }

/-- One step at a shared queue, with the section that was given if one was.  A
worker that finds the queue empty is given none until a key is there. -/
inductive Step : Crew κ → Option (CrewTurn κ) → Crew κ → Prop where
  | start (crew : Crew κ) (errand : Errand κ) :
      Step crew none
        { crew with tasks := ⟨errand, errand.script, none⟩ :: crew.tasks }
  | pass (crew : Crew κ) (span : Nat) :
      Step crew none { crew with now := crew.now + span }
  | turn {crew : Crew κ} {task : Task κ} {request : QueueRequest κ}
      {next : request.Answer → QueueScript κ} {before rest : List (Task κ)}
      (present : crew.tasks = before ++ task :: rest)
      (asks : task.rest = Program.ask request next)
      (permitted : request = .take → crew.queue.ready ≠ []) :
      Step crew
        (some ⟨⟨crew.queue, request⟩, crew.now, task,
          task.resume request next (crew.queue.answer crew.now request)⟩)
        (crew.served before task request next rest)

abbrev Run : Crew κ → List (CrewTurn κ) → Crew κ → Prop :=
  SwapWarden.Run Step

theorem Step.newest {crew : Crew κ} {task : Task κ}
    {request : QueueRequest κ} {next : request.Answer → QueueScript κ}
    {rest : List (Task κ)} (present : crew.tasks = task :: rest)
    (asks : task.rest = Program.ask request next)
    (permitted : request = .take → crew.queue.ready ≠ []) :
    Step crew
      (some ⟨⟨crew.queue, request⟩, crew.now, task,
        task.resume request next (crew.queue.answer crew.now request)⟩)
      (crew.served [] task request next rest) := by
  have placed : crew.tasks = [] ++ task :: rest := present
  exact .turn placed asks permitted

end Crew

/-! ## Stages of an errand -/

namespace Task

/-- What a worker does after the work on a key has had its outcome. -/
abbrev thenDone (key : κ) (script : QueueScript κ) : QueueScript κ :=
  script.bind fun _ => QueueScript.ask (.done key)

/-- All that an errand can have left to do: a timer has ended the wait of its
key, or the pod of a key was judged, its retry counted, the deadline of that
known, and what the outcome asked for done. -/
inductive Stage : Task κ → Prop where
  | begun (errand : Errand κ) : Stage ⟨errand, errand.script, none⟩
  | ended (errand : Errand κ) : Stage ⟨errand, .done (), none⟩
  | firing (timer : Timer κ) : Stage ⟨.fire timer, .add timer.key, none⟩
  | judged (outcome : κ → Except Fault FollowUp) (key : κ) :
      Stage ⟨.work outcome,
        thenDone key (.follow key (.ofResult (outcome key))), some key⟩
  | counted (outcome : κ → Except Fault FollowUp) (key : κ)
      (delay : Duration) :
      Stage ⟨.work outcome, thenDone key (.addAfter key delay), some key⟩
  | timed (outcome : κ → Except Fault FollowUp) (key : κ) (deadline : Nat) :
      Stage ⟨.work outcome,
        thenDone key (QueueScript.ask (.await key deadline)), some key⟩
  | leaving (outcome : κ → Except Fault FollowUp) (key : κ) :
      Stage ⟨.work outcome, QueueScript.ask (.done key), some key⟩

/-- What is known of an errand that comes to a section. -/
structure Orderly (task : Task κ) (request : QueueRequest κ)
    (next : request.Answer → QueueScript κ) : Prop where
  staged : ∀ answer, Stage (task.resume request next answer)
  open_stays : request ≠ .close
  free_takes : request = .take → task.hand = none
  hand_ends : ∀ key, request = .done key → task.hand = some key
  timer_expires : ∀ timer, request = .expire timer →
    task.errand = .fire timer ∧ task.rest = .fire timer

/-- Sections that neither hand out a key nor end the work on one nor end a
wait. -/
def isPlain : QueueRequest κ → Bool
  | .readClock | .add _ | .await _ _ | .countRetry _ | .forget _ => true
  | _ => false

theorem Orderly.of_plain {task : Task κ} {request : QueueRequest κ}
    {next : request.Answer → QueueScript κ} (plain : isPlain request = true)
    (staged : ∀ answer, Stage (task.resume request next answer)) :
    Orderly task request next := by
  constructor
  · exact staged
  · rintro rfl
    cases plain
  · rintro rfl
    cases plain
  · rintro key rfl
    cases plain
  · rintro timer rfl
    cases plain

theorem Stage.orderly {task : Task κ} (stage : Stage task)
    {request : QueueRequest κ} {next : request.Answer → QueueScript κ}
    (asks : task.rest = Program.ask request next) :
    Orderly task request next := by
  cases stage with
  | begun errand =>
      cases errand with
      | work outcome =>
          cases asks
          constructor
          · intro taken
            cases taken with
            | none => exact .ended _
            | some key => exact .judged outcome key
          all_goals simp
      | enqueue key =>
          cases asks
          exact .of_plain rfl fun _ => .ended _
      | fire timer =>
          cases asks
          constructor
          · intro isDue
            cases isDue with
            | false => exact .ended _
            | true => exact .firing timer
          all_goals simp [Errand.script]
  | ended errand => cases asks
  | firing timer =>
      cases asks
      exact .of_plain rfl fun _ => .ended _
  | judged outcome key =>
      change thenDone key (.follow key (.ofResult (outcome key))) = _ at asks
      cases followUp : FollowUp.ofResult (outcome key) with
      | forget =>
          rw [followUp] at asks
          cases asks
          exact .of_plain rfl fun _ => .leaving outcome key
      | backOff =>
          rw [followUp] at asks
          cases asks
          exact .of_plain rfl fun delay => .counted outcome key delay
      | immediate =>
          rw [followUp] at asks
          cases asks
          exact .of_plain rfl fun _ => .leaving outcome key
  | counted outcome key delay =>
      change thenDone key (.addAfter key delay) = _ at asks
      by_cases atOnce : delay.nanos = 0
      · rw [QueueScript.addAfter, if_pos atOnce] at asks
        cases asks
        exact .of_plain rfl fun _ => .leaving outcome key
      · rw [QueueScript.addAfter, if_neg atOnce] at asks
        cases asks
        exact .of_plain rfl fun now => .timed outcome key _
  | timed outcome key deadline =>
      cases asks
      exact .of_plain rfl fun _ => .leaving outcome key
  | leaving outcome key =>
      cases asks
      constructor
      · intro _
        exact .ended _
      all_goals simp

end Task

namespace WorkQueue

variable [DecidableEq κ]

theorem fst_take? (queue : WorkQueue κ) :
    queue.take?.map Prod.fst = queue.ready.head? := by
  cases front : queue.ready with
  | nil => simp [take?, front]
  | cons key rest => simp [take?, front]

theorem Exclusive.inFlight_after {queue : WorkQueue κ}
    (exclusive : queue.Exclusive) (request : QueueRequest κ) :
    (queue.after request).inFlight =
      QueueSystem.heldAfter { queue, held := queue.inFlight } request := by
  have sound : QueueSystem.Sound { queue, held := queue.inFlight } :=
    ⟨exclusive, rfl⟩
  exact (QueueSystem.heldAfter_eq sound request).symm

end WorkQueue

namespace Crew

section

variable [DecidableEq κ]

structure Sound (crew : Crew κ) : Prop where
  exclusive : crew.queue.Exclusive
  opened : crew.queue.closed = false
  armed : crew.queue.Armed
  staged : ∀ task ∈ crew.tasks, task.Stage
  hands : (crew.tasks.filterMap Task.hand).Perm crew.queue.inFlight

theorem sound_start (backoff : Backoff) : (start backoff : Crew κ).Sound := by
  constructor
  · exact (QueueSystem.sound_start backoff).exclusive
  · rfl
  · intro key deadline waiting
    cases waiting
  · intro task member
    cases member
  · exact .nil

end

theorem hands_perm (before rest : List (Task κ)) (task : Task κ) :
    ((before ++ task :: rest).filterMap Task.hand).Perm
      (task.hand.toList ++ (before ++ rest).filterMap Task.hand) := by
  refine (List.perm_middle.filterMap Task.hand).trans ?_
  rw [List.filterMap_cons]
  cases task.hand with
  | none => exact .refl _
  | some key => exact .refl _

variable [DecidableEq κ]

theorem hand_after {queue : WorkQueue κ} {task : Task κ}
    {request : QueueRequest κ} {next : request.Answer → QueueScript κ}
    {others : List κ} (exclusive : queue.Exclusive)
    (orderly : task.Orderly request next)
    (known : (task.hand.toList ++ others).Perm queue.inFlight) (now : Nat) :
    ((Task.handAfter task.hand request (queue.answer now request)).toList ++
      others).Perm (queue.after request).inFlight := by
  rw [exclusive.inFlight_after]
  cases request with
  | take =>
      rw [orderly.free_takes rfl] at known
      change ((queue.take?.map Prod.fst).toList ++ others).Perm
        (queue.ready.head?.toList ++ queue.inFlight)
      rw [queue.fst_take?]
      exact known.append_left queue.ready.head?.toList
  | done key =>
      rw [orderly.hand_ends key rfl] at known
      exact (List.cons_perm_iff_perm_erase.mp known).2
  | readClock => exact known
  | add _ => exact known
  | await _ _ => exact known
  | expire _ => exact known
  | countRetry _ => exact known
  | forget _ => exact known
  | close => exact known

theorem Step.sound {crew next : Crew κ} {turn : Option (CrewTurn κ)}
    (step : Step crew turn next) (sound : crew.Sound) : next.Sound := by
  cases step with
  | start errand =>
      constructor
      · exact sound.exclusive
      · exact sound.opened
      · exact sound.armed
      · intro task member
        rcases List.mem_cons.mp member with rfl | among
        · exact .begun errand
        · exact sound.staged task among
      · exact sound.hands
  | pass span =>
      constructor
      · exact sound.exclusive
      · exact sound.opened
      · exact sound.armed
      · exact sound.staged
      · exact sound.hands
  | @turn task request follows before rest present asks permitted =>
      have stage : task.Stage := sound.staged task (by simp [present])
      have orderly := stage.orderly asks
      have known : (task.hand.toList ++
          (before ++ rest).filterMap Task.hand).Perm crew.queue.inFlight := by
        refine (hands_perm before rest task).symm.trans ?_
        rw [← present]
        exact sound.hands
      have rightful : ∀ key, request = .done key →
          key ∈ crew.queue.inFlight := by
        intro key isDone
        rw [orderly.hand_ends key isDone] at known
        exact known.mem_iff.mp List.mem_cons_self
      constructor
      · exact sound.exclusive.after rightful
      · exact (WorkQueue.closed_after orderly.open_stays).trans sound.opened
      · exact sound.armed.after request
      · intro other member
        rcases List.mem_append.mp member with earlier | later
        · exact sound.staged other (by simp [present, earlier])
        · rcases List.mem_cons.mp later with rfl | after
          · exact orderly.staged _
          · exact sound.staged other (by simp [present, after])
      · exact (hands_perm before rest _).trans
          (hand_after sound.exclusive orderly known crew.now)

theorem Run.sound {first last : Crew κ} {turns : List (CrewTurn κ)}
    (run : Run first turns last) (sound : first.Sound) : last.Sound :=
  run.invariant sound (fun known step => step.sound known)

end Crew

end SwapWarden
