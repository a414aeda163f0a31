import SwapWarden.Proofs.WorkQueue.Crew

/-!
# A failed key is never dropped

From the moment a worker is through with what a failed outcome asks for until
the key is handed out again, the key is to be worked on, or it waits no longer
than that worker asked for, or a timer that ended its wait is about to add it.
Meanwhile the worker ends the work on the key, whatever the outcome was.
-/

namespace SwapWarden

variable {κ : Type}

/-- Whether a key is looked at again because of its pod's outcome. -/
def Failed (outcome : Except Fault FollowUp) : Prop :=
  (∃ fault, outcome = .error fault) ∨ outcome = .ok .backOff

theorem ofResult_of_failed {outcome : Except Fault FollowUp}
    (failed : Failed outcome) : FollowUp.ofResult outcome = .backOff := by
  rcases failed with ⟨fault, rfl⟩ | rfl
  · rfl
  · rfl

/-- A section that lets a key be looked at again: at once, or by a deadline. -/
def CrewTurn.asks (turn : CrewTurn κ) (key : κ) (asked : Nat) : Prop :=
  (turn.request = .add key ∧ asked = turn.now) ∨
    turn.request = .await key asked

namespace Task

/-- A timer that ended the wait of its key and is about to add it. -/
def Fires (task : Task κ) (key : κ) : Prop :=
  ∃ timer, task.errand = .fire timer ∧ timer.key = key ∧
    task.rest = QueueScript.add key

/-- A worker that did what the outcome of its key asked for, and has only to
end the work on it. -/
structure Leaves (task : Task κ) (outcome : κ → Except Fault FollowUp)
    (key : κ) : Prop where
  works : task.errand = .work outcome
  holds : task.hand = some key
  left : task.rest = QueueScript.ask (.done key)

theorem thenDone_addAfter_ne {key other : κ} (held : κ) (delay : Duration) :
    thenDone other (.addAfter held delay) ≠ QueueScript.ask (.done key) := by
  intro same
  by_cases atOnce : delay.nanos = 0
  · rw [QueueScript.addAfter, if_pos atOnce] at same
    cases same
  · rw [QueueScript.addAfter, if_neg atOnce] at same
    cases same

/-- A worker leaves a failed key only after a section that lets it be looked
at again. -/
theorem Stage.asks_again {task : Task κ} (stage : Stage task)
    {request : QueueRequest κ} {next : request.Answer → QueueScript κ}
    (asks : task.rest = Program.ask request next)
    {answer : request.Answer} {outcome : κ → Except Fault FollowUp} {key : κ}
    (leaves : (task.resume request next answer).Leaves outcome key)
    (failed : Failed (outcome key)) :
    request = .add key ∨ ∃ asked, request = .await key asked := by
  obtain ⟨works, holds, left⟩ := leaves
  cases stage with
  | begun errand =>
      cases works
      cases asks
      cases holds
      change thenDone key (.follow key (.ofResult (outcome key))) = _ at left
      rw [ofResult_of_failed failed] at left
      cases left
  | ended errand => cases asks
  | firing timer => cases works
  | judged judgement held =>
      cases works
      change thenDone held (.follow held (.ofResult (outcome held))) = _ at asks
      cases followUp : FollowUp.ofResult (outcome held) with
      | backOff =>
          rw [followUp] at asks
          cases asks
          exact absurd left (thenDone_addAfter_ne held answer)
      | forget =>
          rw [followUp] at asks
          cases asks
          cases holds
          exact absurd (followUp.symm.trans (ofResult_of_failed failed)) nofun
      | immediate =>
          rw [followUp] at asks
          cases asks
          cases holds
          exact absurd (followUp.symm.trans (ofResult_of_failed failed)) nofun
  | counted judgement held delay =>
      change thenDone held (.addAfter held delay) = _ at asks
      by_cases atOnce : delay.nanos = 0
      · rw [QueueScript.addAfter, if_pos atOnce] at asks
        cases asks
        cases holds
        exact .inl rfl
      · rw [QueueScript.addAfter, if_neg atOnce] at asks
        cases asks
        cases left
  | timed judgement held deadline =>
      cases asks
      cases holds
      exact .inr ⟨deadline, rfl⟩
  | leaving judgement held =>
      cases asks
      cases left

/-- What is left to do ends the work on a key, whatever it is answered, and is
never kept waiting for a key. -/
inductive Releases (key : κ) : QueueScript κ → Prop where
  | now : Releases key (QueueScript.ask (.done key))
  | later {request : QueueRequest κ} {next : request.Answer → QueueScript κ}
      (plain : isPlain request = true)
      (follows : ∀ answer, Releases key (next answer)) :
      Releases key (Program.ask request next)

theorem releases_addAfter (key : κ) (delay : Duration) :
    Releases key (thenDone key (.addAfter key delay)) := by
  by_cases atOnce : delay.nanos = 0
  · rw [QueueScript.addAfter, if_pos atOnce]
    exact .later rfl fun _ => .now
  · rw [QueueScript.addAfter, if_neg atOnce]
    exact .later rfl fun _ => .later rfl fun _ => .now

theorem releases_follow (key : κ) (followUp : FollowUp) :
    Releases key (thenDone key (.follow key followUp)) := by
  cases followUp with
  | forget => exact .later rfl fun _ => .now
  | backOff => exact .later rfl fun delay => releases_addAfter key delay
  | immediate => exact .later rfl fun _ => .now

theorem Stage.releases {task : Task κ} (stage : Stage task) {key : κ}
    (holds : task.hand = some key) : Releases key task.rest := by
  cases stage with
  | begun errand => cases holds
  | ended errand => cases holds
  | firing timer => cases holds
  | judged outcome held =>
      cases holds
      exact releases_follow key (.ofResult (outcome key))
  | counted outcome held delay =>
      cases holds
      exact releases_addAfter key delay
  | timed outcome held deadline =>
      cases holds
      exact .later rfl fun _ => .now
  | leaving outcome held =>
      cases holds
      exact .now

end Task

namespace Crew

variable [DecidableEq κ]

/-- A key that will be looked at again, at the latest at a point in time that
was asked for. -/
inductive Pending (crew : Crew κ) (key : κ) (asked : Nat) : Prop where
  | dirty (toWork : key ∈ crew.queue.dirty)
  | waits (waiting : crew.queue.WaitsUntil key asked)
  | fires (task : Task κ) (present : task ∈ crew.tasks)
      (fires : task.Fires key)

/-- A key to be worked on stays one through every section that does not hand
it out. -/
theorem mem_dirty_after {turn : QueueTurn κ} {key : κ}
    (exclusive : turn.queue.Exclusive) (dirty : key ∈ turn.queue.dirty)
    (kept : turn.delivered? ≠ some key) :
    key ∈ (turn.queue.after turn.request).dirty := by
  have balance := QueueTurn.count_dirty_after exclusive key
  have before : 0 < turn.queue.dirty.count key := List.count_pos_iff.mpr dirty
  have undelivered : turn.delivered?.toList.count key = 0 := by
    apply List.count_eq_zero_of_not_mem
    simpa using kept
  exact List.count_pos_iff.mp (by omega)

theorem Pending.served {crew : Crew κ} {key : κ} {asked : Nat}
    {task : Task κ} {request : QueueRequest κ}
    {next : request.Answer → QueueScript κ} {before rest : List (Task κ)}
    (pending : crew.Pending key asked) (sound : crew.Sound)
    (present : crew.tasks = before ++ task :: rest)
    (asks : task.rest = Program.ask request next)
    (kept : (⟨crew.queue, request⟩ : QueueTurn κ).delivered? ≠ some key) :
    (crew.served before task request next rest).Pending key asked := by
  have orderly := (sound.staged task (by simp [present])).orderly asks
  cases pending with
  | dirty toWork => exact .dirty (mem_dirty_after sound.exclusive toWork kept)
  | waits waiting =>
      by_cases ends : ∃ deadline, request = .expire ⟨key, deadline⟩ ∧
          crew.queue.waiting.get? key = some deadline
      · obtain ⟨deadline, rfl, due⟩ := ends
        obtain ⟨fires, fresh⟩ := orderly.timer_expires _ rfl
        rw [fresh] at asks
        cases asks
        refine .fires _ (List.mem_append_right _ List.mem_cons_self) ?_
        refine ⟨⟨key, deadline⟩, fires, rfl, ?_⟩
        exact if_pos (WorkQueue.expire_due due)
      · refine .waits (waiting.after sound.armed sound.opened orderly.open_stays ?_)
        intro deadline due isExpire
        exact ends ⟨deadline, isExpire, due⟩
  | fires firing there fires =>
      rw [present] at there
      rcases List.mem_append.mp there with earlier | later
      · exact .fires firing (List.mem_append_left _ earlier) fires
      · rcases List.mem_cons.mp later with rfl | after
        · obtain ⟨timer, isTimer, same, adds⟩ := fires
          rw [adds] at asks
          cases asks
          exact .dirty (QueueSystem.mem_dirty_add sound.opened key)
        · exact .fires firing
            (List.mem_append_right _ (List.mem_cons_of_mem _ after)) fires

theorem Step.pending {crew next : Crew κ} {turn : Option (CrewTurn κ)}
    {key : κ} {asked : Nat} (step : Step crew turn next)
    (pending : crew.Pending key asked) (sound : crew.Sound)
    (kept : ∀ given, turn = some given → given.delivered? ≠ some key) :
    next.Pending key asked := by
  cases step with
  | start errand =>
      cases pending with
      | dirty toWork => exact .dirty toWork
      | waits waiting => exact .waits waiting
      | fires task there fires =>
          exact .fires task (List.mem_cons_of_mem _ there) fires
  | pass span =>
      cases pending with
      | dirty toWork => exact .dirty toWork
      | waits waiting => exact .waits waiting
      | fires task there fires => exact .fires task there fires
  | turn present asks permitted =>
      exact pending.served sound present asks (kept _ rfl)

/-- A pending key stays pending until it is handed out. -/
theorem Run.delivered_or_pending {first last : Crew κ} {key : κ} {asked : Nat}
    {turns : List (CrewTurn κ)} (run : Run first turns last)
    (pending : first.Pending key asked) (sound : first.Sound) :
    (∃ turn ∈ turns, turn.delivered? = some key) ∨ last.Pending key asked := by
  induction run with
  | refl => exact .inr pending
  | @tail middle last turns turn run step induction =>
      rcases induction with ⟨delivery, among, delivered⟩ | still
      · exact .inl ⟨delivery, List.mem_append_left _ among, delivered⟩
      · by_cases delivers : ∃ given, turn = some given ∧
            given.delivered? = some key
        · obtain ⟨given, rfl, delivered⟩ := delivers
          exact .inl ⟨given, by simp, delivered⟩
        · refine .inr (step.pending still (Run.sound run sound) ?_)
          intro given isGiven delivered
          exact delivers ⟨given, isGiven, delivered⟩

/-- What a worker asks for on leaving a failed key makes the key pending. -/
theorem Step.leaves_pending {crew next : Crew κ} {turn : CrewTurn κ}
    {outcome : κ → Except Fault FollowUp} {key : κ}
    (step : Step crew (some turn) next) (sound : crew.Sound)
    (leaves : turn.left.Leaves outcome key)
    (failed : Failed (outcome key)) :
    ∃ asked, turn.asks key asked ∧ next.Pending key asked := by
  cases step with
  | @turn task request follows before rest present asks permitted =>
      have stage : task.Stage := sound.staged task (by simp [present])
      rcases stage.asks_again asks leaves failed with rfl | ⟨asked, rfl⟩
      · refine ⟨crew.now, .inl ⟨rfl, rfl⟩, .dirty ?_⟩
        exact QueueSystem.mem_dirty_add sound.opened key
      · refine ⟨asked, .inr rfl, .waits ?_⟩
        exact sound.armed.waitsUntil_await sound.opened key asked

theorem not_mem_inFlight_done {queue : WorkQueue κ}
    (exclusive : queue.Exclusive) (key : κ) :
    key ∉ (queue.done key).inFlight :=
  exclusive.inFlight_nodup.not_mem_erase

/-- In every run, a worker that is through with what a failed outcome asks for
has asked for its key to be looked at again, at once or by some deadline, and
from then on until the key is handed out it is pending, at the latest for that
deadline.  Keys in flight are just those in hand, whoever has one in hand ends
the work on it whatever the outcome was, and then it is not in flight. -/
theorem failed_never_dropped {backoff : Backoff} {crew : Crew κ}
    {turns : List (CrewTurn κ)} (run : Run (start backoff) turns crew) :
    (∀ earlier turn later outcome key, turns = earlier ++ turn :: later →
        turn.left.Leaves outcome key → Failed (outcome key) →
        ∃ asked, turn.asks key asked ∧
          ((∃ delivery ∈ later, delivery.delivered? = some key) ∨
            crew.Pending key asked)) ∧
      (crew.tasks.filterMap Task.hand).Perm crew.queue.inFlight ∧
      (∀ task ∈ crew.tasks, ∀ key, task.hand = some key →
        Task.Releases key task.rest) ∧
      ∀ turn ∈ turns, ∀ key, turn.request = .done key →
        turn.task.hand = some key ∧ turn.left.hand = none ∧
          key ∉ (turn.queue.after turn.request).inFlight := by
  have initially := sound_start (κ := κ) backoff
  have sound := Run.sound run initially
  refine ⟨?_, sound.hands, ?_, ?_⟩
  · intro earlier turn later outcome key parts leaves failed
    obtain ⟨state, next, before, step, rest⟩ := run.cut parts
    have soundThen := Run.sound before initially
    obtain ⟨asked, asks, pending⟩ :=
      step.leaves_pending soundThen leaves failed
    exact ⟨asked, asks,
      Run.delivered_or_pending rest pending (step.sound soundThen)⟩
  · intro task present key holds
    exact (sound.staged task present).releases holds
  · intro turn given key isDone
    obtain ⟨earlier, later, parts⟩ := List.append_of_mem given
    obtain ⟨state, next, before, step, _⟩ := run.cut parts
    have soundThen := Run.sound before initially
    cases step with
    | @turn task request follows others rest present asks permitted =>
        cases isDone
        have stage : task.Stage := soundThen.staged task (by simp [present])
        refine ⟨(stage.orderly asks).hand_ends key rfl, rfl, ?_⟩
        exact not_mem_inFlight_done soundThen.exclusive key

/-- A key that fails twice, the second time while it waits: the earlier
deadline counts, and its timer has ended the wait but not added the key yet. -/
theorem failed_never_dropped_between :
    ∃ (crew : Crew Nat) (turns : List (CrewTurn Nat)),
      Run (start { base := ⟨5⟩, greatest := ⟨40⟩ }) turns crew ∧
        crew.queue.dirty = [] ∧ crew.queue.waiting.get? 1 = none ∧
        crew.queue.inFlight = [] ∧ crew.Pending 1 10 := by
  have begun : Run (start { base := ⟨5⟩, greatest := ⟨40⟩ } : Crew Nat) []
      (start { base := ⟨5⟩, greatest := ⟨40⟩ }) := .refl _
  have added := (begun.tail (.start _ (.enqueue 1))).tail
    (.newest rfl rfl nofun)
  have taken := (added.tail (.start _ (.work fun _ => .ok .backOff))).tail
    (.newest rfl rfl fun _ => List.cons_ne_nil _ _)
  have reckoned := (taken.tail (.newest rfl rfl nofun)).tail
    (.newest rfl rfl nofun)
  have released := (reckoned.tail (.newest rfl rfl nofun)).tail
    (.newest rfl rfl nofun)
  have addedAgain := (released.tail (.start _ (.enqueue 1))).tail
    (.newest rfl rfl nofun)
  have takenAgain := (addedAgain.tail (.start _
    (.work fun _ => .error (.reported "unreachable")))).tail
      (.newest rfl rfl fun _ => List.cons_ne_nil _ _)
  have reckonedAgain := (takenAgain.tail (.newest rfl rfl nofun)).tail
    (.newest rfl rfl nofun)
  have releasedAgain := (reckonedAgain.tail (.newest rfl rfl nofun)).tail
    (.newest rfl rfl nofun)
  have expired := ((releasedAgain.tail (.pass _ 5)).tail
    (.start _ (.fire ⟨1, 5⟩))).tail (.newest rfl rfl nofun)
  obtain ⟨retried, _⟩ := failed_never_dropped expired
  obtain ⟨asked, asks, delivered | pending⟩ :=
    retried [_, _, _, _, _, _, _, _, _, _] _ [_, _] _ 1 rfl ⟨rfl, rfl, rfl⟩
      (.inl ⟨_, rfl⟩)
  · obtain ⟨delivery, among, delivered⟩ := delivered
    rcases List.mem_cons.mp among with rfl | rest
    · cases delivered
    · rcases List.mem_singleton.mp rest with rfl
      cases delivered
  · rcases asks with ⟨adds, _⟩ | waiting
    · cases adds
    · cases waiting
      exact ⟨_, _, expired, rfl, rfl, rfl, pending⟩

end Crew

end SwapWarden
