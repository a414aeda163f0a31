import SwapWarden.Proofs.WorkQueue.Deadlines

/-!
# Shutting down drains the queue

A queue that has shut down accepts nothing.  The keys to be worked on then are
handed out once each, the parked ones when the work on them has ended, and
nothing else is.  Every worker goes on only after it was handed a key, so the
keys to be worked on and the workers with a key bound the rounds that are left.
-/

namespace SwapWarden

variable {κ : Type}

theorem Call.countP_served (before rest : List (Call κ)) (call : Call κ) :
    (before ++ call :: rest).countP Call.served =
      call.served.toNat + (before ++ rest).countP Call.served := by
  rw [List.perm_middle.countP_eq, List.countP_cons]
  cases call.served with
  | false => simp
  | true => simp [Nat.add_comm]

variable [DecidableEq κ]

/-! ## A queue that has shut down -/

namespace WorkQueue

variable {queue : WorkQueue κ}

theorem add_closed (closed : queue.closed = true) (key : κ) :
    queue.add key = queue :=
  if_pos (.inl closed)

theorem stays_closed (closed : queue.closed = true)
    (request : QueueRequest κ) : (queue.after request).closed = true := by
  by_cases closes : request = .close
  · subst closes
    rfl
  · rw [closed_after closes]
    exact closed

/-- Once the queue has shut down, keys move only by being handed out and by
the end of the work on them. -/
theorem standing_closed (closed : queue.closed = true)
    {request : QueueRequest κ} (untaken : request ≠ .take)
    (undone : ∀ key, request ≠ .done key) :
    (queue.after request).standing = queue.standing := by
  by_cases moves : request.movesKeys = false
  · exact standing_after moves queue
  · cases request with
    | add key => exact congrArg standing (add_closed closed key)
    | take => exact absurd rfl untaken
    | done key => exact absurd rfl (undone key)
    | _ => exact absurd rfl moves

omit [DecidableEq κ] in
theorem Exclusive.dirty_eq_nil (exclusive : queue.Exclusive)
    (empty : queue.ready = []) (free : queue.inFlight = []) :
    queue.dirty = [] := by
  apply List.eq_nil_iff_forall_not_mem.mpr
  intro key dirty
  have notInFlight : key ∉ queue.inFlight := by
    rw [free]
    exact List.not_mem_nil
  have ready := (exclusive.mem_ready_iff key).mpr ⟨dirty, notInFlight⟩
  rw [empty] at ready
  cases ready

end WorkQueue

namespace QueueTurn

variable {turn : QueueTurn κ}

theorem admitted_closed (closed : turn.queue.closed = true) :
    turn.admitted? = none := by
  unfold admitted?
  split
  · exact if_pos (.inl closed)
  · rfl

theorem delivered_perm (exclusive : turn.queue.Exclusive)
    (closed : turn.queue.closed = true) :
    (turn.delivered?.toList ++ (turn.queue.after turn.request).dirty).Perm
      turn.queue.dirty := by
  apply List.perm_iff_count.mpr
  intro key
  have balance := QueueTurn.count_dirty_after exclusive key
  rw [admitted_closed closed, Option.toList_none, List.count_nil] at balance
  rw [List.count_append]
  omega

end QueueTurn

namespace QueueSystem

variable {first last system next : QueueSystem κ} {turns : List (QueueTurn κ)}

theorem Step.stays_closed {turn : Option (QueueTurn κ)}
    (step : Step system turn next) (closed : system.queue.closed = true) :
    next.queue.closed = true := by
  cases turn with
  | none =>
      rw [step.of_none.1]
      exact closed
  | some turn =>
      obtain ⟨found, _, left, _⟩ := step.of_turn
      rw [left, found]
      exact WorkQueue.stays_closed closed turn.request

theorem Run.stays_closed (run : Run first turns last)
    (closed : first.queue.closed = true) : last.queue.closed = true :=
  run.invariant closed (fun known step => step.stays_closed known)

theorem Run.closed_turn (run : Run first turns last)
    (closed : first.queue.closed = true) {turn : QueueTurn κ}
    (given : turn ∈ turns) : turn.queue.closed = true := by
  obtain ⟨earlier, later, parts⟩ := List.append_of_mem given
  obtain ⟨state, next, before, step, _⟩ := run.cut parts
  rw [step.of_turn.1]
  exact Run.stays_closed before closed

/-- What was handed out since the queue shut down and what is still to be
worked on is what was to be worked on then. -/
theorem Run.delivered_perm (run : Run first turns last)
    (sound : first.Sound) (closed : first.queue.closed = true) :
    (turns.filterMap QueueTurn.delivered? ++ last.queue.dirty).Perm
      first.queue.dirty := by
  have refused : turns.filterMap QueueTurn.admitted? = [] := by
    apply List.filterMap_eq_nil_iff.mpr
    intro turn given
    exact QueueTurn.admitted_closed (Run.closed_turn run closed given)
  apply List.perm_iff_count.mpr
  intro key
  have balance := run.count_eq sound key
  rw [refused, List.count_nil] at balance
  rw [List.count_append]
  omega

/-- A key that is handed out while it was handed out before has been ended in
between. -/
theorem Run.done_before (run : Run first turns last) (sound : first.Sound)
    {key : κ} (held : key ∈ first.held) {earlier later : List (QueueTurn κ)}
    {turn : QueueTurn κ} (parts : turns = earlier ++ turn :: later)
    (delivered : turn.delivered? = some key) :
    ∃ ending ∈ earlier, ending.request = .done key := by
  by_contra unfinished
  obtain ⟨state, next, before, step, _⟩ := run.cut parts
  have stillHeld : key ∈ state.held := by
    refine Run.still_held before held ?_
    intro ending member isDone
    exact unfinished ⟨ending, member, isDone⟩
  obtain ⟨exclusive, same⟩ := Run.sound before sound
  obtain ⟨_, rest, front⟩ := QueueTurn.of_delivered delivered
  rw [step.of_turn.1] at front
  exact exclusive.front_not_inFlight front (same ▸ stillHeld)

theorem heldAfter_other {request : QueueRequest κ} (untaken : request ≠ .take)
    (undone : ∀ key, request ≠ .done key) :
    system.heldAfter request = system.held := by
  cases request with
  | take => exact absurd rfl untaken
  | done key => exact absurd rfl (undone key)
  | _ => rfl

/-- A queue that has shut down, is empty, and has no key with a worker. -/
structure Drained (system : QueueSystem κ) : Prop where
  closed : system.queue.closed = true
  ready : system.queue.ready = []
  held : system.held = []

theorem Drained.take (drained : system.Drained) :
    system.Permits .take ∧ system.queue.take? = none := by
  constructor
  · exact .inr drained.closed
  · simp [WorkQueue.take?, drained.ready]

theorem Drained.after (drained : system.Drained) {request : QueueRequest κ}
    (permitted : system.Permits request) :
    (system.queue.after request).ready = [] ∧
      system.heldAfter request = [] := by
  have undone : ∀ key, request ≠ .done key := by
    rintro key rfl
    have holds : key ∈ system.held := permitted
    rw [drained.held] at holds
    cases holds
  by_cases takes : request = .take
  · subst takes
    constructor
    · simp [WorkQueue.after, drained.take.2, drained.ready]
    · simp [heldAfter, drained.ready, drained.held]
  · have unmoved := WorkQueue.standing_closed drained.closed takes undone
    simp only [WorkQueue.standing, Prod.mk.injEq] at unmoved
    constructor
    · exact unmoved.1.trans drained.ready
    · exact (heldAfter_other takes undone).trans drained.held

theorem Step.drained {turn : Option (QueueTurn κ)}
    (step : Step system turn next) (drained : system.Drained) :
    next.Drained := by
  have closed := step.stays_closed drained.closed
  cases turn with
  | none =>
      obtain ⟨sameQueue, sameHeld⟩ := step.of_none
      constructor
      · exact closed
      · rw [sameQueue]
        exact drained.ready
      · rw [sameHeld]
        exact drained.held
  | some turn =>
      obtain ⟨found, permitted, left, held⟩ := step.of_turn
      obtain ⟨ready, free⟩ := drained.after permitted
      constructor
      · exact closed
      · rw [left, found]
        exact ready
      · rw [held]
        exact free

theorem Run.drained (run : Run first turns last) (drained : first.Drained) :
    last.Drained :=
  run.invariant drained (fun known step => step.drained known)

end QueueSystem

/-! ## The rounds that are left -/

namespace CallSystem

variable {first last system next : CallSystem κ} {events : List (CallEvent κ)}

/-- Keys to be worked on and workers that were handed one. -/
def roundsLeft (system : CallSystem κ) : Nat :=
  system.queue.dirty.length + system.calls.countP Call.served

theorem served_resume (call : Call κ) (request : QueueRequest κ)
    (next : request.Answer → QueueScript κ) (queue : WorkQueue κ)
    (now : Nat) :
    (call.resume request next (queue.answer now request)).served.toNat ≤
      call.served.toNat +
        (⟨queue, request⟩ : QueueTurn κ).delivered?.toList.length := by
  cases request with
  | take =>
      cases front : queue.ready with
      | nil =>
          simp [Call.resume, Call.servedAfter, WorkQueue.answer,
            WorkQueue.take?, QueueTurn.delivered?, front]
      | cons key rest =>
          simp [Call.resume, Call.servedAfter, WorkQueue.answer,
            WorkQueue.take?, QueueTurn.delivered?, front]
  | _ => exact Nat.le_add_right _ _

/-- Every round that a worker goes on with uses up one of those left. -/
theorem Step.roundsLeft_le {event : Option (CallEvent κ)}
    (step : Step system event next) (sound : system.anonymous.Sound)
    (closed : system.queue.closed = true) :
    event.toList.countP CallEvent.isAgain + next.roundsLeft ≤
      system.roundsLeft := by
  cases step with
  | start operation => simp [roundsLeft, Call.begin]
  | pass span => simp [roundsLeft]
  | @turn call request follows before rest present asks permitted =>
      have handed : (⟨system.queue, request⟩ :
          QueueTurn κ).delivered?.toList.length +
            (system.queue.after request).dirty.length =
          system.queue.dirty.length := by
        rw [← List.length_append]
        exact (QueueTurn.delivered_perm sound.exclusive closed).length_eq
      have served := served_resume call request follows system.queue system.now
      have uncounted (turn : CallTurn κ) :
          (some (CallEvent.turn turn)).toList.countP CallEvent.isAgain = 0 :=
        rfl
      rw [uncounted]
      simp only [roundsLeft, present, given, Call.countP_served]
      omega
  | @again call before rest former outcome present works finished served =>
      have counted : (some (CallEvent.again : CallEvent κ)).toList.countP
          CallEvent.isAgain = 1 := rfl
      have fresh (calls : List (Call κ)) :
          (Call.begin (.work outcome) :: calls).countP Call.served =
            calls.countP Call.served := by
        apply List.countP_cons_of_neg
        intro served
        cases served
      rw [counted]
      simp only [roundsLeft, present, Call.countP_served, served, fresh,
        Bool.toNat_true, Bool.toNat_false]
      omega

theorem Run.roundsLeft_le (run : Run first events last)
    (sound : first.anonymous.Sound) (closed : first.queue.closed = true) :
    events.countP CallEvent.isAgain + last.roundsLeft ≤ first.roundsLeft := by
  induction run with
  | refl => simp
  | @tail middle last events event run step induction =>
      have soundThen : middle.anonymous.Sound :=
        (Run.anonymous run).sound sound
      have closedThen : middle.queue.closed = true :=
        QueueSystem.Run.stays_closed (Run.anonymous run) closed
      have moved := step.roundsLeft_le soundThen closedThen
      rw [List.countP_append]
      omega

/-- From the moment the queue has shut down nothing waits any more, and keys
move only by being handed out and by the end of the work on them.  What is
handed out, with what is still to be worked on, is what was to be worked on
then, each key once, and a key that a worker had only after that worker was
done with it.  When nothing is ready and no worker has a key, all of it was
handed out, and from then on whoever asks is told at once that there is none.
The rounds that workers go on with are bounded, whatever the outcomes are. -/
theorem shutdown_drains {backoff : Backoff} {system last : CallSystem κ}
    {earlier events : List (CallEvent κ)}
    (before : Run (start backoff) earlier system)
    (closed : system.queue.closed = true) (run : Run system events last) :
    (last.queue.closed = true ∧ last.queue.waits = (Table.empty, [])) ∧
      (∀ turn ∈ events.filterMap CallEvent.turn?, turn.request ≠ .take →
        (∀ key, turn.request ≠ .done key) →
        (turn.queue.after turn.request).standing = turn.queue.standing) ∧
      ((events.filterMap CallEvent.turn?).filterMap QueueTurn.delivered? ++
        last.queue.dirty).Perm system.queue.dirty ∧
      ((events.filterMap CallEvent.turn?).filterMap
        QueueTurn.delivered?).Nodup ∧
      ((events.filterMap CallEvent.turn?).filterMap
        QueueTurn.delivered?).length ≤ system.queue.dirty.length ∧
      (∀ key ∈ system.queue.inFlight, ∀ sooner turn later,
        events.filterMap CallEvent.turn? = sooner ++ turn :: later →
        turn.delivered? = some key →
        ∃ ending ∈ sooner, ending.request = .done key) ∧
      (last.queue.ready = [] → last.queue.inFlight = [] →
        ((events.filterMap CallEvent.turn?).filterMap
            QueueTurn.delivered?).Perm system.queue.dirty ∧
          ∀ after final, Run last after final →
            final.anonymous.Permits .take ∧ final.queue.take? = none) ∧
      events.countP CallEvent.isAgain ≤
        system.queue.dirty.length + system.calls.countP Call.served := by
  have initially := QueueSystem.sound_start (κ := κ) backoff
  have sound : system.anonymous.Sound := before.anonymous.sound initially
  have soundThen : last.anonymous.Sound := run.anonymous.sound sound
  have timed := run.anonymous.timed
    (before.anonymous.timed (QueueSystem.timed_start backoff))
  have closedThen : last.queue.closed = true :=
    run.anonymous.stays_closed closed
  have exclusive : last.queue.Exclusive := soundThen.exclusive
  have sameHeld : last.held = last.queue.inFlight := soundThen.held_eq
  have handed : ((events.filterMap CallEvent.turn?).filterMap
      QueueTurn.delivered? ++ last.queue.dirty).Perm system.queue.dirty :=
    run.anonymous.delivered_perm sound closed
  refine ⟨⟨closedThen, timed.quiet closedThen⟩, ?_, handed, ?_, ?_, ?_, ?_, ?_⟩
  · intro turn given untaken undone
    have closedTurn := run.anonymous.closed_turn closed given
    exact WorkQueue.standing_closed closedTurn untaken undone
  · have all := (handed.nodup_iff).mpr sound.exclusive.dirty_nodup
    exact (List.nodup_append.mp all).1
  · rw [← handed.length_eq, List.length_append]
    exact Nat.le_add_right _ _
  · intro key working sooner turn later parts delivered
    have held : key ∈ system.anonymous.held := sound.held_eq ▸ working
    exact run.anonymous.done_before sound held parts delivered
  · intro empty free
    have settled : last.queue.dirty = [] := exclusive.dirty_eq_nil empty free
    constructor
    · rw [settled, List.append_nil] at handed
      exact handed
    · intro after final rest
      have drained : last.anonymous.Drained :=
        ⟨closedThen, empty, sameHeld.trans free⟩
      exact (rest.anonymous.drained drained).take
  · have bounded := run.roundsLeft_le sound closed
    simp only [roundsLeft] at bounded
    omega

/-- A worker has key 1, which was added again, and key 2 is ready when the
queue shuts down.  The worker backs off, which lets nothing wait any more, and
goes on for as many rounds as there are keys to be worked on and workers with
one. -/
theorem shutdown_drains_rounds :
    ∃ (system last : CallSystem Nat) (earlier events : List (CallEvent Nat)),
      Run (start {}) earlier system ∧ system.queue.closed = true ∧
        Run system events last ∧
        (events.filterMap CallEvent.turn?).filterMap QueueTurn.delivered? =
          [2, 1] ∧
        events.countP CallEvent.isAgain = 3 ∧
        system.queue.dirty.length + system.calls.countP Call.served = 3 ∧
        last.queue.waits = (Table.empty, []) ∧ last.queue.take? = none := by
  have begun : Run (start {} : CallSystem Nat) [] (start {}) := .refl _
  have added := (begun.tail (.start _ (.add 1))).tail (.newest rfl rfl trivial)
  have both := (added.tail (.start _ (.add 2))).tail (.newest rfl rfl trivial)
  have taken := (both.tail (.start _ (.work fun _ => .backOff))).tail
    (.newest rfl rfl (.inl (List.cons_ne_nil _ _)))
  have parked := (taken.tail (.start _ (.add 1))).tail
    (.newest rfl rfl trivial)
  have shut := (parked.tail (.start _ .close)).tail (.newest rfl rfl trivial)
  have since {state : CallSystem Nat} {events : List (CallEvent Nat)}
      (_ : Run (start {}) events state) : Run state [] state := .refl state
  have working := ((since shut).tail
    (.turn (show _ = [_, _] ++ _ :: _ from rfl) rfl trivial)).tail
    (.turn (show _ = [_, _] ++ _ :: _ from rfl) rfl trivial)
  have ended := (working.tail
    (.turn (show _ = [_, _] ++ _ :: _ from rfl) rfl trivial)).tail
    (.turn (show _ = [_, _] ++ _ :: _ from rfl) rfl List.mem_cons_self)
  have second := (ended.tail
    (.again (fun _ => .forget) (show _ = [_, _] ++ _ :: _ from rfl) rfl rfl
      rfl)).tail (.newest rfl rfl (.inl (List.cons_ne_nil _ _)))
  have endedAgain := (second.tail (.newest rfl rfl trivial)).tail
    (.newest rfl rfl List.mem_cons_self)
  have third := (endedAgain.tail
    (.again (fun _ => .immediate) (show _ = [] ++ _ :: _ from rfl) rfl rfl
      rfl)).tail (.newest rfl rfl (.inl (List.cons_ne_nil _ _)))
  have endedLast := (third.tail (.newest rfl rfl trivial)).tail
    (.newest rfl rfl List.mem_cons_self)
  have afterwards := (endedLast.tail
    (.again (fun _ => .forget) (show _ = [] ++ _ :: _ from rfl) rfl rfl
      rfl)).tail (.newest rfl rfl (.inr rfl))
  obtain ⟨⟨_, nothing⟩, _, _, _, _, _, drained, _⟩ :=
    shutdown_drains shut rfl afterwards
  refine ⟨_, _, _, _, shut, rfl, afterwards, rfl, rfl, rfl, nothing, ?_⟩
  exact ((drained rfl rfl).2 [] _ (.refl _)).2

end CallSystem

end SwapWarden
