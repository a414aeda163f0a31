import Mathlib.Data.List.Nodup
import SwapWarden.Proofs.WorkQueue.Interleaving

/-!
# A key is handed to one worker at a time

A key is ready exactly when it is to be worked on and no worker has it.  Every
section keeps this, so no key is ready twice, and a key that was handed out is
not handed out again before its work has ended.
-/

namespace SwapWarden

variable {κ : Type}

/-- Whether a section may move a key between the lists of a queue. -/
def QueueRequest.movesKeys : QueueRequest κ → Bool
  | .add _ => true
  | .take => true
  | .done _ => true
  | _ => false

namespace WorkQueue

/-- Where the keys of a queue stand. -/
def standing (queue : WorkQueue κ) : List κ × List κ × List κ :=
  (queue.ready, queue.dirty, queue.inFlight)

section

variable [DecidableEq κ]

theorem standing_await (queue : WorkQueue κ) (key : κ) (deadline : Nat) :
    (queue.await key deadline).standing = queue.standing := by
  unfold await
  split
  · rfl
  · rfl

theorem standing_expire (queue : WorkQueue κ) (timer : Timer κ) :
    (queue.expire timer).1.standing = queue.standing := by
  unfold expire
  dsimp only
  split
  · rfl
  · rfl

theorem standing_after {request : QueueRequest κ}
    (still : request.movesKeys = false) (queue : WorkQueue κ) :
    (queue.after request).standing = queue.standing := by
  cases request with
  | readClock => rfl
  | await key deadline => exact standing_await queue key deadline
  | expire timer => exact standing_expire queue timer
  | countRetry key => rfl
  | forget key => rfl
  | close => rfl
  | add key => cases still
  | take => cases still
  | done key => cases still

end

/-- The relation of the three lists of keys that every section keeps. -/
structure Exclusive (queue : WorkQueue κ) : Prop where
  ready_nodup : queue.ready.Nodup
  dirty_nodup : queue.dirty.Nodup
  inFlight_nodup : queue.inFlight.Nodup
  mem_ready_iff :
    ∀ key, key ∈ queue.ready ↔ key ∈ queue.dirty ∧ key ∉ queue.inFlight

namespace Exclusive

variable {queue : WorkQueue κ}

theorem of_standing {other : WorkQueue κ} (exclusive : queue.Exclusive)
    (same : other.standing = queue.standing) : other.Exclusive := by
  simp only [standing, Prod.mk.injEq] at same
  obtain ⟨sameReady, sameDirty, sameInFlight⟩ := same
  constructor
  · rw [sameReady]
    exact exclusive.ready_nodup
  · rw [sameDirty]
    exact exclusive.dirty_nodup
  · rw [sameInFlight]
    exact exclusive.inFlight_nodup
  · rw [sameReady, sameDirty, sameInFlight]
    exact exclusive.mem_ready_iff

theorem disjoint (exclusive : queue.Exclusive) :
    queue.ready.Disjoint queue.inFlight := by
  intro key inReady inFlight
  exact ((exclusive.mem_ready_iff key).mp inReady).2 inFlight

theorem front_not_inFlight (exclusive : queue.Exclusive) {key : κ}
    {rest : List κ} (front : queue.ready = key :: rest) :
    key ∉ queue.inFlight :=
  ((exclusive.mem_ready_iff key).mp (by simp [front])).2

theorem ready_append_nodup (exclusive : queue.Exclusive) {key : κ}
    (notReady : key ∉ queue.ready) : (queue.ready ++ [key]).Nodup := by
  rw [← List.concat_eq_append]
  exact exclusive.ready_nodup.concat notReady

variable [DecidableEq κ]

theorem add (exclusive : queue.Exclusive) (key : κ) :
    (queue.add key).Exclusive := by
  by_cases refused : queue.closed = true ∨ key ∈ queue.dirty
  · rw [WorkQueue.add, if_pos refused]
    exact exclusive
  · have notDirty : key ∉ queue.dirty := fun dirty => refused (.inr dirty)
    have notReady : key ∉ queue.ready := fun ready =>
      notDirty ((exclusive.mem_ready_iff key).mp ready).1
    have dirtyNodup : (key :: queue.dirty).Nodup :=
      List.nodup_cons.mpr ⟨notDirty, exclusive.dirty_nodup⟩
    by_cases parked : key ∈ queue.inFlight
    · rw [WorkQueue.add, if_neg refused, if_pos parked]
      refine ⟨exclusive.ready_nodup, dirtyNodup, exclusive.inFlight_nodup, ?_⟩
      intro other
      have known := exclusive.mem_ready_iff other
      by_cases same : other = key
      · subst other
        simp [notReady, parked]
      · simpa [same] using known
    · rw [WorkQueue.add, if_neg refused, if_neg parked]
      refine ⟨exclusive.ready_append_nodup notReady, dirtyNodup,
        exclusive.inFlight_nodup, ?_⟩
      intro other
      have known := exclusive.mem_ready_iff other
      by_cases same : other = key
      · subst other
        simp [parked]
      · simpa [same] using known

theorem take (exclusive : queue.Exclusive) : (queue.after .take).Exclusive := by
  cases front : queue.ready with
  | nil =>
      have unchanged : queue.after .take = queue := by
        simp [after, take?, front]
      rw [unchanged]
      exact exclusive
  | cons key rest =>
      have notInFlight := exclusive.front_not_inFlight front
      have readyNodup := exclusive.ready_nodup
      rw [front, List.nodup_cons] at readyNodup
      have moved : queue.after .take =
          { queue with
            ready := rest
            dirty := queue.dirty.erase key
            inFlight := key :: queue.inFlight } := by
        simp [after, take?, front, notInFlight]
      rw [moved]
      refine ⟨readyNodup.2, exclusive.dirty_nodup.erase key,
        List.nodup_cons.mpr ⟨notInFlight, exclusive.inFlight_nodup⟩, ?_⟩
      intro other
      have known := exclusive.mem_ready_iff other
      rw [front] at known
      rw [exclusive.dirty_nodup.mem_erase_iff]
      by_cases same : other = key
      · subst other
        simp [readyNodup.1]
      · simpa [same] using known

theorem done (exclusive : queue.Exclusive) {key : κ}
    (working : key ∈ queue.inFlight) : (queue.done key).Exclusive := by
  have notReady : key ∉ queue.ready := fun ready =>
    exclusive.disjoint ready working
  refine ⟨?_, exclusive.dirty_nodup, exclusive.inFlight_nodup.erase key, ?_⟩
  · by_cases parked : key ∈ queue.dirty
    · simp only [WorkQueue.done, if_pos parked]
      exact exclusive.ready_append_nodup notReady
    · simp only [WorkQueue.done, if_neg parked]
      exact exclusive.ready_nodup
  · intro other
    have known := exclusive.mem_ready_iff other
    simp only [WorkQueue.done, exclusive.inFlight_nodup.mem_erase_iff]
    by_cases same : other = key
    · subst other
      by_cases parked : key ∈ queue.dirty
      · simp [parked]
      · simp [parked, notReady]
    · by_cases parked : key ∈ queue.dirty
      · simpa [parked, same] using known
      · simpa [parked, same] using known

theorem after (exclusive : queue.Exclusive) {request : QueueRequest κ}
    (rightful : ∀ key, request = .done key → key ∈ queue.inFlight) :
    (queue.after request).Exclusive := by
  cases request with
  | add key => exact exclusive.add key
  | take => exact exclusive.take
  | done key => exact exclusive.done (rightful key rfl)
  | readClock => exact exclusive
  | await key deadline => exact exclusive.of_standing (standing_after rfl queue)
  | expire timer => exact exclusive.of_standing (standing_after rfl queue)
  | countRetry key => exact exclusive.of_standing (standing_after rfl queue)
  | forget key => exact exclusive.of_standing (standing_after rfl queue)
  | close => exact exclusive.of_standing (standing_after rfl queue)

end Exclusive

end WorkQueue

namespace QueueSystem

/-- Keys are exclusive, and those handed out are those in flight. -/
structure Sound (system : QueueSystem κ) : Prop where
  exclusive : system.queue.Exclusive
  held_eq : system.held = system.queue.inFlight

theorem sound_start (backoff : Backoff) :
    (start backoff : QueueSystem κ).Sound :=
  ⟨⟨List.nodup_nil, List.nodup_nil, List.nodup_nil, by simp [start]⟩, rfl⟩

variable [DecidableEq κ]

/-- The keys handed out are the keys in flight, in the same order. -/
theorem heldAfter_eq {system : QueueSystem κ} (sound : system.Sound)
    (request : QueueRequest κ) :
    system.heldAfter request = (system.queue.after request).inFlight := by
  have same := sound.held_eq
  have framed (still : request.movesKeys = false) :
      (system.queue.after request).inFlight = system.queue.inFlight :=
    congrArg (fun standing => standing.2.2)
      (WorkQueue.standing_after still system.queue)
  cases request with
  | add key =>
      have unchanged : (system.queue.add key).inFlight =
          system.queue.inFlight := by
        unfold WorkQueue.add
        split
        · rfl
        · split
          · rfl
          · rfl
      exact same.trans unchanged.symm
  | take =>
      cases front : system.queue.ready with
      | nil => simp [heldAfter, WorkQueue.after, WorkQueue.take?, front, same]
      | cons key rest =>
          have free := sound.exclusive.front_not_inFlight front
          simp [heldAfter, WorkQueue.after, WorkQueue.take?, front, same, free]
  | done key => exact congrArg (List.erase · key) same
  | readClock => exact same
  | await key deadline => exact same.trans (framed rfl).symm
  | expire timer => exact same.trans (framed rfl).symm
  | countRetry key => exact same
  | forget key => exact same
  | close => exact same

theorem Step.sound {system next : QueueSystem κ}
    {turn : Option (QueueTurn κ)} (step : Step system turn next)
    (sound : system.Sound) : next.Sound := by
  cases turn with
  | none =>
      obtain ⟨sameQueue, sameHeld⟩ := step.of_none
      constructor
      · rw [sameQueue]
        exact sound.exclusive
      · rw [sameQueue, sameHeld]
        exact sound.held_eq
  | some turn =>
      obtain ⟨found, permitted, left, held⟩ := step.of_turn
      rw [found] at left
      have rightful : ∀ key, turn.request = .done key →
          key ∈ system.queue.inFlight := by
        intro key isDone
        rw [isDone] at permitted
        exact sound.held_eq ▸ permitted
      constructor
      · rw [left]
        exact sound.exclusive.after rightful
      · rw [left, held]
        exact heldAfter_eq sound turn.request

theorem Run.sound {first last : QueueSystem κ} {turns : List (QueueTurn κ)}
    (run : Run first turns last) (sound : first.Sound) : last.Sound :=
  run.invariant sound (fun known step => step.sound known)

/-- A key stays handed out until its work ends. -/
theorem Run.still_held {first last : QueueSystem κ} {key : κ}
    {turns : List (QueueTurn κ)} (run : Run first turns last)
    (held : key ∈ first.held)
    (working : ∀ turn ∈ turns, turn.request ≠ .done key) :
    key ∈ last.held := by
  induction run with
  | refl => exact held
  | @tail middle last turns turn run step induction =>
      have before : key ∈ middle.held :=
        induction (fun turn member =>
          working turn (List.mem_append_left _ member))
      cases turn with
      | none =>
          rw [step.of_none.2]
          exact before
      | some turn =>
          have other := working turn (by simp)
          rw [step.of_turn.2.2.2]
          cases named : turn.request with
          | take => exact List.mem_append_right _ before
          | done ended =>
              have different : key ≠ ended := by
                intro same
                exact other (same ▸ named)
              exact (List.mem_erase_of_ne different).mpr before
          | readClock => exact before
          | add _ => exact before
          | await _ _ => exact before
          | expire _ => exact before
          | countRetry _ => exact before
          | forget _ => exact before
          | close => exact before

/-- In every run the queue holds no key twice, holds a key exactly when it is
to be worked on and with no worker, and between two handouts of one key the
work on it ends. -/
theorem exclusive_handout {backoff : Backoff} {system : QueueSystem κ}
    {turns : List (QueueTurn κ)} (run : Run (start backoff) turns system) :
    system.queue.ready.Nodup ∧
      (∀ key, key ∈ system.queue.ready ↔
        key ∈ system.queue.dirty ∧ key ∉ system.queue.inFlight) ∧
      system.queue.ready.Disjoint system.queue.inFlight ∧
      system.held = system.queue.inFlight ∧ system.held.Nodup ∧
      ∀ earlier first between second later key,
        turns = earlier ++ first :: (between ++ second :: later) →
        first.delivered? = some key → second.delivered? = some key →
        ∃ turn ∈ between, turn.request = .done key := by
  obtain ⟨exclusive, same⟩ := run.sound (sound_start backoff)
  refine ⟨exclusive.ready_nodup, exclusive.mem_ready_iff, exclusive.disjoint,
    same, same ▸ exclusive.inFlight_nodup, ?_⟩
  intro earlier first between second later key parts firstKey secondKey
  by_contra unfinished
  obtain ⟨handing, working, before, handed, rest⟩ := run.cut parts
  obtain ⟨asking, _, during, asked, _⟩ := rest.cut rfl
  obtain ⟨firstTakes, _, firstFront⟩ := QueueTurn.of_delivered firstKey
  obtain ⟨_, _, secondFront⟩ := QueueTurn.of_delivered secondKey
  have heldFirst : key ∈ working.held := by
    rw [handed.of_turn.2.2.2, firstTakes]
    rw [handed.of_turn.1] at firstFront
    simp [heldAfter, firstFront]
  have stillHeld : key ∈ asking.held := by
    refine Run.still_held during heldFirst ?_
    intro turn member isDone
    exact unfinished ⟨turn, member, isDone⟩
  obtain ⟨exclusiveThen, sameThen⟩ :=
    Run.sound ((before.tail handed).trans during) (sound_start backoff)
  rw [asked.of_turn.1] at secondFront
  exact exclusiveThen.front_not_inFlight secondFront (sameThen ▸ stillHeld)

/-- A key that is added again while a worker has it: it is parked, and handed
out a second time only after the first worker is done. -/
theorem exclusive_handout_parked :
    ∃ (system : QueueSystem Nat) (turns : List (QueueTurn Nat)),
      Run (start {}) turns system ∧
        turns.map QueueTurn.delivered? = [none, some 1, none, none, some 1] ∧
        system.held = [1] ∧ system.queue.ready.Nodup ∧
        ∀ earlier first between second later key,
          turns = earlier ++ first :: (between ++ second :: later) →
          first.delivered? = some key → second.delivered? = some key →
          ∃ turn ∈ between, turn.request = .done key := by
  have begun : Run (start {} : QueueSystem Nat) [] (start {}) := .refl _
  have added := (begun.tail (.start _ (.add 1))).tail
    (.newest rfl trivial)
  have taken := (added.tail (.start _ .take)).tail
    (.newest rfl (.inl (List.cons_ne_nil _ _)))
  have parked := (taken.tail (.start _ (.add 1))).tail
    (.newest rfl trivial)
  have ended := (parked.tail (.start _ (.done 1))).tail
    (.newest rfl List.mem_cons_self)
  have again := (ended.tail (.start _ .take)).tail
    (.newest rfl (.inl (List.cons_ne_nil _ _)))
  obtain ⟨nodup, _, _, _, _, alternate⟩ := exclusive_handout again
  exact ⟨_, _, again, rfl, rfl, nodup, alternate⟩

end QueueSystem

end SwapWarden
