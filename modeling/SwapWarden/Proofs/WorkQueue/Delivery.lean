import SwapWarden.Proofs.WorkQueue.Exclusivity

/-!
# No update is lost and none is delivered twice

A key is admitted when it is added and was not to be worked on yet, and it
enters the queue then or, if a worker had it, when that worker is done.  Keys
are handed out as often as they were admitted, less once while they are still
to be worked on, and in the order in which they entered.
-/

namespace SwapWarden

variable {κ : Type} [DecidableEq κ]

namespace QueueTurn

/-- The key that becomes one to be worked on. -/
def admitted? (turn : QueueTurn κ) : Option κ :=
  match turn.request with
  | .add key =>
      if turn.queue.closed = true ∨ key ∈ turn.queue.dirty then none
      else some key
  | _ => none

/-- The key that becomes ready. -/
def entered? (turn : QueueTurn κ) : Option κ :=
  match turn.request with
  | .add key =>
      if turn.queue.closed = true ∨ key ∈ turn.queue.dirty then none
      else if key ∈ turn.queue.inFlight then none
      else some key
  | .done key => if key ∈ turn.queue.dirty then some key else none
  | _ => none

theorem of_still {turn : QueueTurn κ}
    (still : turn.request.movesKeys = false) :
    turn.admitted? = none ∧ turn.entered? = none ∧ turn.delivered? = none := by
  rcases turn with ⟨queue, request⟩
  cases request with
  | add key => cases still
  | take => cases still
  | done key => cases still
  | _ => exact ⟨rfl, rfl, rfl⟩

/-- Keys enter the queue at its end and leave it at its front. -/
theorem ready_after (turn : QueueTurn κ) :
    turn.queue.ready ++ turn.entered?.toList =
      turn.delivered?.toList ++ (turn.queue.after turn.request).ready := by
  by_cases moves : turn.request.movesKeys = false
  · obtain ⟨_, entered, delivered⟩ := of_still moves
    have unmoved := WorkQueue.standing_after moves turn.queue
    simp only [WorkQueue.standing, Prod.mk.injEq] at unmoved
    simp [entered, delivered, unmoved.1]
  · rcases turn with ⟨queue, request⟩
    cases request with
    | add key =>
        simp only [entered?, delivered?, WorkQueue.after, WorkQueue.add]
        split
        · simp
        · split
          · simp
          · simp
    | take =>
        cases front : queue.ready with
        | nil =>
            simp [entered?, delivered?, WorkQueue.after, WorkQueue.take?, front]
        | cons key rest =>
            simp [entered?, delivered?, WorkQueue.after, WorkQueue.take?, front]
    | done key =>
        simp only [entered?, delivered?, WorkQueue.after, WorkQueue.done]
        split
        · simp
        · simp
    | _ => exact absurd rfl moves

/-- A key becomes one to be worked on by being admitted, and ceases to be one
by being handed out. -/
theorem count_dirty_after {turn : QueueTurn κ}
    (exclusive : turn.queue.Exclusive) (key : κ) :
    turn.queue.dirty.count key + turn.admitted?.toList.count key =
      (turn.queue.after turn.request).dirty.count key +
        turn.delivered?.toList.count key := by
  by_cases moves : turn.request.movesKeys = false
  · obtain ⟨admitted, _, delivered⟩ := of_still moves
    have unmoved := WorkQueue.standing_after moves turn.queue
    simp only [WorkQueue.standing, Prod.mk.injEq] at unmoved
    simp [admitted, delivered, unmoved.2.1]
  · rcases turn with ⟨queue, request⟩
    cases request with
    | add added =>
        simp only [admitted?, delivered?, WorkQueue.after, WorkQueue.add]
        split
        · simp
        · split
          · simp [List.count_cons]
          · simp [List.count_cons]
    | take =>
        cases front : queue.ready with
        | nil =>
            simp [admitted?, delivered?, WorkQueue.after, WorkQueue.take?,
              front]
        | cons taken rest =>
            have dirty : taken ∈ queue.dirty :=
              ((exclusive.mem_ready_iff taken).mp (by simp [front])).1
            have atLeast : 0 < queue.dirty.count taken :=
              List.count_pos_iff.mpr dirty
            by_cases same : taken = key
            · subst taken
              simp [admitted?, delivered?, WorkQueue.after, WorkQueue.take?,
                front]
              omega
            · simp [admitted?, delivered?, WorkQueue.after, WorkQueue.take?,
                front, same, List.count_erase_of_ne (Ne.symm same)]
    | done ended => simp [admitted?, delivered?, WorkQueue.after, WorkQueue.done]
    | _ => exact absurd rfl moves

end QueueTurn

namespace QueueSystem

/-- Keys are handed out in the order in which they entered. -/
theorem Run.ready_eq {first last : QueueSystem κ} {turns : List (QueueTurn κ)}
    (run : Run first turns last) :
    first.queue.ready ++ turns.filterMap QueueTurn.entered? =
      turns.filterMap QueueTurn.delivered? ++ last.queue.ready := by
  induction run with
  | refl => simp
  | @tail middle last turns turn run step induction =>
      cases turn with
      | none => simpa [step.of_none.1] using induction
      | some turn =>
          obtain ⟨found, _, left, _⟩ := step.of_turn
          have moved := turn.ready_after
          rw [← left, found] at moved
          rw [List.filterMap_append, List.filterMap_append, filterMap_toList,
            filterMap_toList, ← List.append_assoc, induction,
            List.append_assoc, moved, List.append_assoc]

theorem Run.count_eq {first last : QueueSystem κ} {turns : List (QueueTurn κ)}
    (run : Run first turns last) (sound : first.Sound) (key : κ) :
    first.queue.dirty.count key +
        (turns.filterMap QueueTurn.admitted?).count key =
      last.queue.dirty.count key +
        (turns.filterMap QueueTurn.delivered?).count key := by
  induction run with
  | refl => simp
  | @tail middle last turns turn run step induction =>
      cases turn with
      | none => simpa [step.of_none.1] using induction
      | some turn =>
          obtain ⟨found, _, left, _⟩ := step.of_turn
          have exclusive := (Run.sound run sound).exclusive
          have moved := QueueTurn.count_dirty_after (found ▸ exclusive) key
          rw [← left, found] at moved
          rw [List.filterMap_append, List.filterMap_append, filterMap_toList,
            filterMap_toList, List.count_append, List.count_append]
          omega

/-- A key to be worked on stays one until it is handed out. -/
theorem Run.delivered_or_dirty {first last : QueueSystem κ} {key : κ}
    {turns : List (QueueTurn κ)} (run : Run first turns last)
    (sound : first.Sound) (dirty : key ∈ first.queue.dirty) :
    (∃ turn ∈ turns, turn.delivered? = some key) ∨
      key ∈ last.queue.dirty := by
  have balance := run.count_eq sound key
  have atLeast : 0 < first.queue.dirty.count key :=
    List.count_pos_iff.mpr dirty
  by_cases delivered : key ∈ turns.filterMap QueueTurn.delivered?
  · left
    exact List.mem_filterMap.mp delivered
  · right
    rw [List.count_eq_zero_of_not_mem delivered] at balance
    exact List.count_pos_iff.mp (by omega)

theorem mem_dirty_add {queue : WorkQueue κ} (opened : queue.closed = false)
    (key : κ) : key ∈ (queue.add key).dirty := by
  unfold WorkQueue.add
  split
  · rename_i refused
    rcases refused with closed | dirty
    · rw [opened] at closed
      cases closed
    · exact dirty
  · split
    · exact List.mem_cons_self
    · exact List.mem_cons_self

end QueueSystem

namespace WorkQueue

theorem take?_shortens {queue rest : WorkQueue κ} {key : κ}
    (taken : queue.take? = some (key, rest)) :
    rest.ready.length < queue.ready.length := by
  cases front : queue.ready with
  | nil => simp [take?, front] at taken
  | cons first others =>
      simp only [take?, front, Option.some.injEq, Prod.mk.injEq] at taken
      rw [← taken.2]
      simp

/-- The keys that are handed out until the queue is empty. -/
def takeAll (queue : WorkQueue κ) : List κ :=
  match _taken : queue.take? with
  | none => []
  | some (key, rest) => key :: rest.takeAll
termination_by queue.ready.length
decreasing_by exact take?_shortens _taken

theorem takeAll_eq (queue : WorkQueue κ) : queue.takeAll = queue.ready := by
  generalize keys : queue.ready = ready
  induction ready generalizing queue with
  | nil =>
      rw [takeAll]
      split
      · rfl
      · rename_i taken
        simp [take?, keys] at taken
  | cons key rest induction =>
      rw [takeAll]
      split
      · rename_i nothing
        simp [take?, keys] at nothing
      · rename_i taken
        simp only [take?, keys, Option.some.injEq, Prod.mk.injEq] at taken
        obtain ⟨rfl, rfl⟩ := taken
        rw [induction _ rfl]

/-- When the work on all keys in flight ends, in any order, the parked ones
are ready after those that were ready, and no key is left out. -/
theorem Exclusive.finish {queue : WorkQueue κ} (exclusive : queue.Exclusive)
    {order : List κ} (all : order.Perm queue.inFlight) :
    (order.foldl WorkQueue.done queue).Exclusive ∧
      (order.foldl WorkQueue.done queue).inFlight = [] ∧
      (order.foldl WorkQueue.done queue).dirty = queue.dirty ∧
      (order.foldl WorkQueue.done queue).ready =
        queue.ready ++ order.filter (fun key => decide (key ∈ queue.dirty)) := by
  induction order generalizing queue with
  | nil => exact ⟨exclusive, all.nil_eq.symm, rfl, by simp⟩
  | cons key order induction =>
      have working : key ∈ queue.inFlight := all.mem_iff.mp List.mem_cons_self
      have others : order.Perm (queue.done key).inFlight :=
        (List.cons_perm_iff_perm_erase.mp all).2
      obtain ⟨still, settled, sameDirty, ready⟩ :=
        induction (exclusive.done working) others
      refine ⟨still, settled, sameDirty, ?_⟩
      rw [List.foldl_cons, ready]
      by_cases parked : key ∈ queue.dirty
      · simp [WorkQueue.done, parked]
      · simp [WorkQueue.done, parked]

end WorkQueue

namespace QueueSystem

/-- Every key that is added to an open queue is handed out later or still to
be worked on; keys are handed out exactly as often as they were admitted, less
once while they are to be worked on, and in the order in which they entered;
and once the work on the keys handed out has ended, the keys to be worked on
are handed out once each. -/
theorem updates_delivered {backoff : Backoff} {system : QueueSystem κ}
    {turns : List (QueueTurn κ)} (run : Run (start backoff) turns system) :
    (∀ earlier turn later key, turns = earlier ++ turn :: later →
        turn.request = .add key → turn.queue.closed = false →
        (∃ delivery ∈ later, delivery.delivered? = some key) ∨
          key ∈ system.queue.dirty) ∧
      (∀ key, (turns.filterMap QueueTurn.admitted?).count key =
        (turns.filterMap QueueTurn.delivered?).count key +
          if key ∈ system.queue.dirty then 1 else 0) ∧
      turns.filterMap QueueTurn.entered? =
        turns.filterMap QueueTurn.delivered? ++ system.queue.ready ∧
      ∀ order : List κ, order.Perm system.held →
        (order.foldl WorkQueue.done system.queue).takeAll =
            system.queue.ready ++
              order.filter (fun key => decide (key ∈ system.queue.dirty)) ∧
          (order.foldl WorkQueue.done system.queue).takeAll.Nodup ∧
          ∀ key, key ∈ (order.foldl WorkQueue.done system.queue).takeAll ↔
            key ∈ system.queue.dirty := by
  have initially := sound_start (κ := κ) backoff
  have sound := run.sound initially
  refine ⟨?_, ?_, ?_, ?_⟩
  · intro earlier turn later key parts isAdd opened
    obtain ⟨before, next, reached, step, rest⟩ := run.cut parts
    have dirty : key ∈ next.queue.dirty := by
      rw [step.of_turn.2.2.1, isAdd]
      exact mem_dirty_add opened key
    exact Run.delivered_or_dirty rest
      (step.sound (Run.sound reached initially)) dirty
  · intro key
    have balance := run.count_eq initially key
    rw [sound.exclusive.dirty_nodup.count] at balance
    simp only [start, List.count_nil] at balance
    omega
  · exact run.ready_eq
  · intro order all
    rw [sound.held_eq] at all
    obtain ⟨settledExclusive, settled, sameDirty, ready⟩ :=
      sound.exclusive.finish all
    rw [WorkQueue.takeAll_eq]
    refine ⟨ready, settledExclusive.ready_nodup, ?_⟩
    intro key
    rw [settledExclusive.mem_ready_iff, settled, sameDirty]
    simp

/-- A key added twice while a worker has it is delivered once more, after the
key that was ready before that worker was done. -/
theorem updates_delivered_parked :
    ∃ (system : QueueSystem Nat) (turns : List (QueueTurn Nat)),
      Run (start {}) turns system ∧ system.held = [1] ∧
        turns.filterMap QueueTurn.admitted? = [1, 2, 1] ∧
        turns.filterMap QueueTurn.delivered? = [1] ∧
        (turns.filterMap QueueTurn.admitted?).count 1 =
          (turns.filterMap QueueTurn.delivered?).count 1 +
            (if 1 ∈ system.queue.dirty then 1 else 0) ∧
        ([1].foldl WorkQueue.done system.queue).takeAll = [2, 1] := by
  have begun : Run (start {} : QueueSystem Nat) [] (start {}) := .refl _
  have added := (begun.tail (.start _ (.add 1))).tail
    (.newest rfl trivial)
  have both := (added.tail (.start _ (.add 2))).tail
    (.newest rfl trivial)
  have taken := (both.tail (.start _ .take)).tail
    (.newest rfl (.inl (List.cons_ne_nil _ _)))
  have parked := (taken.tail (.start _ (.add 1))).tail
    (.newest rfl trivial)
  have coalesced := (parked.tail (.start _ (.add 1))).tail
    (.newest rfl trivial)
  obtain ⟨_, counts, _, drains⟩ := updates_delivered coalesced
  exact ⟨_, _, coalesced, rfl, rfl, rfl, counts 1, (drains [1] (.refl _)).1⟩

end QueueSystem

end SwapWarden
