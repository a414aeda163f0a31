import SwapWarden.Proofs.WorkQueue.Section

/-!
# Delays of the work queue

A key that waits for a deadline has a live timer for it.  No section but the
end of that very wait, or shutting down, takes the key out of those that wait
or puts its deadline off.
-/

namespace SwapWarden

variable {κ : Type}

/-- Whether a section may begin or end a wait. -/
def QueueRequest.movesWaits : QueueRequest κ → Bool
  | .await _ _ | .expire _ | .close => true
  | _ => false

namespace WorkQueue

def waits (queue : WorkQueue κ) : Table κ Nat × List (Timer κ) :=
  (queue.waiting, queue.timers)

variable [DecidableEq κ]

theorem waits_add (queue : WorkQueue κ) (key : κ) :
    (queue.add key).waits = queue.waits := by
  unfold add
  split
  · rfl
  · split
    · rfl
    · rfl

theorem waits_take (queue : WorkQueue κ) :
    (queue.after .take).waits = queue.waits := by
  cases front : queue.ready with
  | nil => simp [after, take?, front]
  | cons key rest => simp [after, take?, front, waits]

theorem waits_after {request : QueueRequest κ}
    (still : request.movesWaits = false) (queue : WorkQueue κ) :
    (queue.after request).waits = queue.waits := by
  cases request with
  | readClock => rfl
  | add key => exact waits_add queue key
  | countRetry key => rfl
  | take => exact waits_take queue
  | done key => rfl
  | forget key => rfl
  | await key deadline => cases still
  | expire timer => cases still
  | close => cases still

/-- A key waits for a deadline, and a timer for just that deadline is live. -/
structure WaitsFor (queue : WorkQueue κ) (key : κ) (deadline : Nat) : Prop where
  waiting : queue.waiting.get? key = some deadline
  live : ⟨key, deadline⟩ ∈ queue.timers

def Armed (queue : WorkQueue κ) : Prop :=
  ∀ key deadline, queue.waiting.get? key = some deadline →
    queue.WaitsFor key deadline

theorem WaitsFor.of_waits {queue other : WorkQueue κ} {key : κ}
    {deadline : Nat} (known : queue.WaitsFor key deadline)
    (same : other.waits = queue.waits) : other.WaitsFor key deadline := by
  simp only [waits, Prod.mk.injEq] at same
  constructor
  · rw [same.1]
    exact known.waiting
  · rw [same.2]
    exact known.live

theorem WaitsFor.await {queue : WorkQueue κ} {key other : κ}
    {deadline asked : Nat} (known : queue.WaitsFor key deadline)
    (different : other ≠ key) :
    (queue.await other asked).WaitsFor key deadline := by
  unfold WorkQueue.await
  split
  · exact known
  · constructor
    · rw [Table.get?_put, if_neg different]
      exact known.waiting
    · exact List.mem_append_left _ known.live

theorem WaitsFor.expire {queue : WorkQueue κ} {key : κ} {deadline : Nat}
    {timer : Timer κ} (known : queue.WaitsFor key deadline)
    (different : timer ≠ ⟨key, deadline⟩) :
    (queue.expire timer).1.WaitsFor key deadline := by
  have stillLive : ⟨key, deadline⟩ ∈ queue.timers.erase timer :=
    (List.mem_erase_of_ne different.symm).mpr known.live
  unfold WorkQueue.expire
  dsimp only
  split
  · rename_i due
    constructor
    · rw [Table.get?_erase, if_neg]
      · exact known.waiting
      · rintro rfl
        have same : some timer.deadline = some deadline :=
          due.symm.trans known.waiting
        cases same
        exact different rfl
    · exact stillLive
  · exact ⟨known.waiting, stillLive⟩

theorem expire_due {queue : WorkQueue κ} {timer : Timer κ}
    (due : queue.waiting.get? timer.key = some timer.deadline) :
    (queue.expire timer).2 = true := by
  unfold expire
  dsimp only
  split
  · rfl
  · rename_i notDue
    exact absurd due notDue

theorem waiting_before_expire {queue : WorkQueue κ} {key : κ} {deadline : Nat}
    {timer : Timer κ}
    (waiting : (queue.expire timer).1.waiting.get? key = some deadline) :
    queue.waiting.get? key = some deadline ∧ timer ≠ ⟨key, deadline⟩ := by
  unfold expire at waiting
  dsimp only at waiting
  split at waiting
  · rw [Table.get?_erase] at waiting
    split at waiting
    · cases waiting
    · rename_i different
      refine ⟨waiting, ?_⟩
      rintro rfl
      exact different rfl
  · rename_i notDue
    refine ⟨waiting, ?_⟩
    rintro rfl
    exact notDue waiting

theorem Armed.await {queue : WorkQueue κ} (armed : queue.Armed) (other : κ)
    (asked : Nat) : (queue.await other asked).Armed := by
  intro key deadline waiting
  by_cases refused :
      queue.closed = true ∨ queue.isSooner other asked = false
  · rw [WorkQueue.await, if_pos refused] at waiting ⊢
    exact armed key deadline waiting
  · by_cases same : other = key
    · subst other
      rw [WorkQueue.await, if_neg refused] at waiting ⊢
      have placed : (queue.waiting.put key asked).get? key = some asked := by
        rw [Table.get?_put, if_pos rfl]
      obtain rfl : asked = deadline := by
        simpa using placed.symm.trans waiting
      exact ⟨placed, List.mem_append_right _ List.mem_cons_self⟩
    · have before : queue.waiting.get? key = some deadline := by
        rw [WorkQueue.await, if_neg refused] at waiting
        simpa [Table.get?_put, same] using waiting
      exact (armed key deadline before).await same

theorem Armed.after {queue : WorkQueue κ} (armed : queue.Armed)
    (request : QueueRequest κ) : (queue.after request).Armed := by
  intro key deadline waiting
  by_cases moves : request.movesWaits = false
  · have same := waits_after moves queue
    simp only [waits, Prod.mk.injEq] at same
    rw [same.1] at waiting
    exact (armed key deadline waiting).of_waits (waits_after moves queue)
  · cases request with
    | await other asked => exact armed.await other asked key deadline waiting
    | expire timer =>
        obtain ⟨before, different⟩ := waiting_before_expire waiting
        exact (armed key deadline before).expire different
    | close => cases waiting
    | _ => exact absurd rfl moves

theorem expire_stale {queue : WorkQueue κ} {timer : Timer κ}
    (stale : queue.waiting.get? timer.key ≠ some timer.deadline) :
    queue.expire timer = (queue.dropTimer timer, false) :=
  if_neg stale

/-- A queue that has shut down lets no key wait, and has no timer. -/
def Quiet (queue : WorkQueue κ) : Prop :=
  queue.closed = true → queue.waits = (Table.empty, [])

theorem Quiet.after {queue : WorkQueue κ} (quiet : queue.Quiet)
    (request : QueueRequest κ) : (queue.after request).Quiet := by
  intro closed
  by_cases closes : request = .close
  · subst closes
    rfl
  · rw [closed_after closes] at closed
    have nothing : queue.waits = (Table.empty, []) := quiet closed
    by_cases moves : request.movesWaits = false
    · rw [waits_after moves]
      exact nothing
    · simp only [waits, Prod.mk.injEq] at nothing
      obtain ⟨noWait, noTimer⟩ := nothing
      cases request with
      | await key deadline =>
          have refused : queue.await key deadline = queue :=
            if_pos (.inl closed)
          simp [WorkQueue.after, refused, waits, noWait, noTimer]
      | expire timer =>
          have stale : queue.waiting.get? timer.key ≠ some timer.deadline := by
            rw [noWait]
            intro found
            cases found
          simp [WorkQueue.after, expire_stale stale, dropTimer, waits, noWait,
            noTimer]
      | close => exact absurd rfl closes
      | _ => exact absurd rfl moves

theorem Quiet.not_waiting {queue : WorkQueue κ} (quiet : queue.Quiet)
    (closed : queue.closed = true) (key : κ) :
    queue.waiting.get? key = none := by
  have nothing := quiet closed
  simp only [waits, Prod.mk.injEq] at nothing
  rw [nothing.1]
  rfl

theorem waiting_await {queue : WorkQueue κ} (opened : queue.closed = false)
    (key : κ) (deadline : Nat) :
    (queue.await key deadline).waiting.get? key =
      some ((queue.waiting.get? key).elim deadline (min deadline)) := by
  by_cases sooner : queue.isSooner key deadline = false
  · have unchanged : queue.await key deadline = queue := if_pos (.inr sooner)
    rw [unchanged]
    unfold isSooner at sooner
    split at sooner
    · rename_i pending waiting
      have earlier : pending ≤ deadline :=
        Nat.le_of_not_lt (by simpa using sooner)
      rw [waiting]
      simp [Nat.min_eq_right earlier]
    · cases sooner
  · have accepted :
        ¬ (queue.closed = true ∨ queue.isSooner key deadline = false) := by
      simp [opened, sooner]
    rw [WorkQueue.await, if_neg accepted]
    refine ((Table.get?_put ..).trans (if_pos rfl)).trans ?_
    cases waiting : queue.waiting.get? key with
    | none => rfl
    | some pending =>
        have earlier : deadline < pending := by
          simpa [isSooner, waiting] using sooner
        simp [Nat.min_eq_left (Nat.le_of_lt earlier)]

theorem waiting_await_other {queue : WorkQueue κ} {key other : κ}
    (different : other ≠ key) (deadline : Nat) :
    (queue.await other deadline).waiting.get? key =
      queue.waiting.get? key := by
  unfold WorkQueue.await
  split
  · rfl
  · exact (Table.get?_put ..).trans (if_neg different)

/-- What a section does to the wait of a key. -/
inductive WaitMove (queue : WorkQueue κ) (key : κ) : QueueRequest κ → Prop where
  | idle (request : QueueRequest κ) (before : queue.waiting.get? key = none)
      (after : (queue.after request).waiting.get? key = none) :
      WaitMove queue key request
  | kept {request : QueueRequest κ}
      (unasked : ∀ asked, request ≠ .await key asked)
      (unfired : ∀ deadline, queue.waiting.get? key = some deadline →
        request ≠ .expire ⟨key, deadline⟩)
      (staysOpen : request ≠ .close)
      (same : (queue.after request).waiting.get? key =
        queue.waiting.get? key) :
      WaitMove queue key request
  | asked (deadline : Nat)
      (sooner : (queue.after (.await key deadline)).waiting.get? key =
        some ((queue.waiting.get? key).elim deadline (min deadline))) :
      WaitMove queue key (.await key deadline)
  | fired (deadline : Nat) (due : queue.waiting.get? key = some deadline)
      (after : (queue.after (.expire ⟨key, deadline⟩)).waiting.get? key =
        none) :
      WaitMove queue key (.expire ⟨key, deadline⟩)
  | cleared : WaitMove queue key .close

theorem Quiet.waitMove {queue : WorkQueue κ} (quiet : queue.Quiet) (key : κ)
    (request : QueueRequest κ) : queue.WaitMove key request := by
  by_cases moves : request.movesWaits = false
  · refine .kept ?_ ?_ ?_ ?_
    · rintro asked rfl
      cases moves
    · rintro deadline due rfl
      cases moves
    · rintro rfl
      cases moves
    · exact congrArg (fun waits => waits.1.get? key) (waits_after moves queue)
  · cases request with
    | await other deadline =>
        by_cases same : other = key
        · subst other
          cases closed : queue.closed with
          | true =>
              have staysOpen : QueueRequest.await key deadline ≠ .close := by
                intro isClose
                cases isClose
              have still : (queue.after (.await key deadline)).closed = true :=
                (closed_after staysOpen).trans closed
              exact .idle _ (quiet.not_waiting closed key)
                ((quiet.after _).not_waiting still key)
          | false => exact .asked deadline (waiting_await closed key deadline)
        · refine .kept ?_ ?_ ?_ (waiting_await_other same deadline)
          · rintro asked isAwait
            cases isAwait
            exact same rfl
          · rintro due waiting isExpire
            cases isExpire
          · rintro isClose
            cases isClose
    | expire timer =>
        by_cases due : queue.waiting.get? timer.key = some timer.deadline
        · have ended : (queue.after (.expire timer)).waiting =
              queue.waiting.erase timer.key := by
            simp [WorkQueue.after, expire, dropTimer, due]
          by_cases same : timer.key = key
          · subst same
            refine .fired timer.deadline due ?_
            rw [ended]
            exact (Table.get?_erase ..).trans (if_pos rfl)
          · refine .kept ?_ ?_ ?_ ?_
            · rintro asked isAwait
              cases isAwait
            · rintro deadline waiting isExpire
              cases isExpire
              exact same rfl
            · rintro isClose
              cases isClose
            · rw [ended]
              exact (Table.get?_erase ..).trans (if_neg same)
        · refine .kept ?_ ?_ ?_ ?_
          · rintro asked isAwait
            cases isAwait
          · rintro deadline waiting isExpire
            cases isExpire
            exact due waiting
          · rintro isClose
            cases isClose
          · simp [WorkQueue.after, expire_stale due, dropTimer]
    | close => exact .cleared
    | _ => exact absurd rfl moves

/-- A key waits for a deadline that is no later than a given one. -/
def WaitsUntil (queue : WorkQueue κ) (key : κ) (asked : Nat) : Prop :=
  ∃ deadline, deadline ≤ asked ∧ queue.WaitsFor key deadline

/-- Whoever asks an open queue for a wait has it, or a shorter one. -/
theorem Armed.waitsUntil_await {queue : WorkQueue κ} (armed : queue.Armed)
    (opened : queue.closed = false) (key : κ) (asked : Nat) :
    (queue.await key asked).WaitsUntil key asked := by
  by_cases sooner : queue.isSooner key asked = false
  · have unchanged : queue.await key asked = queue := if_pos (.inr sooner)
    rw [unchanged]
    unfold isSooner at sooner
    split at sooner
    · rename_i pending waiting
      have earlier : pending ≤ asked := Nat.le_of_not_lt (by simpa using sooner)
      exact ⟨pending, earlier, armed key pending waiting⟩
    · cases sooner
  · have accepted :
        ¬ (queue.closed = true ∨ queue.isSooner key asked = false) := by
      simp [opened, sooner]
    refine ⟨asked, Nat.le_refl asked, armed.await key asked key asked ?_⟩
    rw [WorkQueue.await, if_neg accepted]
    exact (Table.get?_put ..).trans (if_pos rfl)

theorem WaitsFor.await_again {queue : WorkQueue κ} {key : κ} {deadline : Nat}
    (known : queue.WaitsFor key deadline) (armed : queue.Armed)
    (opened : queue.closed = false) (asked : Nat) :
    (queue.await key asked).WaitsUntil key deadline := by
  by_cases sooner : queue.isSooner key asked = false
  · have unchanged : queue.await key asked = queue := if_pos (.inr sooner)
    rw [unchanged]
    exact ⟨deadline, Nat.le_refl deadline, known⟩
  · have earlier : asked < deadline := by
      simpa [isSooner, known.waiting] using sooner
    obtain ⟨next, atMost, waits⟩ := armed.waitsUntil_await opened key asked
    exact ⟨next, Nat.le_trans atMost (Nat.le_of_lt earlier), waits⟩

/-- A wait goes on, or becomes shorter, through every section of an open queue
that does not end it. -/
theorem WaitsUntil.after {queue : WorkQueue κ} {key : κ} {asked : Nat}
    (known : queue.WaitsUntil key asked) (armed : queue.Armed)
    (opened : queue.closed = false) {request : QueueRequest κ}
    (staysOpen : request ≠ .close)
    (unfired : ∀ deadline, queue.waiting.get? key = some deadline →
      request ≠ .expire ⟨key, deadline⟩) :
    (queue.after request).WaitsUntil key asked := by
  obtain ⟨deadline, earlier, waits⟩ := known
  by_cases moves : request.movesWaits = false
  · exact ⟨deadline, earlier, waits.of_waits (waits_after moves queue)⟩
  · cases request with
    | await other later =>
        by_cases same : other = key
        · subst other
          obtain ⟨sooner, atMost, still⟩ := waits.await_again armed opened later
          exact ⟨sooner, Nat.le_trans atMost earlier, still⟩
        · exact ⟨deadline, earlier, waits.await same⟩
    | expire timer =>
        refine ⟨deadline, earlier, waits.expire ?_⟩
        rintro rfl
        exact unfired deadline waits.waiting rfl
    | close => exact absurd rfl staysOpen
    | _ => exact absurd rfl moves

end WorkQueue

end SwapWarden
