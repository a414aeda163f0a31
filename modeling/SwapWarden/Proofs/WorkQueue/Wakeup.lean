import SwapWarden.Proofs.WorkQueue.Shutdown

/-!
# Waking those who wait for a key

Whoever asks for a key looks at the queue, and waits only if it was empty.
Between the look and the wait others may add keys.  Every key that enters the
queue is followed by one wake-up, which wakes somebody who waits; when nobody
does, it is stored for the next one who would wait, but only one can be stored.

So a wake-up is lost when several who found the queue empty are on their way to
wait while several keys enter.  A key may then be ready while somebody sleeps
and no wake-up is left.  It is handed out only when somebody else comes back.
-/

namespace SwapWarden

variable {κ : Type}

/-- Where somebody is who asks for keys.  Who is away works on a key or was told
that there will be none, and who has checked found the queue empty and does not
wait yet; those entering and those woken have still to look. -/
inductive GetterStage where
  | away
  | entering
  | checked
  | asleep
  | woken
  deriving DecidableEq, Repr

namespace GetterStage

def looks : GetterStage → Bool
  | entering | woken => true
  | _ => false

/-- Whether somebody will look at the queue, at the latest when the work on a
key has ended. -/
def returns : GetterStage → Bool
  | away | entering | woken => true
  | _ => false

/-- Shutting down wakes all who wait or are on their way to. -/
def released : GetterStage → GetterStage
  | checked | asleep => woken
  | stage => stage

theorem released_ne_asleep (stage : GetterStage) :
    stage.released ≠ .asleep := by
  cases stage with
  | _ => nofun

theorem released_ne_checked (stage : GetterStage) :
    stage.released ≠ .checked := by
  cases stage with
  | _ => nofun

end GetterStage

/-- A queue with those who ask for keys, the wake-ups that are still to follow
sections in which a key entered, and whether one is stored. -/
structure WakeSystem (κ : Type) where
  queue : WorkQueue κ
  owed : Nat := 0
  permit : Bool := false
  getters : List GetterStage := []

/-- What a wake-up does.  It is swallowed if one is stored already, while so
many are on their way to wait. -/
inductive WakeEvent where
  | woke
  | stored
  | swallowed (checked : Nat)
  deriving DecidableEq, Repr

namespace WakeSystem

def start (backoff : Backoff) (getters : Nat) : WakeSystem κ :=
  { queue := { backoff }, getters := .replicate getters .away }

/-- Where a look at the queue leads to. -/
def stageAfter (queue : WorkQueue κ) : GetterStage :=
  if queue.ready.isEmpty && !queue.closed then .checked else .away

/-- What a wake-up does that finds nobody asleep. -/
def stores (system : WakeSystem κ) : WakeEvent :=
  if system.permit then .swallowed (system.getters.count .checked) else .stored

/-- A ready key is followed by a wake-up, or a wake-up is stored, or somebody
will look at the queue. -/
def Attended (system : WakeSystem κ) : Prop :=
  system.queue.ready ≠ [] → 0 < system.owed ∨ system.permit = true ∨
    ∃ stage ∈ system.getters, stage.returns = true

theorem attended_start (backoff : Backoff) (getters : Nat) :
    (start backoff getters : WakeSystem κ).Attended := by
  intro ready
  exact absurd rfl ready

/-- While somebody sleeps there is a wake-up for every ready key, and there
will be when those who found the queue empty wait. -/
structure Accounts (permit : Bool) (ready wakeups asleep checked : Nat) :
    Prop where
  sleeping : 0 < asleep → permit = false ∧ ready ≤ wakeups
  waiting : 0 < checked → permit = false → ready ≤ wakeups
  stored : 2 ≤ checked → ready ≤ wakeups + 1

def Accounted (system : WakeSystem κ) : Prop :=
  Accounts system.permit system.queue.ready.length
    (system.owed + system.getters.count .woken)
    (system.getters.count .asleep) (system.getters.count .checked)

theorem accounted_start (backoff : Backoff) (getters : Nat) :
    (start backoff getters : WakeSystem κ).Accounted := by
  constructor
  · intro asleep
    simp [start, List.count_replicate] at asleep
  · intro _ _
    exact Nat.zero_le _
  · intro _
    exact Nat.zero_le _

theorem count_moved {getters before rest : List GetterStage}
    {former : GetterStage} (present : getters = before ++ former :: rest)
    (latter stage : GetterStage) :
    (before ++ latter :: rest).count stage +
        (if former = stage then 1 else 0) =
      getters.count stage + (if latter = stage then 1 else 0) := by
  simp only [present, List.count_append, List.count_cons, beq_iff_eq]
  omega

theorem not_mem_moved {getters before rest : List GetterStage}
    {former latter stage : GetterStage}
    (present : getters = before ++ former :: rest) (absent : stage ∉ getters)
    (other : stage ≠ latter) : stage ∉ before ++ latter :: rest := by
  rw [present] at absent
  simp only [List.mem_append, List.mem_cons, not_or] at absent ⊢
  exact ⟨absent.1, other, absent.2.2⟩

/-- Everybody was woken by shutting down. -/
structure Released (system : WakeSystem κ) : Prop where
  closed : system.queue.closed = true
  unslept : .asleep ∉ system.getters
  unchecked : .checked ∉ system.getters

theorem released_of_release {system : WakeSystem κ}
    (closed : system.queue.closed = true) :
    Released
      { system with getters := system.getters.map GetterStage.released } := by
  constructor
  · exact closed
  · intro asleep
    obtain ⟨stage, _, became⟩ := List.mem_map.mp asleep
    exact stage.released_ne_asleep became
  · intro checked
    obtain ⟨stage, _, became⟩ := List.mem_map.mp checked
    exact stage.released_ne_checked became

theorem count_released {stage : GetterStage}
    (gone : ∀ former : GetterStage, former.released ≠ stage)
    (getters : List GetterStage) :
    (getters.map GetterStage.released).count stage = 0 := by
  apply List.count_eq_zero_of_not_mem
  intro member
  obtain ⟨former, _, became⟩ := List.mem_map.mp member
  exact gone former became

variable [DecidableEq κ]

inductive Step : WakeSystem κ → Option WakeEvent → WakeSystem κ → Prop where
  | enter {system : WakeSystem κ} {before rest : List GetterStage}
      (present : system.getters = before ++ .away :: rest) :
      Step system none
        { system with getters := before ++ .entering :: rest }
  | look {system : WakeSystem κ} {before rest : List GetterStage}
      {stage : GetterStage} (present : system.getters = before ++ stage :: rest)
      (looks : stage.looks = true) :
      Step system none
        { system with
          queue := system.queue.after .take
          getters := before ++ stageAfter system.queue :: rest }
  | wait {system : WakeSystem κ} {before rest : List GetterStage}
      (present : system.getters = before ++ .checked :: rest) :
      Step system none
        { system with
          permit := false
          getters := before ++
            (if system.permit then .woken else .asleep) :: rest }
  | turn {system : WakeSystem κ} {request : QueueRequest κ}
      (untaken : request ≠ .take)
      (rightful : ∀ key, request = .done key → key ∈ system.queue.inFlight) :
      Step system none
        { system with
          queue := system.queue.after request
          owed := system.owed +
            (⟨system.queue, request⟩ : QueueTurn κ).entered?.toList.length }
  | wake {system : WakeSystem κ} {owed : Nat} {before rest : List GetterStage}
      (owes : system.owed = owed + 1)
      (present : system.getters = before ++ .asleep :: rest) :
      Step system (some .woke)
        { system with owed, getters := before ++ .woken :: rest }
  | store {system : WakeSystem κ} {owed : Nat}
      (owes : system.owed = owed + 1) (nobody : .asleep ∉ system.getters) :
      Step system (some system.stores) { system with owed, permit := true }
  | release {system : WakeSystem κ} (closed : system.queue.closed = true) :
      Step system none
        { system with getters := system.getters.map GetterStage.released }

abbrev Run : WakeSystem κ → List WakeEvent → WakeSystem κ → Prop :=
  SwapWarden.Run Step

theorem Step.add (system : WakeSystem κ) (key : κ) :
    Step system none
      { system with
        queue := system.queue.add key
        owed := system.owed +
          (⟨system.queue, .add key⟩ : QueueTurn κ).entered?.toList.length } := by
  have untaken : QueueRequest.add key ≠ .take := nofun
  exact .turn untaken nofun

/-! ## What every step keeps -/

theorem ready_turn {queue : WorkQueue κ} {request : QueueRequest κ}
    (untaken : request ≠ .take) :
    (queue.after request).ready =
      queue.ready ++ (⟨queue, request⟩ : QueueTurn κ).entered?.toList := by
  have moved := QueueTurn.ready_after (⟨queue, request⟩ : QueueTurn κ)
  have undelivered :
      (⟨queue, request⟩ : QueueTurn κ).delivered? = none := by
    cases request with
    | take => exact absurd rfl untaken
    | _ => rfl
  rw [undelivered] at moved
  exact moved.symm

theorem ready_look (queue : WorkQueue κ) :
    (stageAfter queue = .away ∧
        (queue.after .take).ready.length = queue.ready.length - 1) ∨
      stageAfter queue = .checked ∧ (queue.after .take).ready = [] := by
  cases front : queue.ready with
  | nil =>
      cases closed : queue.closed with
      | true =>
          left
          simp [stageAfter, WorkQueue.after, WorkQueue.take?, front, closed]
      | false =>
          right
          simp [stageAfter, WorkQueue.after, WorkQueue.take?, front, closed]
  | cons key rest =>
      left
      simp [stageAfter, WorkQueue.after, WorkQueue.take?, front]

variable {first last system next : WakeSystem κ} {event : Option WakeEvent}
  {events : List WakeEvent}

theorem Step.attended (step : Step system event next)
    (attended : system.Attended) : next.Attended := by
  intro ready
  cases step with
  | enter present => exact .inr (.inr ⟨.entering, by simp, rfl⟩)
  | look present looks =>
      rcases ready_look system.queue with ⟨away, _⟩ | ⟨_, nothing⟩
      · exact .inr (.inr ⟨stageAfter system.queue, by simp, by rw [away]; rfl⟩)
      · exact absurd nothing ready
  | @wait before rest present =>
      rcases attended ready with owes | permits | ⟨stage, among, returns⟩
      · exact .inl owes
      · exact .inr (.inr ⟨.woken, by simp [permits], rfl⟩)
      · have other : stage ≠ .checked := by
          rintro rfl
          cases returns
        refine .inr (.inr ⟨stage, ?_, returns⟩)
        rw [present] at among
        have kept : stage ∈ before ∨ stage ∈ rest := by
          simpa [other] using among
        rcases kept with earlier | later
        · simp [earlier]
        · simp [later]
  | @turn request untaken rightful =>
      cases entered : (⟨system.queue, request⟩ : QueueTurn κ).entered? with
      | some key =>
          left
          simp
      | none =>
          have same : (system.queue.after request).ready =
              system.queue.ready := by
            rw [ready_turn untaken, entered]
            exact List.append_nil _
          rw [same] at ready
          exact attended ready
  | wake owes present => exact .inr (.inr ⟨.woken, by simp, rfl⟩)
  | store owes nobody => exact .inr (.inl rfl)
  | release closed =>
      rcases attended ready with owes | permits | ⟨stage, among, returns⟩
      · exact .inl owes
      · exact .inr (.inl permits)
      · have same : stage.released = stage := by
          cases stage with
          | checked => cases returns
          | asleep => cases returns
          | _ => rfl
        refine .inr (.inr ⟨stage, ?_, returns⟩)
        exact List.mem_map.mpr ⟨stage, among, same⟩

theorem Run.attended (run : Run first events last)
    (attended : first.Attended) : last.Attended :=
  run.invariant attended (fun known step => step.attended known)

namespace Accounts

variable {permit : Bool} {ready wakeups asleep checked : Nat}

theorem of_empty (unstored : 0 < asleep → permit = false) :
    Accounts permit 0 wakeups asleep checked := by
  constructor
  · intro some
    exact ⟨unstored some, Nat.zero_le _⟩
  · intro _ _
    exact Nat.zero_le _
  · intro _
    exact Nat.zero_le _

theorem of_none : Accounts permit ready wakeups 0 0 := by
  constructor
  · intro some
    cases some
  · intro some
    cases some
  · intro several
    cases several

theorem mono (accounts : Accounts permit ready wakeups asleep checked)
    {fewer more : Nat} (covered : ready ≤ wakeups → fewer ≤ more)
    (almost : ready ≤ wakeups + 1 → fewer ≤ more + 1) :
    Accounts permit fewer more asleep checked := by
  constructor
  · intro some
    have bound := accounts.sleeping some
    exact ⟨bound.1, covered bound.2⟩
  · intro some unstored
    exact covered (accounts.waiting some unstored)
  · intro several
    exact almost (accounts.stored several)

theorem take (accounts : Accounts true ready wakeups asleep (checked + 1)) :
    Accounts false ready (wakeups + 1) asleep checked := by
  constructor
  · intro some
    have stored := (accounts.sleeping some).1
    cases stored
  · intro some _
    have bound := accounts.stored (by omega)
    omega
  · intro several
    have bound := accounts.stored (by omega)
    omega

theorem sleep (accounts : Accounts false ready wakeups asleep (checked + 1)) :
    Accounts false ready wakeups (asleep + 1) checked := by
  have bound := accounts.waiting (by omega) rfl
  constructor
  · intro _
    exact ⟨rfl, bound⟩
  · intro _ _
    exact bound
  · intro _
    omega

theorem wake (accounts : Accounts permit ready wakeups (asleep + 1) checked) :
    Accounts permit ready wakeups asleep checked := by
  have bound := accounts.sleeping (by omega)
  constructor
  · intro _
    exact bound
  · intro _ _
    exact bound.2
  · intro _
    omega

theorem store (accounts : Accounts permit ready (wakeups + 1) 0 checked)
    (room : permit = false ∨ checked < 2) :
    Accounts true ready wakeups 0 checked := by
  constructor
  · intro some
    cases some
  · intro _ unstored
    cases unstored
  · intro several
    rcases room with unstored | few
    · have bound := accounts.waiting (by omega) unstored
      omega
    · omega

end Accounts

section

variable {before rest : List GetterStage}

theorem accounted_look {stage : GetterStage}
    (present : system.getters = before ++ stage :: rest)
    (looks : stage.looks = true) (accounted : system.Accounted) :
    Accounted { system with
      queue := system.queue.after .take
      getters := before ++ stageAfter system.queue :: rest } := by
  have notAsleep : stage ≠ .asleep := by
    rintro rfl
    cases looks
  have notChecked : stage ≠ .checked := by
    rintro rfl
    cases looks
  have asleep := count_moved present (stageAfter system.queue) .asleep
  have checked := count_moved present (stageAfter system.queue) .checked
  have woken := count_moved present (stageAfter system.queue) .woken
  rw [if_neg notAsleep] at asleep
  rw [if_neg notChecked] at checked
  dsimp only [Accounted] at accounted ⊢
  rcases ready_look system.queue with ⟨away, taken⟩ | ⟨found, nothing⟩
  · simp only [away, reduceCtorEq, if_false, Nat.add_zero]
      at asleep checked woken ⊢
    rw [asleep, checked, taken]
    by_cases isWoken : stage = .woken
    · rw [if_pos isWoken] at woken
      exact accounted.mono (by omega) (by omega)
    · rw [if_neg isWoken] at woken
      exact accounted.mono (by omega) (by omega)
  · simp only [found, reduceCtorEq, if_false, Nat.add_zero] at asleep ⊢
    rw [asleep, nothing]
    exact .of_empty fun some => (accounted.sleeping some).1

omit [DecidableEq κ] in
theorem accounted_wait (present : system.getters = before ++ .checked :: rest)
    (accounted : system.Accounted) :
    Accounted { system with
      permit := false
      getters := before ++
        (if system.permit then .woken else .asleep) :: rest } := by
  dsimp only [Accounted] at accounted ⊢
  cases permits : system.permit with
  | true =>
      have asleep := count_moved present .woken .asleep
      have checked := count_moved present .woken .checked
      have woken := count_moved present .woken .woken
      simp only [reduceCtorEq, if_true, if_false, Nat.add_zero]
        at asleep checked woken ⊢
      rw [permits, ← checked] at accounted
      rw [asleep, woken]
      exact accounted.take
  | false =>
      have asleep := count_moved present .asleep .asleep
      have checked := count_moved present .asleep .checked
      have woken := count_moved present .asleep .woken
      simp only [reduceCtorEq, Bool.false_eq_true, if_true, if_false,
        Nat.add_zero] at asleep checked woken ⊢
      rw [permits, ← checked] at accounted
      rw [asleep, woken]
      exact accounted.sleep

end

theorem Step.accounted (step : Step system event next)
    (accounted : system.Accounted)
    (unswallowed : ∀ checked, event = some (.swallowed checked) →
      checked < 2) : next.Accounted := by
  cases step with
  | enter present =>
      have asleep := count_moved present .entering .asleep
      have checked := count_moved present .entering .checked
      have woken := count_moved present .entering .woken
      simp only [reduceCtorEq, if_false, Nat.add_zero]
        at asleep checked woken
      dsimp only [Accounted]
      rw [asleep, checked, woken]
      exact accounted
  | look present looks => exact accounted_look present looks accounted
  | wait present => exact accounted_wait present accounted
  | @turn request untaken rightful =>
      have longer : (system.queue.after request).ready.length =
          system.queue.ready.length +
            (⟨system.queue, request⟩ : QueueTurn κ).entered?.toList.length := by
        rw [ready_turn untaken, List.length_append]
      dsimp only [Accounted] at accounted ⊢
      rw [longer]
      exact accounted.mono (by omega) (by omega)
  | @wake owed before rest owes present =>
      have asleep := count_moved present .woken .asleep
      have checked := count_moved present .woken .checked
      have woken := count_moved present .woken .woken
      simp only [reduceCtorEq, if_false, if_true, Nat.add_zero]
        at asleep checked woken
      dsimp only [Accounted] at accounted ⊢
      rw [← asleep, owes] at accounted
      rw [checked, woken]
      exact accounted.wake.mono (by omega) (by omega)
  | @store owed owes nobody =>
      dsimp only [Accounted] at accounted ⊢
      rw [List.count_eq_zero_of_not_mem nobody] at accounted ⊢
      have room : system.permit = false ∨ system.getters.count .checked < 2 := by
        cases permits : system.permit with
        | false => exact .inl rfl
        | true => exact .inr (unswallowed _ (by simp [stores, permits]))
      have spent : system.owed + system.getters.count .woken =
          owed + system.getters.count .woken + 1 := by
        omega
      rw [spent] at accounted
      exact accounted.store room
  | release closed =>
      dsimp only [Accounted]
      rw [count_released GetterStage.released_ne_asleep,
        count_released GetterStage.released_ne_checked]
      exact .of_none

theorem Run.accounted (run : Run first events last)
    (accounted : first.Accounted)
    (unswallowed : ∀ checked, .swallowed checked ∈ events → checked < 2) :
    last.Accounted := by
  induction run with
  | refl => exact accounted
  | @tail middle last events event run step induction =>
      have before := induction fun checked among =>
        unswallowed checked (List.mem_append_left _ among)
      refine step.accounted before ?_
      rintro checked rfl
      exact unswallowed checked (by simp)

theorem Step.length_getters (step : Step system event next) :
    next.getters.length = system.getters.length := by
  cases step with
  | enter present => simp [present]
  | look present looks => simp [present]
  | wait present => simp [present]
  | turn untaken rightful => rfl
  | wake owes present => simp [present]
  | store owes nobody => rfl
  | release closed => exact List.length_map _

theorem Run.length_getters (run : Run first events last) :
    last.getters.length = first.getters.length := by
  induction run with
  | refl => rfl
  | tail _ step induction => exact step.length_getters.trans induction

theorem Run.swallowed_le (run : Run first events last) {checked : Nat}
    (swallowed : .swallowed checked ∈ events) :
    checked ≤ first.getters.length := by
  obtain ⟨earlier, later, parts⟩ := List.append_of_mem swallowed
  obtain ⟨state, next, before, step, _⟩ := run.cut parts
  rw [← Run.length_getters before]
  generalize happened : some (WakeEvent.swallowed checked) = event at step
  cases step with
  | store owes nobody =>
      unfold stores at happened
      split at happened
      · cases happened
        exact List.count_le_length
      · cases happened
  | _ => cases happened

/-- Once everybody was woken by shutting down, nobody sleeps any more. -/
theorem Step.released (step : Step system event next)
    (released : system.Released) : next.Released := by
  obtain ⟨closed, unslept, unchecked⟩ := released
  cases step with
  | enter present =>
      exact ⟨closed, not_mem_moved present unslept nofun,
        not_mem_moved present unchecked nofun⟩
  | look present looks =>
      have away : stageAfter system.queue = .away := by
        simp [stageAfter, closed]
      rw [away]
      exact ⟨WorkQueue.stays_closed closed .take,
        not_mem_moved present unslept nofun,
        not_mem_moved present unchecked nofun⟩
  | wait present => exact absurd (by simp [present]) unchecked
  | @turn request untaken rightful =>
      exact ⟨WorkQueue.stays_closed closed request, unslept, unchecked⟩
  | wake owes present => exact absurd (by simp [present]) unslept
  | store owes nobody => exact ⟨closed, unslept, unchecked⟩
  | release closed => exact released_of_release closed

/-- Once a shutdown has released those who wait for a key, nobody waits again.
-/
theorem Run.released (run : Run first events last)
    (released : first.Released) : last.Released :=
  run.invariant released (fun known step => step.released known)

/-- In every run a ready key is followed by a wake-up, or one is stored, or
somebody is awake and will look at the queue.  While somebody sleeps there are
as many wake-ups, owed or on their way to a look, as there are ready keys, if
there is only one who asks, or if no wake-up was swallowed while several who
found the queue empty were on their way to wait. -/
theorem wakeups_cover {backoff : Backoff} {getters : Nat}
    {system : WakeSystem κ} {events : List WakeEvent}
    (run : Run (start backoff getters) events system) :
    (system.queue.ready ≠ [] → 0 < system.owed ∨ system.permit = true ∨
        ∃ stage ∈ system.getters, stage.returns = true) ∧
      (getters ≤ 1 ∨ (∀ checked, .swallowed checked ∈ events → checked < 2) →
        .asleep ∈ system.getters →
        system.permit = false ∧ system.queue.ready.length ≤
          system.owed + system.getters.count .woken) := by
  constructor
  · exact Run.attended run (attended_start backoff getters)
  · intro few asleep
    have unswallowed : ∀ checked, .swallowed checked ∈ events →
        checked < 2 := by
      rcases few with alone | unswallowed
      · intro checked swallowed
        have atMost := Run.swallowed_le run swallowed
        rw [start, List.length_replicate] at atMost
        omega
      · exact unswallowed
    have accounted :=
      Run.accounted run (accounted_start backoff getters) unswallowed
    exact accounted.sleeping (List.count_pos_iff.mpr asleep)

/-- Two sleep while two keys become ready.  One was woken, and the wake-up for
the other one is owed. -/
theorem wakeups_cover_two :
    ∃ (system : WakeSystem Nat) (events : List WakeEvent),
      Run (start {} 2) events system ∧ system.queue.ready = [1, 2] ∧
        system.getters = [.woken, .asleep] ∧ system.permit = false ∧
        system.queue.ready.length ≤
          system.owed + system.getters.count .woken := by
  have begun : Run (start {} 2 : WakeSystem Nat) [] (start {} 2) := .refl _
  have entered := (begun.tail
    (.enter (show _ = [] ++ _ :: [_] from rfl))).tail
      (.enter (show _ = [_] ++ _ :: [] from rfl))
  have checked := (entered.tail
    (.look (show _ = [] ++ _ :: [_] from rfl) rfl)).tail
      (.look (show _ = [_] ++ _ :: [] from rfl) rfl)
  have waiting := (checked.tail
    (.wait (show _ = [] ++ _ :: [_] from rfl))).tail
      (.wait (show _ = [_] ++ _ :: [] from rfl))
  have both := (waiting.tail (.add _ 1)).tail (.add _ 2)
  have woken := both.tail (.wake rfl (show _ = [] ++ _ :: [_] from rfl))
  have covered := (wakeups_cover woken).2 (.inr (by simp)) (by decide)
  exact ⟨_, _, woken, rfl, rfl, covered⟩

/-- Two who ask find the queue empty, two keys become ready, and the second
wake-up is swallowed.  One of the two takes the first key, and the other one
sleeps while the second key is ready and no wake-up is left. -/
theorem wakeup_lost :
    ∃ (system : WakeSystem Nat) (events : List WakeEvent),
      Run (start {} 2) events system ∧ system.queue.closed = false ∧
        system.queue.ready = [2] ∧ system.getters = [.away, .asleep] ∧
        system.owed = 0 ∧ system.permit = false := by
  have begun : Run (start {} 2 : WakeSystem Nat) [] (start {} 2) := .refl _
  have entered := (begun.tail
    (.enter (show _ = [] ++ _ :: [_] from rfl))).tail
      (.enter (show _ = [_] ++ _ :: [] from rfl))
  have checked := (entered.tail
    (.look (show _ = [] ++ _ :: [_] from rfl) rfl)).tail
      (.look (show _ = [_] ++ _ :: [] from rfl) rfl)
  have both := (checked.tail (.add _ 1)).tail (.add _ 2)
  have swallowed := (both.tail (.store rfl (by decide))).tail
    (.store rfl (by decide))
  have waiting := (swallowed.tail
    (.wait (show _ = [] ++ _ :: [_] from rfl))).tail
      (.wait (show _ = [_] ++ _ :: [] from rfl))
  have taken := waiting.tail
    (.look (show _ = [] ++ _ :: [_] from rfl) rfl)
  exact ⟨_, _, taken, rfl, rfl, rfl, rfl, rfl⟩

end WakeSystem

end SwapWarden
