import Mathlib.Algebra.Group.Nat.Defs
import Mathlib.Data.Nat.Find
import Mathlib.Order.Bounds.Basic
import SwapWarden.Proofs.WorkQueue.Calls

/-!
# Delays of retries

A retry of a key is put off by the base delay, doubled once for every retry
since the key was last forgotten, and by no more than the greatest delay.  The
widths in which the product is taken, in which it is handed on and in which
retries are counted never show, however often a key is retried.
-/

namespace SwapWarden

variable {κ : Type}

namespace Backoff

/-- Beyond 127 retries their number makes no difference. -/
theorem delay_min (backoff : Backoff) (retries : Nat) {most : Nat}
    (enough : 127 ≤ most) :
    backoff.delay (min retries most) = backoff.delay retries := by
  unfold delay
  rw [Nat.min_assoc, Nat.min_eq_right enough]

/-- A product that fits a word is the same with the exponent cut at 127: if it
is cut at all, only zero fits. -/
theorem mul_pow_min {base retries : Nat}
    (word : base * 2 ^ min retries 127 < 2 ^ 64) :
    base * 2 ^ min retries 127 = base * 2 ^ retries := by
  rcases Nat.le_total retries 127 with few | many
  · rw [Nat.min_eq_left few]
  · rw [Nat.min_eq_right many] at word ⊢
    have nothing : base = 0 := by
      by_contra positive
      have atLeast : 1 * 2 ^ 127 ≤ base * 2 ^ 127 :=
        Nat.mul_le_mul_right _ (Nat.pos_of_ne_zero positive)
      omega
    simp [nothing]

theorem nanos_delay {backoff : Backoff}
    (fits : backoff.greatest.nanos < 2 ^ 64) (retries : Nat) :
    (backoff.delay retries).nanos =
      min (backoff.base.nanos * 2 ^ retries) backoff.greatest.nanos := by
  unfold delay
  simp only [Nat.pow_eq]
  split
  · rename_i reached
    have clamped : 2 ^ min retries 127 ≤ 2 ^ retries :=
      Nat.pow_le_pow_right (by decide) (Nat.min_le_left ..)
    have product := (Nat.le_min.mp reached).1
    exact (Nat.min_eq_right
      (product.trans (Nat.mul_le_mul_left _ clamped))).symm
  · rename_i below
    have small : backoff.base.nanos * 2 ^ min retries 127 <
        backoff.greatest.nanos := by omega
    have word := small.trans fits
    have uncapped : backoff.base.nanos * 2 ^ min retries 127 ≤ 2 ^ 128 - 1 := by
      omega
    calc
      min (backoff.base.nanos * 2 ^ min retries 127) (2 ^ 128 - 1) %
            UInt64.size =
          backoff.base.nanos * 2 ^ min retries 127 := by
        rw [Nat.min_eq_left uncapped]
        exact Nat.mod_eq_of_lt word
      _ = min (backoff.base.nanos * 2 ^ min retries 127)
            backoff.greatest.nanos := (Nat.min_eq_left small.le).symm
      _ = min (backoff.base.nanos * 2 ^ retries) backoff.greatest.nanos := by
        rw [mul_pow_min word]

end Backoff

/-! ## How often a key was retried -/

/-- Whether a section may change how often a key was retried. -/
def QueueRequest.movesRetries : QueueRequest κ → Bool
  | .countRetry _ | .forget _ => true
  | _ => false

section

variable [DecidableEq κ]

namespace QueueTurn

/-- The retries of a key since it was last forgotten. -/
def retriesSince (key : κ) (turns : List (QueueTurn κ)) : Nat :=
  (turns.reverse.takeWhile fun turn => turn.request ≠ .forget key).countP
    fun turn => turn.request = .countRetry key

variable {key : κ} {turns : List (QueueTurn κ)} {turn : QueueTurn κ}

theorem retriesSince_concat (key : κ) (turns : List (QueueTurn κ))
    (turn : QueueTurn κ) :
    retriesSince key (turns ++ [turn]) =
      if turn.request = .forget key then 0
      else if turn.request = .countRetry key then retriesSince key turns + 1
      else retriesSince key turns := by
  unfold retriesSince
  rw [List.reverse_append, List.reverse_singleton, List.singleton_append,
    List.takeWhile_cons]
  by_cases forgets : turn.request = .forget key
  · simp [forgets]
  · by_cases counts : turn.request = .countRetry key
    · simp [counts]
    · simp [forgets, counts]

theorem retriesSince_le_append {later : List (QueueTurn κ)}
    (kept : ∀ turn ∈ later, turn.request ≠ .forget key) :
    retriesSince key turns ≤ retriesSince key (turns ++ later) := by
  unfold retriesSince
  rw [List.reverse_append, List.takeWhile_append_of_pos, List.countP_append]
  · exact Nat.le_add_left ..
  · intro turn member
    exact decide_eq_true (kept turn (List.mem_reverse.mp member))

end QueueTurn

namespace WorkQueue

def counts (queue : WorkQueue κ) : Backoff × Table κ Nat :=
  (queue.backoff, queue.failures)

theorem counts_after {request : QueueRequest κ}
    (still : request.movesRetries = false) (queue : WorkQueue κ) :
    (queue.after request).counts = queue.counts := by
  cases request with
  | add key =>
      change (queue.add key).counts = queue.counts
      unfold add
      split
      · rfl
      · split
        · rfl
        · rfl
  | await key deadline =>
      change (queue.await key deadline).counts = queue.counts
      unfold await
      split
      · rfl
      · rfl
  | expire timer =>
      change (queue.expire timer).1.counts = queue.counts
      unfold expire
      dsimp only
      split
      · rfl
      · rfl
  | take =>
      cases front : queue.ready with
      | nil => simp [after, take?, front]
      | cons key rest => simp [after, take?, front, counts]
  | readClock => rfl
  | done key => rfl
  | close => rfl
  | countRetry key => cases still
  | forget key => cases still

theorem backoff_after (queue : WorkQueue κ) (request : QueueRequest κ) :
    (queue.after request).backoff = queue.backoff := by
  cases moves : request.movesRetries with
  | false => exact congrArg Prod.fst (counts_after moves queue)
  | true =>
      cases request with
      | countRetry key => rfl
      | forget key => rfl
      | _ => cases moves

theorem retries_after (queue : WorkQueue κ) (key : κ)
    (request : QueueRequest κ) :
    (queue.after request).retries key =
      if request = .forget key then 0
      else if request = .countRetry key then
        min (queue.retries key + 1) mostRetries
      else queue.retries key := by
  cases moves : request.movesRetries with
  | false =>
      have same := congrArg Prod.snd (counts_after moves queue)
      have unforgotten : request ≠ .forget key := by
        rintro rfl
        cases moves
      have uncounted : request ≠ .countRetry key := by
        rintro rfl
        cases moves
      rw [if_neg unforgotten, if_neg uncounted]
      exact congrArg (fun failures => (failures.get? key).getD 0) same
  | true =>
      cases request with
      | countRetry other =>
          change ((queue.failures.put other _).get? key).getD 0 = _
          rw [Table.get?_put]
          by_cases same : other = key
          · subst same
            simp
          · simp [same, retries]
      | forget other =>
          change ((queue.failures.erase other).get? key).getD 0 = _
          rw [Table.get?_erase]
          by_cases same : other = key
          · subst same
            simp
          · simp [same, retries]
      | _ => cases moves

end WorkQueue

namespace QueueSystem

variable {first last : QueueSystem κ} {turns : List (QueueTurn κ)}

theorem Step.backoff_eq {system next : QueueSystem κ}
    {turn : Option (QueueTurn κ)} (step : Step system turn next) :
    next.queue.backoff = system.queue.backoff := by
  cases turn with
  | none => rw [step.of_none.1]
  | some turn =>
      rw [step.of_turn.2.2.1, WorkQueue.backoff_after, step.of_turn.1]

theorem Run.backoff_eq (run : Run first turns last) :
    last.queue.backoff = first.queue.backoff := by
  induction run with
  | refl => rfl
  | tail _ step induction => exact step.backoff_eq.trans induction

theorem Run.retries_eq (run : Run first turns last) {key : κ}
    (unretried : first.queue.retries key = 0) :
    last.queue.retries key =
      min (QueueTurn.retriesSince key turns) WorkQueue.mostRetries := by
  induction run with
  | refl => exact unretried
  | @tail middle last turns turn run step induction =>
      cases turn with
      | none =>
          rw [step.of_none.1, induction, Option.toList_none, List.append_nil]
      | some turn =>
          rw [step.of_turn.2.2.1, WorkQueue.retries_after, step.of_turn.1,
            induction, Option.toList_some, QueueTurn.retriesSince_concat]
          split
          · rfl
          · split
            · omega
            · rfl

theorem Run.delay_eq {backoff : Backoff}
    (run : Run (start backoff) turns last) (key : κ) :
    (last.queue.countRetry key).2 =
      backoff.delay (QueueTurn.retriesSince key turns) := by
  change last.queue.backoff.delay (last.queue.retries key) = _
  rw [run.backoff_eq, run.retries_eq rfl]
  exact backoff.delay_min _ (by decide)

end QueueSystem

end

/-! ## How long a retry is put off -/

namespace QueueScript

/-- In what is left to do, whatever it is answered, a key whose retry was
counted is added after the delay that was told. -/
inductive HeedsDelays : QueueScript κ → Prop where
  | done : HeedsDelays (.done ())
  | ask {request : QueueRequest κ} {next : request.Answer → QueueScript κ}
      (other : ∀ key, request ≠ .countRetry key)
      (follows : ∀ answer, HeedsDelays (next answer)) :
      HeedsDelays (Program.ask request next)
  | retry (key : κ) {rest : Unit → QueueScript κ}
      (follows : HeedsDelays (rest ())) :
      HeedsDelays (Program.ask (.countRetry key) fun (delay : Duration) =>
        (addAfter key delay).bind rest)

variable {key : κ} {rest : Unit → QueueScript κ}

theorem addAfter_bind_done (key : κ) (delay : Duration) :
    (addAfter key delay).bind .done = addAfter key delay := by
  unfold addAfter
  split
  · rfl
  · rfl

theorem heedsDelays_addAfter (key : κ) (delay : Duration)
    (follows : HeedsDelays (rest ())) :
    HeedsDelays ((addAfter key delay).bind rest) := by
  unfold addAfter
  split
  · exact .ask nofun fun _ => follows
  · exact .ask nofun fun _ => .ask nofun fun _ => follows

theorem heedsDelays_follow (key : κ) (followUp : FollowUp)
    (follows : HeedsDelays (rest ())) :
    HeedsDelays ((follow key followUp).bind rest) := by
  cases followUp with
  | forget => exact .ask nofun fun _ => follows
  | backOff => exact .retry key follows
  | immediate => exact .ask nofun fun _ => follows

theorem heedsDelays_script (operation : QueueOperation κ) :
    HeedsDelays operation.script := by
  cases operation with
  | addAfter key delay =>
      have added := heedsDelays_addAfter key delay HeedsDelays.done
      rwa [addAfter_bind_done] at added
  | retry key =>
      have retried := HeedsDelays.retry key HeedsDelays.done
      simp only [addAfter_bind_done] at retried
      exact retried
  | fire timer =>
      refine .ask nofun fun (isDue : Bool) => ?_
      cases isDue with
      | false => exact .done
      | true => exact .ask nofun fun _ => .done
  | work outcome =>
      refine .ask nofun fun (taken : Option κ) => ?_
      cases taken with
      | none => exact .done
      | some key =>
          exact heedsDelays_follow key (outcome key)
            (.ask nofun fun _ => .done)
  | _ => exact .ask nofun fun _ => .done

/-- What is left to do next asks for a key to be added at once if there is no
delay, and otherwise reads the clock and asks for a wait until the delay from
then has passed. -/
inductive AddsAfter (key : κ) (delay : Duration) : QueueScript κ → Prop where
  | atOnce (instant : delay.nanos = 0) (next : Unit → QueueScript κ) :
      AddsAfter key delay (Program.ask (.add key) next)
  | delayed (lasts : delay.nanos ≠ 0) (next : Unit → QueueScript κ) :
      AddsAfter key delay (Program.ask .readClock fun (now : Nat) =>
        Program.ask (.await key (now + delay.nanos)) next)

theorem addsAfter_addAfter (key : κ) (delay : Duration) :
    AddsAfter key delay ((addAfter key delay).bind rest) := by
  unfold addAfter
  by_cases instant : delay.nanos = 0
  · rw [if_pos instant]
    exact .atOnce instant rest
  · rw [if_neg instant]
    exact .delayed instant rest

theorem HeedsDelays.of_retry
    {next : QueueRequest.Answer (.countRetry key) → QueueScript κ}
    (heeds : HeedsDelays (Program.ask (.countRetry key) next)) :
    ∃ rest, HeedsDelays (rest ()) ∧
      ∀ delay : Duration, next delay = (addAfter key delay).bind rest := by
  cases heeds with
  | ask other follows => exact absurd rfl (other key)
  | retry key follows => exact ⟨_, follows, fun _ => rfl⟩

theorem HeedsDelays.answered {request : QueueRequest κ}
    {next : request.Answer → QueueScript κ}
    (heeds : HeedsDelays (Program.ask request next))
    (answer : request.Answer) : HeedsDelays (next answer) := by
  cases heeds with
  | ask other follows => exact follows answer
  | retry key follows => exact heedsDelays_addAfter key answer follows

end QueueScript

section

variable [DecidableEq κ]

/-- A section in which a retry of a key is counted, and after which its call
goes on to add the key after a delay. -/
structure CallTurn.PutsOff (turn : CallTurn κ) (key : κ) (delay : Duration) :
    Prop where
  counts : turn.request = .countRetry key
  told : (turn.queue.countRetry key).2 = delay
  goesOn : QueueScript.AddsAfter key delay turn.left.rest

namespace CallSystem

variable {first last : CallSystem κ} {events : List (CallEvent κ)}

def HeedsDelays (system : CallSystem κ) : Prop :=
  ∀ call ∈ system.calls, QueueScript.HeedsDelays call.rest

theorem Run.heedsDelays (run : Run first events last)
    (heeds : first.HeedsDelays) : last.HeedsDelays := by
  refine run.invariant heeds ?_
  intro system event next known step
  refine step.forall_calls QueueScript.heedsDelays_script ?_ ?_ known
  · intro call request follows here asks
    rw [asks] at here
    exact here.answered _
  · intro call former here works finished
    exact here

/-- Every retry is put off by the delay of the retries before it. -/
theorem Run.putsOff_iff {backoff : Backoff} {turn : CallTurn κ}
    {earlier later : List (CallEvent κ)}
    (run : Run (start backoff) events last)
    (parts : events = earlier ++ .turn turn :: later) (key : κ)
    (delay : Duration) :
    turn.PutsOff key delay ↔ turn.request = .countRetry key ∧
      delay = backoff.delay
        (QueueTurn.retriesSince key (earlier.filterMap CallEvent.turn?)) := by
  obtain ⟨system, next, before, step, _⟩ := run.cut parts
  have told := QueueSystem.Run.delay_eq (Run.anonymous before) key
  have heeds : system.HeedsDelays := Run.heedsDelays before nofun
  cases step with
  | @turn call request follows others rest present asks permitted =>
      constructor
      · intro off
        exact ⟨off.counts, off.told.symm.trans told⟩
      · rintro ⟨counts, rfl⟩
        obtain rfl : request = .countRetry key := counts
        have here := heeds call (by simp [present])
        rw [asks] at here
        obtain ⟨after, _, same⟩ := here.of_retry
        refine ⟨rfl, told, ?_⟩
        rw [← told]
        have added : QueueScript.AddsAfter key _
            ((QueueScript.addAfter key _).bind after) :=
          QueueScript.addsAfter_addAfter key (system.queue.countRetry key).2
        rw [← same] at added
        exact added

theorem Run.putsOff_iff_nanos {backoff : Backoff}
    (fits : backoff.greatest.nanos < 2 ^ 64) {turn : CallTurn κ}
    {earlier later : List (CallEvent κ)}
    (run : Run (start backoff) events last)
    (parts : events = earlier ++ .turn turn :: later) (key : κ)
    (delay : Duration) :
    turn.PutsOff key delay ↔ turn.request = .countRetry key ∧
      delay.nanos = min
        (backoff.base.nanos * 2 ^ QueueTurn.retriesSince key
          (earlier.filterMap CallEvent.turn?))
        backoff.greatest.nanos := by
  rw [run.putsOff_iff parts, ← Backoff.nanos_delay fits]
  exact and_congr_right fun _ =>
    ⟨congrArg Duration.nanos, congrArg Duration.mk⟩

/-- In every run a retry of a key is put off by exactly the base delay, doubled
for each retry since the key was last forgotten, up to the greatest delay.  So
delays never shrink until the key is forgotten, none is longer than the
greatest one, and unless the base delay is zero all are that one from the first
retry on whose doubled delay reaches it. -/
theorem retries_back_off {backoff : Backoff}
    (fits : backoff.greatest.nanos < 2 ^ 64) {system : CallSystem κ}
    {events : List (CallEvent κ)} (run : Run (start backoff) events system)
    (key : κ) :
    (∀ (earlier later : List (CallEvent κ)) (turn : CallTurn κ)
        (delay : Duration), events = earlier ++ .turn turn :: later →
        (turn.PutsOff key delay ↔ turn.request = .countRetry key ∧
          delay.nanos = min
            (backoff.base.nanos * 2 ^ QueueTurn.retriesSince key
              (earlier.filterMap CallEvent.turn?))
            backoff.greatest.nanos)) ∧
      (∀ (earlier between later : List (CallEvent κ))
        (first second : CallTurn κ) (sooner longer : Duration),
        events = earlier ++ .turn first :: (between ++ .turn second :: later) →
        (∀ turn ∈ between.filterMap CallEvent.turn?,
          turn.request ≠ .forget key) →
        first.PutsOff key sooner → second.PutsOff key longer →
        sooner.nanos ≤ longer.nanos) ∧
      (∀ (turn : CallTurn κ) (delay : Duration), .turn turn ∈ events →
        turn.PutsOff key delay → delay.nanos ≤ backoff.greatest.nanos) ∧
      (0 < backoff.base.nanos → ∃ enough : Nat,
        IsLeast {retries | backoff.greatest.nanos ≤
          backoff.base.nanos * 2 ^ retries} enough ∧
        ∀ (earlier later : List (CallEvent κ)) (turn : CallTurn κ)
          (delay : Duration), events = earlier ++ .turn turn :: later →
          enough ≤ QueueTurn.retriesSince key
            (earlier.filterMap CallEvent.turn?) →
          turn.PutsOff key delay → delay = backoff.greatest) := by
  refine ⟨?_, ?_, ?_, ?_⟩
  · intro earlier later turn delay parts
    exact run.putsOff_iff_nanos fits parts key delay
  · intro earlier between later first second sooner longer parts kept before
      after
    have firstTold := ((run.putsOff_iff_nanos fits parts key _).mp before).2
    have again : events =
        (earlier ++ .turn first :: between) ++ .turn second :: later := by
      rw [parts, List.append_assoc, List.cons_append]
    have secondTold := ((run.putsOff_iff_nanos fits again key _).mp after).2
    have counted : QueueTurn.retriesSince key
          (earlier.filterMap CallEvent.turn?) ≤
        QueueTurn.retriesSince key
          ((earlier ++ .turn first :: between).filterMap CallEvent.turn?) := by
      rw [List.filterMap_append]
      apply QueueTurn.retriesSince_le_append
      rw [List.filterMap_cons_some (CallEvent.turn?_turn first)]
      refine List.forall_mem_cons.mpr ⟨?_, kept⟩
      rw [before.counts]
      nofun
    have doubled := Nat.mul_le_mul_left backoff.base.nanos
      (Nat.pow_le_pow_right (by decide : 0 < 2) counted)
    omega
  · intro turn delay given off
    obtain ⟨earlier, later, parts⟩ := List.append_of_mem given
    have same := ((run.putsOff_iff_nanos fits parts key _).mp off).2
    omega
  · intro positive
    have reached : ∃ retries, backoff.greatest.nanos ≤
        backoff.base.nanos * 2 ^ retries := by
      refine ⟨64, fits.le.trans ?_⟩
      exact Nat.le_mul_of_pos_left _ positive
    refine ⟨Nat.find reached,
      ⟨Nat.find_spec reached, fun _ => Nat.find_min' reached⟩, ?_⟩
    intro earlier later turn delay parts often off
    have doubled := Nat.mul_le_mul_left backoff.base.nanos
      (Nat.pow_le_pow_right (by decide : 0 < 2) often)
    have product := (Nat.find_spec reached).trans doubled
    have same := ((run.putsOff_iff_nanos fits parts key _).mp off).2
    rw [Nat.min_eq_right product] at same
    exact congrArg Duration.mk same

/-- With delays from 5 to 8 the second retry of a key is put off by 8, not by
twice 5, and once the key is forgotten the next one by 5 again. -/
theorem retries_back_off_forgotten :
    ∃ (system : CallSystem Nat) (earlier events : List (CallEvent Nat))
      (second last : CallTurn Nat),
      Run (start ⟨⟨5⟩, ⟨8⟩⟩) events system ∧
        events = earlier ++ [.turn last] ∧ .turn second ∈ earlier ∧
        second.PutsOff 1 ⟨8⟩ ∧ last.PutsOff 1 ⟨5⟩ := by
  have begun : Run (start ⟨⟨5⟩, ⟨8⟩⟩ : CallSystem Nat) [] (start ⟨⟨5⟩, ⟨8⟩⟩) :=
    .refl _
  have first := (begun.tail (.start _ (.retry 1))).tail
    (.newest rfl rfl trivial)
  have second := (first.tail (.start _ (.retry 1))).tail
    (.newest rfl rfl trivial)
  have forgotten := (second.tail (.start _ (.forget 1))).tail
    (.newest rfl rfl trivial)
  have last := (forgotten.tail (.start _ (.retry 1))).tail
    (.newest rfl rfl trivial)
  obtain ⟨secondTold, _⟩ := retries_back_off (by decide) second 1
  obtain ⟨lastTold, _⟩ := retries_back_off (by decide) last 1
  refine ⟨_, _, _, _, _, last, rfl, ?_, (secondTold _ [] _ _ rfl).mpr ?_,
    (lastTold _ [] _ _ rfl).mpr ?_⟩
  · simp
  · exact ⟨rfl, rfl⟩
  · exact ⟨rfl, rfl⟩

end CallSystem

end

end SwapWarden
