import Mathlib.Data.List.Induction
import SwapWarden.Simulation.Sampling

/-!
# The history is a window of what was recorded

A history forgets its oldest samples when it is full and all of them when it is
reset, and a reading that fails adds none.  Whatever the sampler is asked to do
and in whichever order, what it holds is the start of the list of all samples
recorded since the last reset, newest first.
-/

namespace SwapWarden

/-- Reading a node fails with the fault of the first thing that is not there or
cannot be read. -/
inductive ReadFails (tree : FileTree) (procRoot : String) (fault : Fault) :
    Prop where
  | noCounters
      (missing : tree.readOrFault (FileTree.joinPath procRoot "vmstat") =
        .error fault)
  | badCounters {text : String}
      (found : tree.readOrFault (FileTree.joinPath procRoot "vmstat") =
        .ok text)
      (malformed : SwapCounters.parse text = .error fault)
  | noMemory {text : String} {counters : SwapCounters}
      (found : tree.readOrFault (FileTree.joinPath procRoot "vmstat") =
        .ok text)
      (counted : SwapCounters.parse text = .ok counters)
      (missing : tree.readOrFault (FileTree.joinPath procRoot "meminfo") =
        .error fault)
  | badMemory {text listing : String} {counters : SwapCounters}
      (found : tree.readOrFault (FileTree.joinPath procRoot "vmstat") =
        .ok text)
      (counted : SwapCounters.parse text = .ok counters)
      (foundToo : tree.readOrFault (FileTree.joinPath procRoot "meminfo") =
        .ok listing)
      (malformed : Meminfo.parse listing = .error fault)

theorem bind_eq_error_iff {α β : Type} {first : Except Fault α}
    {next : α → Except Fault β} {fault : Fault} :
    first >>= next = .error fault ↔
      first = .error fault ∨ ∃ value, first = .ok value ∧
        next value = .error fault := by
  cases first with
  | error cause => simp [bind, Except.bind]
  | ok value => simp [bind, Except.bind]

theorem NodeStats.read_eq_error_iff {tree : FileTree} {procRoot : String}
    {fault : Fault} :
    NodeStats.read tree procRoot = .error fault ↔
      ReadFails tree procRoot fault := by
  unfold NodeStats.read Meminfo.read
  simp only [bind_eq_error_iff]
  constructor
  · rintro (missing | ⟨text, found, malformed | ⟨counters, counted,
      (missing | ⟨listing, foundToo, malformed⟩) | ⟨memory, _, done⟩⟩⟩)
    · exact .noCounters missing
    · exact .badCounters found malformed
    · exact .noMemory found counted missing
    · exact .badMemory found counted foundToo malformed
    · cases done
  · rintro (missing | ⟨found, malformed⟩ | ⟨found, counted, missing⟩ |
      ⟨found, counted, foundToo, malformed⟩)
    · exact .inl missing
    · exact .inr ⟨_, found, .inl malformed⟩
    · exact .inr ⟨_, found, .inr ⟨_, counted, .inl (.inl missing)⟩⟩
    · exact .inr ⟨_, found, .inr ⟨_, counted,
        .inl (.inr ⟨_, foundToo, malformed⟩)⟩⟩

/-- What a sampler can be asked to do.  A reading may have given anything. -/
inductive SamplerCall where
  | sample (time : Int) (reading : Except Fault NodeStats)
  | record (taken : Sample)
  | reset

namespace SamplerCall

def isReset : SamplerCall → Bool
  | reset => true
  | _ => false

/-- The sample that a call records. -/
def recorded? : SamplerCall → Option Sample
  | sample time reading => reading.toOption.map (Sample.ofStats time)
  | record taken => some taken
  | reset => none

/-- The calls after the last reset. -/
def sinceReset (calls : List SamplerCall) : List SamplerCall :=
  (calls.reverse.takeWhile fun call => !call.isReset).reverse

/-- The samples recorded since the last reset, in the order of recording. -/
def log (calls : List SamplerCall) : List Sample :=
  (sinceReset calls).filterMap recorded?

variable {calls : List SamplerCall} {call : SamplerCall}

theorem log_concat_reset (calls : List SamplerCall) :
    log (calls ++ [reset]) = [] := by
  simp [log, sinceReset, isReset]

theorem log_concat (keeps : call.isReset = false) :
    log (calls ++ [call]) = log calls ++ call.recorded?.toList := by
  unfold log sinceReset
  rw [List.reverse_append, List.reverse_singleton, List.singleton_append,
    List.takeWhile_cons_of_pos (by simp [keeps]), List.reverse_cons,
    List.filterMap_append]
  cases recorded : call.recorded? with
  | none => simp [recorded]
  | some taken => simp [recorded]

end SamplerCall

theorem History.samples_reset (history : History) :
    history.reset.samples = [] :=
  List.take_nil

theorem take_cons_take {α : Type} (value : α) (values : List α)
    (count : Nat) :
    (value :: values.take count).take count = (value :: values).take count := by
  cases count with
  | zero => rfl
  | succ count => simp [List.take_take]

namespace Simulation.Sampling

open SamplerCall

/-- The sampler after a call. -/
def after (sampling : Sampling) : SamplerCall → Sampling
  | .sample time reading =>
      ({ sampling with calendar := time }.sample reading).2
  | .record taken =>
      { sampling with history := sampling.history.record taken }
  | .reset => { sampling with history := sampling.history.reset }

variable {sampling : Sampling} {call : SamplerCall} {taken : Sample}

theorem history_after_of_recorded (recorded : call.recorded? = some taken) :
    (sampling.after call).history = sampling.history.record taken := by
  cases call with
  | sample time reading =>
      cases reading with
      | error fault => cases recorded
      | ok stats =>
          obtain rfl := Option.some.inj recorded
          rfl
  | record taken =>
      obtain rfl := Option.some.inj recorded
      rfl
  | reset => cases recorded

theorem history_after_of_silent (silent : call.recorded? = none)
    (keeps : call.isReset = false) :
    (sampling.after call).history = sampling.history := by
  cases call with
  | sample time reading =>
      cases reading with
      | error fault => rfl
      | ok stats => cases silent
  | record taken => cases silent
  | reset => cases keeps

/-- A history of some size holds the newest samples of a log. -/
structure Shows (size : Nat) (log : List Sample) (history : History) :
    Prop where
  limit_eq : history.limit = size
  samples_eq : history.samples = log.reverse.take size

theorem Shows.after {size : Nat} {calls : List SamplerCall}
    (shown : Shows size (log calls) sampling.history) (call : SamplerCall) :
    Shows size (log (calls ++ [call])) (sampling.after call).history := by
  cases resets : call.isReset with
  | true =>
      cases call with
      | reset =>
          rw [log_concat_reset]
          constructor
          · exact shown.limit_eq
          · rw [List.reverse_nil, List.take_nil]
            exact History.samples_reset sampling.history
      | sample time reading => cases resets
      | record taken => cases resets
  | false =>
      rw [log_concat resets]
      cases recorded : call.recorded? with
      | none =>
          rw [history_after_of_silent recorded resets, Option.toList_none,
            List.append_nil]
          exact shown
      | some taken =>
          rw [history_after_of_recorded recorded]
          constructor
          · rw [History.limit_record, shown.limit_eq]
          · rw [History.samples_record, shown.limit_eq, shown.samples_eq,
              take_cons_take, Option.toList_some, List.reverse_append,
              List.reverse_singleton, List.singleton_append]

/-- A sampler of a capacity after some calls. -/
def afterAll (capacity : Nat) (source : StatsSource) (calendar : Int)
    (calls : List SamplerCall) : Sampling :=
  calls.foldl after { history := .empty capacity, source, calendar }

theorem shows_afterAll (capacity : Nat) (source : StatsSource)
    (calendar : Int) (calls : List SamplerCall) :
    Shows (max capacity 1) (log calls)
      (afterAll capacity source calendar calls).history := by
  unfold afterAll
  induction calls using List.reverseRecOn with
  | nil => exact ⟨rfl, rfl⟩
  | append_singleton calls call induction =>
      rw [List.foldl_append]
      exact induction.after call

/-- What is held after any calls are the newest samples recorded since the last
reset, as many as fit, and at least one fits.  A new sample comes first, and a
reading that fails at any stage leaves everything as it was. -/
theorem samples_afterAll (capacity : Nat) (source : StatsSource)
    (calendar : Int) (calls : List SamplerCall) :
    let sampling := afterAll capacity source calendar calls
    sampling.history.samples = (log calls).reverse.take (max capacity 1) ∧
      sampling.history.size = sampling.history.samples.length ∧
      sampling.history.samples.length ≤ max capacity 1 ∧
      (∀ call taken, call.recorded? = some taken →
        (sampling.after call).history.samples[0]? = some taken) ∧
      ∀ tree procRoot fault, ReadFails tree procRoot fault →
        sampling.sample (NodeStats.read tree procRoot) =
          (.error fault, sampling) := by
  intro sampling
  have shown := shows_afterAll capacity source calendar calls
  refine ⟨shown.samples_eq, sampling.history.size_eq_length_samples, ?_, ?_,
    ?_⟩
  · rw [shown.samples_eq]
    exact List.length_take_le _ _
  · intro call taken recorded
    have room : 0 < sampling.history.limit :=
      Nat.lt_of_lt_of_le Nat.zero_lt_one (Nat.le_max_right _ _)
    rw [history_after_of_recorded recorded, History.samples_record,
      List.getElem?_take_of_lt room, List.getElem?_cons_zero]
  · intro tree procRoot fault fails
    rw [NodeStats.read_eq_error_iff.mpr fails]
    rfl

/-- Room for two, a reset, and readings between records. -/
theorem samples_afterAll_refilled :
    ∃ (source : StatsSource) (calls : List SamplerCall) (call : SamplerCall)
      (taken : Sample) (tree : FileTree),
      (log calls).map Sample.time = [3, 4, 5] ∧
        call.recorded? = some taken ∧
        ReadFails tree "" .noSwapCounters ∧
        let sampling := afterAll 2 source 0 calls
        sampling.history.samples.map Sample.time = [5, 4] ∧
          (sampling.after call).history.samples[0]? = some taken ∧
          sampling.sample (NodeStats.read tree "") =
            (.error .noSwapCounters, sampling) := by
  let source : StatsSource := .stats {}
  let calls : List SamplerCall :=
    [.record { time := 1 }, .record { time := 2 }, .reset,
      .sample 3 (.ok {}), .record { time := 4 }, .sample 9 (.error .noMemory),
      .sample 5 (.ok {})]
  let call : SamplerCall := .record { time := 8 }
  let tree : FileTree := { entries := ⟨[(["vmstat"], .text "pswpin 1")]⟩ }
  have found : tree.readOrFault (FileTree.joinPath "" "vmstat") =
      .ok "pswpin 1" := by
    unfold FileTree.readOrFault FileTree.readText FileTree.resolve
    simp only [String.contains_char_eq]
    decide +kernel
  have fails : ReadFails tree "" .noSwapCounters :=
    .badCounters found (by decide +kernel)
  obtain ⟨samples, _, _, newest, failing⟩ :=
    samples_afterAll 2 source 0 calls
  refine ⟨source, calls, call, _, tree, rfl, rfl, fails, ?_,
    newest call _ rfl, failing tree "" _ fails⟩
  rw [samples]
  rfl

end Simulation.Sampling

end SwapWarden
