/-!
# Runs of systems

A system takes steps, and some steps leave an event.  A run is any number of
steps with the events they left, in order.
-/

namespace SwapWarden

variable {State Event : Type}

/-- What one more event adds to what is told of the events. -/
theorem filterMap_toList {Part : Type} (part? : Event → Option Part)
    (event : Event) :
    (some event).toList.filterMap part? = (part? event).toList := by
  cases found : part? event with
  | none => simp [found]
  | some part => simp [found]

/-- Any number of steps of a system. -/
inductive Run (Step : State → Option Event → State → Prop) :
    State → List Event → State → Prop where
  | refl (state : State) : Run Step state [] state
  | tail {first middle last : State} {events : List Event}
      {event : Option Event} (run : Run Step first events middle)
      (step : Step middle event last) :
      Run Step first (events ++ event.toList) last

namespace Run

variable {Step : State → Option Event → State → Prop}
  {first middle last : State}

/-- What holds at the start and is kept by every step holds after every run. -/
theorem invariant {property : State → Prop} {events : List Event}
    (run : Run Step first events last) (initial : property first)
    (kept : ∀ {state event next},
      property state → Step state event next → property next) :
    property last := by
  induction run with
  | refl => exact initial
  | tail _ step induction => exact kept induction step

theorem trans {earlier later : List Event}
    (before : Run Step first earlier middle)
    (rest : Run Step middle later last) :
    Run Step first (earlier ++ later) last := by
  induction rest with
  | refl => simpa using before
  | tail _ step induction =>
      rw [← List.append_assoc]
      exact .tail induction step

/-- A run can be taken apart at any of its events. -/
theorem cut {event : Event} {events earlier later : List Event}
    (run : Run Step first events last)
    (parts : events = earlier ++ event :: later) :
    ∃ state next, Run Step first earlier state ∧
      Step state (some event) next ∧ Run Step next later last := by
  induction run generalizing later with
  | refl => simp at parts
  | @tail middle last events latest run step induction =>
      cases latest with
      | none =>
          rw [Option.toList_none, List.append_nil] at parts
          obtain ⟨state, next, before, taken, rest⟩ := induction parts
          refine ⟨state, next, before, taken, ?_⟩
          simpa using Run.tail rest step
      | some latest =>
          rcases List.eq_nil_or_concat later with rfl | ⟨front, final, rfl⟩
          · obtain ⟨rfl, same⟩ := List.append_inj' parts rfl
            obtain rfl : latest = event := by simpa using same
            exact ⟨middle, last, run, step, .refl last⟩
          · rw [List.concat_eq_append, ← List.cons_append,
              ← List.append_assoc] at parts
            obtain ⟨frontParts, same⟩ := List.append_inj' parts rfl
            obtain rfl : latest = final := by simpa using same
            obtain ⟨state, next, before, taken, rest⟩ := induction frontParts
            refine ⟨state, next, before, taken, ?_⟩
            simpa using Run.tail rest step

end Run

end SwapWarden
