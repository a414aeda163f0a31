/-!
# Virtual time

Time stands still while things happen and passes only between them.  What is
to happen is told by the state: the next due time, and what happens then.
Points in time are nanoseconds.
-/

namespace SwapWarden.Clock

/-- Lets everything happen that is due after `last` and no later than
`target`.  What happens at a due time must leave nothing due at that time or
before; otherwise the run ends there. -/
def run {σ : Type} (next : σ → Option Nat) (happen : Nat → σ → σ)
    (target last : Nat) (state : σ) : σ :=
  match next state with
  | some due =>
      if _inRange : last < due ∧ due ≤ target then
        run next happen target due (happen due state)
      else
        state
  | none => state
termination_by target - last
decreasing_by omega

/-- The earlier of two due times. -/
def earlier : Option Nat → Option Nat → Option Nat
  | some first, some second => some (min first second)
  | some first, none => some first
  | none, second => second

/-- The earliest of several due times. -/
def earliest (times : List Nat) : Option Nat :=
  times.foldl (fun found time => earlier found (some time)) none

end SwapWarden.Clock
