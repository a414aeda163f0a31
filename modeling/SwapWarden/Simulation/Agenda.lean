import SwapWarden.Clock

/-!
# Agendas

An agenda holds what is to happen at points in time.  What is due at the same
time happens in the order in which it was put down, so that a loop that put
down its next turn long ago has it before one that did so just now.
-/

namespace SwapWarden.Simulation

/-- What is to happen, with its time, in the order in which it was put down. -/
structure Agenda (α : Type) where
  entries : List (Nat × α) := []
  deriving Repr, Inhabited

namespace Agenda

variable {α : Type}

/-- Puts down what is to happen at a time. -/
def put (agenda : Agenda α) (time : Nat) (what : α) : Agenda α :=
  ⟨agenda.entries ++ [(time, what)]⟩

/-- The next time at which something is due. -/
def next (agenda : Agenda α) : Option Nat :=
  Clock.earliest (agenda.entries.map Prod.fst)

/-- What is due at a time, and what is left then. -/
def takeDue (agenda : Agenda α) (time : Nat) : List α × Agenda α :=
  let isDue := fun (entry : Nat × α) => decide (entry.1 ≤ time)
  ((agenda.entries.filter isDue).map Prod.snd,
    ⟨agenda.entries.filter (fun entry => !isDue entry)⟩)

end Agenda

end SwapWarden.Simulation
