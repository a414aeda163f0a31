/-!
# Programs that ask for what they need

A program is a value or a request together with what follows each answer.
What a request means is left to whoever runs the program, so a program can be
run over any collaborators, and anything may happen between two requests.
-/

namespace SwapWarden

/-- A computation over requests and their answers. -/
inductive Program (Request : Type) (Answer : Request → Type) (α : Type) where
  | done (value : α)
  | ask (request : Request)
      (next : Answer request → Program Request Answer α)

namespace Program

variable {Request : Type} {Answer : Request → Type} {α β σ : Type}

/-- The program that asks once and ends with the answer. -/
def request (request : Request) : Program Request Answer (Answer request) :=
  .ask request .done

/-- A program followed by another one. -/
def bind : Program Request Answer α → (α → Program Request Answer β) →
    Program Request Answer β
  | .done value, follow => follow value
  | .ask request next, follow =>
      .ask request (fun answer => (next answer).bind follow)

instance : Monad (Program Request Answer) where
  pure := .done
  bind := bind

/-- Runs a program over collaborators with a state. -/
def run (handle : (request : Request) → σ → Answer request × σ) :
    Program Request Answer α → σ → α × σ
  | .done value, state => (value, state)
  | .ask request next, state =>
      let (answer, state) := handle request state
      (next answer).run handle state

theorem run_bind (handle : (request : Request) → σ → Answer request × σ)
    (program : Program Request Answer α)
    (follow : α → Program Request Answer β) (state : σ) :
    (program.bind follow).run handle state =
      (follow (program.run handle state).1).run handle
        (program.run handle state).2 := by
  induction program generalizing state with
  | done value => rfl
  | ask request next induction => exact induction _ _

end Program

end SwapWarden
