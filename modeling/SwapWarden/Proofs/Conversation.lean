import SwapWarden.Program

/-!
# Conversations of programs

A program and whoever answers it hold a conversation: the requests it made so
far with their answers.  What a conversation may look like, whatever the
answers, is told by a protocol, which notes what was said and says which
requests are allowed then.  A program that keeps to a protocol can be proved
to do so part by part.
-/

namespace SwapWarden

namespace Program

variable {Request : Type} {Answer : Request → Type} {α β σ : Type}

/-- A request and what it was answered with. -/
structure Exchange (Request : Type) (Answer : Request → Type) where
  request : Request
  answer : Answer request

/-- What a program says on the way to what is left of it. -/
inductive Reaches : Program Request Answer α →
    List (Exchange Request Answer) → Program Request Answer α → Prop where
  | refl (program : Program Request Answer α) : Reaches program [] program
  | ask {request : Request} {next : Answer request → Program Request Answer α}
      {exchanges : List (Exchange Request Answer)}
      {rest : Program Request Answer α} (answer : Answer request)
      (later : Reaches (next answer) exchanges rest) :
      Reaches (.ask request next) (⟨request, answer⟩ :: exchanges) rest

theorem Reaches.trans {program middle rest : Program Request Answer α}
    {earlier later : List (Exchange Request Answer)}
    (before : Reaches program earlier middle)
    (after : Reaches middle later rest) :
    Reaches program (earlier ++ later) rest := by
  induction before with
  | refl => exact after
  | ask answer _ induction => exact .ask answer (induction after)

theorem Reaches.of_done {value : α} {rest : Program Request Answer α}
    {exchanges : List (Exchange Request Answer)}
    (reached : Reaches (.done value) exchanges rest) :
    exchanges = [] ∧ rest = .done value := by
  cases reached with
  | refl => exact ⟨rfl, rfl⟩

theorem Reaches.of_ask {request : Request} {value : α}
    {next : Answer request → Program Request Answer α}
    {exchanges : List (Exchange Request Answer)}
    (reached : Reaches (.ask request next) exchanges (.done value)) :
    ∃ answer later, exchanges = ⟨request, answer⟩ :: later ∧
      Reaches (next answer) later (.done value) := by
  cases reached with
  | ask answer later => exact ⟨answer, _, rfl, later⟩

/-- What two programs in a row say is what each of them says. -/
theorem Reaches.of_bind {program : Program Request Answer α}
    {continuation : α → Program Request Answer β} {value : β}
    {exchanges : List (Exchange Request Answer)}
    (reached : Reaches (program.bind continuation) exchanges (.done value)) :
    ∃ earlier later middle, exchanges = earlier ++ later ∧
      Reaches program earlier (.done middle) ∧
      Reaches (continuation middle) later (.done value) := by
  induction program generalizing exchanges with
  | done middle => exact ⟨[], exchanges, middle, rfl, .refl _, reached⟩
  | ask request next induction =>
      obtain ⟨answer, after, rfl, rest⟩ := Reaches.of_ask reached
      obtain ⟨earlier, later, middle, rfl, first, second⟩ :=
        induction answer rest
      exact ⟨_, later, middle, rfl, .ask answer first, second⟩

theorem Reaches.tail {program : Program Request Answer α}
    {exchanges : List (Exchange Request Answer)} {request : Request}
    {next : Answer request → Program Request Answer α}
    (reached : Reaches program exchanges (.ask request next))
    (answer : Answer request) :
    Reaches program (exchanges ++ [⟨request, answer⟩]) (next answer) :=
  reached.trans (.ask answer (.refl _))

/-- A conversation can be taken apart at any of its exchanges. -/
theorem Reaches.cut {program rest : Program Request Answer α}
    {earlier later : List (Exchange Request Answer)}
    {exchange : Exchange Request Answer}
    (reached : Reaches program (earlier ++ exchange :: later) rest) :
    ∃ next, Reaches program earlier (.ask exchange.request next) ∧
      Reaches (next exchange.answer) later rest := by
  induction earlier generalizing program with
  | nil =>
      cases reached with
      | ask answer later => exact ⟨_, .refl _, later⟩
  | cons first earlier induction =>
      cases reached with
      | ask answer later =>
          obtain ⟨next, before, after⟩ := induction later
          exact ⟨next, .ask answer before, after⟩

/-- The conversation with collaborators that answer each request in one way,
and the result it comes to. -/
def conversation (answers : (request : Request) → Answer request) :
    Program Request Answer α → List (Exchange Request Answer) × α
  | .done value => ([], value)
  | .ask request next =>
      let (later, value) := (next (answers request)).conversation answers
      (⟨request, answers request⟩ :: later, value)

theorem conversation_bind
    (answers : (request : Request) → Answer request)
    (program : Program Request Answer α)
    (continuation : α → Program Request Answer β) :
    (program.bind continuation).conversation answers =
      ((program.conversation answers).1 ++
          ((continuation (program.conversation answers).2).conversation
            answers).1,
        ((continuation (program.conversation answers).2).conversation
          answers).2) := by
  induction program with
  | done value => rfl
  | ask request next induction =>
      rw [Program.bind, conversation, induction]
      rfl

theorem reaches_conversation
    (answers : (request : Request) → Answer request)
    (program : Program Request Answer α) :
    Reaches program (program.conversation answers).1
      (.done (program.conversation answers).2) := by
  induction program with
  | done value => exact .refl _
  | ask request next induction =>
      exact .ask (answers request) (induction (answers request))

/-- Which requests are allowed, by a state that notes what was said. -/
structure Protocol (Request : Type) (Answer : Request → Type) (σ : Type) where
  Allows : σ → Request → Prop
  note : σ → (request : Request) → Answer request → σ

namespace Protocol

variable (protocol : Protocol Request Answer σ)

/-- The state after a conversation. -/
def follow (state : σ) (exchanges : List (Exchange Request Answer)) : σ :=
  exchanges.foldl
    (fun state exchange =>
      protocol.note state exchange.request exchange.answer) state

/-- A program that makes only allowed requests, whatever the answers, and ends
as it should. -/
def Keeps (ends : σ → α → Prop) : Program Request Answer α → σ → Prop
  | .done value, state => ends state value
  | .ask request next, state =>
      protocol.Allows state request ∧
        ∀ answer, Keeps ends (next answer) (protocol.note state request answer)

variable {protocol}

theorem Keeps.ask {ends : σ → β → Prop} {request : Request}
    {continuation : Answer request → Program Request Answer β} {state : σ}
    (allowed : protocol.Allows state request)
    (later : ∀ answer, protocol.Keeps ends (continuation answer)
      (protocol.note state request answer)) :
    protocol.Keeps ends ((Program.request request).bind continuation) state :=
  ⟨allowed, later⟩

theorem Keeps.bind {ends : σ → β → Prop}
    {program : Program Request Answer α}
    {continuation : α → Program Request Answer β} {state : σ}
    (first : protocol.Keeps
      (fun state value => protocol.Keeps ends (continuation value) state)
      program state) :
    protocol.Keeps ends (program.bind continuation) state := by
  induction program generalizing state with
  | done value => exact first
  | ask request next induction =>
      exact ⟨first.1, fun answer => induction answer (first.2 answer)⟩

theorem Keeps.mono {ends weaker : σ → α → Prop}
    (weakens : ∀ state value, ends state value → weaker state value)
    {program : Program Request Answer α} {state : σ}
    (keeps : protocol.Keeps ends program state) :
    protocol.Keeps weaker program state := by
  induction program generalizing state with
  | done value => exact weakens state value keeps
  | ask request next induction =>
      exact ⟨keeps.1, fun answer => induction answer (keeps.2 answer)⟩

theorem Keeps.rest {ends : σ → α → Prop}
    {program rest : Program Request Answer α} {state : σ}
    {exchanges : List (Exchange Request Answer)}
    (keeps : protocol.Keeps ends program state)
    (reached : Reaches program exchanges rest) :
    protocol.Keeps ends rest (protocol.follow state exchanges) := by
  induction reached generalizing state with
  | refl => exact keeps
  | ask answer _ induction => exact induction (keeps.2 answer)

/-- What holds at first and is kept by every allowed request holds after every
conversation. -/
theorem Keeps.invariant {ends : σ → α → Prop} (property : σ → Prop)
    {program rest : Program Request Answer α} {state : σ}
    {exchanges : List (Exchange Request Answer)}
    (keeps : protocol.Keeps ends program state)
    (reached : Reaches program exchanges rest) (initial : property state)
    (kept : ∀ state request answer, property state →
      protocol.Allows state request →
      property (protocol.note state request answer)) :
    property (protocol.follow state exchanges) := by
  induction reached generalizing state with
  | refl => exact initial
  | ask answer _ induction =>
      exact induction (keeps.2 answer) (kept _ _ answer initial keeps.1)

/-- The protocol that notes the whole conversation. -/
def recording
    (allows : List (Exchange Request Answer) → Request → Prop) :
    Protocol Request Answer (List (Exchange Request Answer)) where
  Allows := allows
  note said request answer := said ++ [⟨request, answer⟩]

theorem follow_recording
    {allows : List (Exchange Request Answer) → Request → Prop}
    (said exchanges : List (Exchange Request Answer)) :
    (recording allows).follow said exchanges = said ++ exchanges := by
  induction exchanges generalizing said with
  | nil => exact (List.append_nil said).symm
  | cons exchange exchanges induction =>
      calc
        (recording allows).follow said (exchange :: exchanges) =
            (recording allows).follow (said ++ [exchange]) exchanges := rfl
        _ = said ++ [exchange] ++ exchanges := induction _
        _ = said ++ exchange :: exchanges := by simp

end Protocol

end Program

end SwapWarden
