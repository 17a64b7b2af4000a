import HeaderTypes.Event

namespace HeaderTypes

/-- How an operation ends: its value or the cause for which it refused, the
state it leaves behind either way, and what it told of on the way. -/
structure Outcome (σ α : Type) where
  result : Except Failure α
  state : σ
  events : List Event

/-- An operation on a state. -/
def Action (σ α : Type) : Type := σ → Outcome σ α

namespace Action
variable {σ τ α β : Type}

/-- The outcome of an operation that starts from a given state. -/
def run (action : Action σ α) (state : σ) : Outcome σ α := action state

/-- Nothing happens and a value is given. -/
def pure (a : α) : Action σ α := fun state => ⟨.ok a, state, []⟩

/-- The second operation starts where the first one ended. A refusal of the
first one is the end of both. -/
def bind (first : Action σ α) (next : α → Action σ β) : Action σ β := fun state =>
  let outcome := first state
  match outcome.result with
  | .ok a =>
    let last := next a outcome.state
    ⟨last.result, last.state, outcome.events ++ last.events⟩
  | .error cause => ⟨.error cause, outcome.state, outcome.events⟩

instance : Monad (Action σ) where
  pure := pure
  bind := bind

/-- Ends here, with the state as it is. -/
def refuse (cause : Failure) : Action σ α := fun state => ⟨.error cause, state, []⟩

/-- Tells of an event. -/
def tell (event : Event) : Action σ Unit := fun state => ⟨.ok (), state, [event]⟩

/-- The present state. -/
def get : Action σ σ := fun state => ⟨.ok state, state, []⟩

/-- Changes the state. -/
def update (change : σ → σ) : Action σ Unit := fun state => ⟨.ok (), change state, []⟩

/-- A value or a refusal that was found without touching the state. -/
def ofExcept : Except Failure α → Action σ α
  | .ok a => pure a
  | .error cause => refuse cause

/-- Tells of more events if the operation refuses. -/
def tellingRefusal (action : Action σ α) (events : Failure → List Event) : Action σ α :=
  fun state =>
  let outcome := action state
  match outcome.result with
  | .ok _ => outcome
  | .error cause => { outcome with events := outcome.events ++ events cause }

/-- An operation on a part of a larger state. -/
def onPart (part : τ → σ) (withPart : τ → σ → τ) (action : Action σ α) : Action τ α := fun whole =>
  let outcome := action (part whole)
  ⟨outcome.result, withPart whole outcome.state, outcome.events⟩

theorem run_pure (a : α) (state : σ) : (Pure.pure a : Action σ α).run state = ⟨.ok a, state, []⟩ :=
  rfl

theorem run_bind (first : Action σ α) (next : α → Action σ β) (state : σ) :
    (first >>= next).run state =
      match (first.run state).result with
      | .ok a =>
        let last := (next a).run (first.run state).state
        ⟨last.result, last.state, (first.run state).events ++ last.events⟩
      | .error cause => ⟨.error cause, (first.run state).state, (first.run state).events⟩ :=
  rfl

end Action

end HeaderTypes
