/-!
# Sessions

A session is a computation on a state that can fail.  What it did to the state before it failed
stays done: an upload that is refused half-way has still sent its first request.
-/

namespace LargeFiles

/-- A computation on states of type `σ` that gives a value or fails with an error. -/
abbrev Session (σ ε α : Type) : Type := ExceptT ε (StateM σ) α

namespace Session

variable {σ τ ε δ α : Type}

/-- Runs a session: its outcome and the state after it. -/
def outcome (s : Session σ ε α) (state : σ) : Except ε α × σ := StateT.run (ExceptT.run s) state

/-- The session that a function from states describes. -/
def ofFunction (f : σ → Except ε α × σ) : Session σ ε α := ExceptT.mk f

/-- The session that leaves the state alone and has a fixed outcome. -/
def ofExcept (result : Except ε α) : Session σ ε α := ExceptT.mk (pure result)

/-- A session on a part of a state. -/
def onPart (part : τ → σ) (update : τ → σ → τ) (s : Session σ ε α) : Session τ ε α :=
  ofFunction fun state =>
    let (result, changed) := s.outcome (part state)
    (result, update state changed)

/-- The session with its errors replaced. -/
def mapError (f : ε → δ) (s : Session σ ε α) : Session σ δ α :=
  ofFunction fun state =>
    let (result, state) := s.outcome state
    (result.mapError f, state)

@[simp] theorem outcome_ofFunction (f : σ → Except ε α × σ) (state : σ) :
    (ofFunction f).outcome state = f state := rfl

@[simp] theorem outcome_ofExcept (result : Except ε α) (state : σ) :
    (ofExcept result).outcome state = (result, state) := rfl

@[simp] theorem outcome_pure (a : α) (state : σ) :
    (pure a : Session σ ε α).outcome state = (.ok a, state) := rfl

@[simp] theorem outcome_throw (e : ε) (state : σ) :
    (throw e : Session σ ε α).outcome state = (.error e, state) := rfl

theorem outcome_bind (s : Session σ ε α) (f : α → Session σ ε β) (state : σ) :
    (s >>= f).outcome state =
      match s.outcome state with
      | (.ok a, state) => (f a).outcome state
      | (.error e, state) => (.error e, state) := by
  simp only [outcome, ExceptT.run_bind, StateT.run_bind]
  rcases StateT.run (ExceptT.run s) state with ⟨⟨⟩ | ⟨⟩, _⟩ <;> rfl

end Session

end LargeFiles
