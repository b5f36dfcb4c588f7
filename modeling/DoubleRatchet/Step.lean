import DoubleRatchet.Failure
import DoubleRatchet.Randomness

/-!
# Steps

A step works on a state: it may read and change it, draw random bytes, and fail.
Changes and draws made before a failure stay made; whether a failing operation
leaves its state alone is therefore a property of the operation.
-/

namespace DoubleRatchet

structure Outcome (σ α : Type) where
  result : Except Failure α
  state : σ
  random : Randomness

def Step (σ α : Type) : Type :=
  σ → Randomness → Outcome σ α

namespace Step

variable {σ τ α β : Type}

instance : Monad (Step σ) where
  pure value := fun state random => ⟨.ok value, state, random⟩
  bind step next := fun state random =>
    match step state random with
    | ⟨.ok value, state, random⟩ => next value state random
    | ⟨.error failure, state, random⟩ => ⟨.error failure, state, random⟩

instance : MonadStateOf σ (Step σ) where
  get := fun state random => ⟨.ok state, state, random⟩
  set state := fun _ random => ⟨.ok (), state, random⟩
  modifyGet change := fun state random =>
    let (value, state) := change state
    ⟨.ok value, state, random⟩

instance : MonadExceptOf Failure (Step σ) where
  throw failure := fun state random => ⟨.error failure, state, random⟩
  tryCatch step handler := fun state random =>
    match step state random with
    | ⟨.ok value, state, random⟩ => ⟨.ok value, state, random⟩
    | ⟨.error failure, state, random⟩ => handler failure state random

instance : MonadLift (Except Failure) (Step σ) where
  monadLift result := fun state random => ⟨result, state, random⟩

instance : MonadLift (Except Error) (Step σ) where
  monadLift result := fun state random => ⟨result.mapError .refused, state, random⟩

instance : MonadLift (StateM Randomness) (Step σ) where
  monadLift draw := fun state random =>
    let (value, random) := draw random
    ⟨.ok value, state, random⟩

/-- Refuses. -/
def refuse (error : Error) : Step σ α :=
  throw (.refused error)

/-- A step on another state, from `start`; its final state is part of the result, and is lost
if the step fails. -/
def apart (step : Step τ α) (start : τ) : Step σ (α × τ) := fun state random =>
  match step start random with
  | ⟨.ok value, final, random⟩ => ⟨.ok (value, final), state, random⟩
  | ⟨.error failure, _, random⟩ => ⟨.error failure, state, random⟩

end Step
end DoubleRatchet
