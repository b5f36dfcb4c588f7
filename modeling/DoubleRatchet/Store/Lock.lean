import DoubleRatchet.Step

/-!
# Locks

Operations of several users on one state take turns under a lock. An operation that
aborts leaves the state in doubt, so the lock refuses everything from then on.
-/

namespace DoubleRatchet

structure Locked (σ : Type) where
  content : σ
  poisoned : Bool := false

def isAborted {α : Type} : Except Failure α → Bool
  | .error (.aborted _) => true
  | _ => false

namespace Locked

variable {σ α : Type}

def run (step : Step σ α) : Step (Locked σ) α := fun lock random =>
  if lock.poisoned then ⟨.error (.refused .lockPoisoned), lock, random⟩
  else
    let outcome := step lock.content random
    ⟨outcome.result, { content := outcome.state, poisoned := isAborted outcome.result },
      outcome.random⟩

end Locked
end DoubleRatchet
