import CommandAgent.Host.World
import CommandAgent.Plan.Basic

/-!
# Handlers

A handler carries a backend's session: it connects, submits commands one by one and closes. Its
state is its own; what it reads, writes and logs is in the world. Connecting may fail; submitting
always comes to an outcome, because a failed command is for the orchestrator to judge.
-/

namespace CommandAgent

/-- What one submitted command came to. -/
structure Outcome where
  output : String
  success : Bool
deriving DecidableEq, Repr

namespace Outcome

/-- A command that went well. -/
def ok (output : String) : Outcome := ⟨output, true⟩

def failed (output : String) : Outcome := ⟨output, false⟩

/-- A failure as the outcome of the command that it struck. -/
def ofFailure (f : Failure) : Outcome := failed f.message

end Outcome

/-- A backend's session over states of type `σ`. -/
structure Handler (σ : Type) where
  backend : Backend
  connect : σ → World → Except Failure Unit × σ × World
  submit : Command → σ → World → Outcome × σ × World
  close : σ → World → σ × World

end CommandAgent
