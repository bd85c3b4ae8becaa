import CommandAgent.Handler.Basic
import CommandAgent.Http.Exchange

/-!
# Events of a run

A run is told by its events: how connecting went, each command that was submitted with its outcome,
each exchange with the orchestrator, the start of the pings, and the closing of the session. They
come in the order in which they happened. The pings themselves run beside and are not part of the
story: an orchestrator that answers differently because of them is just another orchestrator.
-/

namespace CommandAgent

open Http (Exchange)

/-- Something that happens in a run. -/
inductive Event where
  /-- The session was opened, or could not be. -/
  | connected (failure : Option Failure)
  | submitted (c : Command) (o : Outcome)
  | closed
  | exchanged (e : Exchange)
  /-- The pings were started. -/
  | pinging
deriving Repr

namespace Event

def exchange? : Event → Option Exchange
  | exchanged e => some e
  | _ => none

def command? : Event → Option Command
  | submitted c _ => some c
  | _ => none

def exchanges (events : List Event) : List Exchange := events.filterMap exchange?

def commands (events : List Event) : List Command := events.filterMap command?

end Event

/-- How a run ended, if not in a failure. -/
inductive Conclusion where
  /-- All commands were submitted. -/
  | completed (submitted : Nat)
  /-- The orchestrator stopped the run after a command, with a remark. -/
  | halted (commandId detail : String) (submitted : Nat)
deriving DecidableEq, Repr

def Conclusion.submitted : Conclusion → Nat
  | completed n => n
  | halted _ _ n => n

end CommandAgent
