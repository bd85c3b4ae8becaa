import CommandAgent.Failure

/-!
# The state of a terminal session

A session holds the handles of a pseudo-terminal until it is released. Two parties may do that: a
watcher, once the child has ended, and whoever closes the session. Both work in small steps that may
come in any order relative to each other: the watcher stores the exit code, marks the session as
exited, takes the handles and gives notice; a close looks whether the session has exited and, if
not, kills the child and takes the handles. Writing and resizing need the handles.
-/

namespace CommandAgent.Terminal

inductive Fault where
  | allocate (reason : String)
  | spawn (program reason : String)
  | resize (reason : String)
  | closed
  | inputOutput (e : OsError)
deriving DecidableEq, Repr

namespace Fault

def message : Fault → String
  | allocate reason => "failed to allocate pseudo-terminal: " ++ reason
  | spawn program reason => s!"failed to spawn {program}: {reason}"
  | resize reason => "failed to resize terminal: " ++ reason
  | closed => "terminal session is closed"
  | inputOutput e => "terminal io failed: " ++ e.message

/-- A terminal that could not be opened is a failed connection; a closed one, or one that cannot be
written to, strikes a command. -/
def toFailure (f : Fault) : Failure :=
  match f with
  | allocate _ | spawn .. => Failure.connection f.message
  | resize _ => Failure.internal f.message
  | closed | inputOutput _ => Failure.command f.message

end Fault

structure Session where
  exitCode : Option Nat := none
  exited : Bool := false
  /-- Whether the session still holds its handles. -/
  holds : Bool := true
  notified : Bool := false
deriving DecidableEq, Repr

namespace Session

/-! ### Single steps -/

/-- Store the exit code of the child; there is none if it could not be waited for. -/
def storeCode (code : Option Nat) (s : Session) : Session := { s with exitCode := code }

def markExited (s : Session) : Session := { s with exited := true }

def release (s : Session) : Session := { s with holds := false }

/-- Give notice that the child has ended. -/
def notify (s : Session) : Session := { s with notified := true }

/-! ### What the parties do -/

/-- All steps of the watcher, for a child that ended with a code. -/
def watch (code : Option Nat) (s : Session) : Session :=
  ((s.storeCode code).markExited.release).notify

/-- Close the session; one that has exited is left alone. -/
def close (s : Session) : Session := if s.exited then s else s.release

def use (s : Session) : Except Fault Unit := if s.holds then .ok () else .error .closed

theorem close_close (s : Session) : s.close.close = s.close := by
  cases s with | mk c e h n => cases e <;> rfl

end Session
end CommandAgent.Terminal
