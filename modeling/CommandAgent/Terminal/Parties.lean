import CommandAgent.Terminal.Session
import CommandAgent.Text.Utf8

/-!
# The parties at a session

Several parties share a session. The watcher waits for the child to end and then takes its steps in
their order. Closes can be called at any time and any number of times, and to drop the session is to
call one more: each looks whether the session has exited and, if it has not, kills the child and
takes the handles. Writing and resizing go through the handles, and a lock lets one use come after
the other.

`Step` says what can happen next. A party goes on whenever it can, so a sequence of steps is one way
for the parties to come in between each other. What the handles lead to is left open (`Pty`).
-/

namespace CommandAgent.Terminal

inductive Use where
  | write (data : Bytes)
  | resize (columns rows : UInt16)
deriving DecidableEq, Repr

/-- What the handles lead to, over states of type `π`. A use takes some bytes, or it fails; in both
cases it may have had an effect. -/
abbrev Pty (π : Type) := Use → π → Except Fault Nat × π

inductive Child where
  | running
  /-- It has been killed, and is about to end. -/
  | doomed
  /-- It has ended; waiting for it gives its exit code, unless waiting fails. -/
  | ended (code : Option Nat)
deriving DecidableEq, Repr

/-- A signal that kills reaches a child that has not ended. -/
def Child.kill : Child → Child
  | ended code => ended code
  | running | doomed => doomed

inductive Watcher where
  | waiting
  | stored
  | marked
  | released
  /-- It has given notice, and is over. -/
  | notified
deriving DecidableEq, Repr

/-- How far a close has come. -/
inductive Closer where
  | called
  /-- It has seen that the session had exited, and is over. -/
  | spared
  /-- It has seen that the session had not exited. -/
  | resolved
  /-- It has killed the child. -/
  | killed
  /-- It has taken the handles, if they were still there, and is over. -/
  | finished
deriving DecidableEq, Repr

/-- A session, its child, and the parties that share it. -/
structure Parties (π : Type) where
  session : Session := {}
  child : Child := .running
  watcher : Watcher := .waiting
  /-- The closes, in the order in which they were called. -/
  closers : List Closer := []
  /-- The state of what the handles lead to. -/
  device : π

variable {π : Type}

namespace Parties

/-- The session has been changed, and the watcher has come further. -/
def watched (p : Parties π) (session : Session) (watcher : Watcher) : Parties π :=
  { p with session := session, watcher := watcher }

/-- A close has come further. -/
def closing (p : Parties π) (i : Nat) (closer : Closer) : Parties π :=
  { p with closers := p.closers.set i closer }

/-- Use the handles, if they are still there. -/
def use (pty : Pty π) (u : Use) (p : Parties π) : Except Fault Nat × Parties π :=
  match p.session.use with
  | .error e => (.error e, p)
  | .ok _ => ((pty u p.device).1, { p with device := (pty u p.device).2 })

end Parties

inductive Step (pty : Pty π) : Parties π → Parties π → Prop
  /-- The child ends, of itself or because it was killed. -/
  | ends {p : Parties π} (code : Option Nat) : (∀ c, p.child ≠ .ended c) →
    Step pty p { p with child := .ended code }
  | store {p : Parties π} {code : Option Nat} : p.watcher = .waiting → p.child = .ended code →
    Step pty p (p.watched (p.session.storeCode code) .stored)
  | mark {p : Parties π} : p.watcher = .stored →
    Step pty p (p.watched p.session.markExited .marked)
  | release {p : Parties π} : p.watcher = .marked →
    Step pty p (p.watched p.session.release .released)
  | notify {p : Parties π} : p.watcher = .released →
    Step pty p (p.watched p.session.notify .notified)
  | call (p : Parties π) : Step pty p { p with closers := p.closers ++ [.called] }
  | spare {p : Parties π} {i : Nat} : p.closers[i]? = some .called → p.session.exited = true →
    Step pty p (p.closing i .spared)
  | resolve {p : Parties π} {i : Nat} : p.closers[i]? = some .called → p.session.exited = false →
    Step pty p (p.closing i .resolved)
  | kill {p : Parties π} {i : Nat} : p.closers[i]? = some .resolved →
    Step pty p { p.closing i .killed with child := p.child.kill }
  | take {p : Parties π} {i : Nat} : p.closers[i]? = some .killed →
    Step pty p { p.closing i .finished with session := p.session.release }
  | use (p : Parties π) (u : Use) : Step pty p (p.use pty u).2

end CommandAgent.Terminal
