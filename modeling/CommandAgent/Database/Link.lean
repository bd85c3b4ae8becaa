import CommandAgent.Host.FileSystem
import CommandAgent.Plan.Basic

/-!
# Links to a database

A session with a database is a sequence of calls, each with an answer. What a server answers may
depend on everything it was asked before, so a server is a function of the calls so far. A server
that cannot be reached refuses the login.
-/

namespace CommandAgent.Database

inductive Call where
  | login (target user : String) (privileged : Bool)
  | ping
  | query (text : String)
  | commit
  | quit
deriving DecidableEq, Repr

inductive Fault where
  /-- The server answered with an error packet. -/
  | refused (code : Nat) (state text : String)
  /-- The connection could not be made or was lost. -/
  | lost (text : String)
deriving DecidableEq, Repr

/-- How a server answers: the number of rows changed, or a fault. -/
abbrev Server := List Call → Call → Except Fault Nat

/-- A server that no network leads to. -/
def unreachable (text : String) : Server := fun _ _ => .error (.lost text)

/-- A session: whether it is open, and the calls made so far. -/
structure Session where
  isOpen : Bool := false
  calls : List Call := []
deriving Repr

namespace Session

def ask (s : Session) (server : Server) (c : Call) : Except Fault Nat × Session :=
  (server s.calls c, { s with calls := s.calls ++ [c] })

/-- Log in and see whether the server is there; a server that does not answer the ping is left. -/
def enter (s : Session) (server : Server) (login : Call) : Except Fault Unit × Session :=
  match s.ask server login with
  | (.error e, s) => (.error e, s)
  | (.ok _, s) =>
    match s.ask server .ping with
    | (.error e, s) => (.error e, (s.ask server .quit).2)
    | (.ok _, s) => (.ok (), { s with isOpen := true })

def leave (s : Session) (server : Server) : Option Fault × Session :=
  if s.isOpen then
    match { s with isOpen := false }.ask server .quit with
    | (.error e, s) => (some e, s)
    | (.ok _, s) => (none, s)
  else (none, s)

end Session

/-- What a changed number of rows is reported as. -/
def affected (n : Nat) : String := s!"Affected rows: {n}"

end CommandAgent.Database
