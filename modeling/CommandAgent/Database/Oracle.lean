import CommandAgent.Database.Link
import CommandAgent.Handler.Basic
import CommandAgent.Log.Logger

/-!
# Oracle sessions

An Oracle database is named in the easy connect form, `address:port/service`. Each command is
committed by itself.
-/

namespace CommandAgent.Database.Oracle

/-- The easy connect form of a target. -/
def connectString (a : Auth) : String := s!"{a.address}:{a.port.toNat}/{a.dbName}"

def faultText : Fault → String
  | .refused _ _ text => text
  | .lost text => text

def connected (a : Auth) : Entry :=
  ⟨.debug, "Connected",
    .ofMembers [("connect_string", .string (connectString a)), ("sysdba", .bool a.privileged)]⟩

def connect (server : Server) (logger : Logger) (a : Auth) (s : Session) (w : World) :
    Except Failure Unit × Session × World :=
  match s.enter server (.login (connectString a) a.username a.privileged) with
  | (.error e, s) => (.error (Failure.connection ("Oracle error: " ++ faultText e)), s, w)
  | (.ok _, s) => (.ok (), s, logger.log (connected a) w)

/-- Run a command and commit it. -/
def submit (server : Server) (c : Command) (s : Session) (w : World) : Outcome × Session × World :=
  if s.isOpen then
    match s.ask server (.query c.input) with
    | (.error e, s) => (.failed (faultText e), s, w)
    | (.ok n, s) =>
      match s.ask server .commit with
      | (.error e, s) => (.failed (faultText e), s, w)
      | (.ok _, s) => (.ok (affected n), s, w)
  else (.failed "Oracle connection is not open", s, w)

def close (server : Server) (logger : Logger) (s : Session) (w : World) : Session × World :=
  match s.leave server with
  | (some e, s) =>
    (s, logger.log ⟨.warn, "Close failed", .ofMembers [("error", .string (faultText e))]⟩ w)
  | (none, s) => (s, w)

def handler (server : Server) (logger : Logger) (a : Auth) : Handler Session where
  backend := .oracle
  connect := connect server (logger.child "oracle") a
  submit := submit server
  close := close server (logger.child "oracle")

end CommandAgent.Database.Oracle
