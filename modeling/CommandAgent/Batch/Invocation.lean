import CommandAgent.Batch.Output
import CommandAgent.Failure
import CommandAgent.Host.Machine
import CommandAgent.Plan.Basic

/-!
# Invocations

How an interpreter is started on a command file. The client of MySQL gets its target as flags, the
file as a `source` command and the password in a variable. The client of Oracle gets a connect
string, and the file by way of a control file, which makes an error end the run. Any other
interpreter gets the file as its last argument.
-/

namespace CommandAgent

/-- The file that an interpreter is to run, and the directory to run it in. -/
structure ScriptEntry where
  directory : Option String := none
  entry : String
deriving DecidableEq, Repr

/-- A program to be started, and a temporary file that belongs to the run. -/
structure Invocation where
  launch : Launch
  scratch : Option String := none
deriving DecidableEq, Repr

namespace Invocation

def connectString (a : Auth) : String :=
  s!"{a.username}/\"{a.password}\"@{a.address}:{a.port.toNat}/{a.dbName}"
    ++ if a.privileged then " as sysdba" else ""

def mysqlArguments (extra : List String) (a : Auth) (entry : String) : List String :=
  ["-u" ++ a.username, "-h" ++ a.address, s!"-P{a.port.toNat}"]
    ++ (if a.dbName.isEmpty then [] else ["-D" ++ a.dbName])
    ++ extra ++ ["-t", "-vvv", "-e", "source " ++ entry]

def sqlplusArguments (extra : List String) (a : Auth) (control : String) : List String :=
  ["-L", "-S"] ++ extra ++ [connectString a, "@" ++ control]

/-- The control file that runs an entry. -/
def controlText (entry : String) : String :=
  "SET ECHO ON;\nSET TIMING OFF;\nSET SERVEROUTPUT ON;\nWHENEVER SQLERROR EXIT SQL.SQLCODE;\n"
    ++ "WHENEVER OSERROR EXIT FAILURE;\n@" ++ entry ++ ";\nEXIT;"

def build (program : String) (extra : List String) (a : Auth) (e : ScriptEntry) (w : World) :
    Except Failure Invocation × World :=
  let launch (arguments : List String) (settings : List (String × String)) : Launch :=
    { program := program, arguments := arguments, settings := settings, directory := e.directory }
  match Flavor.ofProgram program with
  | .mysql =>
    (.ok ⟨launch (mysqlArguments extra a e.entry) [("MYSQL_PWD", a.password)], none⟩, w)
  | .sqlplus =>
    let (id, w) := w.drawIdentifier
    let control := Path.join w.env.temporaryDirectory s!"behemoth-entry-{id}.sql"
    match w.storeFile control (Text.Utf8.encode (controlText e.entry)) with
    | .error f =>
      (.error (Failure.command s!"Failed to write sqlplus control file: {f.message}"), w)
    | .ok w => (.ok ⟨launch (sqlplusArguments extra a control) [], some control⟩, w)
  | .generic => (.ok ⟨launch (extra ++ [e.entry]) [], none⟩, w)

end Invocation
end CommandAgent
