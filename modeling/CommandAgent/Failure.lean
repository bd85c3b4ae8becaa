import CommandAgent.Json.Printer
import CommandAgent.Host.FileSystem
import CommandAgent.Redaction

/-!
# Failures

Whatever goes wrong is told as a `Failure`: which part of the work failed (its kind), a code and a
message, and where it helps a hint for the operator and details. A failure is written to the log
with all its fields, redacted and bounded.
-/

namespace CommandAgent

/-- Which part of the work failed. -/
inductive FailureKind where
  /-- The envelope, the command set or the plan is unusable. -/
  | config
  /-- The backend cannot be reached or refuses the login, or an interpreter is missing. -/
  | connection
  /-- One command failed. -/
  | command
  /-- The orchestrator did not take a report, or its answer is unusable. -/
  | reporting
  | internal
deriving DecidableEq, Repr

def FailureKind.name : FailureKind → String
  | config => "config"
  | connection => "connection"
  | command => "command"
  | reporting => "reporting"
  | internal => "internal"

/-- The code of a failure of this kind, unless it has another. -/
def FailureKind.code : FailureKind → String
  | config => "CONFIG"
  | connection => "CONNECTION"
  | command => "COMMAND"
  | reporting => "REPORTING"
  | internal => "INTERNAL"

structure Failure where
  kind : FailureKind
  code : String
  message : String
  hint : Option String := none
  details : Option Json := none
deriving Repr

namespace Failure

def ofKind (kind : FailureKind) (message : String) : Failure :=
  { kind := kind, code := kind.code, message := message }

/-- An unusable envelope, command set or plan. -/
def config (message : String) : Failure := ofKind .config message

/-- A backend that cannot be used. -/
def connection (message : String) : Failure := ofKind .connection message

def command (message : String) : Failure := ofKind .command message

def reporting (message : String) : Failure := ofKind .reporting message

/-- A failure of the agent itself. -/
def internal (message : String) : Failure := ofKind .internal message

/-- A refusal of the operating system that has no better explanation. -/
def ofOsError (e : OsError) : Failure := internal e.message

def withHint (f : Failure) (hint : String) : Failure := { f with hint := some hint }

def withDetails (f : Failure) (details : Json) : Failure := { f with details := some details }

/-- All fields, null where there is none. -/
def toJson (f : Failure) : Json :=
  .ofMembers
    [("kind", .string f.kind.name), ("code", .string f.code), ("message", .string f.message),
      ("hint", .ofOption f.hint), ("details", f.details.getD .null)]

/-- The fields that are there. -/
def toRecord (f : Failure) : Json :=
  .ofMembers <|
    [("kind", .string f.kind.name), ("code", .string f.code), ("message", .string f.message)]
      ++ (f.hint.map fun h => ("hint", Json.string h)).toList
      ++ (f.details.map fun d => ("details", d)).toList

/-- The texts of a logged failure are bounded by this many bytes. -/
def maxLogged : Nat := 2048

/-- A failure as the metadata of a log line. -/
def logged (f : Failure) : Json := Redaction.redact maxLogged f.toJson

end Failure
end CommandAgent
