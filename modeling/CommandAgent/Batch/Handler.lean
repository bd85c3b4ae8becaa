import CommandAgent.Batch.Bundle
import CommandAgent.Batch.Run
import CommandAgent.Handler.Basic
import CommandAgent.Host.Search
import CommandAgent.Log.Logger

/-!
# Batch runs

The handler of local scripts runs the whole command file once, on the first command that is
submitted. Every later command is told that it was included in that run, whatever happened in
between.
-/

namespace CommandAgent

/-- What a batch run needs of a plan. -/
structure BatchOptions where
  program : String
  arguments : List String
  auth : Auth
  cmdFile : String
deriving Repr

namespace BatchOptions

def ofPlan (p : Plan) : BatchOptions := ⟨p.script, p.scriptArgs, p.auth, p.cmdFile⟩

end BatchOptions

/-- The command that a batch ran for, and how it ended. -/
structure Batch where
  commandId : String
  success : Bool
deriving DecidableEq, Repr

/-- The state of a batch handler: the interpreter, if it has been found, and the run, once it is
over. -/
structure BatchState where
  interpreter : Option String := none
  batch : Option Batch := none
deriving DecidableEq, Repr

namespace Batch

/-- What later commands are told. -/
def included (b : Batch) : Outcome :=
  ⟨"Included in the batch run of command " ++ b.commandId, b.success⟩

def running (i : Invocation) (e : ScriptEntry) : Entry :=
  ⟨.info, "Running command file",
    .ofMembers
      [("program", .string i.launch.program),
        ("args", .array ((Redaction.maskArguments i.launch.arguments).map .string)),
        ("cwd", .ofOption i.launch.directory), ("entry", .string e.entry)]⟩

def finished (exitCode : Int) (success : Bool) (elapsed : Nat) : Entry :=
  ⟨.info, "Command file finished",
    .ofMembers
      [("exit_code", .int exitCode), ("success", .bool success), ("duration_ms", .nat elapsed)]⟩

def runInvocation (m : Machine) (logger : Logger) (codes : ErrorCodes) (flavor : Flavor)
    (i : Invocation) (e : ScriptEntry) (w : World) : Except Failure Outcome × World :=
  let w := logger.log (running i e) w
  match i.run m w with
  | (.error f, w) => (.error f, w)
  | (.ok c, w) =>
    let cleaned := Output.clean flavor c.output
    let success := Output.succeeded c.exitCode c.output cleaned codes
    (.ok ⟨cleaned, success⟩, logger.log (finished c.exitCode success w.elapsed) w)

def run (m : Machine) (logger : Logger) (o : BatchOptions) (codes : ErrorCodes)
    (interpreter : Option String) (w : World) : Except Failure Outcome × World :=
  match interpreter with
  | none => (.error (Failure.command "Local interpreter is not connected"), w)
  | some program =>
    match Bundle.resolve o.cmdFile w with
    | (.error f, w) => (.error f, w)
    | (.ok e, w) =>
      match Invocation.build program o.arguments o.auth e w with
      | (.error f, w) => (.error f, w)
      | (.ok i, w) => runInvocation m logger codes (Flavor.ofProgram o.program) i e w

def connect (logger : Logger) (o : BatchOptions) (codes : ErrorCodes) (s : BatchState) (w : World) :
    Except Failure Unit × BatchState × World :=
  let program := Text.trim o.program
  match w.findProgram? program with
  | none =>
    let f := (Failure.connection s!"{program} command does not exist").withHint
      "Install the interpreter on the worker or configure its full path."
    (.error (f.withDetails (.ofMembers [("reason", .string "cannot find binary path")])), s, w)
  | some path =>
    let e : Entry :=
      ⟨.debug, "Interpreter resolved",
        .ofMembers
          [("program", .string program), ("path", .string path), ("error_codes", .nat codes.size)]⟩
    (.ok (), { s with interpreter := some path }, logger.log e w)

/-- Run the batch for the first command; tell any later one that it was included. -/
def submit (m : Machine) (logger : Logger) (o : BatchOptions) (codes : ErrorCodes) (c : Command)
    (s : BatchState) (w : World) : Outcome × BatchState × World :=
  match s.batch with
  | some b => (b.included, s, w)
  | none =>
    let (r, w) := run m logger o codes s.interpreter w
    let outcome := match r with
      | .ok o => o
      | .error f => Outcome.ofFailure f
    (outcome, { s with batch := some ⟨c.id, outcome.success⟩ }, w)

/-- Forget the interpreter; the run stays known. -/
def close (s : BatchState) (w : World) : BatchState × World := ({ s with interpreter := none }, w)

def handler (m : Machine) (logger : Logger) (o : BatchOptions) (codes : ErrorCodes) :
    Handler BatchState where
  backend := .localScript
  connect := connect (logger.child "local") o codes
  submit := submit m (logger.child "local") o codes
  close := close

end Batch
end CommandAgent
