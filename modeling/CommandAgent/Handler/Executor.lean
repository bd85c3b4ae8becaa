import CommandAgent.Handler.Basic
import CommandAgent.Log.Logger
import CommandAgent.Text.Preview

/-!
# The executor

The executor drives a handler and writes down what happens: when the backend connected, each command
before and after it ran, and when the session was closed. The secrets of the plan are masked in the
texts that come from the plan or the backend.
-/

namespace CommandAgent

/-- A handler with the logger of its runs and the secrets that its log lines must not show. -/
structure Executor (σ : Type) where
  logger : Logger
  handler : Handler σ
  secrets : List String

namespace Executor

variable {σ : Type}

def below (logger : Logger) (handler : Handler σ) (secrets : List String) : Executor σ :=
  ⟨logger.child "executor", handler, secrets⟩

/-- The log shows this many bytes of an output. -/
def maxPreview : Nat := 512

/-- A text without the secrets. -/
def mask (x : Executor σ) (text : String) : String := Redaction.maskSecrets text x.secrets

def connected (x : Executor σ) (elapsed : Nat) : Entry :=
  ⟨.info, "Backend connected",
    .ofMembers [("backend", .string x.handler.backend.name), ("duration_ms", .nat elapsed)]⟩

def connectFailed (x : Executor σ) (f : Failure) : Entry :=
  ⟨.error, "Backend connect failed",
    .ofMembers
      [("backend", .string x.handler.backend.name), ("error", .string (x.mask f.message)),
        ("hint", .ofOption f.hint),
        ("details", .ofOption (f.details.map fun d => x.mask d.render))]⟩

def executing (x : Executor σ) (c : Command) : Entry :=
  ⟨.info, "Executing command",
    .ofMembers
      [("command_id", .string c.id), ("index", .int c.index), ("input", .string (x.mask c.input))]⟩

def finished (x : Executor σ) (c : Command) (o : Outcome) (elapsed : Nat) : Entry :=
  let metadata : Json :=
    .ofMembers
      [("command_id", .string c.id), ("success", .bool o.success), ("duration_ms", .nat elapsed),
        ("output", .string (x.mask (Text.preview o.output maxPreview)))]
  if o.success then ⟨.info, "Command finished", metadata⟩ else ⟨.warn, "Command failed", metadata⟩

def connect (x : Executor σ) (s : σ) (w : World) : Except Failure Unit × σ × World :=
  let (r, s, w) := x.handler.connect s w
  match r with
  | .ok _ => (r, s, x.logger.log (x.connected w.elapsed) w)
  | .error f => (r, s, x.logger.log (x.connectFailed f) w)

def execute (x : Executor σ) (c : Command) (s : σ) (w : World) : Outcome × σ × World :=
  let w := x.logger.log (x.executing c) w
  let (o, s, w) := x.handler.submit c s w
  (o, s, x.logger.log (x.finished c o w.elapsed) w)

def close (x : Executor σ) (s : σ) (w : World) : σ × World :=
  let (s, w) := x.handler.close s w
  (s, x.logger.log ⟨.debug, "Backend closed", .null⟩ w)

end Executor
end CommandAgent
