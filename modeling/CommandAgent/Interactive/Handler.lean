import CommandAgent.Handler.Basic
import CommandAgent.Interactive.Prompt
import CommandAgent.Log.Logger
import CommandAgent.Terminal.Console

/-!
# Interpreters with a prompt

The handler for an interpreter that talks at a terminal. It is connected once the prompt has come
for the first time; then a command is typed as one line, and its output is what comes before the
next prompt. What comes after a prompt in the same portion is passed over.
-/

namespace CommandAgent.Interactive

open Terminal (Console)

structure Options where
  program : String
  arguments : List String
  prompt : String
  columns : UInt16
  rows : UInt16
deriving Repr

namespace Options

def ofPlan (p : Plan) : Options := ⟨p.script, p.scriptArgs, p.prompt, p.columns, p.rows⟩

def marker (o : Options) : Bytes := Text.Utf8.encode o.prompt

/-- The failure of a program that ended before it printed its prompt. -/
def noPrompt (o : Options) (output : Bytes) : Failure :=
  (Failure.connection (o.program ++ " exited before printing its prompt")).withDetails
    (.ofMembers [("prompt", .string o.prompt), ("output", .string (Text.Utf8.decodeLossy output))])

/-- The outcome of a command during which the program ended. -/
def cutShort (o : Options) (output : Bytes) : Outcome :=
  let text := Text.Utf8.decodeLossy output
  .failed ((if text.isEmpty then "" else text ++ "\n")
    ++ o.program ++ " exited before the command completed")

end Options

/-- The sessions of a handler: the one that commands go to, and those that were given up. -/
structure Sessions (σ : Type) where
  current : Option σ := none
  /-- Sessions that were closed, the latest first. -/
  closed : List σ := []

variable {σ : Type}

/-- Close the current session, if there is one. -/
def Sessions.giveUp (k : Console σ) (w : World) (s : Sessions σ) : Sessions σ :=
  match s.current with
  | none => s
  | some t => { current := none, closed := k.close t w :: s.closed }

/-! ### Log lines -/

def opened (o : Options) : Entry :=
  ⟨.debug, "Terminal session opened",
    .ofMembers
      [("program", .string o.program), ("cols", .nat o.columns.toNat), ("rows", .nat o.rows.toNat)]⟩

def ready (banner : Bytes) : Entry :=
  ⟨.debug, "Interpreter ready", .ofMembers [("banner_bytes", .nat banner.length)]⟩

/-- The line for output that is passed over. -/
def discarded (trailing : Nat) : Entry :=
  ⟨.debug, "Discarding output after prompt", .ofMembers [("bytes", .nat trailing)]⟩

/-! ### The handler -/

/-- Read up to the prompt: what came before it, or all output if the stream ended without one. -/
def readPrompt (k : Console σ) (logger : Logger) (o : Options) (s : σ) (w : World) :
    Except Bytes Bytes × σ × World :=
  match scan o.marker (k.upcoming s) with
  | .found before trailing taken =>
    let (s, w) := k.advance taken s w
    (.ok before, s, if trailing > 0 then logger.log (discarded trailing) w else w)
  | .ended whole =>
    let (s, w) := k.advance ((k.upcoming s).length + 1) s w
    (.error whole, s, w)

def close (k : Console σ) (s : Sessions σ) (w : World) : Sessions σ × World := (s.giveUp k w, w)

/-- Open a session and wait for the first prompt. A session that was open before is given up. -/
def connect (k : Console σ) (logger : Logger) (o : Options) (s : Sessions σ) (w : World) :
    Except Failure Unit × Sessions σ × World :=
  match k.start o.program o.arguments o.columns o.rows w with
  | .error f => (.error f.toFailure, s, w)
  | .ok t =>
    let w := logger.log (opened o) w
    let s := s.giveUp k w
    let (read, t, w) := readPrompt k logger o t w
    let s := { s with current := some t }
    match read with
    | .ok banner => (.ok (), s, logger.log (ready banner) w)
    | .error output => (.error (o.noPrompt output), s.giveUp k w, w)

def submit (k : Console σ) (logger : Logger) (o : Options) (c : Command) (s : Sessions σ)
    (w : World) : Outcome × Sessions σ × World :=
  match s.current with
  | none => (.failed "Interactive session is not connected", s, w)
  | some t =>
    let (written, t) := k.write (Text.Utf8.encode (c.input ++ "\n")) t w
    match written with
    | .error f => (.ofFailure f.toFailure, { s with current := some t }, w)
    | .ok _ =>
      let (read, t, w) := readPrompt k logger o t w
      let s := { s with current := some t }
      match read with
      | .ok output => (.ok (Text.Utf8.decodeLossy output), s, w)
      | .error output => (o.cutShort output, s, w)

def handler (k : Console σ) (logger : Logger) (o : Options) : Handler (Sessions σ) :=
  let logger := logger.child "interactive"
  { backend := .script
    connect := connect k logger o
    submit := submit k logger o
    close := close k }

end CommandAgent.Interactive
